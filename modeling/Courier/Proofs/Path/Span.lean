import Courier.Proofs.Path.Token

/-! Where tokens stand in their source. Those of a source go from its first byte to its last, side
by side, so that they begin and end between characters. Two rows of tokens over the same bytes are
the same as soon as tokens that begin at the same byte are. -/

namespace Courier

namespace Path

namespace Lexeme

theorem token_start (n : Nat) (l : Lexeme) : (l.token n).start = n := by
  cases l <;> rfl

theorem token_stop (n : Nat) (l : Lexeme) : (l.token n).stop = n + l.size := by
  cases l <;> rfl

theorem source_ne_nil {source : String} {l : Lexeme} (h : l ∈ lexemes source) : l.source ≠ [] := by
  cases l with
  | left => simp [Lexeme.source]
  | right => simp [Lexeme.source]
  | run ms =>
    obtain ⟨m, ms, rfl⟩ := List.exists_cons_of_ne_nil (ne_nil_of_mem_ofMarks h)
    cases m <;> simp [Lexeme.source, Mark.source]

theorem start_of_head?_place {n : Nat} {ls : List Lexeme} {t : Token}
    (h : (place n ls).head? = some t) : t.start = n := by
  cases ls with
  | nil => cases h
  | cons l ls =>
    cases h
    exact token_start n l

theorem stop_of_getLast?_place {n : Nat} {ls : List Lexeme} {t : Token}
    (h : (place n ls).getLast? = some t) : t.stop = n + (ls.map size).sum := by
  induction ls using List.reverseRecOn with
  | nil => cases h
  | append_singleton ls l _ =>
    rw [place_append, place, place, List.getLast?_concat, Option.some.injEq] at h
    rw [← h, token_stop, List.map_append, List.sum_append]
    simp [Nat.add_assoc]

end Lexeme

/-- Tokens in a row cover a part of the source. -/
structure Covers (source : String) (ts : List Token) (before marked after : String) : Prop where
  source_eq : source = before ++ marked ++ after
  marked_ne : marked ≠ ""
  start : ∀ t, ts.head? = some t → t.start = before.utf8ByteSize
  stop : ∀ t, ts.getLast? = some t → t.stop = (before ++ marked).utf8ByteSize

variable {source : String} {ts us vs : List Token}

theorem covers_place {ls ms ns : List Lexeme} (h : lexemes source = ls ++ (ms ++ ns))
    (hms : ms ≠ []) :
    Covers source (Lexeme.place (ls.map Lexeme.size).sum ms)
      (String.ofList (ls.flatMap Lexeme.source)) (String.ofList (ms.flatMap Lexeme.source))
      (String.ofList (ns.flatMap Lexeme.source)) := by
  refine ⟨?_, ?_, fun t ht => ?_, fun t ht => ?_⟩
  · rw [← String.ofList_append, ← String.ofList_append, ← List.flatMap_append,
      ← List.flatMap_append, List.append_assoc, ← h, flatMap_source_lexemes,
      String.ofList_toList]
  · obtain ⟨l, ms, rfl⟩ := List.exists_cons_of_ne_nil hms
    have hmem : l ∈ lexemes source := by simp [h]
    simp [Lexeme.source_ne_nil hmem]
  · rw [Lexeme.start_of_head?_place ht, Lexeme.utf8ByteSize_flatMap_source]
  · rw [Lexeme.stop_of_getLast?_place ht, String.utf8ByteSize_append,
      Lexeme.utf8ByteSize_flatMap_source, Lexeme.utf8ByteSize_flatMap_source]

theorem exists_covers (h : tokenize source = ts ++ (us ++ vs)) (hne : us ≠ []) :
    ∃ before marked after, Covers source us before marked after := by
  rw [tokenize_eq_place] at h
  obtain ⟨ls, rest, hls, rfl, hrest⟩ := Lexeme.place_eq_append h
  obtain ⟨ms, ns, rfl, rfl, rfl⟩ := Lexeme.place_eq_append hrest.symm
  have hms : ms ≠ [] := by
    rintro rfl
    exact hne rfl
  rw [Nat.zero_add]
  exact ⟨_, _, _, covers_place hls hms⟩

theorem exists_covers_of_mem {t : Token} (h : t ∈ tokenize source) :
    ∃ before marked after, Covers source [t] before marked after := by
  obtain ⟨ts, us, hts⟩ := List.append_of_mem h
  have hrow : tokenize source = ts ++ ([t] ++ us) := hts
  exact exists_covers hrow (by simp)

theorem stop_of_getLast?_tokenize {t : Token} (h : (tokenize source).getLast? = some t) :
    t.stop = source.utf8ByteSize := by
  rw [tokenize_eq_place] at h
  rw [Lexeme.stop_of_getLast?_place h, ← Lexeme.utf8ByteSize_flatMap_source,
    flatMap_source_lexemes, String.ofList_toList, Nat.zero_add]

/-- Tokens side by side from one byte to another, none of them empty. -/
def Tiles (start stop : Nat) : List Token → Prop
  | [] => start = stop
  | t :: ts => t.start = start ∧ t.start < t.stop ∧ Tiles t.stop stop ts

variable {start stop : Nat} {t u : Token}

namespace Tiles

theorem le (h : Tiles start stop ts) : start ≤ stop := by
  induction ts generalizing start with
  | nil => exact Nat.le_of_eq h
  | cons t ts ih =>
    obtain ⟨rfl, hlt, hrest⟩ := h
    exact hlt.le.trans (ih hrest)

theorem bounds (h : Tiles start stop ts) (ht : t ∈ ts) :
    start ≤ t.start ∧ t.start < t.stop ∧ t.stop ≤ stop := by
  induction ts generalizing start with
  | nil => cases ht
  | cons u ts ih =>
    obtain ⟨rfl, hlt, hrest⟩ := h
    rcases List.mem_cons.1 ht with rfl | ht
    · exact ⟨le_rfl, hlt, hrest.le⟩
    · obtain ⟨hstart, hrange⟩ := ih hrest ht
      exact ⟨hlt.le.trans hstart, hrange⟩

theorem apart (h : Tiles start stop ts) (ht : t ∈ ts) (hu : u ∈ ts) :
    t = u ∨ t.stop ≤ u.start ∨ u.stop ≤ t.start := by
  induction ts generalizing start with
  | nil => cases ht
  | cons v ts ih =>
    obtain ⟨rfl, -, hrest⟩ := h
    rcases List.mem_cons.1 ht with rfl | ht' <;> rcases List.mem_cons.1 hu with rfl | hu'
    · exact .inl rfl
    · exact .inr (.inl (hrest.bounds hu').1)
    · exact .inr (.inr (hrest.bounds ht').1)
    · exact ih hrest ht' hu'

theorem eq_of_start (h : Tiles start stop ts) (ht : t ∈ ts) (hu : u ∈ ts)
    (hstart : t.start = u.start) : t = u := by
  have ht' := (h.bounds ht).2.1
  have hu' := (h.bounds hu).2.1
  rcases h.apart ht hu with he | hap | hap
  · exact he
  · omega
  · omega

theorem exists_next {R : Token → Token → Prop} (h : Tiles start stop ts) (hR : ts.IsChain R)
    (ht : t ∈ ts) (hlt : t.stop < stop) : ∃ u ∈ ts, u.start = t.stop ∧ R t u := by
  induction ts generalizing start with
  | nil => cases ht
  | cons v ts ih =>
    obtain ⟨-, -, hrest⟩ := h
    rcases List.mem_cons.1 ht with rfl | ht
    · cases ts with
      | nil => exact absurd hrest hlt.ne
      | cons u ts => exact ⟨u, by simp, hrest.1, (List.isChain_cons_cons.1 hR).1⟩
    · obtain ⟨u, hu, hnext⟩ := ih hrest hR.tail ht
      exact ⟨u, List.mem_cons_of_mem v hu, hnext⟩

/-- Two rows over the same bytes are the same if tokens that begin at the same byte are. -/
theorem ext (ht : Tiles start stop ts) (hu : Tiles start stop us)
    (h : ∀ t ∈ ts, ∀ u ∈ us, t.start = u.start → t = u) : ts = us := by
  induction ts generalizing start us with
  | nil =>
    cases us with
    | nil => rfl
    | cons u us =>
      obtain ⟨rfl, hlt, hrest⟩ := hu
      exact absurd ht (hlt.trans_le hrest.le).ne
  | cons t ts ih =>
    obtain ⟨rfl, hlt, hrest⟩ := ht
    cases us with
    | nil => exact absurd hu (hlt.trans_le hrest.le).ne
    | cons u us =>
      obtain ⟨hstart, -, hrest'⟩ := hu
      obtain rfl := h t (by simp) u (by simp) hstart.symm
      rw [ih hrest hrest' fun v hv w hw => h v (by simp [hv]) w (by simp [hw])]

end Tiles

namespace Lexeme

theorem size_pos {l : Lexeme} (h : l.source ≠ []) : 0 < l.size := by
  rw [size_eq, Nat.pos_iff_ne_zero]
  intro hz
  exact h (by simpa using String.utf8ByteSize_eq_zero_iff.1 hz)

theorem tiles_place {ls : List Lexeme} (h : ∀ l ∈ ls, l.source ≠ []) :
    Tiles start (start + (ls.map size).sum) (place start ls) := by
  induction ls generalizing start with
  | nil => simp [place, Tiles]
  | cons l ls ih =>
    obtain ⟨hl, hls⟩ := List.forall_mem_cons.1 h
    refine ⟨token_start start l, ?_, ?_⟩
    · rw [token_start, token_stop]
      exact Nat.lt_add_of_pos_right (size_pos hl)
    · rw [token_stop, List.map_cons, List.sum_cons, ← Nat.add_assoc]
      exact ih hls

end Lexeme

theorem tiles_tokenize (source : String) : Tiles 0 source.utf8ByteSize (tokenize source) := by
  have h : Tiles 0 (0 + ((lexemes source).map Lexeme.size).sum) (tokenize source) :=
    Lexeme.tiles_place fun l => Lexeme.source_ne_nil
  rwa [← Lexeme.utf8ByteSize_flatMap_source, flatMap_source_lexemes, String.ofList_toList,
    Nat.zero_add] at h

end Path

end Courier
