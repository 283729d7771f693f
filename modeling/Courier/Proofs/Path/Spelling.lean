import Courier.Proofs.Path.Grammar
import Courier.Proofs.Text.Escape

/-! Path texts for chains of accessors. Keys are escaped, and those that look like integers get a
backslash in front, so that parsing gives the chain back. -/

namespace Courier

namespace Path

def spellKey (k : String) : List Char :=
  if (Integer.read? k.toList).isSome then '\\' :: k.toList else escape Lexeme.isSpecial k.toList

namespace Accessor

/-- The accessor in brackets. -/
def spell : Accessor → List Char
  | key k => '[' :: spellKey k ++ [']']
  | index i => '[' :: Integer.spell i ++ [']']
  | append => ['[', ']']

/-- An accessor that a path text can name. -/
def Spellable : Accessor → Prop
  | key k => k ≠ ""
  | index i => Integer.InRange i
  | append => True

end Accessor

/-- The root key stands bare, all else in brackets. -/
def spell : List Accessor → String
  | .key k :: rest => String.ofList (spellKey k ++ rest.flatMap Accessor.spell)
  | as => String.ofList (as.flatMap Accessor.spell)

def keyMarks (k : String) : List Mark :=
  if (Integer.read? k.toList).isSome then .plain '\\' :: k.toList.map .plain
  else k.toList.map (Mark.ofEscaped Lexeme.isSpecial)

def Accessor.lexemes : Accessor → List Lexeme
  | key k => [.left, .run (keyMarks k), .right]
  | index i => [.left, .run ((Integer.spell i).map .plain), .right]
  | append => [.left, .right]

theorem read_spellKey_append (k : String) (rest : List Char) :
    Mark.read Lexeme.isSpecial (spellKey k ++ rest) =
      keyMarks k ++ Mark.read Lexeme.isSpecial rest := by
  cases hr : Integer.read? k.toList with
  | none => simpa [spellKey, keyMarks, hr] using Mark.read_escape_append rfl k.toList rest
  | some n =>
    obtain ⟨d, ds, hd⟩ : ∃ d ds, k.toList = d :: ds := by
      refine List.exists_cons_of_ne_nil fun hz => ?_
      rw [hz] at hr
      cases hr
    have hb := Lexeme.notMem_of_read? hr
    have hsp : Lexeme.isSpecial d = false := Lexeme.isSpecial_of_read? hr (by simp [hd])
    rw [hd] at hb
    have hrest := Mark.read_append_of_notMem Lexeme.isSpecial
      (fun hm => hb (List.mem_cons_of_mem d hm)) rest
    rw [spellKey, keyMarks, hr]
    simp [hd, Mark.read_backslash_of_not_special hsp, hrest]

theorem classify_keyMarks (k : String) : Lexeme.classify (keyMarks k) = (.text, k.toList) := by
  cases hr : Integer.read? k.toList with
  | some n =>
    have he : (keyMarks k).any Mark.isEscaped = false := by
      simp [keyMarks, hr, List.any_map, Function.comp_def, Mark.isEscaped]
    refine Lexeme.classify_of_sign he ?_ (by simp [hr])
    simp [keyMarks, hr, Mark.char, Mark.decode_map_plain]
  | none =>
    have hm : keyMarks k = k.toList.map (Mark.ofEscaped Lexeme.isSpecial) := by
      simp [keyMarks, hr]
    have hd : Mark.decode (keyMarks k) = k.toList := by rw [hm, Mark.decode_map_ofEscaped]
    by_cases hs : ∃ c ∈ k.toList, Lexeme.isSpecial c = true
    · obtain ⟨c, hc, hsp⟩ := hs
      have he : (keyMarks k).any Mark.isEscaped = true := by
        rw [hm, List.any_map, List.any_eq_true]
        exact ⟨c, hc, by simp [Mark.ofEscaped, hsp, Mark.isEscaped]⟩
      rw [Lexeme.classify_of_isEscaped he, hd]
    · have hb : (Mark.decode (keyMarks k)).head? ≠ some '\\' := by
        intro hh
        rw [hd] at hh
        exact hs ⟨_, List.mem_of_head? hh, rfl⟩
      rw [Lexeme.classify_of_not_sign (by rw [hd, hr]) hb, hd]

theorem classify_index {i : Int} (h : Integer.InRange i) :
    Lexeme.classify ((Integer.spell i).map .plain) = (.number, Integer.spell i) := by
  have hd := Mark.decode_map_plain (Integer.spell i)
  refine Lexeme.classify_of_read? ?_ (by rw [hd, Integer.read?_spell h])
  simp [List.any_map, Function.comp_def, Mark.isEscaped]

theorem foldr_cons_run {ms : List Mark} {ls : List Lexeme} (hne : ms ≠ [])
    (hms : ∀ m ∈ ms, m ≠ .plain '[' ∧ m ≠ .plain ']') (hls : ∀ ns rest, ls ≠ .run ns :: rest) :
    ms.foldr Lexeme.cons ls = .run ms :: ls := by
  induction ms with
  | nil => exact absurd rfl hne
  | cons m ms ih =>
    obtain ⟨hl, hr⟩ := hms m (by simp)
    cases ms with
    | nil =>
      simp only [List.foldr_cons, List.foldr_nil, Lexeme.cons, hl, hr, if_false]
    | cons n ms =>
      rw [List.foldr_cons, ih (by simp) fun m hm => hms m (List.mem_cons_of_mem _ hm)]
      simp [Lexeme.cons, hl, hr]

theorem ofMarks_append_run {ms ns : List Mark} (hne : ms ≠ [])
    (hms : ∀ m ∈ ms, m ≠ .plain '[' ∧ m ≠ .plain ']')
    (hns : ∀ m, ns.head? = some m → m = .plain '[' ∨ m = .plain ']') :
    Lexeme.ofMarks (ms ++ ns) = .run ms :: Lexeme.ofMarks ns := by
  rw [Lexeme.ofMarks, List.foldr_append]
  refine foldr_cons_run hne hms fun os rest => ?_
  cases ns with
  | nil => simp
  | cons m ns =>
    rcases hns m rfl with rfl | rfl <;> simp [Lexeme.cons]

theorem keyMarks_ne_nil {k : String} (h : k ≠ "") : keyMarks k ≠ [] := by
  unfold keyMarks
  split
  · simp
  · simpa using h

theorem not_bracket_of_not_isSpecial {c : Char} (h : ¬ Lexeme.isSpecial c = true) :
    Mark.plain c ≠ .plain '[' ∧ Mark.plain c ≠ .plain ']' := by
  rw [Lexeme.isSpecial_iff] at h
  simp only [not_or] at h
  simp [h.1, h.2.1]

theorem not_bracket_of_mem_keyMarks {k : String} {m : Mark} (h : m ∈ keyMarks k) :
    m ≠ .plain '[' ∧ m ≠ .plain ']' := by
  unfold keyMarks at h
  split at h
  · next hr =>
    obtain ⟨n, hn⟩ := Option.isSome_iff_exists.1 hr
    rcases List.mem_cons.1 h with rfl | h
    · decide
    · obtain ⟨c, hc, rfl⟩ := List.mem_map.1 h
      exact not_bracket_of_not_isSpecial (by simp [Lexeme.isSpecial_of_read? hn hc])
  · obtain ⟨c, hc, rfl⟩ := List.mem_map.1 h
    by_cases hs : Lexeme.isSpecial c = true
    · simp [Mark.ofEscaped, hs]
    · simpa [Mark.ofEscaped, hs] using not_bracket_of_not_isSpecial hs

theorem lexemes_bracketed_append {s : List Char} (hne : s ≠ [])
    (hs : ∀ c ∈ s, Lexeme.isSpecial c = false) (rest : List Char) :
    Lexeme.ofMarks (Mark.read Lexeme.isSpecial ('[' :: (s ++ ']' :: rest))) =
      [.left, .run (s.map .plain), .right] ++ Lexeme.ofMarks (Mark.read Lexeme.isSpecial rest) := by
  have hb : '\\' ∉ s := fun hm => by
    have hspecial := hs '\\' hm
    cases hspecial
  have hms : ∀ m ∈ s.map Mark.plain, m ≠ .plain '[' ∧ m ≠ .plain ']' := by
    intro m hm
    obtain ⟨c, hc, rfl⟩ := List.mem_map.1 hm
    exact not_bracket_of_not_isSpecial (by simp [hs c hc])
  rw [Mark.read_cons_of_ne _ (by decide), Mark.read_append_of_notMem _ hb,
    Mark.read_cons_of_ne _ (by decide), Lexeme.ofMarks_cons,
    ofMarks_append_run (by simpa using hne) hms (by simp)]
  rfl

theorem lexemes_spell_append {a : Accessor} (h : a.Spellable) (rest : List Char) :
    Lexeme.ofMarks (Mark.read Lexeme.isSpecial (a.spell ++ rest)) =
      a.lexemes ++ Lexeme.ofMarks (Mark.read Lexeme.isSpecial rest) := by
  have hl : ∀ s, Mark.read Lexeme.isSpecial ('[' :: s) =
      .plain '[' :: Mark.read Lexeme.isSpecial s :=
    Mark.read_cons_of_ne _ (by decide)
  have hr : ∀ s, Mark.read Lexeme.isSpecial (']' :: s) =
      .plain ']' :: Mark.read Lexeme.isSpecial s :=
    Mark.read_cons_of_ne _ (by decide)
  cases a with
  | key k =>
    rw [Accessor.spell, List.cons_append, List.cons_append, List.append_assoc, hl,
      read_spellKey_append, List.singleton_append, hr, Lexeme.ofMarks_cons,
      ofMarks_append_run (keyMarks_ne_nil h) (fun m => not_bracket_of_mem_keyMarks) (by simp)]
    rfl
  | index i =>
    have hi := Integer.read?_spell h
    have hplain := lexemes_bracketed_append (Integer.spell_ne_nil i)
      (fun c => Lexeme.isSpecial_of_read? hi) rest
    simpa [Accessor.spell, Accessor.lexemes] using hplain
  | append =>
    simp only [Accessor.spell, List.cons_append, List.nil_append, hl, hr]
    rfl

theorem lexemes_flatMap_spell {as : List Accessor} (h : ∀ a ∈ as, a.Spellable) :
    Lexeme.ofMarks (Mark.read Lexeme.isSpecial (as.flatMap Accessor.spell)) =
      as.flatMap Accessor.lexemes := by
  induction as with
  | nil => rfl
  | cons a as ih =>
    rw [List.flatMap_cons, lexemes_spell_append (h a (by simp)), ih fun b hb => h b (by simp [hb]),
      List.flatMap_cons]

section

variable {a : Accessor} (n : Nat) (ts : List Token)

theorem hops_place_append (h : a.Spellable) :
    hops (Lexeme.place n a.lexemes ++ ts) =
      (hops ts).map (Segment.access a (Lexeme.place n a.lexemes) false :: ·) := by
  cases a with
  | key k =>
    simp [Accessor.lexemes, Lexeme.place, Lexeme.token, classify_keyMarks, hops, Kind.isLiteral,
      bracketed, Token.number?]
  | index i =>
    have hi : Integer.read? (Integer.spell i) = some i := Integer.read?_spell h
    simp [Accessor.lexemes, Lexeme.place, Lexeme.token, classify_index h, hops, Kind.isLiteral,
      bracketed, Token.number?, hi]
  | append => cases ts <;> simp [Accessor.lexemes, Lexeme.place, Lexeme.token, hops]

theorem root_place_append (h : a.Spellable) (hk : ∀ k, a ≠ .key k) :
    root (Lexeme.place n a.lexemes ++ ts) =
      .ok (.access a (Lexeme.place n a.lexemes) true, ts) := by
  cases a with
  | key k => exact absurd rfl (hk k)
  | index i =>
    have hi : Integer.read? (Integer.spell i) = some i := Integer.read?_spell h
    simp [Accessor.lexemes, Lexeme.place, Lexeme.token, classify_index h, root, Kind.isLiteral,
      Token.number?, hi]
  | append =>
    simp [Accessor.lexemes, Lexeme.place, Lexeme.token, root, Kind.isLiteral, Token.number?]

theorem root_keyMarks (k : String) :
    root (Lexeme.place n [.run (keyMarks k)] ++ ts) =
      .ok (.access (.key k) (Lexeme.place n [.run (keyMarks k)]) true, ts) := by
  simp [Lexeme.place, Lexeme.token, classify_keyMarks, root, Kind.isLiteral]

end

theorem hops_place_lexemes {as : List Accessor} (h : ∀ a ∈ as, a.Spellable) (n : Nat) :
    ∃ ss, hops (Lexeme.place n (as.flatMap Accessor.lexemes)) = .ok ss ∧ accessors ss = as := by
  induction as generalizing n with
  | nil => exact ⟨[], rfl, rfl⟩
  | cons a as ih =>
    have ih := ih fun b hb => h b (by simp [hb])
    rw [List.flatMap_cons, Lexeme.place_append, hops_place_append _ _ (h a (by simp))]
    obtain ⟨ss, hss, rfl⟩ := ih (n + (a.lexemes.map Lexeme.size).sum)
    exact ⟨.access a (Lexeme.place n a.lexemes) false :: ss, by rw [hss]; rfl, rfl⟩

theorem head?_read_flatMap_spell {as : List Accessor} {m : Mark}
    (h : (Mark.read Lexeme.isSpecial (as.flatMap Accessor.spell)).head? = some m) :
    m = .plain '[' ∨ m = .plain ']' := by
  cases as with
  | nil => cases h
  | cons a as =>
    left
    cases a <;> simp_all [Accessor.spell, Mark.read_cons_of_ne]

theorem root_spell {a : Accessor} {rest : List Accessor} (ha : a.Spellable)
    (hrest : ∀ b ∈ rest, b.Spellable) :
    ∃ ls ts, lexemes (spell (a :: rest)) = ls ++ rest.flatMap Accessor.lexemes ∧
      ∀ us, root (Lexeme.place 0 ls ++ us) = .ok (.access a ts true, us) := by
  by_cases hk : ∃ k, a = .key k
  · obtain ⟨k, rfl⟩ := hk
    refine ⟨[.run (keyMarks k)], _, ?_, fun us => root_keyMarks 0 us k⟩
    have hrun := ofMarks_append_run (keyMarks_ne_nil ha)
      (fun m => not_bracket_of_mem_keyMarks) fun m => @head?_read_flatMap_spell rest m
    rw [lexemes, spell, String.toList_ofList, read_spellKey_append, hrun,
      lexemes_flatMap_spell hrest]
    rfl
  · have hs : spell (a :: rest) = String.ofList ((a :: rest).flatMap Accessor.spell) := by
      cases a with
      | key k => exact absurd ⟨k, rfl⟩ hk
      | _ => rfl
    have hall : ∀ b ∈ a :: rest, b.Spellable := List.forall_mem_cons.2 ⟨ha, hrest⟩
    refine ⟨a.lexemes, _, ?_, fun us => root_place_append 0 us ha fun k hak => hk ⟨k, hak⟩⟩
    rw [lexemes, hs, String.toList_ofList, lexemes_flatMap_spell hall, List.flatMap_cons]

/-- Parsing gives back the chain of accessors that a path text was spelled from. -/
theorem parse_spell {as : List Accessor} (hne : as ≠ []) (h : ∀ a ∈ as, a.Spellable) :
    ∃ segments, parse (spell as) = .ok segments ∧ accessors segments = as := by
  obtain ⟨a, rest, rfl⟩ := List.exists_cons_of_ne_nil hne
  obtain ⟨ha, hrest⟩ := List.forall_mem_cons.1 h
  obtain ⟨ls, ts, hls, hr⟩ := root_spell ha hrest
  obtain ⟨ss, hss, hacc⟩ := hops_place_lexemes hrest (0 + (ls.map Lexeme.size).sum)
  refine ⟨.access a ts true :: ss, parse_eq_ok.2 ?_, by rw [accessors_cons rfl, hacc]⟩
  rw [tokenize_eq_place, hls, Lexeme.place_append]
  exact parseTokens_eq_ok.2 ⟨_, _, ss, hr _, hss, rfl⟩

end Path

end Courier
