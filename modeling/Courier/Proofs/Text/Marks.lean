import Courier.Proofs.Text.Backslashes

/-! Marks side by side. Whether marks can be what was read is seen from each one and the one behind
it, so a part of them is read again from its own source alone. A text is cut without harm wherever
no backslash waits for the character behind it. -/

namespace Courier

variable {special : Char → Bool} {s t : List Char}

/-- From the left, every backslash makes a pair with the character behind it, and none is left
over. -/
def Settled (s : List Char) : Prop := Paired (fun _ => false) s

theorem settled_or (s : List Char) : Settled s ∨ ∃ t, Settled t ∧ s = t ++ ['\\'] := by
  have heven : EvenRuns (fun _ => false) s := by
    intro before n c after _ _ hc
    cases hc
  obtain ⟨t, ht, rfl | rfl⟩ := heven.exists_paired
  · exact .inl ht
  · exact .inr ⟨t, ht, rfl⟩

theorem Settled.tail {c : Char} (hc : c ≠ '\\') (h : Settled (c :: s)) : Settled s := by
  cases h with
  | backslash => exact absurd rfl hc
  | char _ rest => exact rest

theorem Settled.read_append (h : Settled s) (rest : List Char) :
    Mark.read special (s ++ rest) = Mark.read special s ++ Mark.read special rest := by
  induction h with
  | nil => rfl
  | @backslash c s _ _ ih =>
    cases hc : special c with
    | true => simp [Mark.read_backslash_of_special hc, ih]
    | false => simp [Mark.read_backslash_of_not_special hc, ih]
  | @char c s hc _ ih => simp [Mark.read_cons_of_ne special hc, ih]

namespace Mark

variable {ms ns : List Mark}

/-- What may stand behind a mark: a backslash that stands for itself escapes nothing. -/
def Precedes (special : Char → Bool) (m n : Mark) : Prop :=
  m = plain '\\' → ∃ c, n = plain c ∧ special c = false

/-- Marks that a text can be read as. -/
structure Readable (special : Char → Bool) (ms : List Mark) : Prop where
  escaped : ∀ c, escaped c ∈ ms → special c = true
  precedes : ms.IsChain (Precedes special)

theorem readable_read (hb : special '\\' = true) (s : List Char) :
    Readable special (read special s) := by
  fun_induction read special s with
  | case1 => exact ⟨by simp, List.isChain_nil⟩
  | case2 c => exact ⟨by simp, List.isChain_singleton _⟩
  | case3 d s hd ih =>
    refine ⟨?_, ih.precedes.cons ?_⟩
    · simpa [hd] using ih.escaped
    · rintro _ _ ⟨⟩
  | case4 d s hd ih =>
    have hd : special d = false := Bool.eq_false_iff.2 hd
    have hne : plain d ≠ plain '\\' := by
      rintro ⟨⟩
      rw [hb] at hd
      cases hd
    refine ⟨by simpa using ih.escaped, (ih.precedes.cons ?_).cons ?_⟩
    · exact fun _ _ he => absurd he hne
    · rintro _ ⟨⟩ -
      exact ⟨d, rfl, hd⟩
  | case5 c d s hc ih =>
    have hne : plain c ≠ plain '\\' := by simpa using hc
    refine ⟨by simpa using ih.escaped, ih.precedes.cons ?_⟩
    exact fun _ _ he => absurd he hne

namespace Readable

theorem middle {before after : List Mark} (h : Readable special (before ++ (ms ++ after))) :
    Readable special ms :=
  ⟨fun c hc => h.escaped c (by simp [hc]), h.precedes.right_of_append.left_of_append⟩

theorem tail {m : Mark} (h : Readable special (m :: ms)) : Readable special ms :=
  ⟨fun c hc => h.escaped c (List.mem_cons_of_mem m hc), h.precedes.tail⟩

theorem exists_plain (hb : special '\\' = true) {m : Mark}
    (h : Readable special (plain '\\' :: m :: ms)) :
    ∃ c, m = plain c ∧ special c = false ∧ c ≠ '\\' := by
  obtain ⟨c, rfl, hc⟩ := (List.isChain_cons_cons.1 h.precedes).1 rfl
  refine ⟨c, rfl, hc, ?_⟩
  rintro rfl
  rw [hb] at hc
  cases hc

/-- Marks are read again from their own source. -/
theorem read_source (hb : special '\\' = true) (h : Readable special ms) :
    read special (ms.flatMap source) = ms := by
  induction ms with
  | nil => rfl
  | cons m ms ih =>
    have ih := ih h.tail
    cases m with
    | escaped c =>
      show read special ('\\' :: c :: ms.flatMap source) = _
      rw [read_backslash_of_special (h.escaped c (by simp)), ih]
    | plain c =>
      show read special (c :: ms.flatMap source) = _
      by_cases hc : c = '\\'
      · subst hc
        cases ms with
        | nil => rfl
        | cons n ms =>
          obtain ⟨d, rfl, hd, hne⟩ := h.exists_plain hb
          -- The character behind the backslash comes with it, so the rest is read on its own.
          replace ih : read special (d :: ms.flatMap source) = plain d :: ms := ih
          rw [read_cons_of_ne special hne] at ih
          show read special ('\\' :: d :: ms.flatMap source) = _
          rw [read_backslash_of_not_special hd, (List.cons.inj ih).2]
      · rw [read_cons_of_ne special hc, ih]

theorem settled {c : Char} (hb : special '\\' = true)
    (h : Readable special (ms ++ plain c :: ns)) (hc : special c = true) :
    Settled (ms.flatMap source) := by
  induction ms with
  | nil => exact .nil
  | cons m ms ih =>
    have ih := ih h.tail
    cases m with
    | escaped d => exact .backslash rfl ih
    | plain d =>
      by_cases hd : d = '\\'
      · subst hd
        cases ms with
        | nil =>
          obtain ⟨_, ⟨⟩, hn, -⟩ := h.exists_plain hb
          rw [hc] at hn
          cases hn
        | cons n ms =>
          obtain ⟨e, rfl, -, hne⟩ := h.exists_plain hb
          exact .backslash rfl (Settled.tail hne ih)
      · exact .char hd ih

end Readable

/-- Something is escaped where a backslash stands in front of a special character, even if that
backslash is escaped itself. -/
theorem exists_escaped_iff (hb : special '\\' = true) :
    (∃ c, escaped c ∈ read special s) ↔ ∃ c, special c = true ∧ ['\\', c] <:+: s := by
  constructor
  · rintro ⟨c, hc⟩
    refine ⟨c, (readable_read hb s).escaped c hc, ?_⟩
    obtain ⟨ms, ns, hms⟩ := List.append_of_mem hc
    refine ⟨ms.flatMap source, ns.flatMap source, ?_⟩
    rw [← flatMap_source_read special s, hms]
    simp [source]
  · rintro ⟨c, hc, before, after, rfl⟩
    rcases settled_or before with h | ⟨t, h, rfl⟩
    · refine ⟨c, ?_⟩
      rw [List.append_assoc, h.read_append]
      simp [read_backslash_of_special hc]
    · refine ⟨'\\', ?_⟩
      rw [List.append_assoc, List.append_assoc, h.read_append]
      simp [read_backslash_of_special hb]

end Mark

end Courier
