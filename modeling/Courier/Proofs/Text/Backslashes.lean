import Courier.Proofs.Text.Escape

/-! Runs of backslashes. Escaping that leaves backslashes alone is undone by reading where no
backslash of the text pairs up with one that escaping puts in. -/

namespace Courier

variable {special : Char → Bool} {s t : List Char}

/-- Every maximal run of backslashes directly in front of a special character has even length. -/
def EvenRuns (special : Char → Bool) (s : List Char) : Prop :=
  ∀ before n c after, s = before ++ List.replicate n '\\' ++ c :: after →
    before.getLast? ≠ some '\\' → special c = true → Even n

/-- The run of backslashes at the end of the text has even length. -/
def EvenEnd (s : List Char) : Prop := Even (s.rtakeWhile (· = '\\')).length

instance : Decidable (EvenEnd s) := inferInstanceAs (Decidable (Even _))

theorem rtakeWhile_append_replicate {before : List Char} (h : before.getLast? ≠ some '\\') (n : ℕ) :
    (before ++ List.replicate n '\\').rtakeWhile (· = '\\') = List.replicate n '\\' := by
  induction n with
  | zero =>
    rw [List.replicate_zero, List.append_nil, List.rtakeWhile_eq_nil_iff]
    intro hne hlast
    rw [List.getLast?_eq_getLast_of_ne_nil hne] at h
    exact h (by simpa using hlast)
  | succ n ih =>
    rw [List.replicate_succ', ← List.append_assoc, List.rtakeWhile_concat_pos _ _ _ (by simp), ih]

/-- Every backslash has a character behind it that is not special and makes a pair with it. -/
inductive Paired (special : Char → Bool) : List Char → Prop
  | nil : Paired special []
  | backslash {c : Char} {s : List Char} (hc : special c = false) (rest : Paired special s) :
    Paired special ('\\' :: c :: s)
  | char {c : Char} {s : List Char} (hc : c ≠ '\\') (rest : Paired special s) :
    Paired special (c :: s)

namespace Paired

theorem append (hs : Paired special s) (ht : Paired special t) : Paired special (s ++ t) := by
  induction hs with
  | nil => exact ht
  | backslash hc _ ih => exact .backslash hc ih
  | char hc _ ih => exact .char hc ih

theorem of_notMem (h : '\\' ∉ s) : Paired special s := by
  induction s with
  | nil => exact .nil
  | cons c s ih =>
    rw [List.mem_cons, not_or] at h
    exact .char (Ne.symm h.1) (ih h.2)

theorem of_concat {m : Char} (hm : special m = true) (h : Paired special (s ++ [m])) :
    Paired special s := by
  generalize ht : s ++ [m] = t at h
  induction h generalizing s with
  | nil => simp at ht
  | @backslash c t hc _ ih =>
    match s with
    | [] => simp at ht
    | [a] =>
      -- The last backslash would make its pair with a special character.
      obtain ⟨-, rfl, -⟩ : a = '\\' ∧ m = c ∧ [] = t := by simpa using ht
      rw [hm] at hc
      cases hc
    | a :: b :: s =>
      obtain ⟨rfl, rfl, hs⟩ : a = '\\' ∧ b = c ∧ s ++ [m] = t := by simpa using ht
      exact .backslash hc (ih hs)
  | @char c t hc _ ih =>
    match s with
    | [] => exact .nil
    | a :: s =>
      obtain ⟨rfl, hs⟩ : a = c ∧ s ++ [m] = t := by simpa using ht
      exact .char hc (ih hs)

theorem escape {other : Char → Bool} (hb : other '\\' = true)
    (ho : ∀ c, other c = true → special c = false) (s : List Char) :
    Paired special (escape other s) := by
  induction s with
  | nil => exact .nil
  | cons c s ih =>
    rw [escape_cons]
    by_cases hc : other c = true
    · rw [if_pos hc]
      exact .backslash (ho c hc) ih
    · rw [if_neg hc]
      have hne : c ≠ '\\' := fun he => hc (by rw [he, hb])
      exact .char hne ih

/-- Reading undoes escaping, and what stands behind is read as if it stood alone. -/
theorem read_escape_append (hb : special '\\' = false) (hs : Paired special s)
    (rest : List Char) :
    Mark.read special (Courier.escape special s ++ rest) =
      s.map (Mark.ofEscaped special) ++ Mark.read special rest := by
  induction hs with
  | nil => rfl
  | @backslash c s hc _ ih =>
    simp [escape_cons, hb, hc, Mark.ofEscaped, Mark.read_backslash_of_not_special hc, ih]
  | @char c s hne _ ih =>
    by_cases hc : special c = true
    · simp [escape_cons, hc, Mark.ofEscaped, Mark.read_backslash_of_special hc, ih]
    · simp [escape_cons, hc, Mark.ofEscaped, Mark.read_cons_of_ne special hne, ih]

end Paired

namespace EvenRuns

theorem nil : EvenRuns special [] := by
  intro before n c after hs
  simp at hs

theorem singleton (c : Char) : EvenRuns special [c] := by
  intro before n d after hs _ _
  have hlen := congrArg List.length hs
  simp only [List.length_append, List.length_replicate, List.length_cons, List.length_nil] at hlen
  have hn : n = 0 := by omega
  simp [hn]

theorem cons_iff {c : Char} (hc : c ≠ '\\') : EvenRuns special (c :: s) ↔ EvenRuns special s := by
  constructor
  · intro h before n d after hs hb hd
    have hlast : (c :: before).getLast? ≠ some '\\' := by
      cases before with
      | nil => simpa using hc
      | cons b before => simpa using hb
    exact h (c :: before) n d after (by rw [hs]; rfl) hlast hd
  · intro h before n d after hs hb hd
    cases before with
    | nil =>
      cases n with
      | zero => exact Even.zero
      | succ n =>
        rw [List.nil_append, List.replicate_succ, List.cons_append] at hs
        exact absurd (List.cons.inj hs).1 hc
    | cons b before =>
      have hlast : before.getLast? ≠ some '\\' := by
        cases before with
        | nil => simp
        | cons e before => simpa using hb
      exact h before n d after (List.cons.inj hs).2 hlast hd

theorem not_special {c : Char} (h : EvenRuns special ('\\' :: c :: s)) : special c = false := by
  by_contra hc
  have hodd : Even 1 := h [] 1 c s rfl (by simp) (Bool.eq_true_of_not_eq_false hc)
  simp at hodd

theorem drop_two {c : Char} (h : EvenRuns special ('\\' :: c :: s)) : EvenRuns special s := by
  intro before n d after hs hb hd
  by_cases hrun : before = [] ∧ c = '\\'
  · obtain ⟨rfl, rfl⟩ := hrun
    have heven : Even (n + 2) := h [] (n + 2) d after (by rw [hs]; rfl) (by simp) hd
    simpa [Nat.even_add] using heven
  · have hlast : ('\\' :: c :: before).getLast? ≠ some '\\' := by
      cases before with
      | nil => simpa using hrun
      | cons b before => simpa using hb
    exact h ('\\' :: c :: before) n d after (by rw [hs]; rfl) hlast hd

theorem cons_cons {c : Char} (hc : special c = false) (h : EvenRuns special s) :
    EvenRuns special ('\\' :: c :: s) := by
  intro before n d after hs hb hd
  match before, n with
  | [], 0 => exact Even.zero
  | [], 1 =>
    obtain ⟨rfl, -⟩ := List.cons.inj (List.cons.inj hs).2
    rw [hc] at hd
    cases hd
  | [], n + 2 =>
    have hs' : s = [] ++ List.replicate n '\\' ++ d :: after :=
      (List.cons.inj (List.cons.inj hs).2).2
    exact (h [] n d after hs' (by simp) hd).add even_two
  | [b], n =>
    obtain ⟨rfl, -⟩ := List.cons.inj hs
    simp at hb
  | b :: e :: before, n =>
    have hlast : before.getLast? ≠ some '\\' := by
      cases before with
      | nil => simp
      | cons f before => simpa using hb
    exact h before n d after (List.cons.inj (List.cons.inj hs).2).2 hlast hd

theorem cons_cons_iff {c : Char} :
    EvenRuns special ('\\' :: c :: s) ↔ special c = false ∧ EvenRuns special s :=
  ⟨fun h => ⟨h.not_special, h.drop_two⟩, fun h => cons_cons h.1 h.2⟩

def decide (special : Char → Bool) : (s : List Char) → Decidable (EvenRuns special s)
  | [] => isTrue nil
  | [c] => isTrue (singleton c)
  | c :: d :: s =>
    if hc : c = '\\' then
      @decidable_of_iff _ (special d = false ∧ EvenRuns special s) (by rw [hc, cons_cons_iff])
        (@instDecidableAnd _ _ _ (decide special s))
    else
      @decidable_of_iff _ (EvenRuns special (d :: s)) (cons_iff hc).symm (decide special (d :: s))

instance : Decidable (EvenRuns special s) := decide special s

theorem exists_paired (h : EvenRuns special s) :
    ∃ w, Paired special w ∧ (s = w ∨ s = w ++ ['\\']) := by
  induction s using Mark.read.induct special with
  | case1 => exact ⟨[], .nil, .inl rfl⟩
  | case2 c =>
    by_cases hc : c = '\\'
    · exact ⟨[], .nil, .inr (by rw [hc]; rfl)⟩
    · exact ⟨[c], .char hc .nil, .inl rfl⟩
  | case3 d s hd _ =>
    rw [h.not_special] at hd
    cases hd
  | case4 d s _ ih =>
    obtain ⟨w, hw, hs⟩ := ih h.drop_two
    refine ⟨'\\' :: d :: w, .backslash h.not_special hw, ?_⟩
    rcases hs with rfl | rfl
    · exact .inl rfl
    · exact .inr rfl
  | case5 c d s hc ih =>
    obtain ⟨w, hw, hs⟩ := ih ((cons_iff hc).1 h)
    refine ⟨c :: w, .char hc hw, ?_⟩
    rcases hs with hs | hs
    · exact .inl (by rw [hs])
    · exact .inr (by rw [hs]; rfl)

theorem concat (h : EvenRuns special s) (he : EvenEnd s) (m : Char) :
    EvenRuns special (s ++ [m]) := by
  intro before n c after hs hb hc
  rcases List.eq_nil_or_concat after with rfl | ⟨after, d, rfl⟩
  · obtain ⟨rfl, -⟩ := List.append_inj' hs rfl
    rwa [EvenEnd, rtakeWhile_append_replicate hb, List.length_replicate] at he
  · have hs' : s ++ [m] = (before ++ List.replicate n '\\' ++ c :: after) ++ [d] := by
      simpa using hs
    exact h before n c after (List.append_inj' hs' rfl).1 hb hc

/-- If the run at the end is even as well, no backslash is left without a pair. -/
theorem paired (h : EvenRuns special s) (he : EvenEnd s) {m : Char} (hm : special m = true)
    (hne : m ≠ '\\') : Paired special s := by
  obtain ⟨w, hw, hs | hs⟩ := (h.concat he m).exists_paired
  · exact Paired.of_concat hm (hs ▸ hw)
  · have hlast := (List.append_inj' hs rfl).2
    exact absurd (List.cons.inj hlast).1 hne

/-- At the end of a text a backslash without a pair does no harm. -/
theorem read_escape (hb : special '\\' = false) (h : EvenRuns special s) :
    Mark.read special (escape special s) = s.map (Mark.ofEscaped special) := by
  obtain ⟨w, hw, rfl | rfl⟩ := h.exists_paired
  · simpa [Mark.read] using hw.read_escape_append hb []
  · have he : escape special (w ++ ['\\']) = escape special w ++ ['\\'] := by
      simp [escape, hb]
    rw [he, hw.read_escape_append hb]
    simp [Mark.read, Mark.ofEscaped, hb]

end EvenRuns

end Courier
