/-! Cutting texts at separators, and backslash escapes. An escaped text is read as marks: a
character that stands for itself, or a special character that a backslash in front of it made
literal. -/

namespace Courier

/-- The pieces between separators: one more than there are separators. -/
def splitOn (sep : Char) (s : List Char) : List (List Char) :=
  s.foldr (fun c parts =>
    if c = sep then [] :: parts
    else
      match parts with
      | p :: ps => (c :: p) :: ps
      | [] => [[c]]) [[]]

theorem splitOn_ne_nil (sep : Char) (s : List Char) : splitOn sep s ≠ [] := by
  induction s with
  | nil => simp [splitOn]
  | cons c s ih =>
    simp only [splitOn, List.foldr_cons]
    split
    · simp
    · split <;> simp

theorem splitOn_cons_of_ne {sep c : Char} (h : c ≠ sep) (s : List Char) :
    splitOn sep (c :: s) = (splitOn sep s).modifyHead (c :: ·) := by
  have hs : splitOn sep (c :: s) =
      if c = sep then [] :: splitOn sep s
      else
        match splitOn sep s with
        | p :: ps => (c :: p) :: ps
        | [] => [[c]] := rfl
  rw [hs, if_neg h]
  cases hp : splitOn sep s with
  | nil => exact absurd hp (splitOn_ne_nil sep s)
  | cons p ps => rfl

theorem splitOn_append_cons (sep : Char) (s t : List Char) :
    splitOn sep (s ++ sep :: t) = splitOn sep s ++ splitOn sep t := by
  induction s with
  | nil => simp [splitOn]
  | cons c s ih =>
    by_cases h : c = sep
    · subst h
      have hc : ∀ u, splitOn c (c :: u) = [] :: splitOn c u := fun u => by simp [splitOn]
      rw [List.cons_append, hc, hc, ih, List.cons_append]
    · rw [List.cons_append, splitOn_cons_of_ne h, splitOn_cons_of_ne h, ih]
      cases hp : splitOn sep s with
      | nil => exact absurd hp (splitOn_ne_nil sep s)
      | cons p ps => rfl

theorem splitOn_of_notMem {sep : Char} {s : List Char} (h : sep ∉ s) : splitOn sep s = [s] := by
  induction s with
  | nil => rfl
  | cons c s ih =>
    rw [List.mem_cons, not_or] at h
    rw [splitOn_cons_of_ne (Ne.symm h.1), ih h.2]
    rfl

theorem splitOn_flatMap_concat {sep : Char} {pieces : List (List Char)}
    (h : ∀ p ∈ pieces, sep ∉ p) (rest : List Char) :
    splitOn sep (pieces.flatMap (· ++ [sep]) ++ rest) = pieces ++ splitOn sep rest := by
  induction pieces with
  | nil => rfl
  | cons p pieces ih =>
    obtain ⟨hp, hpieces⟩ := List.forall_mem_cons.1 h
    have hcons : (p :: pieces).flatMap (· ++ [sep]) ++ rest =
        p ++ sep :: (pieces.flatMap (· ++ [sep]) ++ rest) := by simp
    rw [hcons, splitOn_append_cons, splitOn_of_notMem hp, ih hpieces]
    rfl

/-- What stands before and after the first place where `mark` stands. -/
def splitOnce? (mark : List Char) : List Char → Option (List Char × List Char)
  | [] => if mark.isEmpty then some ([], []) else none
  | c :: s =>
    if mark.isPrefixOf (c :: s) then some ([], (c :: s).drop mark.length)
    else (splitOnce? mark s).map fun (before, after) => (c :: before, after)

theorem splitOnce?_eq_some {mark s before after : List Char}
    (h : splitOnce? mark s = some (before, after)) : s = before ++ mark ++ after := by
  induction s generalizing before after with
  | nil => by_cases hm : mark = [] <;> simp_all [splitOnce?]
  | cons c s ih =>
    rw [splitOnce?] at h
    split at h
    · next hp =>
      obtain ⟨t, ht⟩ := List.isPrefixOf_iff_prefix.1 hp
      simp only [Option.some.injEq, Prod.mk.injEq] at h
      rw [← h.1, ← h.2, ← ht]
      simp
    · obtain ⟨p, hp, he⟩ := Option.map_eq_some_iff.1 h
      simp only [Prod.mk.injEq] at he
      rw [← he.1, ← he.2]
      simpa using ih hp

theorem splitOnce?_eq_none {mark s : List Char} : splitOnce? mark s = none ↔ ¬ mark <:+: s := by
  induction s with
  | nil => simp [splitOnce?]
  | cons c s ih =>
    rw [splitOnce?, List.infix_cons_iff, not_or, ← ih, ← List.isPrefixOf_iff_prefix]
    by_cases hp : mark.isPrefixOf (c :: s) = true <;> simp [hp]

theorem splitOnce?_append_of_notMem {c : Char} {before : List Char} (h : c ∉ before)
    (mark after : List Char) :
    splitOnce? (c :: mark) (before ++ c :: mark ++ after) = some (before, after) := by
  induction before with
  | nil => simp [splitOnce?]
  | cons d before ih =>
    rw [List.mem_cons, not_or] at h
    have hp : (c :: mark).isPrefixOf (d :: (before ++ c :: mark ++ after)) = false := by
      simp [List.isPrefixOf, h.1]
    rw [List.cons_append, List.cons_append, splitOnce?, hp, ih h.2]
    rfl

inductive Mark where
  | plain (c : Char)
  | escaped (c : Char)
  deriving DecidableEq

namespace Mark

def char : Mark → Char
  | plain c => c
  | escaped c => c

def isEscaped : Mark → Bool
  | plain _ => false
  | escaped _ => true

/-- The characters the mark was read from. -/
def source : Mark → List Char
  | plain c => [c]
  | escaped c => ['\\', c]

/-- A backslash in front of a special character vanishes. Any other backslash stays, and takes the
character after it along, so that a second backslash does not start an escape of its own. -/
def read (special : Char → Bool) : List Char → List Mark
  | [] => []
  | [c] => [plain c]
  | c :: d :: rest =>
    if c = '\\' then
      if special d then escaped d :: read special rest
      else plain c :: plain d :: read special rest
    else plain c :: read special (d :: rest)

def decode (ms : List Mark) : List Char := ms.map char

@[simp] theorem decode_nil : decode [] = [] := rfl

@[simp] theorem decode_cons (m : Mark) (ms : List Mark) :
    decode (m :: ms) = m.char :: decode ms := rfl

theorem decode_append (ms ns : List Mark) : decode (ms ++ ns) = decode ms ++ decode ns := by
  simp [decode]

/-- Reading loses nothing: the marks' sources tile the text. -/
theorem flatMap_source_read (special : Char → Bool) (s : List Char) :
    (read special s).flatMap source = s := by
  fun_induction read special s <;> simp_all [source]

end Mark

def escape (special : Char → Bool) (s : List Char) : List Char :=
  s.flatMap fun c => if special c then ['\\', c] else [c]

@[simp] theorem escape_nil (special : Char → Bool) : escape special [] = [] := rfl

theorem escape_cons (special : Char → Bool) (c : Char) (s : List Char) :
    escape special (c :: s) = (if special c then ['\\', c] else [c]) ++ escape special s := by
  simp [escape]

end Courier
