import Courier.Text.Split
import Mathlib

/-! Reading what was written with backslashes, up to the text that follows. -/

namespace Courier

namespace Mark

theorem read_cons_of_ne (special : Char → Bool) {c : Char} (h : c ≠ '\\') (s : List Char) :
    read special (c :: s) = plain c :: read special s := by
  cases s with
  | nil => rfl
  | cons d s => simp [read, h]

theorem read_backslash_of_special {special : Char → Bool} {d : Char} (h : special d = true)
    (s : List Char) : read special ('\\' :: d :: s) = escaped d :: read special s := by
  simp [read, h]

theorem read_backslash_of_not_special {special : Char → Bool} {d : Char}
    (h : special d = false) (s : List Char) :
    read special ('\\' :: d :: s) = plain '\\' :: plain d :: read special s := by
  simp [read, h]

/-- The rule of reading, unit by unit. A backslash in front of a special character escapes it, and
in front of any other it stands for itself, as does that character. -/
inductive Reads (special : Char → Prop) : List Char → List Mark → Prop
  | nil : Reads special [] []
  | escape {c : Char} {s : List Char} {ms : List Mark} (hc : special c)
      (rest : Reads special s ms) :
    Reads special ('\\' :: c :: s) (escaped c :: ms)
  | backslash {c : Char} {s : List Char} {ms : List Mark} (hc : ¬ special c)
    (rest : Reads special s ms) : Reads special ('\\' :: c :: s) (plain '\\' :: plain c :: ms)
  | last : Reads special ['\\'] [plain '\\']
  | char {c : Char} {s : List Char} {ms : List Mark} (hc : c ≠ '\\') (rest : Reads special s ms) :
    Reads special (c :: s) (plain c :: ms)

theorem reads_read (special : Char → Bool) (s : List Char) :
    Reads (fun c => special c = true) s (read special s) := by
  fun_induction read special s with
  | case1 => exact .nil
  | case2 c =>
    by_cases hc : c = '\\'
    · subst hc
      exact .last
    · exact .char hc .nil
  | case3 d s hd ih => exact .escape hd ih
  | case4 d s hd ih => exact .backslash hd ih
  | case5 c d s hc ih => exact .char hc ih

/-- A text is read in one way only. -/
theorem reads_iff {special : Char → Bool} {s : List Char} {ms : List Mark} :
    Reads (fun c => special c = true) s ms ↔ ms = read special s := by
  constructor
  · intro h
    induction h with
    | nil => rfl
    | escape hc _ ih => rw [read_backslash_of_special hc, ih]
    | backslash hc _ ih =>
      rw [read_backslash_of_not_special (Bool.eq_false_iff.2 hc), ih]
    | last => rfl
    | char hc _ ih => rw [read_cons_of_ne special hc, ih]
  · rintro rfl
    exact reads_read special s

theorem read_append_of_notMem (special : Char → Bool) {s : List Char} (h : '\\' ∉ s)
    (rest : List Char) : read special (s ++ rest) = s.map plain ++ read special rest := by
  induction s with
  | nil => rfl
  | cons c s ih =>
    have hc : c ≠ '\\' := fun he => h (by simp [he])
    rw [List.cons_append, read_cons_of_ne special hc, ih fun hm => h (List.mem_cons_of_mem c hm)]
    rfl

/-- The mark that a character becomes when it is escaped where necessary. -/
def ofEscaped (special : Char → Bool) (c : Char) : Mark :=
  if special c then escaped c else plain c

@[simp] theorem char_ofEscaped (special : Char → Bool) (c : Char) :
    (ofEscaped special c).char = c := by
  unfold ofEscaped
  split <;> rfl

theorem decode_map_ofEscaped (special : Char → Bool) (s : List Char) :
    decode (s.map (ofEscaped special)) = s := by
  simp [decode, Function.comp_def]

theorem decode_map_plain (s : List Char) : decode (s.map plain) = s := by
  simp [decode, Function.comp_def, char]

theorem read_escape_append {special : Char → Bool} (h : special '\\' = true) (s rest : List Char) :
    read special (escape special s ++ rest) = s.map (ofEscaped special) ++ read special rest := by
  induction s with
  | nil => rfl
  | cons c s ih =>
    by_cases hc : special c = true
    · simp [escape_cons, hc, ofEscaped, read_backslash_of_special hc, ih]
    · have hne : c ≠ '\\' := fun he => hc (by rw [he, h])
      simp [escape_cons, hc, ofEscaped, read_cons_of_ne special hne, ih]

end Mark

end Courier
