import Courier.Text.Encoding
import Mathlib

/-! Characters of ASCII that are neither blank nor control, and what is written with them only. -/

namespace Courier

/-- A character that takes up room and ends neither a word nor a line. -/
def IsVisible (c : Char) : Prop := 0x20 < c.toNat ∧ c.toNat < 0x7F

instance (c : Char) : Decidable (IsVisible c) := inferInstanceAs (Decidable (_ ∧ _))

theorem IsVisible.ascii {c : Char} (h : IsVisible c) : c.toNat < 0x80 := Nat.lt_succ_of_lt h.2

theorem isVisible_of_isAlphanum {c : Char} (h : c.isAlphanum = true) : IsVisible c := by
  simp only [Char.isAlphanum, Char.isAlpha, Char.isUpper, Char.isLower, Char.isDigit,
    Bool.or_eq_true, Bool.and_eq_true, decide_eq_true_eq, ge_iff_le, UInt32.le_iff_toNat_le] at h
  change ((65 ≤ c.toNat ∧ c.toNat ≤ 90) ∨ 97 ≤ c.toNat ∧ c.toNat ≤ 122) ∨
    48 ≤ c.toNat ∧ c.toNat ≤ 57 at h
  unfold IsVisible
  omega

theorem isVisible_digitChar {n : Nat} (h : n < 16) : IsVisible (Nat.digitChar n) := by
  revert n
  decide

def AllVisible (s : List Char) : Prop := ∀ c ∈ s, IsVisible c

instance (s : List Char) : Decidable (AllVisible s) := List.decidableBAll IsVisible s

theorem allVisible_nil : AllVisible [] := fun _ h => nomatch h

theorem allVisible_cons {c : Char} {s : List Char} :
    AllVisible (c :: s) ↔ IsVisible c ∧ AllVisible s := List.forall_mem_cons

theorem allVisible_append {s t : List Char} :
    AllVisible (s ++ t) ↔ AllVisible s ∧ AllVisible t := List.forall_mem_append

theorem allVisible_flatMap {α : Type} {xs : List α} {f : α → List Char} :
    AllVisible (xs.flatMap f) ↔ ∀ x ∈ xs, AllVisible (f x) := by
  simp only [AllVisible, List.mem_flatMap]
  exact ⟨fun h x hx c hc => h c ⟨x, hx, hc⟩, fun h c ⟨x, hx, hc⟩ => h x hx c hc⟩

theorem AllVisible.notMem {s : List Char} (h : AllVisible s) {c : Char} (hc : ¬ IsVisible c) :
    c ∉ s := fun hm => hc (h c hm)

theorem allVisible_intercalate {c : Char} (hc : IsVisible c) {ps : List (List Char)}
    (h : ∀ p ∈ ps, AllVisible p) : AllVisible (List.intercalate [c] ps) := by
  induction ps with
  | nil => exact allVisible_nil
  | cons p ps ih =>
    obtain ⟨hp, hps⟩ := List.forall_mem_cons.1 h
    cases ps with
    | nil => simpa using hp
    | cons q ps =>
      have hi : List.intercalate [c] (p :: q :: ps) = p ++ c :: List.intercalate [c] (q :: ps) := by
        simp [List.intercalate]
      rw [hi]
      exact allVisible_append.2 ⟨hp, allVisible_cons.2 ⟨hc, ih hps⟩⟩

theorem allVisible_toDigits {base : Nat} (hb : 1 < base) (hle : base ≤ 16) (n : Nat) :
    AllVisible (Nat.toDigits base n) := by
  induction n using Nat.strong_induction_on with
  | _ n ih =>
    rcases Nat.lt_or_ge n base with h | h
    · rw [Nat.toDigits_of_lt_base h]
      exact allVisible_cons.2 ⟨isVisible_digitChar (by omega), allVisible_nil⟩
    · have hn : n / base < n := Nat.div_lt_self (by omega) hb
      have hd : n % base < base := Nat.mod_lt n (by omega)
      rw [Nat.toDigits_of_base_le hb h]
      exact allVisible_append.2 ⟨ih _ hn,
        allVisible_cons.2 ⟨isVisible_digitChar (by omega), allVisible_nil⟩⟩

namespace Percent

theorem isAlphanum_hexUpper {n : Nat} (h : n < 16) : (hexUpper n).isAlphanum = true := by
  revert n
  decide

theorem mem_byte {b : UInt8} {c : Char} (h : c ∈ byte b) : c = '%' ∨ c.isAlphanum = true := by
  have hb : b.toNat < 256 := b.toNat_lt
  simp only [byte, List.mem_cons, List.not_mem_nil, or_false] at h
  rcases h with rfl | rfl | rfl
  · exact .inl rfl
  · exact .inr (isAlphanum_hexUpper (by omega))
  · exact .inr (isAlphanum_hexUpper (by omega))

theorem mem_encodeChar {c d : Char} (h : d ∈ encodeChar c) : d = '%' ∨ d.isAlphanum = true := by
  obtain ⟨b, -, hd⟩ := List.mem_flatMap.1 h
  exact mem_byte hd

theorem allVisible_encodeChar (c : Char) : AllVisible (encodeChar c) := by
  intro d hd
  rcases mem_encodeChar hd with rfl | hd
  · decide
  · exact isVisible_of_isAlphanum hd

theorem allVisible_encode {reserved : Char → Bool} {s : List Char}
    (hr : ∀ c ∈ s, c.toNat < 0x80 → reserved c = false → IsVisible c) :
    AllVisible (encode reserved s) := by
  rw [encode, allVisible_flatMap]
  intro c hc
  split
  · exact allVisible_encodeChar c
  · next hn =>
    rw [Bool.or_eq_true, decide_eq_true_eq, not_or, not_le, Bool.not_eq_true] at hn
    exact allVisible_cons.2 ⟨hr c hc hn.1 hn.2, allVisible_nil⟩

end Percent

namespace Base64

theorem isVisible_digit {n : Nat} (h : n < 64) : IsVisible (digit n) := by
  revert n
  decide

theorem allVisible_encode (bs : Bytes) : AllVisible (encode bs) := by
  have hlt : ∀ b : UInt8, b.toNat < 256 := fun b => b.toNat_lt
  have heq : IsVisible '=' := by decide
  induction bs using encode.induct with
  | case1 => exact allVisible_nil
  | case2 a =>
    have ha := hlt a
    rw [encode]
    simp only [allVisible_cons]
    exact ⟨isVisible_digit (by omega), isVisible_digit (by omega), heq, heq, allVisible_nil⟩
  | case3 a b =>
    have ha := hlt a
    have hb := hlt b
    rw [encode]
    simp only [allVisible_cons]
    exact ⟨isVisible_digit (by omega), isVisible_digit (by omega), isVisible_digit (by omega), heq,
      allVisible_nil⟩
  | case4 a b c rest ih =>
    have ha := hlt a
    have hb := hlt b
    have hc := hlt c
    rw [encode]
    simp only [allVisible_cons]
    exact ⟨isVisible_digit (by omega), isVisible_digit (by omega), isVisible_digit (by omega),
      isVisible_digit (by omega), ih⟩

end Base64

end Courier
