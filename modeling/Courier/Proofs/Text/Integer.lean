import Courier.Number
import Mathlib

/-! Canonical spellings of integers, read back. -/

namespace Courier

namespace Integer

def InRange (n : Int) : Prop := minimum ≤ n ∧ n ≤ maximum

instance (n : Int) : Decidable (InRange n) := inferInstanceAs (Decidable (_ ∧ _))

theorem isDigit_of_mem_toDigits {n : Nat} {c : Char} (h : c ∈ Nat.toDigits 10 n) :
    c.isDigit = true :=
  Nat.isDigit_of_mem_toDigits (by decide) (by decide) h

theorem magnitude?_toDigits (n : Nat) : magnitude? (Nat.toDigits 10 n) = some n := by
  have hd : (Nat.toDigits 10 n).all Char.isDigit = true :=
    List.all_eq_true.2 fun _ => isDigit_of_mem_toDigits
  have hv : ofDigits (Nat.toDigits 10 n) = n := Nat.ofDigitChars_ten_toDigits
  simp [magnitude?, hd, hv]

theorem ofDigits_toDigits (n : Nat) : ofDigits (Nat.toDigits 10 n) = n :=
  Nat.ofDigitChars_ten_toDigits

theorem ofDigits_append (as bs : List Char) :
    ofDigits (as ++ bs) = ofDigits as * 10 ^ bs.length + ofDigits bs := by
  show Nat.ofDigitChars 10 (as ++ bs) 0 = _
  rw [Nat.ofDigitChars_append, Nat.ofDigitChars_eq_ofDigitChars_zero, Nat.mul_comm]
  rfl

theorem ofDigits_cons (d : Char) (ds : List Char) :
    ofDigits (d :: ds) = digitValue d * 10 ^ ds.length + ofDigits ds := by
  rw [← List.singleton_append, ofDigits_append]
  simp [ofDigits]

theorem ofDigits_replicate_zero (n : Nat) : ofDigits (List.replicate n '0') = 0 := by
  show Nat.ofDigitChars 10 (List.replicate n '0') 0 = 0
  rw [Nat.ofDigitChars_replicate_zero, Nat.mul_zero]

theorem exists_toDigits_cons {n : Nat} (h : n ≠ 0) :
    ∃ d ds, Nat.toDigits 10 n = d :: ds ∧ d ≠ '0' := by
  induction n using Nat.strongRecOn with
  | _ n ih =>
    by_cases hn : n < 10
    · refine ⟨Nat.digitChar n, [], Nat.toDigits_of_lt_base hn, ?_⟩
      interval_cases n <;> first | exact absurd rfl h | decide
    · obtain ⟨d, ds, hd, hz⟩ := ih (n / 10) (by omega) (by omega)
      refine ⟨d, ds ++ [Nat.digitChar (n % 10)], ?_, hz⟩
      rw [Nat.toDigits_of_base_le (by decide) (by omega), hd]
      rfl

theorem read?_unsigned {s : List Char} (hm : s.head? ≠ some '-') (hp : s.head? ≠ some '+') :
    read? s = ((magnitude? s).map Int.ofNat).filter fun n => decide (InRange n) := by
  unfold read?
  split
  · simp at hm
  · simp at hp
  · rfl

theorem read?_minus (ds : List Char) :
    read? ('-' :: ds) =
      ((magnitude? ds).map fun k : Nat => -(k : Int)).filter fun n => decide (InRange n) := by
  unfold read?
  split
  · next he =>
    cases he
    cases magnitude? ds <;> rfl
  · next he => simp at he
  · next hne _ => exact absurd rfl (hne ds)

theorem read?_plus (ds : List Char) :
    read? ('+' :: ds) =
      ((magnitude? ds).map Int.ofNat).filter fun n => decide (InRange n) := by
  unfold read?
  split
  · next he => simp at he
  · next he =>
    cases he
    rfl
  · next _ hne => exact absurd rfl (hne ds)

theorem isDigit_of_magnitude? {ds : List Char} {k : Nat} (h : magnitude? ds = some k) :
    ∀ c ∈ ds, c.isDigit = true := by
  have hall : ¬ (ds.isEmpty || !ds.all Char.isDigit) = true := by
    intro hno
    rw [magnitude?, if_pos hno] at h
    cases h
  simp only [Bool.or_eq_true, Bool.not_eq_true', not_or, Bool.not_eq_false] at hall
  exact List.all_eq_true.1 hall.2

theorem mem_of_read? {s : List Char} {n : Int} (h : read? s = some n) {c : Char} (hc : c ∈ s) :
    c = '-' ∨ c = '+' ∨ c.isDigit = true := by
  cases s with
  | nil => cases hc
  | cons d ds =>
    by_cases hm : d = '-'
    · subst hm
      rw [read?_minus] at h
      obtain ⟨k, hk, -⟩ := Option.map_eq_some_iff.1 (Option.filter_eq_some_iff.1 h).1
      rcases List.mem_cons.1 hc with rfl | hc
      · exact .inl rfl
      · exact .inr (.inr (isDigit_of_magnitude? hk c hc))
    · by_cases hp : d = '+'
      · subst hp
        rw [read?_plus] at h
        obtain ⟨k, hk, -⟩ := Option.map_eq_some_iff.1 (Option.filter_eq_some_iff.1 h).1
        rcases List.mem_cons.1 hc with rfl | hc
        · exact .inr (.inl rfl)
        · exact .inr (.inr (isDigit_of_magnitude? hk c hc))
      · rw [read?_unsigned (by simpa using hm) (by simpa using hp)] at h
        obtain ⟨k, hk, -⟩ := Option.map_eq_some_iff.1 (Option.filter_eq_some_iff.1 h).1
        exact .inr (.inr (isDigit_of_magnitude? hk c hc))

theorem notMem_spell (n : Int) : '\\' ∉ spell n := by
  have hd : '\\' ∉ Nat.toDigits 10 n.natAbs := fun h => by
    have hdigit := isDigit_of_mem_toDigits h
    simp at hdigit
  rw [spell]
  split
  · simp [hd]
  · exact hd

theorem head?_toDigits_ne {n : Nat} {c : Char} (hc : c.isDigit = false) :
    (Nat.toDigits 10 n).head? ≠ some c := by
  intro h
  have hd := isDigit_of_mem_toDigits (List.mem_of_head? h)
  rw [hc] at hd
  cases hd

theorem read?_spell {n : Int} (h : InRange n) : read? (spell n) = some n := by
  by_cases hn : n < 0
  · have hv : -(n.natAbs : Int) = n := by omega
    rw [spell, if_pos hn, read?_minus, magnitude?_toDigits, Option.map_some, hv]
    simp only [Option.filter_some, h, decide_true, if_true]
  · have hv : Int.ofNat n.natAbs = n := Int.natAbs_of_nonneg (Int.not_lt.1 hn)
    rw [spell, if_neg hn, read?_unsigned (head?_toDigits_ne rfl) (head?_toDigits_ne rfl),
      magnitude?_toDigits, Option.map_some, hv]
    simp only [Option.filter_some, h, decide_true, if_true]

theorem read?_of_isDigit {ds : List Char} (hne : ds ≠ []) (hd : ∀ c ∈ ds, c.isDigit = true) :
    read? ds = if (ofDigits ds : Int) ≤ maximum then some (ofDigits ds : Int) else none := by
  have hhead : ∀ c, c.isDigit = false → ds.head? ≠ some c := by
    intro c hc h
    have hdigit := hd c (List.mem_of_head? h)
    rw [hc] at hdigit
    cases hdigit
  have hm : magnitude? ds = some (ofDigits ds) := by simpa [magnitude?, hne] using hd
  have hmin : minimum ≤ (ofDigits ds : Int) := by
    have hz : minimum ≤ 0 := by decide
    omega
  rw [read?_unsigned (hhead '-' rfl) (hhead '+' rfl), hm]
  simp [Option.filter, InRange, hmin]

theorem inRange_of_read? {s : List Char} {n : Int} (h : read? s = some n) : InRange n := by
  have hf := (Option.filter_eq_some_iff.1 h).2
  simpa [InRange] using hf

theorem spell_ne_nil (n : Int) : spell n ≠ [] := by
  simp only [spell]
  split
  · simp
  · exact Nat.toDigits_ne_nil

end Integer

end Courier
