import Courier.Number
import Mathlib

/-! Binary64 arithmetic in rational numbers. A quotient is rounded to a number in whose rounding
interval it lies; what 53 bits can hold is not rounded at all. -/

namespace Courier

namespace Binary64

variable {x y : Binary64} {negative : Bool} {num den : Nat} {q : ℚ}

def magnitude (x : Binary64) : ℚ := x.significand * 2 ^ x.exponent

/-- What rounding gives. -/
structure Canonical (x : Binary64) : Prop where
  below : x.significand < 2 ^ 53
  least : -1074 ≤ x.exponent
  greatest : x.exponent ≤ 971
  full : 2 ^ 52 ≤ x.significand ∨ x.exponent = -1074

/-- A magnitude in the rounding interval of a number: no further from it than half way to the next
one. The ends belong to the number if its significand is even. -/
def Nearest (x : Binary64) (q : ℚ) : Prop :=
  let (low, _, high) := x.interval
  let t := 4 * (q / 2 ^ x.exponent)
  if x.significand % 2 = 0 then low ≤ t ∧ t ≤ high else low < t ∧ t < high

theorem ratio_scale (num : Nat) (hd : 0 < den) (shift : Int) :
    0 < (scale num den shift).2 ∧
      ((scale num den shift).1 : ℚ) / (scale num den shift).2 = num / den * 2 ^ shift := by
  have hpow : ∀ n, 0 < Nat.pow 2 n := fun n => Nat.two_pow_pos n
  have hcast : ∀ n, ((Nat.pow 2 n : Nat) : ℚ) = 2 ^ n := fun n => Nat.cast_pow 2 n
  refine ⟨Nat.mul_pos hd (hpow _), ?_⟩
  have hden : (den : ℚ) ≠ 0 := by positivity
  simp only [scale, Nat.cast_mul, hcast]
  rcases le_total 0 shift with h | h
  · obtain ⟨k, rfl⟩ := Int.eq_ofNat_of_zero_le h
    have hz : (-(k : Int)).toNat = 0 := by omega
    rw [hz, Int.toNat_natCast, zpow_natCast]
    field_simp
  · obtain ⟨k, hk⟩ := Int.eq_ofNat_of_zero_le (Int.neg_nonneg_of_nonpos h)
    obtain rfl : shift = -(k : Int) := by omega
    have hz : (-(k : Int)).toNat = 0 := by omega
    rw [hz, neg_neg, Int.toNat_natCast, zpow_neg, zpow_natCast]
    field_simp

/-- No integer is nearer to the quotient, and one that is as near only if the result is even. -/
theorem roundDiv_spec (num : Nat) (hd : 0 < den) :
    |(num : ℚ) / den - roundDiv num den| ≤ 1 / 2 ∧
      (|(num : ℚ) / den - roundDiv num den| = 1 / 2 → roundDiv num den % 2 = 0) := by
  have hpos : (0 : ℚ) < den := by exact_mod_cast hd
  have hlt := Nat.mod_lt num hd
  have hsplit : (num : ℚ) = den * (num / den : Nat) + (num % den : Nat) := by
    exact_mod_cast (Nat.div_add_mod num den).symm
  have hq : (num : ℚ) / den = (num / den : Nat) + ((num % den : Nat) : ℚ) / den := by
    rw [eq_comm, hsplit]
    field_simp
  rw [hq, roundDiv]
  generalize num / den = k
  generalize num % den = r at hlt
  have hr0 : (0 : ℚ) ≤ r / den := by positivity
  have hr1 : (r : ℚ) / den < 1 := by
    rw [div_lt_one hpos]
    exact_mod_cast hlt
  split
  · next h =>
    have hhalf : (r : ℚ) / den < 1 / 2 := by
      rw [div_lt_iff₀ hpos]
      have : (2 * r : ℚ) < den := by exact_mod_cast h
      linarith
    rw [add_sub_cancel_left, abs_of_nonneg hr0]
    exact ⟨hhalf.le, fun he => absurd he hhalf.ne⟩
  · split
    · next h =>
      have hhalf : 1 / 2 < (r : ℚ) / den := by
        rw [lt_div_iff₀ hpos]
        have : (den : ℚ) < 2 * r := by exact_mod_cast h
        linarith
      have habs : |(k : ℚ) + r / den - (k + 1 : Nat)| = 1 - r / den := by
        rw [abs_sub_comm, abs_of_nonneg] <;> push_cast <;> linarith
      rw [habs]
      exact ⟨by linarith, fun he => absurd he (by linarith)⟩
    · next h1 h2 =>
      have hhalf : (r : ℚ) / den = 1 / 2 := by
        rw [div_eq_iff hpos.ne']
        have : (2 * r : ℚ) = den := by exact_mod_cast (show 2 * r = den by omega)
        linarith
      rw [hhalf]
      refine ⟨?_, fun _ => by omega⟩
      rcases Nat.mod_two_eq_zero_or_one k with hk | hk
      · rw [hk]
        norm_num
      · rw [hk]
        push_cast
        norm_num

theorem log2_bounds {n : Nat} (h : n ≠ 0) :
    (2 : ℚ) ^ (n.log2 : Int) ≤ n ∧ (n : ℚ) < 2 ^ ((n.log2 : Int) + 1) := by
  constructor
  · rw [zpow_natCast]
    exact_mod_cast Nat.log2_self_le h
  · have hlt : n < 2 ^ (n.log2 + 1) := Nat.lt_log2_self
    have hcast : (n.log2 : Int) + 1 = ((n.log2 + 1 : Nat) : Int) := by push_cast; ring
    rw [hcast, zpow_natCast]
    exact_mod_cast hlt

/-- The exponent that gives a quotient 53 bits, however large or small it is. -/
def fullExponent (num den : Nat) : Int :=
  let guess : Int := (num.log2 : Int) - den.log2 - 52
  let (a, b) := scale num den (-guess)
  if a / b < Nat.pow 2 52 then guess - 1 else guess

theorem div_bounds (hn : num ≠ 0) (hd : 0 < den) :
    (2 : ℚ) ^ ((num.log2 : Int) - den.log2 - 1) < num / den ∧
      (num : ℚ) / den < 2 ^ ((num.log2 : Int) - den.log2 + 1) := by
  have hden : (0 : ℚ) < den := by exact_mod_cast hd
  obtain ⟨hnl, hnu⟩ := log2_bounds hn
  obtain ⟨hdl, hdu⟩ := log2_bounds hd.ne'
  have hpow : ∀ k : Int, (0 : ℚ) < 2 ^ k := fun k => zpow_pos two_pos k
  constructor
  · rw [lt_div_iff₀ hden]
    calc (2 : ℚ) ^ ((num.log2 : Int) - den.log2 - 1) * den
        < 2 ^ ((num.log2 : Int) - den.log2 - 1) * 2 ^ ((den.log2 : Int) + 1) :=
          mul_lt_mul_of_pos_left hdu (hpow _)
      _ = 2 ^ (num.log2 : Int) := by
          rw [← zpow_add₀ two_ne_zero]
          congr 1
          ring
      _ ≤ num := hnl
  · rw [div_lt_iff₀ hden]
    calc (num : ℚ) < 2 ^ ((num.log2 : Int) + 1) := hnu
      _ = 2 ^ ((num.log2 : Int) - den.log2 + 1) * 2 ^ (den.log2 : Int) := by
          rw [← zpow_add₀ two_ne_zero]
          congr 1
          ring
      _ ≤ 2 ^ ((num.log2 : Int) - den.log2 + 1) * den := mul_le_mul_of_nonneg_left hdl (hpow _).le

theorem fullExponent_spec (hn : num ≠ 0) (hd : 0 < den) :
    (2 : ℚ) ^ 52 ≤ num / den * 2 ^ (-fullExponent num den) ∧
      (num : ℚ) / den * 2 ^ (-fullExponent num den) < 2 ^ 53 := by
  obtain ⟨hlow, hhigh⟩ := div_bounds hn hd
  set guess : Int := (num.log2 : Int) - den.log2 - 52 with hguess
  have hpow : (0 : ℚ) < 2 ^ (-guess) := zpow_pos two_pos _
  have hshift : ∀ k : Int, (2 : ℚ) ^ k * 2 ^ (-guess) = 2 ^ (k - guess) := by
    intro k
    rw [← zpow_add₀ two_ne_zero, sub_eq_add_neg]
  -- The guess is right, or off by one.
  have habove : (2 : ℚ) ^ 51 < num / den * 2 ^ (-guess) := by
    have h := mul_lt_mul_of_pos_right hlow hpow
    have hk : (num.log2 : Int) - den.log2 - 1 - guess = (51 : Nat) := by
      rw [hguess]
      push_cast
      ring
    rwa [hshift, hk, zpow_natCast] at h
  have hbelow : (num : ℚ) / den * 2 ^ (-guess) < 2 ^ 53 := by
    have h := mul_lt_mul_of_pos_right hhigh hpow
    have hk : (num.log2 : Int) - den.log2 + 1 - guess = (53 : Nat) := by
      rw [hguess]
      push_cast
      ring
    rwa [hshift, hk, zpow_natCast] at h
  obtain ⟨hb, hratio⟩ := ratio_scale num hd (-guess)
  have hb' : (0 : ℚ) < (scale num den (-guess)).2 := by exact_mod_cast hb
  have hfloor : (scale num den (-guess)).1 / (scale num den (-guess)).2 < Nat.pow 2 52 ↔
      (num : ℚ) / den * 2 ^ (-guess) < 2 ^ 52 := by
    have hcast : ((Nat.pow 2 52 : Nat) : ℚ) = 2 ^ 52 := Nat.cast_pow 2 52
    rw [Nat.div_lt_iff_lt_mul hb, ← hratio, div_lt_iff₀ hb', ← hcast]
    exact_mod_cast Iff.rfl
  by_cases h : (scale num den (-guess)).1 / (scale num den (-guess)).2 < Nat.pow 2 52
  · have he : fullExponent num den = guess - 1 := by
      simp only [fullExponent, ← hguess]
      rw [if_pos h]
    have hdouble : (num : ℚ) / den * 2 ^ (-(guess - 1)) = 2 * (num / den * 2 ^ (-guess)) := by
      rw [neg_sub, sub_eq_add_neg, zpow_add₀ two_ne_zero, zpow_one]
      ring
    rw [he, hdouble]
    have hlt := hfloor.1 h
    constructor <;> linarith
  · have he : fullExponent num den = guess := by
      simp only [fullExponent, ← hguess]
      rw [if_neg h]
    rw [he]
    exact ⟨not_lt.1 fun hlt => h (hfloor.2 hlt), hbelow⟩

/-- The exponent of the last bit that is kept. -/
def lastExponent (num den : Nat) : Int := max (fullExponent num den) (-1074)

theorem div_lastExponent (hn : num ≠ 0) (hd : 0 < den) :
    (num : ℚ) / den / 2 ^ lastExponent num den < 2 ^ 53 ∧
      (2 ^ 52 ≤ (num : ℚ) / den / 2 ^ lastExponent num den ∨ lastExponent num den = -1074) := by
  obtain ⟨hfull, hlt⟩ := fullExponent_spec hn hd
  have hpos : (0 : ℚ) ≤ num / den := by positivity
  have hunit : ∀ k : Int, (num : ℚ) / den * 2 ^ (-k) = num / den / 2 ^ k := fun k => by
    rw [zpow_neg, div_eq_mul_inv _ ((2 : ℚ) ^ k)]
  constructor
  · rw [← hunit]
    refine lt_of_le_of_lt (mul_le_mul_of_nonneg_left ?_ hpos) hlt
    exact zpow_le_zpow_right₀ one_le_two (by unfold lastExponent; omega)
  · rcases le_total (-1074) (fullExponent num den) with hle | hle
    · left
      rw [lastExponent, max_eq_left hle, ← hunit]
      exact hfull
    · exact .inr (max_eq_right hle)

/-- The significand is the integer next to the quotient in units of the last bit, unless it carries
over. -/
theorem ofRatio?_eq_some (hn : num ≠ 0) (hd : 0 < den)
    (h : ofRatio? negative num den = some x) :
    ∃ m : Nat, |(num : ℚ) / den / 2 ^ lastExponent num den - m| ≤ 1 / 2 ∧
      (|(num : ℚ) / den / 2 ^ lastExponent num den - m| = 1 / 2 → m % 2 = 0) ∧
      x.exponent ≤ 971 ∧
      x = if m = 2 ^ 53 then ⟨negative, 2 ^ 52, lastExponent num den + 1⟩
        else ⟨negative, m, lastExponent num den⟩ := by
  have hunit : (num : ℚ) / den * 2 ^ (-lastExponent num den) =
      num / den / 2 ^ lastExponent num den := by
    rw [zpow_neg, div_eq_mul_inv _ ((2 : ℚ) ^ lastExponent num den)]
  obtain ⟨hb, hratio⟩ := ratio_scale num hd (-lastExponent num den)
  obtain ⟨hnear, heven⟩ := roundDiv_spec (scale num den (-lastExponent num den)).1 hb
  rw [hratio, hunit] at hnear heven
  refine ⟨_, hnear, heven, ?_⟩
  generalize hm : roundDiv (scale num den (-lastExponent num den)).1
    (scale num den (-lastExponent num den)).2 = m
  have hr : ofRatio? negative num den =
      let p := if m = Nat.pow 2 53 then (Nat.pow 2 52, lastExponent num den + 1)
        else (m, lastExponent num den)
      if 971 < p.2 then none else some ⟨negative, p.1, p.2⟩ := by
    rw [ofRatio?, if_neg hn, ← hm]
    rfl
  rw [hr] at h
  by_cases hc : m = 2 ^ 53
  · have hc' : m = Nat.pow 2 53 := hc
    rw [if_pos hc'] at h
    dsimp only at h
    split at h
    · cases h
    · next hle =>
      cases h
      exact ⟨not_lt.1 hle, (if_pos hc).symm⟩
  · have hc' : ¬ m = Nat.pow 2 53 := hc
    rw [if_neg hc'] at h
    dsimp only at h
    split at h
    · cases h
    · next hle =>
      cases h
      exact ⟨not_lt.1 hle, (if_neg hc).symm⟩

/-- What is rounded to an integer significand is nearest to the number. In front of a power of two
the numbers lie closer together, but nothing is rounded up to there. -/
theorem nearest_of_round {m : Nat} {e : Int} (hq : 0 ≤ q / 2 ^ e)
    (hnear : |q / 2 ^ e - m| ≤ 1 / 2) (heven : |q / 2 ^ e - m| = 1 / 2 → m % 2 = 0)
    (hlow : 2 ^ 52 ≤ q / 2 ^ e ∨ e = -1074) : Nearest ⟨negative, m, e⟩ q := by
  generalize hu : q / 2 ^ e = t at hq hnear heven hlow
  obtain ⟨hbelow, habove⟩ := abs_le.1 hnear
  have hsub : ((4 * m - 2 : Nat) : ℚ) ≤ 4 * t := by
    rcases Nat.eq_zero_or_pos m with rfl | hm
    · simpa using hq
    · rw [Nat.cast_sub (by omega)]
      push_cast
      linarith
  simp only [Nearest, interval, hu]
  split
  · constructor
    · split
      · next hpow =>
        obtain ⟨rfl, he⟩ := hpow
        have ht : (2 : ℚ) ^ 52 ≤ t := hlow.resolve_right (by omega)
        norm_num at ht ⊢
        linarith
      · exact hsub
    · push_cast
      linarith
  · next hodd =>
    have hne : |t - m| ≠ 1 / 2 := fun hh => hodd (heven hh)
    obtain ⟨hbelow, habove⟩ := abs_lt.1 (lt_of_le_of_ne hnear hne)
    have hpow : ¬ (m = Nat.pow 2 52 ∧ -1074 < e) := by
      rintro ⟨rfl, -⟩
      exact hodd (by decide)
    rw [if_neg hpow, Nat.cast_sub (by omega)]
    push_cast
    constructor <;> linarith

/-- A quotient is rounded to a number that it is nearest to. -/
theorem ofRatio?_spec (hn : num ≠ 0) (hd : 0 < den) (h : ofRatio? negative num den = some x) :
    x.negative = negative ∧ x.Canonical ∧ x.Nearest (num / den) := by
  obtain ⟨hhigh, hlow⟩ := div_lastExponent hn hd
  obtain ⟨m, hnear, heven, hgreatest, hx⟩ := ofRatio?_eq_some hn hd h
  have hleast : -1074 ≤ lastExponent num den := le_max_right _ _
  have hpos : (0 : ℚ) ≤ num / den := by positivity
  generalize lastExponent num den = e at hhigh hlow hnear heven hx hleast
  obtain ⟨hbelow, habove⟩ := abs_le.1 hnear
  have hm : m ≤ 2 ^ 53 := by
    have hc : (m : ℚ) < ((2 ^ 53 + 1 : Nat) : ℚ) := by
      push_cast
      linarith
    have := Nat.cast_lt.1 hc
    omega
  by_cases hcarry : m = 2 ^ 53
  · rw [if_pos hcarry] at hx
    subst hcarry
    rw [hx] at hgreatest ⊢
    refine ⟨rfl, ⟨by norm_num, by dsimp only; omega, hgreatest, .inl le_rfl⟩, ?_⟩
    have hpow : (2 ^ 52 : Nat) = Nat.pow 2 52 ∧ -1074 < e + 1 := ⟨rfl, by omega⟩
    have hhalf : (num : ℚ) / den / 2 ^ (e + 1) = num / den / 2 ^ e / 2 := by
      rw [zpow_add₀ two_ne_zero, zpow_one]
      field_simp
    simp only [Nearest, interval, if_pos hpow, hhalf]
    norm_num at hbelow hhigh ⊢
    constructor <;> linarith
  · rw [if_neg hcarry] at hx
    rw [hx] at hgreatest ⊢
    refine ⟨rfl, ⟨by dsimp only; omega, hleast, hgreatest, ?_⟩, ?_⟩
    · refine hlow.imp_left fun hl => ?_
      have hc : ((2 ^ 52 : Nat) : ℚ) < (m + 1 : Nat) := by
        push_cast
        linarith
      have := Nat.cast_lt.1 hc
      dsimp only
      omega
    · exact nearest_of_round (div_nonneg hpos (zpow_nonneg zero_le_two e)) hnear heven hlow

theorem magnitude_of_exact {m : Nat} {k : Int} (hn : num ≠ 0) (hd : 0 < den) (hm : m < 2 ^ 53)
    (hk : -1074 ≤ k) (hq : (num : ℚ) / den = m * 2 ^ k)
    (h : ofRatio? negative num den = some x) : x.magnitude = num / den := by
  obtain ⟨hhigh, hlow⟩ := div_lastExponent hn hd
  obtain ⟨r, hnear, -, -, hx⟩ := ofRatio?_eq_some hn hd h
  have hm' : (m : ℚ) < 2 ^ 53 := by exact_mod_cast hm
  -- The last bit that is kept is no later than the last one there is.
  have hle : lastExponent num den ≤ k := by
    rcases hlow with hlow | hlow
    · rw [hq, le_div_iff₀ (zpow_pos two_pos _)] at hlow
      have hlt : (2 : ℚ) ^ 52 * 2 ^ lastExponent num den < 2 ^ 53 * 2 ^ k :=
        lt_of_le_of_lt hlow (mul_lt_mul_of_pos_right hm' (zpow_pos two_pos k))
      rw [← zpow_natCast, ← zpow_natCast, ← zpow_add₀ two_ne_zero, ← zpow_add₀ two_ne_zero] at hlt
      have := (zpow_lt_zpow_iff_right₀ one_lt_two).1 hlt
      push_cast at this
      omega
    · rw [hlow]
      exact hk
  generalize lastExponent num den = e at hhigh hnear hx hle
  obtain ⟨n, rfl⟩ : ∃ n : Nat, k = e + n := ⟨(k - e).toNat, by omega⟩
  have hint : (num : ℚ) / den / 2 ^ e = (m * 2 ^ n : Nat) := by
    rw [hq, zpow_add₀ two_ne_zero, zpow_natCast]
    push_cast
    have : (2 : ℚ) ^ e ≠ 0 := (zpow_pos two_pos e).ne'
    field_simp
  rw [hint] at hnear hhigh
  -- Two integers that are no further apart than a half are the same.
  have hr : m * 2 ^ n = r := by
    obtain ⟨hbelow, habove⟩ := abs_le.1 hnear
    have h1 : ((m * 2 ^ n : Nat) : ℚ) < ((r + 1 : Nat) : ℚ) := by
      push_cast at habove ⊢
      linarith
    have h2 : ((r : Nat) : ℚ) < ((m * 2 ^ n + 1 : Nat) : ℚ) := by
      push_cast at hbelow ⊢
      linarith
    have := Nat.cast_lt.1 h1
    have := Nat.cast_lt.1 h2
    omega
  have hcarry : ¬ r = 2 ^ 53 := by
    rintro rfl
    rw [hr] at hhigh
    norm_num at hhigh
  rw [if_neg hcarry] at hx
  rw [hx, magnitude, ← hr, ← hint, div_mul_cancel₀ _ (zpow_pos two_pos e).ne']

theorem magnitude_ofNat? {n : Nat} (hn : n ≠ 0) {m k : Nat} (hm : m < 2 ^ 53) (h : n = m * 2 ^ k)
    (hx : ofNat? n = some x) : x.magnitude = n := by
  have hq : (n : ℚ) / (1 : Nat) = m * 2 ^ (k : Int) := by
    rw [h, zpow_natCast]
    push_cast
    ring
  have hv := magnitude_of_exact hn one_pos hm (by omega) hq hx
  simpa using hv

theorem significand_ne_zero (h : x.magnitude ≠ 0) : x.significand ≠ 0 := by
  intro hz
  rw [magnitude, hz] at h
  simp at h

theorem mul?_spec (hx : x.magnitude ≠ 0) (hy : y.magnitude ≠ 0) {z : Binary64}
    (h : x.mul? y = some z) :
    z.negative = (x.negative != y.negative) ∧ z.Canonical ∧
      z.Nearest (x.magnitude * y.magnitude) := by
  have hpow : 0 < Nat.pow 2 (x.exponent + y.exponent).toNat := Nat.two_pow_pos _
  have hnum : (scale (x.significand * y.significand) 1 (x.exponent + y.exponent)).1 ≠ 0 :=
    Nat.mul_ne_zero (Nat.mul_ne_zero (significand_ne_zero hx) (significand_ne_zero hy)) hpow.ne'
  obtain ⟨hb, hratio⟩ := ratio_scale (x.significand * y.significand) one_pos
    (x.exponent + y.exponent)
  have hv : ((scale (x.significand * y.significand) 1 (x.exponent + y.exponent)).1 : ℚ) /
      (scale (x.significand * y.significand) 1 (x.exponent + y.exponent)).2 =
        x.magnitude * y.magnitude := by
    rw [hratio, zpow_add₀ two_ne_zero, magnitude, magnitude]
    push_cast
    ring
  rw [← hv]
  exact ofRatio?_spec hnum hb h

theorem div?_spec (hx : x.magnitude ≠ 0) (hy : y.magnitude ≠ 0) {z : Binary64}
    (h : x.div? y = some z) :
    z.negative = (x.negative != y.negative) ∧ z.Canonical ∧
      z.Nearest (x.magnitude / y.magnitude) := by
  have hpow : 0 < Nat.pow 2 (x.exponent - y.exponent).toNat := Nat.two_pow_pos _
  have hnum : (scale x.significand y.significand (x.exponent - y.exponent)).1 ≠ 0 :=
    Nat.mul_ne_zero (significand_ne_zero hx) hpow.ne'
  have hy' := Nat.pos_of_ne_zero (significand_ne_zero hy)
  obtain ⟨hb, hratio⟩ := ratio_scale x.significand hy' (x.exponent - y.exponent)
  have hv : ((scale x.significand y.significand (x.exponent - y.exponent)).1 : ℚ) /
      (scale x.significand y.significand (x.exponent - y.exponent)).2 =
        x.magnitude / y.magnitude := by
    rw [hratio, zpow_sub₀ two_ne_zero, magnitude, magnitude, mul_div_mul_comm]
  rw [← hv]
  exact ofRatio?_spec hnum hb h

end Binary64

end Courier
