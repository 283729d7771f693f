import Courier.Proofs.Number.Rounding

/-! The shortest numeral of a binary64 number. It rounds back to the number, and none on a coarser
decimal grid does. -/

namespace Courier

namespace Binary64

variable {x : Binary64} {q r s : ℚ} {place : Int} {c : Nat}

/-- A point of a decimal grid. -/
def decimal (c : Nat) (place : Int) : ℚ := c * 10 ^ place

theorem decimal_mono {b c : Nat} (h : b ≤ c) (place : Int) : decimal b place ≤ decimal c place := by
  have hten : (0 : ℚ) < 10 ^ place := zpow_pos (by norm_num) _
  rw [decimal, decimal]
  gcongr

theorem decimal_shift (c k : Nat) (place : Int) :
    decimal (c * 10 ^ k) place = decimal c (place + k) := by
  rw [decimal, decimal, zpow_add₀ (by norm_num), zpow_natCast]
  push_cast
  ring

theorem decimal_coarser (c : Nat) {coarse : Int} (h : place ≤ coarse) :
    ∃ b, decimal c coarse = decimal b place := by
  obtain ⟨n, rfl⟩ : ∃ n : Nat, coarse = place + n := ⟨(coarse - place).toNat, by omega⟩
  exact ⟨c * 10 ^ n, (decimal_shift c n place).symm⟩

theorem interval_high (x : Binary64) : (x.interval.2.2 : ℚ) = 4 * x.significand + 2 := by
  simp only [interval]
  push_cast
  ring

theorem four_mul_magnitude (x : Binary64) :
    4 * (x.magnitude / 2 ^ x.exponent) = 4 * x.significand := by
  have : (2 : ℚ) ^ x.exponent ≠ 0 := (zpow_pos two_pos _).ne'
  rw [magnitude]
  field_simp

theorem quarter_mono (x : Binary64) (h : q ≤ r) :
    4 * (q / 2 ^ x.exponent) ≤ 4 * (r / 2 ^ x.exponent) := by
  have : (0 : ℚ) < 2 ^ x.exponent := zpow_pos two_pos _
  gcongr

theorem Nearest.between (hq : x.Nearest q) (hr : x.Nearest r) (hqs : q ≤ s) (hsr : s ≤ r) :
    x.Nearest s := by
  have hlow := quarter_mono x hqs
  have hhigh := quarter_mono x hsr
  rw [Nearest] at hq hr ⊢
  dsimp only at hq hr ⊢
  split_ifs at hq hr ⊢
  · exact ⟨hq.1.trans hlow, hhigh.trans hr.2⟩
  · exact ⟨hq.1.trans_le hlow, hhigh.trans_lt hr.2⟩

theorem Nearest.bounds (h : x.Nearest q) :
    x.magnitude - 2 ^ x.exponent / 2 ≤ q ∧ q ≤ x.magnitude + 2 ^ x.exponent / 2 := by
  have hunit : (0 : ℚ) < 2 ^ x.exponent := zpow_pos two_pos _
  have hends : (x.interval.1 : ℚ) ≤ 4 * (q / 2 ^ x.exponent) ∧
      4 * (q / 2 ^ x.exponent) ≤ x.interval.2.2 := by
    rw [Nearest] at h
    dsimp only at h
    split_ifs at h
    · exact h
    · exact ⟨h.1.le, h.2.le⟩
  have hlow : (4 * x.significand - 2 : ℚ) ≤ x.interval.1 := by
    have hnat : 4 * x.significand ≤ x.interval.1 + 2 := by
      simp only [interval]
      split <;> omega
    have hcast : (4 * x.significand : ℚ) ≤ x.interval.1 + 2 := by exact_mod_cast hnat
    linarith
  have hhigh := interval_high x
  have hq : q = q / 2 ^ x.exponent * 2 ^ x.exponent := (div_mul_cancel₀ q hunit.ne').symm
  rw [magnitude]
  constructor
  · have hle : (x.significand : ℚ) - 1 / 2 ≤ q / 2 ^ x.exponent := by linarith [hends.1]
    rw [hq]
    nlinarith
  · have hle : q / 2 ^ x.exponent ≤ (x.significand : ℚ) + 1 / 2 := by linarith [hends.2]
    rw [hq]
    nlinarith

/-- What is less than a quarter of the last bit away is nearest, also in front of a power of two. -/
theorem nearest_of_near (h0 : x.significand ≠ 0) (h : |q - x.magnitude| < 2 ^ x.exponent / 4) :
    x.Nearest q := by
  have hunit : (0 : ℚ) < 2 ^ x.exponent := zpow_pos two_pos _
  obtain ⟨hbelow, habove⟩ := abs_lt.1 h
  have hq : 4 * (q / 2 ^ x.exponent) =
      4 * x.significand + 4 * ((q - x.magnitude) / 2 ^ x.exponent) := by
    rw [← four_mul_magnitude]
    ring
  have hlow : (4 * x.significand : ℚ) - 1 < 4 * (q / 2 ^ x.exponent) := by
    have : -(1 / 4) < (q - x.magnitude) / 2 ^ x.exponent := by
      rw [lt_div_iff₀ hunit]
      linarith
    linarith
  have hhigh : 4 * (q / 2 ^ x.exponent) < 4 * x.significand + 1 := by
    have : (q - x.magnitude) / 2 ^ x.exponent < 1 / 4 := by
      rw [div_lt_iff₀ hunit]
      linarith
    linarith
  have hends : (x.interval.1 : ℚ) < 4 * (q / 2 ^ x.exponent) ∧
      4 * (q / 2 ^ x.exponent) < x.interval.2.2 := by
    constructor
    · have hnat : x.interval.1 + 1 ≤ 4 * x.significand := by
        simp only [interval]
        split <;> omega
      have hcast : (x.interval.1 : ℚ) + 1 ≤ 4 * x.significand := by exact_mod_cast hnat
      linarith
    · have hhigh' := interval_high x
      linarith
  rw [Nearest]
  dsimp only
  split
  · exact ⟨hends.1.le, hends.2.le⟩
  · exact hends

theorem nearest_magnitude (h0 : x.significand ≠ 0) : x.Nearest x.magnitude := by
  refine nearest_of_near h0 ?_
  rw [sub_self, abs_zero]
  have : (0 : ℚ) < 2 ^ x.exponent := zpow_pos two_pos _
  positivity

theorem Nearest.pos (h0 : x.significand ≠ 0) (h : x.Nearest q) : 0 < q := by
  have hunit : (0 : ℚ) < 2 ^ x.exponent := zpow_pos two_pos _
  have hone : (1 : ℚ) ≤ x.significand := by exact_mod_cast Nat.pos_of_ne_zero h0
  obtain ⟨hlow, -⟩ := h.bounds
  rw [magnitude] at hlow
  nlinarith

/-- A quarter of the last bit, over the distance of the points of a grid. -/
def quarter (x : Binary64) (place : Int) : Nat × Nat :=
  let (a, b) := scale 1 1 (x.exponent - 2)
  (a * Nat.pow 10 (-place).toNat, b * Nat.pow 10 place.toNat)

theorem zpow_eq_div (b : Nat) (hb : b ≠ 0) (n : Int) :
    (b : ℚ) ^ n = (b ^ n.toNat : Nat) / (b ^ (-n).toNat : Nat) := by
  have hb' : (b : ℚ) ≠ 0 := by exact_mod_cast hb
  push_cast
  conv_lhs => rw [← Int.toNat_sub_toNat_neg n]
  rw [zpow_sub₀ hb', zpow_natCast, zpow_natCast]

theorem zpow_sub_two (e : Int) : (2 : ℚ) ^ (e - 2) = 2 ^ e / 4 := by
  rw [zpow_sub₀ two_ne_zero]
  norm_num

theorem quarter_spec (x : Binary64) (place : Int) :
    0 < (x.quarter place).1 ∧ 0 < (x.quarter place).2 ∧
      ((x.quarter place).1 : ℚ) / (x.quarter place).2 = 2 ^ x.exponent / 4 / 10 ^ place := by
  obtain ⟨hb, hratio⟩ := ratio_scale 1 one_pos (x.exponent - 2)
  have ha : 0 < (scale 1 1 (x.exponent - 2)).1 := Nat.mul_pos one_pos (Nat.two_pow_pos _)
  have hten : ∀ n, 0 < Nat.pow 10 n := fun n => Nat.pow_pos (by decide)
  refine ⟨Nat.mul_pos ha (hten _), Nat.mul_pos hb (hten _), ?_⟩
  have hplace : (10 : ℚ) ^ place =
      (Nat.pow 10 place.toNat : Nat) / (Nat.pow 10 (-place).toNat : Nat) :=
    zpow_eq_div 10 (by decide) place
  rw [Nat.cast_one, div_one, one_mul, zpow_sub_two] at hratio
  rw [hplace, ← hratio]
  simp only [quarter]
  push_cast
  have h1 : ((scale 1 1 (x.exponent - 2)).2 : ℚ) ≠ 0 := by exact_mod_cast hb.ne'
  have h2 : ((Nat.pow 10 place.toNat : Nat) : ℚ) ≠ 0 := by exact_mod_cast (hten _).ne'
  have h3 : ((Nat.pow 10 (-place).toNat : Nat) : ℚ) ≠ 0 := by exact_mod_cast (hten _).ne'
  field_simp

theorem quarters_decimal (x : Binary64) (c : Nat) (place : Int) :
    4 * (decimal c place / 2 ^ x.exponent) =
      (c * (x.quarter place).2 : Nat) / ((x.quarter place).1 : ℚ) := by
  obtain ⟨ha, hb, hq⟩ := quarter_spec x place
  have ha' : ((x.quarter place).1 : ℚ) ≠ 0 := by exact_mod_cast ha.ne'
  have hb' : ((x.quarter place).2 : ℚ) ≠ 0 := by exact_mod_cast hb.ne'
  have hunit : (2 : ℚ) ^ x.exponent ≠ 0 := (zpow_pos two_pos _).ne'
  have hten : (10 : ℚ) ^ place ≠ 0 := (zpow_pos (by norm_num) _).ne'
  have hinv : ((x.quarter place).2 : ℚ) / (x.quarter place).1 =
      4 * 10 ^ place / 2 ^ x.exponent := by
    rw [← inv_div, hq]
    field_simp
  rw [Nat.cast_mul, mul_div_assoc, hinv, decimal]
  ring

theorem holds_iff (x : Binary64) (c : Nat) (place : Int) :
    holds x (x.interval.1 * (x.quarter place).1) (c * (x.quarter place).2)
      (x.interval.2.2 * (x.quarter place).1) = true ↔ x.Nearest (decimal c place) := by
  obtain ⟨ha, -, -⟩ := quarter_spec x place
  have ha' : (0 : ℚ) < (x.quarter place).1 := by exact_mod_cast ha
  simp only [holds, Nearest, quarters_decimal]
  split
  · rw [Bool.and_eq_true, decide_eq_true_iff, decide_eq_true_iff, le_div_iff₀ ha', div_le_iff₀ ha']
    exact_mod_cast Iff.rfl
  · rw [Bool.and_eq_true, decide_eq_true_iff, decide_eq_true_iff, lt_div_iff₀ ha', div_lt_iff₀ ha']
    exact_mod_cast Iff.rfl

/-- The last point of the grid that is not past the number. -/
def pointBelow (x : Binary64) (place : Int) : Nat :=
  4 * x.significand * (x.quarter place).1 / (x.quarter place).2

theorem pointBelow_quarters (x : Binary64) (place : Int) :
    x.pointBelow place * (x.quarter place).2 ≤ 4 * x.significand * (x.quarter place).1 ∧
      4 * x.significand * (x.quarter place).1 < (x.pointBelow place + 1) * (x.quarter place).2 := by
  obtain ⟨-, hb, -⟩ := quarter_spec x place
  exact ⟨Nat.div_mul_le_self _ _, (Nat.div_lt_iff_lt_mul hb).1 (Nat.lt_succ_self _)⟩

theorem pointBelow_spec (x : Binary64) (place : Int) :
    decimal (x.pointBelow place) place ≤ x.magnitude ∧
      x.magnitude < decimal (x.pointBelow place + 1) place := by
  obtain ⟨ha, hb, hq⟩ := quarter_spec x place
  have hten : (0 : ℚ) < 10 ^ place := zpow_pos (by norm_num) _
  have hb' : (0 : ℚ) < (x.quarter place).2 := by exact_mod_cast hb
  have hv : ((4 * x.significand * (x.quarter place).1 : Nat) : ℚ) / (x.quarter place).2 =
      x.magnitude / 10 ^ place := by
    rw [Nat.cast_mul, mul_div_assoc, hq, magnitude]
    push_cast
    ring
  obtain ⟨hbelow, habove⟩ := pointBelow_quarters x place
  constructor
  · rw [decimal, ← le_div_iff₀ hten, ← hv, le_div_iff₀ hb']
    exact_mod_cast hbelow
  · rw [decimal, ← div_lt_iff₀ hten, ← hv, div_lt_iff₀ hb']
    exact_mod_cast habove

theorem onGrid?_eq (x : Binary64) (place : Int) :
    x.onGrid? place =
      let (a, b) := x.quarter place
      let c := x.pointBelow place
      let down := holds x (x.interval.1 * a) (c * b) (x.interval.2.2 * a)
      let up := holds x (x.interval.1 * a) ((c + 1) * b) (x.interval.2.2 * a)
      let toDown := 4 * x.significand * a - c * b
      let toUp := (c + 1) * b - 4 * x.significand * a
      if down && up then
        if toDown < toUp ∨ (toDown = toUp ∧ c % 2 = 0) then some c else some (c + 1)
      else if down then some c
      else if up then some (c + 1)
      else none := rfl

/-- Whichever point around the number is chosen rounds to it. -/
theorem onGrid?_spec (x : Binary64) (place : Int) :
    match x.onGrid? place with
    | some c => (c = x.pointBelow place ∨ c = x.pointBelow place + 1) ∧ x.Nearest (decimal c place)
    | none => ¬ x.Nearest (decimal (x.pointBelow place) place) ∧
        ¬ x.Nearest (decimal (x.pointBelow place + 1) place) := by
  have hdown := holds_iff x (x.pointBelow place) place
  have hup := holds_iff x (x.pointBelow place + 1) place
  rw [onGrid?_eq]
  dsimp only
  generalize holds x _ (x.pointBelow place * _) _ = down at hdown
  generalize holds x _ ((x.pointBelow place + 1) * _) _ = up at hup
  cases down <;> cases up
  · exact ⟨fun h => (nomatch hdown.2 h), fun h => (nomatch hup.2 h)⟩
  · exact ⟨.inr rfl, hup.1 rfl⟩
  · exact ⟨.inl rfl, hdown.1 rfl⟩
  · simp only [Bool.and_self, if_true]
    split
    · next hc =>
      split at hc
      · cases hc
        exact ⟨.inl rfl, hdown.1 rfl⟩
      · cases hc
        exact ⟨.inr rfl, hup.1 rfl⟩
    · next hc => split at hc <;> cases hc

theorem onGrid?_eq_some (h : x.onGrid? place = some c) :
    (c = x.pointBelow place ∨ c = x.pointBelow place + 1) ∧ x.Nearest (decimal c place) := by
  have hspec := onGrid?_spec x place
  rwa [h] at hspec

theorem distances (x : Binary64) (place : Int) :
    x.magnitude - decimal (x.pointBelow place) place =
        (4 * x.significand * (x.quarter place).1 - x.pointBelow place * (x.quarter place).2 : Nat) *
          (10 ^ place / (x.quarter place).2) ∧
      decimal (x.pointBelow place + 1) place - x.magnitude =
        ((x.pointBelow place + 1) * (x.quarter place).2 -
          4 * x.significand * (x.quarter place).1 : Nat) * (10 ^ place / (x.quarter place).2) := by
  obtain ⟨-, hb, hq⟩ := quarter_spec x place
  have hb' : ((x.quarter place).2 : ℚ) ≠ 0 := by exact_mod_cast hb.ne'
  have hten : (10 : ℚ) ^ place ≠ 0 := (zpow_pos (by norm_num) _).ne'
  have hmagnitude : x.magnitude =
      (4 * x.significand * (x.quarter place).1 : Nat) * (10 ^ place / (x.quarter place).2) := by
    have hunit : (2 : ℚ) ^ x.exponent =
        4 * 10 ^ place * (((x.quarter place).1 : ℚ) / (x.quarter place).2) := by
      rw [hq]
      field_simp
    rw [magnitude, hunit]
    push_cast
    ring
  have hpoint : ∀ c : Nat, decimal c place =
      (c * (x.quarter place).2 : Nat) * (10 ^ place / (x.quarter place).2) := by
    intro c
    rw [decimal]
    push_cast
    field_simp
  obtain ⟨hbelow, habove⟩ := pointBelow_quarters x place
  rw [Nat.cast_sub hbelow, Nat.cast_sub habove.le, hpoint, hpoint, hmagnitude]
  constructor <;> ring

theorem onGrid?_nearer (h : x.onGrid? place = some c)
    (hdown : x.Nearest (decimal (x.pointBelow place) place))
    (hup : x.Nearest (decimal (x.pointBelow place + 1) place)) :
    |decimal c place - x.magnitude| ≤ x.magnitude - decimal (x.pointBelow place) place ∧
      |decimal c place - x.magnitude| ≤ decimal (x.pointBelow place + 1) place - x.magnitude := by
  obtain ⟨hbelow, habove⟩ := pointBelow_spec x place
  obtain ⟨hdist, hdist'⟩ := distances x place
  obtain ⟨-, hb, -⟩ := quarter_spec x place
  have hunit : (0 : ℚ) < 10 ^ place / (x.quarter place).2 := by
    have : (0 : ℚ) < (x.quarter place).2 := by exact_mod_cast hb
    have : (0 : ℚ) < 10 ^ place := zpow_pos (by norm_num) _
    positivity
  rw [onGrid?_eq] at h
  simp only [(holds_iff x _ place).2 hdown, (holds_iff x _ place).2 hup, Bool.and_self,
    if_true] at h
  generalize 4 * x.significand * (x.quarter place).1 - _ = toDown at h hdist
  generalize _ - 4 * x.significand * (x.quarter place).1 = toUp at h hdist'
  split at h
  · next hle =>
    cases h
    have hcast : (toDown : ℚ) ≤ toUp := by exact_mod_cast (by omega : toDown ≤ toUp)
    have hnear := mul_le_mul_of_nonneg_right hcast hunit.le
    rw [abs_sub_comm, abs_of_nonneg (by linarith)]
    constructor <;> linarith
  · next hlt =>
    cases h
    have hcast : (toUp : ℚ) ≤ toDown := by exact_mod_cast (by omega : toUp ≤ toDown)
    have hnear := mul_le_mul_of_nonneg_right hcast hunit.le
    rw [abs_of_nonneg (by linarith)]
    constructor <;> linarith

/-- No point of the grid that rounds to the number is nearer to it than the chosen one. -/
theorem onGrid?_closest (h0 : x.significand ≠ 0) (h : x.onGrid? place = some c) {b : Nat}
    (hb : x.Nearest (decimal b place)) :
    |decimal c place - x.magnitude| ≤ |decimal b place - x.magnitude| := by
  obtain ⟨hc, hnear⟩ := onGrid?_eq_some h
  obtain ⟨hbelow, habove⟩ := pointBelow_spec x place
  have hself := nearest_magnitude h0
  rcases Nat.lt_or_ge (x.pointBelow place) b with hlt | hle
  · have hnext := decimal_mono (Nat.succ_le_of_lt hlt) place
    have hup := hself.between hb habove.le hnext
    have hfar : decimal (x.pointBelow place + 1) place - x.magnitude ≤
        |decimal b place - x.magnitude| := le_trans (by linarith) (le_abs_self _)
    rcases hc with rfl | rfl
    · exact (onGrid?_nearer h hnear hup).2.trans hfar
    · rwa [abs_of_nonneg (by linarith)]
  · have hprev := decimal_mono hle place
    have hdown := hb.between hself hprev hbelow
    have hfar : x.magnitude - decimal (x.pointBelow place) place ≤
        |decimal b place - x.magnitude| := le_trans (by linarith) (neg_le_abs _)
    rcases hc with rfl | rfl
    · rwa [abs_sub_comm, abs_of_nonneg (by linarith)]
    · exact (onGrid?_nearer h hdown hnear).1.trans hfar

/-- Of all points of a grid, one of the two around the number is the first to be nearest. -/
theorem onGrid?_eq_none (h0 : x.significand ≠ 0) (h : x.onGrid? place = none) (c : Nat) :
    ¬ x.Nearest (decimal c place) := by
  have hspec := onGrid?_spec x place
  rw [h] at hspec
  obtain ⟨hbelow, habove⟩ := pointBelow_spec x place
  intro hc
  rcases Nat.lt_or_ge (x.pointBelow place) c with hlt | hle
  · have hnext := decimal_mono (Nat.succ_le_of_lt hlt) place
    exact hspec.2 ((nearest_magnitude h0).between hc habove.le hnext)
  · have hprev := decimal_mono hle place
    exact hspec.1 (hc.between (nearest_magnitude h0) hprev hbelow)

theorem onGrid?_eq_none_of_le (h0 : x.significand ≠ 0) (h : x.onGrid? place = none) {coarse : Int}
    (hle : place ≤ coarse) (c : Nat) : ¬ x.Nearest (decimal c coarse) := by
  obtain ⟨b, hb⟩ := decimal_coarser c hle
  rw [hb]
  exact onGrid?_eq_none h0 h b

theorem exists_onGrid? (h0 : x.significand ≠ 0) (h : (10 : ℚ) ^ place ≤ 2 ^ x.exponent / 4) :
    ∃ c, x.onGrid? place = some c := by
  rw [← Option.isSome_iff_exists, ← Option.ne_none_iff_isSome]
  intro hnone
  obtain ⟨hbelow, habove⟩ := pointBelow_spec x place
  refine onGrid?_eq_none h0 hnone (x.pointBelow place) (nearest_of_near h0 ?_)
  rw [abs_sub_comm, abs_of_nonneg (by linarith)]
  have hstep : decimal (x.pointBelow place + 1) place =
      decimal (x.pointBelow place) place + 10 ^ place := by
    rw [decimal, decimal]
    push_cast
    ring
  linarith

/-- The number of bits in front of the point. -/
def bits (x : Binary64) : Int := x.significand.log2 + x.exponent + 1

theorem Canonical.log2_lt (hx : x.Canonical) : x.significand.log2 < 53 := by
  rcases Nat.eq_zero_or_pos x.significand with h | h
  · rw [h]
    decide
  · exact (Nat.log2_lt h.ne').2 hx.below

theorem bits_bounds (hx : x.Canonical) : -1073 ≤ x.bits ∧ x.bits ≤ 1024 := by
  have := hx.log2_lt
  have := hx.least
  have := hx.greatest
  rw [bits]
  omega

theorem powers_compare : ∀ i ∈ List.range 2098,
    let bits : Int := (i : Nat) - 1073
    let place := bits * 30103 / 100000
    2 ^ bits.toNat * 10 ^ (-(place + 2)).toNat ≤ 10 ^ (place + 2).toNat * 2 ^ (-bits).toNat ∧
      10 ^ (place - 19).toNat * 2 ^ (-(bits - 55)).toNat ≤
        2 ^ (bits - 55).toNat * 10 ^ (-(place - 19)).toNat := by
  decide +kernel

theorem zpow_le_zpow_of_nat {a b : Nat} (ha : a ≠ 0) (hb : b ≠ 0) {i j : Int}
    (h : a ^ i.toNat * b ^ (-j).toNat ≤ b ^ j.toNat * a ^ (-i).toNat) :
    (a : ℚ) ^ i ≤ (b : ℚ) ^ j := by
  have hpos : ∀ {c : Nat} (k : Nat), c ≠ 0 → (0 : ℚ) < (c ^ k : Nat) := fun k hc => by
    exact_mod_cast Nat.pow_pos (Nat.pos_of_ne_zero hc)
  have ha' := hpos (-i).toNat ha
  have hb' := hpos (-j).toNat hb
  rw [zpow_eq_div a ha, zpow_eq_div b hb, div_le_div_iff₀ ha' hb']
  exact_mod_cast h

theorem topPlace_bounds (hx : x.Canonical) :
    (2 : ℚ) ^ x.bits ≤ 10 ^ x.topPlace ∧ (10 : ℚ) ^ (x.topPlace - 21) ≤ 2 ^ x.exponent / 4 := by
  obtain ⟨hlow, hhigh⟩ := bits_bounds hx
  have htop : x.topPlace = x.bits * 30103 / 100000 + 2 := rfl
  have hi : (((x.bits + 1073).toNat : Nat) : Int) - 1073 = x.bits := by omega
  have hcompare := powers_compare (x.bits + 1073).toNat (List.mem_range.2 (by omega))
  dsimp only at hcompare
  rw [hi] at hcompare
  obtain ⟨hpast, hfine⟩ := hcompare
  constructor
  · rw [htop]
    exact_mod_cast zpow_le_zpow_of_nat (by decide) (by decide) hpast
  · have hlog := hx.log2_lt
    have hplace : x.topPlace - 21 = x.bits * 30103 / 100000 - 19 := by omega
    rw [hplace, ← zpow_sub_two]
    calc (10 : ℚ) ^ (x.bits * 30103 / 100000 - 19) ≤ 2 ^ (x.bits - 55) := by
          exact_mod_cast zpow_le_zpow_of_nat (by decide) (by decide) hfine
      _ ≤ 2 ^ (x.exponent - 2) := zpow_le_zpow_right₀ one_le_two (by rw [bits]; omega)

theorem Nearest.lt_two_pow_bits (h : x.Nearest q) : q < 2 ^ x.bits := by
  have hunit : (0 : ℚ) < 2 ^ x.exponent := zpow_pos two_pos _
  have hnat : x.significand + 1 ≤ 2 ^ (x.significand.log2 + 1) := Nat.lt_log2_self
  have hcast : (x.significand : ℚ) + 1 ≤ 2 ^ (x.significand.log2 + 1) := by exact_mod_cast hnat
  have hbits : (2 : ℚ) ^ x.bits = 2 ^ (x.significand.log2 + 1) * 2 ^ x.exponent := by
    rw [← zpow_natCast, ← zpow_add₀ two_ne_zero, bits]
    congr 1
    push_cast
    ring
  obtain ⟨-, hhigh⟩ := h.bounds
  rw [magnitude] at hhigh
  rw [hbits]
  nlinarith

theorem onGrid?_topPlace (hx : x.Canonical) (h0 : x.significand ≠ 0) :
    x.onGrid? x.topPlace = none := by
  rw [Option.eq_none_iff_forall_ne_some]
  intro c hc
  obtain ⟨-, hnear⟩ := onGrid?_eq_some hc
  have hten : (0 : ℚ) < 10 ^ x.topPlace := zpow_pos (by norm_num) _
  have hpos := hnear.pos h0
  have hlt := hnear.lt_two_pow_bits
  -- One unit is past the number, and none is zero.
  have hc0 : c ≠ 0 := by
    rintro rfl
    simp [decimal] at hpos
  have hone := decimal_mono (Nat.one_le_iff_ne_zero.2 hc0) x.topPlace
  have hunit : decimal 1 x.topPlace = 10 ^ x.topPlace := by simp [decimal]
  have := (topPlace_bounds hx).1
  linarith

theorem findSome?_range_eq_some {α : Type} {f : Nat → Option α} {n : Nat} {a : α}
    (h : (List.range n).findSome? f = some a) : ∃ i < n, f i = some a ∧ ∀ j < i, f j = none := by
  induction n with
  | zero => cases h
  | succ n ih =>
    rw [List.range_succ, List.findSome?_append] at h
    cases hn : (List.range n).findSome? f with
    | some b =>
      rw [hn] at h
      obtain ⟨i, hi, hf⟩ := ih (hn.trans h)
      exact ⟨i, Nat.lt_succ_of_lt hi, hf⟩
    | none =>
      rw [hn] at h
      have hlast : f n = some a := by
        rw [List.findSome?_singleton] at h
        exact h
      refine ⟨n, Nat.lt_succ_self n, hlast, fun j hj => ?_⟩
      exact List.findSome?_eq_none_iff.1 hn j (List.mem_range.2 hj)

/-- A decimal that rounds to the number. No decimal on a coarser grid does, and none on the same
grid that does is nearer to the number. -/
structure IsShortest (x : Binary64) (c : Nat) (place : Int) : Prop where
  nearest : x.Nearest (decimal c place)
  coarsest : ∀ b coarse, x.Nearest (decimal b coarse) → coarse ≤ place
  closest : ∀ b, x.Nearest (decimal b place) →
    |decimal c place - x.magnitude| ≤ |decimal b place - x.magnitude|

theorem shortest_spec (hx : x.Canonical) (h0 : x.significand ≠ 0) :
    x.IsShortest x.shortest.1 x.shortest.2 := by
  obtain ⟨c, hc⟩ := exists_onGrid? h0 (topPlace_bounds hx).2
  generalize hf : (fun i : Nat => (x.onGrid? (x.topPlace - i)).map (·, x.topPlace - (i : Int))) = f
  have hshort : x.shortest = ((List.range 22).findSome? f).getD (0, 0) := by
    rw [shortest, List.findSome?_map, ← hf]
    rfl
  have hfound : ((List.range 22).findSome? f).isSome = true := by
    rw [List.findSome?_isSome_iff]
    refine ⟨21, by decide, ?_⟩
    rw [← hf]
    simp only [Option.isSome_map]
    exact Option.isSome_iff_exists.2 ⟨c, hc⟩
  obtain ⟨a, ha⟩ := Option.isSome_iff_exists.1 hfound
  obtain ⟨i, -, hi, hbefore⟩ := findSome?_range_eq_some ha
  rw [hshort, ha, Option.getD_some]
  subst hf
  obtain ⟨d, hd, rfl⟩ := Option.map_eq_some_iff.1 hi
  refine ⟨(onGrid?_eq_some hd).2, fun e place he => ?_, fun b hb => onGrid?_closest h0 hd hb⟩
  -- The grid before was searched in vain, and with it all coarser ones.
  cases i with
  | zero =>
    have htop := onGrid?_topPlace hx h0
    simp [htop] at hd
  | succ i =>
    have hnone : x.onGrid? (x.topPlace - i) = none := by
      simpa using hbefore i (Nat.lt_succ_self i)
    by_contra hlt
    refine onGrid?_eq_none_of_le h0 hnone ?_ e he
    push_cast at hlt
    omega

theorem decimal_unique {b : Nat} (hb : x.Nearest (decimal b place))
    (hc : x.Nearest (decimal c place)) (h : (2 : ℚ) ^ x.exponent < 10 ^ place) : b = c := by
  have hten : (0 : ℚ) < 10 ^ place := zpow_pos (by norm_num) _
  -- Both are in one interval, so neither is a whole step past the other.
  have hle : ∀ {b c : Nat}, x.Nearest (decimal b place) → x.Nearest (decimal c place) → b ≤ c := by
    intro b c hb hc
    obtain ⟨-, hhigh⟩ := hb.bounds
    obtain ⟨hlow, -⟩ := hc.bounds
    have hlt : (b : ℚ) * 10 ^ place < ((c + 1 : Nat) : ℚ) * 10 ^ place := by
      rw [decimal] at hhigh hlow
      push_cast
      linarith
    have := Nat.cast_lt.1 (lt_of_mul_lt_mul_right hlt hten.le)
    omega
  exact Nat.le_antisymm (hle hb hc) (hle hc hb)

theorem Canonical.full_of_nearest (hx : x.Canonical) (h : x.Nearest q)
    (hq : (10 : ℚ) ^ (-22 : Int) ≤ q) : 2 ^ 52 ≤ x.significand := by
  refine hx.full.resolve_right fun he => ?_
  obtain ⟨-, hhigh⟩ := h.bounds
  have hm : (x.significand : ℚ) < 2 ^ 53 := by exact_mod_cast hx.below
  rw [magnitude, he] at hhigh
  have hunit : (0 : ℚ) < 2 ^ (-1074 : Int) := zpow_pos two_pos _
  have hlt : q < 2 ^ 54 * 2 ^ (-1074 : Int) := by nlinarith
  have hsmall : (2 : ℚ) ^ 54 * 2 ^ (-1074 : Int) < 10 ^ (-22 : Int) := by
    calc (2 : ℚ) ^ 54 * 2 ^ (-1074 : Int) ≤ 2 ^ 54 * 2 ^ (-154 : Int) :=
          mul_le_mul_of_nonneg_left (zpow_le_zpow_right₀ one_le_two (by norm_num)) (by norm_num)
      _ < 10 ^ (-22 : Int) := by norm_num
  linarith

/-- Fifteen digits are few enough to come back: the shortest numeral is the one that was rounded. -/
theorem decimal_shortest (hx : x.Canonical) (hm : 2 ^ 52 ≤ x.significand)
    (h : x.Nearest (decimal c place)) (hc : c < 10 ^ 15) :
    decimal x.shortest.1 x.shortest.2 = decimal c place := by
  obtain ⟨hnear, hcoarsest, -⟩ := shortest_spec hx (by omega)
  obtain ⟨b, hb⟩ := decimal_coarser x.shortest.1 (hcoarsest c place h)
  rw [hb] at hnear ⊢
  have hten : (0 : ℚ) < 10 ^ place := zpow_pos (by norm_num) _
  have hunit : (0 : ℚ) < 2 ^ x.exponent := zpow_pos two_pos _
  have hfar : (2 : ℚ) ^ x.exponent < 10 ^ place := by
    have hm' : (2 ^ 52 : ℚ) ≤ x.significand := by exact_mod_cast hm
    have hc' : (c : ℚ) < 10 ^ 15 := by exact_mod_cast hc
    obtain ⟨hlow, -⟩ := h.bounds
    rw [magnitude, decimal] at hlow
    nlinarith
  rw [decimal_unique hnear h hfar]

end Binary64

end Courier
