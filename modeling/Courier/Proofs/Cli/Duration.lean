import Courier.Cli.Options
import Courier.Proofs.Number.Rounding

/-! Seconds as durations. There is a duration for all seconds below `2 ^ 64`, and what is read from
decimal text makes one whose parts are in range. -/

namespace Courier

namespace Binary64

theorem roundDiv_le (num : Nat) {den : Nat} (hd : 0 < den) : roundDiv num den ≤ num := by
  have hsplit := Nat.div_add_mod num den
  have hq : num / den ≤ den * (num / den) := Nat.le_mul_of_pos_left _ hd
  rw [roundDiv]
  split
  · omega
  · split <;> omega

end Binary64

namespace Duration

variable {x : Binary64} {d : Duration}

/-- The seconds fit 64 bits, and the nanoseconds make up less than a second. -/
structure Fits (d : Duration) : Prop where
  seconds : d.seconds < 2 ^ 64
  nanoseconds : d.nanoseconds < 10 ^ 9

theorem ofSeconds?_eq_none : ofSeconds? x = none ↔ 2 ^ 64 ≤ x.magnitude := by
  obtain ⟨hb, hab⟩ := Binary64.ratio_scale x.significand Nat.one_pos x.exponent
  rw [Nat.cast_one, div_one] at hab
  have hpos : (0 : ℚ) < (Binary64.scale x.significand 1 x.exponent).2 := by exact_mod_cast hb
  have hle : Nat.pow 2 64 * (Binary64.scale x.significand 1 x.exponent).2 ≤
      (Binary64.scale x.significand 1 x.exponent).1 ↔ 2 ^ 64 ≤ x.magnitude := by
    rw [Binary64.magnitude, ← hab, le_div_iff₀ hpos]
    exact_mod_cast Iff.rfl
  rw [ofSeconds?, Binary64.ratio, ← hle]
  dsimp only
  split <;> simp_all

theorem fits_of_ofSeconds? (hx : x.significand < 2 ^ 64) (h : ofSeconds? x = some d) : d.Fits := by
  rw [ofSeconds?, Binary64.ratio] at h
  dsimp only at h
  split at h
  · cases h
  · next hlt =>
    cases h
    have hb : 0 < (Binary64.scale x.significand 1 x.exponent).2 :=
      (Binary64.ratio_scale x.significand Nat.one_pos x.exponent).1
    have ha : (Binary64.scale x.significand 1 x.exponent).1 < 2 ^ 64 := by
      rcases le_total 0 x.exponent with he | he
      · have hone : (Binary64.scale x.significand 1 x.exponent).2 = 1 := by
          simp [Binary64.scale, Int.toNat_of_nonpos (Int.neg_nonpos_of_nonneg he)]
        rw [hone, Nat.mul_one] at hlt
        exact Nat.not_le.1 hlt
      · simpa [Binary64.scale, Int.toNat_of_nonpos he] using hx
    have hround := Binary64.roundDiv_le
      ((Binary64.scale x.significand 1 x.exponent).1 * Nat.pow 10 9) hb
    refine ⟨?_, Nat.mod_lt _ (by decide)⟩
    calc Binary64.roundDiv _ _ / Nat.pow 10 9
        ≤ (Binary64.scale x.significand 1 x.exponent).1 * Nat.pow 10 9 / Nat.pow 10 9 :=
          Nat.div_le_div_right hround
      _ = (Binary64.scale x.significand 1 x.exponent).1 := Nat.mul_div_cancel _ (by decide)
      _ < 2 ^ 64 := ha

end Duration

namespace Decimal

variable {x : Binary64} {negative : Bool} {s : List Char}

theorem significand_of_round {digits : Nat} {place : Int}
    (h : round negative digits place = .finite x) : x.significand < 2 ^ 53 := by
  rw [round] at h
  split at h
  · cases h
    exact Nat.two_pow_pos 53
  · next hdigits =>
    split at h
    · cases h
    · split at h
      · next hx =>
        cases h
        have hnum : digits * Nat.pow 10 place.toNat ≠ 0 :=
          Nat.mul_ne_zero (fun hz => hdigits (.inl hz)) (Nat.pow_pos (by decide)).ne'
        exact (Binary64.ofRatio?_spec hnum (Nat.pow_pos (by decide)) hx).2.1.below
      · cases h

theorem exists_round_of_magnitude? {t : Extended} (h : magnitude? negative s = some t) :
    ∃ digits place, round negative digits place = t := by
  rw [magnitude?] at h
  dsimp only at h
  split at h
  all_goals
    split at h
    · cases h
    · obtain ⟨e, -, he⟩ := Option.map_eq_some_iff.1 h
      exact ⟨_, _, he⟩

theorem significand_of_unsigned? (h : unsigned? negative s = some (.finite x)) :
    x.significand < 2 ^ 53 := by
  rw [unsigned?] at h
  split at h
  · cases h
  · split at h
    · cases h
    · obtain ⟨digits, place, hx⟩ := exists_round_of_magnitude? h
      exact significand_of_round hx

theorem significand_of_read? (h : read? s = some (.finite x)) : x.significand < 2 ^ 53 := by
  unfold read? at h
  split at h <;> exact significand_of_unsigned? h

end Decimal

end Courier
