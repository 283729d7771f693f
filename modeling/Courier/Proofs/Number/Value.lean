import Courier.Json.Number
import Courier.Proofs.Number.Shortest
import Courier.Proofs.Text.Integer

/-! The characters that numerals are written in, the numbers that they are read as, and what is
written for these. Integers of 64 bits are kept; other numerals are rounded to binary64 numbers, and
what has few digits comes back from there. -/

namespace Courier

namespace Numeral

def AllDigits (ds : List Char) : Prop := ∀ c ∈ ds, c.isDigit = true

/-- The digits before the point. A zero stands alone. -/
inductive Whole : List Char → Prop
  | zero : Whole ['0']
  | digits {d : Char} {ds : List Char} (hd : d.isDigit = true) (hz : d ≠ '0') (h : AllDigits ds) :
    Whole (d :: ds)

def fractionText (ds : List Char) : List Char := if ds = [] then [] else '.' :: ds

/-- An exponent has a mark, at most one sign, and digits. -/
inductive ExponentText : Option (Bool × List Char) → List Char → Prop
  | none : ExponentText none []
  | bare {e : Char} {ds : List Char} (he : e = 'e' ∨ e = 'E') (hne : ds ≠ []) (h : AllDigits ds) :
    ExponentText (some (false, ds)) (e :: ds)
  | plus {e : Char} {ds : List Char} (he : e = 'e' ∨ e = 'E') (hne : ds ≠ []) (h : AllDigits ds) :
    ExponentText (some (false, ds)) (e :: '+' :: ds)
  | minus {e : Char} {ds : List Char} (he : e = 'e' ∨ e = 'E') (hne : ds ≠ []) (h : AllDigits ds) :
    ExponentText (some (true, ds)) (e :: '-' :: ds)

def minusText (negative : Bool) : List Char := if negative then ['-'] else []

/-- The characters that a numeral may be written in. -/
structure Spelled (n : Numeral) (t : List Char) : Prop where
  whole : Whole n.whole
  fraction : AllDigits n.fraction
  text : ∃ e, ExponentText n.exponent e ∧
    t = minusText n.negative ++ (n.whole ++ (fractionText n.fraction ++ e))

/-- The power of ten that is written. -/
def power (n : Numeral) : Int :=
  match n.exponent with
  | none => 0
  | some (down, ds) => if down then -(Integer.ofDigits ds : Int) else Integer.ofDigits ds

def digits (n : Numeral) : Nat := Integer.ofDigits (n.whole ++ n.fraction)

def place (n : Numeral) : Int := n.power - n.fraction.length

/-- The number that a numeral denotes. -/
def rational (n : Numeral) : ℚ := (if n.negative then -1 else 1) * (n.digits * 10 ^ n.place)

end Numeral

namespace Binary64

variable {x y z : Binary64} {negative : Bool} {num den n : Nat} {q : ℚ}

/-- The number that the numeral of a binary64 number denotes. -/
def written (x : Binary64) : ℚ :=
  (if x.negative then -1 else 1) * (if x.isZero then 0 else decimal x.shortest.1 x.shortest.2)

/-- A shortest decimal with the sign of the number, if the number is not zero. -/
def Shortest (x : Binary64) (q : ℚ) : Prop :=
  if x.isZero then q = 0
  else ∃ c place, q = (if x.negative then -1 else 1) * decimal c place ∧ x.IsShortest c place

theorem shortest_written (hx : x.Canonical) : x.Shortest x.written := by
  rw [Shortest, written]
  split
  · rw [mul_zero]
  · next h0 => exact ⟨_, _, rfl, shortest_spec hx fun h => h0 (by rw [isZero, h]; rfl)⟩

theorem canonical_zero (negative : Bool) : (zero negative).Canonical where
  below := by norm_num [zero]
  least := le_refl _
  greatest := by norm_num [zero]
  full := .inr rfl

theorem Canonical.neg (h : x.Canonical) : x.neg.Canonical := ⟨h.below, h.least, h.greatest, h.full⟩

theorem ofRatio?_canonical (hd : 0 < den) (h : ofRatio? negative num den = some x) :
    x.negative = negative ∧ x.Canonical := by
  by_cases hn : num = 0
  · rw [ofRatio?, if_pos hn] at h
    cases h
    exact ⟨rfl, canonical_zero negative⟩
  · obtain ⟨hneg, hx, -⟩ := ofRatio?_spec hn hd h
    exact ⟨hneg, hx⟩

theorem mul?_canonical (h : mul? x y = some z) :
    z.negative = (x.negative != y.negative) ∧ z.Canonical :=
  ofRatio?_canonical (Nat.mul_pos one_pos (Nat.two_pow_pos _)) h

theorem div?_canonical (hy : y.significand ≠ 0) (h : div? x y = some z) :
    z.negative = (x.negative != y.negative) ∧ z.Canonical :=
  ofRatio?_canonical (Nat.mul_pos (Nat.pos_of_ne_zero hy) (Nat.two_pow_pos _)) h

theorem ofNat?_canonical (h : ofNat? n = some x) : x.negative = false ∧ x.Canonical :=
  ofRatio?_canonical one_pos h

theorem significand_ofNat? (hn : n ≠ 0) (h : ofNat? n = some x) : x.significand ≠ 0 := by
  intro h0
  obtain ⟨-, hx, hnear⟩ := ofRatio?_spec hn one_pos h
  have hone : (1 : ℚ) ≤ n := by exact_mod_cast Nat.pos_of_ne_zero hn
  have htiny : (10 : ℚ) ^ (-22 : Int) ≤ (n : ℚ) / (1 : Nat) := by
    rw [Nat.cast_one, div_one]
    exact le_trans (by norm_num) hone
  have := hx.full_of_nearest hnear htiny
  omega

end Binary64

namespace Number

def Canonical : Number → Prop
  | integer _ => True
  | binary x => x.Canonical

/-- The number that the numeral of a number denotes. -/
def written : Number → ℚ
  | integer z => z
  | binary x => x.written

end Number

namespace Numeral

open Binary64

variable {n : Numeral} {s : Nat} {e : Int} {x : Binary64} {v : Number} {ds : List Char}

/-- The ways to come by the number. -/
inductive Scaled (s : Nat) (e : Int) : Binary64 → Prop
  | zero (h : s = 0 ∨ e < -616) : Scaled s e (.zero false)
  | product {f p x : Binary64} (h0 : s ≠ 0) (he : 0 ≤ e) (hf : ofNat? s = some f)
    (hp : ofNat? (Nat.pow 10 e.toNat) = some p) (hx : f.mul? p = some x) : Scaled s e x
  | quotient {f p x : Binary64} (h0 : s ≠ 0) (he : e < 0) (hf : ofNat? s = some f)
    (hp : ofNat? (Nat.pow 10 (-e).toNat) = some p) (hx : f.div? p = some x) : Scaled s e x
  | quotients {f g p r x : Binary64} (he : e < -308) (hf : ofNat? s = some f)
    (hp : ofNat? (Nat.pow 10 308) = some p) (hg : f.div? p = some g)
    (hr : ofNat? (Nat.pow 10 (-e - 308).toNat) = some r) (hx : g.div? r = some x) : Scaled s e x

theorem scaled_of_eq_some (h : scaled? s e = some x) : Scaled s e x := by
  unfold scaled? at h
  split at h
  · next h0 =>
    cases h
    exact .zero (.inl h0)
  · next h0 =>
    simp only [Option.pure_def, Option.bind_eq_bind, Option.bind_eq_some_iff] at h
    obtain ⟨f, hf, h⟩ := h
    split at h
    · cases h
    · split at h
      · next he =>
        obtain ⟨p, hp, hx⟩ := Option.bind_eq_some_iff.1 h
        exact .product h0 he hf hp hx
      · split at h
        · next he _ =>
          obtain ⟨p, hp, hx⟩ := Option.bind_eq_some_iff.1 h
          exact .quotient h0 (by omega) hf hp hx
        · split at h
          · obtain ⟨p, hp, h⟩ := Option.bind_eq_some_iff.1 h
            obtain ⟨g, hg, h⟩ := Option.bind_eq_some_iff.1 h
            obtain ⟨r, hr, hx⟩ := Option.bind_eq_some_iff.1 h
            exact .quotients (by omega) hf hp hg hr hx
          · cases h
            exact .zero (.inr (by omega))

theorem Scaled.canonical (h : Scaled s e x) : x.negative = false ∧ x.Canonical := by
  have hten : ∀ k, Nat.pow 10 k ≠ 0 := fun k => (Nat.pow_pos (by decide)).ne'
  cases h with
  | zero => exact ⟨rfl, canonical_zero false⟩
  | product h0 he hf hp hx =>
    obtain ⟨hneg, hc⟩ := mul?_canonical hx
    rw [(ofNat?_canonical hf).1, (ofNat?_canonical hp).1] at hneg
    exact ⟨hneg, hc⟩
  | quotient h0 he hf hp hx =>
    obtain ⟨hneg, hc⟩ := div?_canonical (significand_ofNat? (hten _) hp) hx
    rw [(ofNat?_canonical hf).1, (ofNat?_canonical hp).1] at hneg
    exact ⟨hneg, hc⟩
  | quotients he hf hp hg hr hx =>
    obtain ⟨hneg, hc⟩ := div?_canonical (significand_ofNat? (hten _) hr) hx
    obtain ⟨hgneg, -⟩ := div?_canonical (significand_ofNat? (hten _) hp) hg
    rw [hgneg, (ofNat?_canonical hf).1, (ofNat?_canonical hp).1, (ofNat?_canonical hr).1] at hneg
    exact ⟨hneg, hc⟩

theorem magnitude_tenPow {k : Nat} (hk : k ≤ 22) (h : ofNat? (Nat.pow 10 k) = some x) :
    x.magnitude = 10 ^ k := by
  have hm : 5 ^ k < 2 ^ 53 := by
    calc 5 ^ k ≤ 5 ^ 22 := Nat.pow_le_pow_right (by decide) hk
      _ < 2 ^ 53 := by norm_num
  have hten : Nat.pow 10 k = 5 ^ k * 2 ^ k := by
    rw [← Nat.mul_pow]
    rfl
  have hv := magnitude_ofNat? (Nat.pow_pos (by decide)).ne' hm hten h
  rw [hv]
  exact Nat.cast_pow 10 k

theorem nearest_zero (place : Int) : (zero false).Nearest (decimal 0 place) := by
  simp [Nearest, interval, zero, decimal]

/-- Where the significand and the power are exact, only their product is rounded. -/
theorem Scaled.nearest (hs : s < 2 ^ 53) (he : -22 ≤ e ∧ e ≤ 22) (h : Scaled s e x) :
    x.Nearest (decimal s e) := by
  by_cases h0 : s = 0
  · subst h0
    cases h with
    | zero => exact nearest_zero e
    | product hn | quotient hn => exact absurd rfl hn
    | quotients he' => omega
  have hexact : ∀ {f}, ofNat? s = some f → f.magnitude = s := fun {f} hf =>
    magnitude_ofNat? h0 hs (by simp : s = s * 2 ^ 0) hf
  have hs0 : (s : ℚ) ≠ 0 := by exact_mod_cast h0
  have hten : ∀ k : Nat, (10 : ℚ) ^ k ≠ 0 := fun k => pow_ne_zero k (by norm_num)
  cases h with
  | zero h => omega
  | @product f p _ _ hpos hf hp hx =>
    have hfm := hexact hf
    have hpm := magnitude_tenPow (by omega) hp
    obtain ⟨-, -, hnear⟩ := mul?_spec (by rw [hfm]; exact hs0) (by rw [hpm]; exact hten _) hx
    have hd : decimal s e = f.magnitude * p.magnitude := by
      rw [hfm, hpm, decimal, ← zpow_natCast, Int.toNat_of_nonneg hpos]
    rwa [hd]
  | @quotient f p _ _ hneg hf hp hx =>
    have hfm := hexact hf
    have hpm := magnitude_tenPow (by omega) hp
    obtain ⟨-, -, hnear⟩ := div?_spec (by rw [hfm]; exact hs0) (by rw [hpm]; exact hten _) hx
    have hd : decimal s e = f.magnitude / p.magnitude := by
      rw [hfm, hpm, decimal, ← zpow_natCast, Int.toNat_of_nonneg (by omega), zpow_neg,
        div_inv_eq_mul]
    rwa [hd]
  | quotients he' => omega

theorem Scaled.written_eq (hs : s < 10 ^ 15) (he : -22 ≤ e ∧ e ≤ 22) (h : Scaled s e x) :
    x.written = decimal s e := by
  obtain ⟨hneg, hx⟩ := h.canonical
  by_cases h0 : s = 0
  · cases h with
    | zero => simp [written, isZero, Binary64.zero, decimal, h0]
    | product hn | quotient hn => exact absurd h0 hn
    | quotients he' => omega
  · have hnear := h.nearest (by omega) he
    have htiny : (10 : ℚ) ^ (-22 : Int) ≤ decimal s e := by
      have hone : (1 : ℚ) ≤ s := by exact_mod_cast Nat.pos_of_ne_zero h0
      calc (10 : ℚ) ^ (-22 : Int) ≤ 10 ^ e := zpow_le_zpow_right₀ (by norm_num) he.1
        _ ≤ s * 10 ^ e := le_mul_of_one_le_left (zpow_pos (by norm_num) _).le hone
    have hfull := hx.full_of_nearest hnear htiny
    have hz : x.isZero = false := by
      rw [isZero, beq_eq_false_iff_ne]
      omega
    rw [written, hneg, hz, decimal_shortest hx hfull hnear hs]
    simp

theorem shift_ofDigits_cons (s : Nat) (d : Char) (ds : List Char) :
    s * 10 ^ (d :: ds).length + Integer.ofDigits (d :: ds) =
      (10 * s + Integer.digitValue d) * 10 ^ ds.length + Integer.ofDigits ds := by
  rw [Integer.ofDigits_cons, List.length_cons, Nat.pow_succ]
  ring

theorem le_shift (s k m : Nat) : s ≤ s * 10 ^ k + m :=
  Nat.le_add_right_of_le (Nat.le_mul_of_pos_right s (Nat.pow_pos (by decide)))

theorem accumulate_spec (s : Nat) (ds : List Char) :
    ∃ taken, ds = taken ++ (accumulate s ds).2 ∧
      (accumulate s ds).1 = s * 10 ^ taken.length + Integer.ofDigits taken := by
  induction ds generalizing s with
  | nil => exact ⟨[], rfl, by simp [accumulate, Integer.ofDigits]⟩
  | cons d ds ih =>
    rw [accumulate]
    split
    · obtain ⟨taken, hds, hv⟩ := ih (10 * s + Integer.digitValue d)
      exact ⟨d :: taken, congrArg (d :: ·) hds, hv.trans (shift_ofDigits_cons s d taken).symm⟩
    · exact ⟨[], rfl, by simp [Integer.ofDigits]⟩

theorem accumulate_of_lt (s : Nat) (ds : List Char)
    (h : s * 10 ^ ds.length + Integer.ofDigits ds < 2 ^ 64) :
    accumulate s ds = (s * 10 ^ ds.length + Integer.ofDigits ds, []) := by
  induction ds generalizing s with
  | nil => simp [accumulate, Integer.ofDigits]
  | cons d ds ih =>
    rw [shift_ofDigits_cons] at h ⊢
    have hnext : 10 * s + Integer.digitValue d < Nat.pow 2 64 := (le_shift _ _ _).trans_lt h
    rw [accumulate]
    rw [if_pos hnext]
    exact ih _ h

theorem accumulate_digits (h : n.digits < 2 ^ 64) :
    accumulate 0 n.whole = (Integer.ofDigits n.whole, []) ∧
      accumulate (Integer.ofDigits n.whole) n.fraction = (n.digits, []) := by
  rw [digits, Integer.ofDigits_append] at h
  constructor
  · have hlt := (le_shift _ _ _).trans_lt h
    have hw := accumulate_of_lt 0 n.whole (by omega)
    rwa [Nat.zero_mul, Nat.zero_add] at hw
  · rw [accumulate_of_lt _ _ h, digits, Integer.ofDigits_append]

theorem exponentOverflow?_eq_none (e : Nat)
    (h : e * 10 ^ ds.length + Integer.ofDigits ds < 2 ^ 31) : exponentOverflow? e ds = none := by
  induction ds generalizing e with
  | nil => rfl
  | cons d ds ih =>
    rw [shift_ofDigits_cons] at h
    have hnext : 10 * e + Integer.digitValue d < Nat.pow 2 31 := (le_shift _ _ _).trans_lt h
    rw [exponentOverflow?]
    rw [if_pos hnext]
    exact ih _ h

def IsWhole (n : Numeral) : Prop := n.fraction = [] ∧ n.exponent = none

theorem rational_of_isWhole (h : n.IsWhole) :
    n.rational = (if n.negative then -1 else 1) * Integer.ofDigits n.whole := by
  obtain ⟨hf, he⟩ := h
  simp [rational, digits, place, power, hf, he]

/-- A numeral is read as the integer that it denotes, or else as a rounded number. -/
theorem value_eq_ok (h : n.value = .ok v) :
    (∃ z : Int, n.IsWhole ∧ n.rational = z ∧ v = .integer z) ∨
      ∃ s e x, Scaled s e x ∧ v = signed n.negative x := by
  obtain ⟨taken, hw, hv⟩ := accumulate_spec 0 n.whole
  -- Whatever is scaled, the result is a rounded number.
  have hfinish : ∀ {s e x}, scaled? s e = some x →
      (.ok (signed n.negative x) : Except (List Char) Number) = .ok v →
      ∃ s e x, Scaled s e x ∧ v = signed n.negative x := by
    intro s e x hx h
    exact ⟨s, e, x, scaled_of_eq_some hx, (Except.ok.inj h).symm⟩
  rw [value] at h
  dsimp only at h
  split at h
  · split at h
    · split at h
      · cases h
      · cases h
        exact .inr ⟨0, 0, _, .zero (.inl rfl), rfl⟩
    · split at h
      · next hx => exact .inr (hfinish hx h)
      · cases h
  · next he =>
    split at h
    · next hempty =>
      rw [Bool.and_eq_true, List.isEmpty_iff, List.isEmpty_iff] at hempty
      have hwhole : n.IsWhole := ⟨hempty.1, he⟩
      have hall : (accumulate 0 n.whole).1 = Integer.ofDigits n.whole := by
        rw [hempty.2, List.append_nil] at hw
        rw [hv, ← hw, Nat.zero_mul, Nat.zero_add]
      rw [hall] at h
      split at h
      · next hneg =>
        cases h
        refine .inl ⟨_, hwhole, ?_, rfl⟩
        rw [rational_of_isWhole hwhole]
        simp [Bool.not_eq_true' _ ▸ hneg]
      · next hneg =>
        split at h
        · cases h
          refine .inl ⟨_, hwhole, ?_, rfl⟩
          rw [rational_of_isWhole hwhole]
          simp [by simpa using hneg]
        · split at h
          · next hx => exact .inr (hfinish hx h)
          · cases h
    · split at h
      · next hx => exact .inr (hfinish hx h)
      · cases h

theorem value_of_fits (hd : n.digits < 2 ^ 64) (hp : |n.power| < 2 ^ 31) (hn : ¬ n.IsWhole)
    (h : n.value = .ok v) : ∃ x, Scaled n.digits n.place x ∧ v = signed n.negative x := by
  obtain ⟨hwhole, hall⟩ := accumulate_digits hd
  have hvalue : n.value =
      (scaled? n.digits n.place).elim (.error []) fun x => .ok (signed n.negative x) := by
    rw [value, hwhole]
    dsimp only
    rw [hall]
    cases he : n.exponent with
    | none =>
      have hf : n.fraction.isEmpty = false := by
        rw [Bool.eq_false_iff, Ne, List.isEmpty_iff]
        exact fun hf => hn ⟨hf, he⟩
      have hplace : n.place = (0 : Int) - n.fraction.length := by simp [place, power, he]
      rw [hplace]
      simp only [hf, List.length_nil, Nat.cast_zero, Nat.sub_zero, Bool.false_and]
      cases scaled? n.digits (0 - n.fraction.length) <;> rfl
    | some e =>
      obtain ⟨down, ds⟩ := e
      have hlt : Integer.ofDigits ds < 2 ^ 31 := by
        simp only [power, he] at hp
        split at hp
        · rw [abs_neg] at hp
          exact_mod_cast hp
        · exact_mod_cast hp
      have hplace : n.place =
          if down then (0 : Int) - n.fraction.length - Integer.ofDigits ds
          else (0 : Int) - n.fraction.length + Integer.ofDigits ds := by
        simp only [place, power, he]
        split <;> ring
      dsimp only
      rw [exponentOverflow?_eq_none 0 (by omega), hplace]
      simp only [List.length_nil, Nat.cast_zero, Nat.sub_zero]
      cases scaled? n.digits _ <;> rfl
  rw [hvalue] at h
  cases hs : scaled? n.digits n.place with
  | none =>
    rw [hs] at h
    cases h
  | some x =>
    rw [hs] at h
    cases h
    exact ⟨x, scaled_of_eq_some hs, rfl⟩

theorem written_signed (hx : x.negative = false) (negative : Bool) :
    (signed negative x).written = (if negative then -1 else 1) * x.written := by
  cases negative with
  | false =>
    show x.written = 1 * x.written
    rw [one_mul]
  | true =>
    have hs : x.neg.shortest = x.shortest := rfl
    have hz : x.neg.isZero = x.isZero := rfl
    show x.neg.written = -1 * x.written
    rw [Binary64.written, Binary64.written, hs, hz, neg, hx]
    simp

theorem canonical_value (h : n.value = .ok v) : v.Canonical := by
  rcases value_eq_ok h with ⟨z, -, -, rfl⟩ | ⟨s, e, x, hx, rfl⟩
  · trivial
  · obtain ⟨-, hc⟩ := hx.canonical
    rw [signed]
    cases n.negative
    · exact hc
    · exact hc.neg

theorem digits_of_isWhole (hn : n.IsWhole) : n.digits = Integer.ofDigits n.whole := by
  rw [digits, hn.1, List.append_nil]

/-- Integers that 64 bits can hold are kept. Zero with a minus sign is none. -/
theorem value_of_isWhole (hn : n.IsWhole) (hd : n.digits < 2 ^ 64)
    (hneg : n.negative = true → n.digits ≤ 2 ^ 63) :
    n.value = .ok (if n.negative = true ∧ n.digits = 0 then signed true (.zero false)
      else .integer ((if n.negative then -1 else 1) * n.digits)) := by
  have hdigits := digits_of_isWhole hn
  obtain ⟨hwhole, hall⟩ := accumulate_digits hd
  rw [value, hwhole]
  dsimp only
  rw [hall, hn.1, hn.2, ← hdigits]
  cases hsign : n.negative with
  | false => simp
  | true =>
    by_cases h0 : n.digits = 0
    · simp [h0, scaled?]
    · have hfit : 0 < n.digits ∧ n.digits ≤ Nat.pow 2 63 := ⟨Nat.pos_of_ne_zero h0, hneg hsign⟩
      simp [h0, hfit]

theorem written_value_of_isWhole (hn : n.IsWhole) (hlow : -2 ^ 63 ≤ n.rational)
    (hhigh : n.rational < 2 ^ 64) (h : n.value = .ok v) : v.written = n.rational := by
  have hrational := rational_of_isWhole hn
  rw [← digits_of_isWhole hn] at hrational
  rw [hrational] at hlow hhigh ⊢
  have hfit : n.digits < 2 ^ 64 ∧ (n.negative = true → n.digits ≤ 2 ^ 63) := by
    cases hsign : n.negative with
    | false =>
      simp only [hsign, Bool.false_eq_true, if_false, one_mul] at hhigh
      exact ⟨by exact_mod_cast hhigh, fun h => (nomatch h)⟩
    | true =>
      simp only [hsign, if_true, neg_one_mul, neg_le_neg_iff] at hlow
      have hle : n.digits ≤ 2 ^ 63 := by exact_mod_cast hlow
      exact ⟨by omega, fun _ => hle⟩
  rw [value_of_isWhole hn hfit.1 hfit.2] at h
  obtain rfl := Except.ok.inj h
  split
  · next hzero =>
    rw [written_signed rfl, hzero.2]
    simp [Binary64.written, isZero, Binary64.zero]
  · simp only [Number.written]
    push_cast
    rfl

/-- Digits below a limit, not far from the point. -/
structure Compact (n : Numeral) (limit : Nat) : Prop where
  digits : n.digits < limit
  power : |n.power| < 2 ^ 31
  place : -22 ≤ n.place ∧ n.place ≤ 22

theorem written_value_of_compact (hn : n.Compact (10 ^ 15)) (h : n.value = .ok v) :
    v.written = n.rational := by
  have hdigits := hn.digits
  by_cases hw : n.IsWhole
  · have hsmall : |n.rational| < 10 ^ 15 := by
      have hlt : (n.digits : ℚ) < 10 ^ 15 := by exact_mod_cast hdigits
      rw [rational_of_isWhole hw, ← digits_of_isWhole hw, abs_mul, Nat.abs_cast]
      split <;> simpa using hlt
    obtain ⟨hlow, hhigh⟩ := abs_lt.1 hsmall
    exact written_value_of_isWhole hw (by linarith) (by linarith) h
  · obtain ⟨x, hx, rfl⟩ := value_of_fits (by omega) hn.power hw h
    rw [written_signed hx.canonical.1, hx.written_eq hdigits hn.place]
    rfl

theorem nearest_value_of_compact (hn : n.Compact (2 ^ 53)) (h : n.value = .ok (.binary x)) :
    x.Nearest (decimal n.digits n.place) := by
  have hdigits := hn.digits
  have hsigned : ∀ {y : Binary64}, y.Nearest (decimal n.digits n.place) →
      signed n.negative y = .binary x → x.Nearest (decimal n.digits n.place) := by
    intro y hy he
    rw [signed] at he
    obtain rfl := Number.binary.inj he
    split <;> exact hy
  by_cases hw : n.IsWhole
  · rw [value_of_isWhole hw (by omega) fun _ => by omega] at h
    split at h
    · next hzero =>
      have hnear : (zero false).Nearest (decimal n.digits n.place) := by
        rw [hzero.2]
        exact nearest_zero n.place
      refine hsigned hnear ?_
      rw [hzero.1]
      exact Except.ok.inj h
    · cases h
  · obtain ⟨y, hy, he⟩ := value_of_fits (by omega) hn.power hw h
    exact hsigned (hy.nearest hdigits hn.place) he.symm

end Numeral

end Courier
