import Courier.Proofs.Number.Value

/-! The numerals that numbers are written as. They denote what was to be written. -/

namespace Courier

open Numeral

theorem Numeral.AllDigits.append {as bs : List Char} (ha : AllDigits as) (hb : AllDigits bs) :
    AllDigits (as ++ bs) := by
  intro c hc
  rcases List.mem_append.1 hc with hc | hc
  · exact ha c hc
  · exact hb c hc

theorem Numeral.allDigits_replicate_zero (n : Nat) : AllDigits (List.replicate n '0') := by
  intro c hc
  rw [List.eq_of_mem_replicate hc]
  decide

theorem Numeral.allDigits_toDigits (n : Nat) : AllDigits (Nat.toDigits 10 n) :=
  fun _ hc => Integer.isDigit_of_mem_toDigits hc

namespace Binary64

variable {x : Binary64} {n : Nat} {ds : List Char} {place : Int}

/-- The parts that digits and their place are laid out in. -/
def layoutNumeral (negative : Bool) (digits : List Char) (place : Int) : Numeral :=
  let point : Int := digits.length + place
  if 0 ≤ place ∧ point ≤ 16 then
    ⟨negative, digits ++ List.replicate place.toNat '0', ['0'], none⟩
  else if 0 < point ∧ point ≤ 16 then
    ⟨negative, digits.take point.toNat, digits.drop point.toNat, none⟩
  else if -5 < point ∧ point ≤ 0 then
    ⟨negative, ['0'], List.replicate (-point).toNat '0' ++ digits, none⟩
  else
    let exponent := point - 1
    ⟨negative, digits.take 1, digits.drop 1,
      some (decide (exponent < 0), Nat.toDigits 10 exponent.natAbs)⟩

def Leading (ds : List Char) : Prop := AllDigits ds ∧ ∃ d rest, ds = d :: rest ∧ d ≠ '0'

theorem Leading.whole (h : Leading ds) : Whole ds := by
  obtain ⟨hall, d, rest, rfl, hz⟩ := h
  exact .digits (hall d List.mem_cons_self) hz fun c hc => hall c (List.mem_cons_of_mem d hc)

theorem Leading.append (h : Leading ds) {more : List Char} (hm : AllDigits more) :
    Leading (ds ++ more) := by
  obtain ⟨hall, d, rest, rfl, hz⟩ := h
  exact ⟨hall.append hm, d, rest ++ more, rfl, hz⟩

theorem Leading.take (h : Leading ds) {n : Nat} (hn : n ≠ 0) : Leading (ds.take n) := by
  obtain ⟨hall, d, rest, rfl, hz⟩ := h
  obtain ⟨m, rfl⟩ := Nat.exists_eq_succ_of_ne_zero hn
  exact ⟨fun c hc => hall c (List.mem_of_mem_take hc), d, rest.take m, rfl, hz⟩

theorem leading_toDigits (h : n ≠ 0) : Leading (Nat.toDigits 10 n) := by
  obtain ⟨d, rest, hd, hz⟩ := Integer.exists_toDigits_cons h
  exact ⟨allDigits_toDigits n, d, rest, hd, hz⟩

theorem whole_toDigits (n : Nat) : Whole (Nat.toDigits 10 n) := by
  by_cases h : n = 0
  · rw [h, Nat.toDigits_zero]
    exact .zero
  · exact (leading_toDigits h).whole

theorem exponentText_printed (e : Int) :
    ExponentText (some (decide (e < 0), Nat.toDigits 10 e.natAbs))
      ('e' :: (if e < 0 then '-' else '+') :: Nat.toDigits 10 e.natAbs) := by
  have hne : Nat.toDigits 10 e.natAbs ≠ [] := Nat.toDigits_ne_nil
  have hall := allDigits_toDigits e.natAbs
  by_cases he : e < 0
  · rw [if_pos he, decide_eq_true he]
    exact .minus (.inl rfl) hne hall
  · rw [if_neg he, decide_eq_false he]
    exact .plus (.inl rfl) hne hall

theorem Leading.spelled_layout (h : Leading ds) (negative : Bool) (place : Int) :
    (layoutNumeral negative ds place).Spelled (minusText negative ++ layout ds place) := by
  have hdrop : ∀ n, AllDigits (ds.drop n) := fun n c hc => h.1 c (List.mem_of_mem_drop hc)
  have hlen : ds.length ≠ 0 := by
    obtain ⟨-, d, rest, rfl, -⟩ := h
    exact Nat.succ_ne_zero _
  unfold layoutNumeral layout
  dsimp only
  split
  · exact ⟨(h.append (allDigits_replicate_zero _)).whole, allDigits_replicate_zero 1, [], .none,
      by simp [fractionText]⟩
  split
  · next hone htwo =>
    have hfrac : ds.drop ((ds.length : Int) + place).toNat ≠ [] := by
      rw [Ne, List.drop_eq_nil_iff]
      omega
    have hwhole := (h.take (n := ((ds.length : Int) + place).toNat) (by omega)).whole
    exact ⟨hwhole, hdrop _, [], .none, by simp [fractionText, hfrac]⟩
  split
  · have hfrac : List.replicate (-((ds.length : Int) + place)).toNat '0' ++ ds ≠ [] := by
      rw [Ne, List.append_eq_nil_iff, ← List.length_eq_zero_iff (l := ds)]
      exact fun hnil => hlen hnil.2
    refine ⟨.zero, (allDigits_replicate_zero _).append h.1, [], .none, ?_⟩
    dsimp only
    rw [fractionText, if_neg hfrac]
    simp
  · have hwhole := (h.take (n := 1) (by decide)).whole
    refine ⟨hwhole, hdrop 1, _, exponentText_printed _, ?_⟩
    obtain ⟨-, d, rest, rfl, -⟩ := h
    cases rest <;> simp [fractionText]

theorem layoutNumeral_rational (negative : Bool) (hds : ds ≠ []) (place : Int) :
    (layoutNumeral negative ds place).rational =
      (if negative then -1 else 1) * decimal (Integer.ofDigits ds) place := by
  have hlen : 0 < ds.length := List.length_pos_of_ne_nil hds
  have hzero : Integer.ofDigits ['0'] = 0 := Integer.ofDigits_replicate_zero 1
  suffices hparts : (layoutNumeral negative ds place).negative = negative ∧
      decimal (layoutNumeral negative ds place).digits (layoutNumeral negative ds place).place =
        decimal (Integer.ofDigits ds) place by
    rw [Numeral.rational, hparts.1, ← hparts.2]
    rfl
  unfold layoutNumeral
  dsimp only
  split
  · next hpoint =>
    refine ⟨rfl, ?_⟩
    simp only [digits, Numeral.place, power, Integer.ofDigits_append, hzero,
      Integer.ofDigits_replicate_zero, List.length_replicate, List.length_singleton, Nat.add_zero]
    rw [decimal_shift, decimal_shift]
    congr 1
    omega
  split
  · next hpoint =>
    refine ⟨rfl, ?_⟩
    simp only [digits, Numeral.place, power, List.take_append_drop, List.length_drop]
    congr 1
    omega
  split
  · next hpoint =>
    refine ⟨rfl, ?_⟩
    simp only [digits, Numeral.place, power, Integer.ofDigits_append, hzero,
      Integer.ofDigits_replicate_zero, List.length_append, List.length_replicate, Nat.zero_mul,
      Nat.zero_add]
    congr 1
    omega
  · refine ⟨rfl, ?_⟩
    simp only [digits, Numeral.place, power, List.take_append_drop, List.length_drop,
      Integer.ofDigits_toDigits, decide_eq_true_eq]
    congr 1
    split <;> omega

/-- The numeral that is written for a binary64 number. -/
def numeral (x : Binary64) : Numeral :=
  if x.isZero then ⟨x.negative, ['0'], ['0'], none⟩
  else layoutNumeral x.negative (Nat.toDigits 10 x.shortest.1) x.shortest.2

theorem shortest_ne_zero (hx : x.Canonical) (h0 : x.significand ≠ 0) : x.shortest.1 ≠ 0 := by
  intro hz
  have hpos := (shortest_spec hx h0).nearest.pos h0
  simp [hz, decimal] at hpos

theorem spelled_numeral (hx : x.Canonical) : x.numeral.Spelled x.spell := by
  have hminus : ∀ t, (if x.negative then '-' :: t else t) = minusText x.negative ++ t := by
    intro t
    cases x.negative <;> rfl
  rw [numeral, spell]
  dsimp only
  rw [hminus]
  split
  · exact ⟨.zero, allDigits_replicate_zero 1, [], .none, rfl⟩
  · next h0 =>
    have hne : x.shortest.1 ≠ 0 := shortest_ne_zero hx fun h => h0 (by rw [isZero, h]; rfl)
    exact (leading_toDigits hne).spelled_layout x.negative x.shortest.2

theorem rational_numeral (x : Binary64) : x.numeral.rational = x.written := by
  rw [numeral, written]
  split
  · have hzero : Integer.ofDigits ['0', '0'] = 0 := Integer.ofDigits_replicate_zero 2
    simp [Numeral.rational, digits, hzero]
  · rw [layoutNumeral_rational x.negative Nat.toDigits_ne_nil, Integer.ofDigits_toDigits]

end Binary64

namespace Number

def numeral : Number → Numeral
  | integer z => ⟨decide (z < 0), Nat.toDigits 10 z.natAbs, [], none⟩
  | binary x => x.numeral

theorem spelled_numeral {n : Number} (h : n.Canonical) : n.numeral.Spelled n.spell := by
  cases n with
  | integer z =>
    refine ⟨Binary64.whole_toDigits _, by simp [numeral, AllDigits], [], .none, ?_⟩
    rw [spell, Integer.spell]
    by_cases hz : z < 0
    · simp [numeral, hz, minusText, fractionText]
    · simp [numeral, hz, minusText, fractionText]
  | binary x => exact Binary64.spelled_numeral h

theorem rational_numeral (n : Number) : n.numeral.rational = n.written := by
  cases n with
  | integer z =>
    have hw : (numeral (.integer z)).IsWhole := ⟨rfl, rfl⟩
    rw [rational_of_isWhole hw, numeral, written, Integer.ofDigits_toDigits, Nat.cast_natAbs]
    by_cases hz : z < 0
    · simp [hz, abs_of_neg hz]
    · simp [hz, abs_of_nonneg (not_lt.1 hz)]
  | binary x => exact Binary64.rational_numeral x

end Number

end Courier
