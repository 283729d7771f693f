import Courier.Proofs.Json.Grammar

/-! Numerals in JSON text. The reader takes the longest one, so what follows a numeral must not go
on with it; and it takes nothing but numerals. -/

namespace Courier

namespace Json.Reader

open Numeral

variable {n : Numeral} {x : Number} {negative : Bool} {s t rest ds : List Char}
  {e : Option (Bool × List Char)}

/-- A rest that no numeral goes on with. -/
def Ends (rest : List Char) : Prop :=
  ∀ c ∈ rest.head?, c.isDigit = false ∧ c ≠ '.' ∧ c ≠ 'e' ∧ c ≠ 'E'

theorem takeWhile_digits (h : AllDigits ds) (hr : ∀ c ∈ rest.head?, c.isDigit = false) :
    (ds ++ rest).takeWhile Char.isDigit = ds ∧ (ds ++ rest).dropWhile Char.isDigit = rest := by
  have hrest : rest.takeWhile Char.isDigit = [] ∧ rest.dropWhile Char.isDigit = rest := by
    cases rest with
    | nil => exact ⟨rfl, rfl⟩
    | cons c rest =>
      have hc := hr c rfl
      simp [hc]
  rw [List.takeWhile_append_of_pos h, List.dropWhile_append_of_pos h, hrest.1, hrest.2]
  exact ⟨List.append_nil ds, rfl⟩

theorem allDigits_takeWhile (s : List Char) : AllDigits (s.takeWhile Char.isDigit) :=
  fun _ hc => List.mem_takeWhile_imp hc

theorem whole_append (h : Whole ds) (hr : ∀ c ∈ rest.head?, c.isDigit = false) :
    whole (ds ++ rest) = .ok (ds, rest) := by
  cases h with
  | zero =>
    cases rest with
    | nil => rfl
    | cons c rest =>
      have hc := hr c rfl
      simp [whole, hc]
  | @digits d ds hd hz h =>
    have hall : AllDigits (d :: ds) := List.forall_mem_cons.2 ⟨hd, h⟩
    obtain ⟨htake, hdrop⟩ := takeWhile_digits hall hr
    rw [List.cons_append] at htake hdrop ⊢
    rw [whole.eq_def]
    dsimp only
    rw [if_neg hz, if_pos hd, htake, hdrop]

theorem fraction_append (h : AllDigits ds) (hr : ∀ c ∈ rest.head?, c.isDigit = false ∧ c ≠ '.') :
    fraction (fractionText ds ++ rest) = .ok (ds, rest) := by
  rw [fractionText]
  split
  · next hnil =>
    subst hnil
    rw [List.nil_append, fraction]
    rintro r rfl
    exact (hr '.' rfl).2 rfl
  · next hne =>
    obtain ⟨htake, hdrop⟩ := takeWhile_digits h fun c hc => (hr c hc).1
    simp [fraction, htake, hdrop, hne]

theorem exponentDigits_append (down : Bool) (hne : ds ≠ []) (h : AllDigits ds)
    (hr : ∀ c ∈ rest.head?, c.isDigit = false) :
    exponentDigits down (ds ++ rest) = .ok (some (down, ds), rest) := by
  obtain ⟨htake, hdrop⟩ := takeWhile_digits h hr
  cases ds with
  | nil => exact absurd rfl hne
  | cons d ds =>
    rw [List.cons_append] at htake hdrop ⊢
    rw [exponentDigits, if_pos (h d List.mem_cons_self), htake, hdrop]

theorem exponent_append (h : ExponentText e t)
    (hr : ∀ c ∈ rest.head?, c.isDigit = false ∧ c ≠ 'e' ∧ c ≠ 'E') :
    exponent (t ++ rest) = .ok (e, rest) := by
  have hd : ∀ c ∈ rest.head?, c.isDigit = false := fun c hc => (hr c hc).1
  cases h with
  | none =>
    cases rest with
    | nil => rfl
    | cons c rest =>
      obtain ⟨-, he, hE⟩ := hr c rfl
      simp [exponent, he, hE]
  | @bare e ds he hne h =>
    -- A sign is no digit, so there is none.
    obtain ⟨d, ds, rfl⟩ := List.exists_cons_of_ne_nil hne
    have hdigit := h d List.mem_cons_self
    have hminus : d ≠ '-' := by
      rintro rfl
      cases hdigit
    have hplus : d ≠ '+' := by
      rintro rfl
      cases hdigit
    have hs : exponent (e :: (d :: ds ++ rest)) = exponentDigits false (d :: ds ++ rest) := by
      rw [exponent.eq_def]
      dsimp only
      rw [if_pos he]
      split
      · next hs => exact absurd (List.cons.inj hs).1 hminus
      · next hs => exact absurd (List.cons.inj hs).1 hplus
      · rfl
    exact hs.trans (exponentDigits_append false hne h hd)
  | @plus e ds he hne h =>
    have hs : exponent (e :: '+' :: (ds ++ rest)) = exponentDigits false (ds ++ rest) := by
      rw [exponent.eq_def]
      dsimp only
      rw [if_pos he]
      rfl
    exact hs.trans (exponentDigits_append false hne h hd)
  | @minus e ds he hne h =>
    have hs : exponent (e :: '-' :: (ds ++ rest)) = exponentDigits true (ds ++ rest) := by
      rw [exponent.eq_def]
      dsimp only
      rw [if_pos he]
      rfl
    exact hs.trans (exponentDigits_append true hne h hd)

theorem head?_exponentText (h : ExponentText e t) (hr : Ends rest) :
    ∀ c ∈ (t ++ rest).head?, c.isDigit = false ∧ c ≠ '.' := by
  have hmark : ∀ m : Char, m = 'e' ∨ m = 'E' → m.isDigit = false ∧ m ≠ '.' := by
    rintro m (rfl | rfl) <;> decide
  intro c hc
  cases h with
  | none => exact ⟨(hr c hc).1, (hr c hc).2.1⟩
  | bare he | plus he | minus he =>
    cases hc
    exact hmark _ he

theorem numeral_append (h : n.Spelled t) (hr : Ends rest) :
    ∃ body, t = minusText n.negative ++ body ∧ (∃ d ds, body = d :: ds ∧ d.isDigit = true) ∧
      numeral n.negative (body ++ rest) =
        match n.value with
        | .ok x => .ok (x, rest)
        | .error unread => .error (.before .numberRange (unread ++ rest)) := by
  obtain ⟨hw, hf, e, he, rfl⟩ := h
  have hexp := head?_exponentText he hr
  have hwhole : ∀ c ∈ (fractionText n.fraction ++ (e ++ rest)).head?, c.isDigit = false := by
    intro c hc
    rw [fractionText] at hc
    split at hc
    · exact (hexp c hc).1
    · cases hc
      decide
  refine ⟨_, rfl, ?_, ?_⟩
  · generalize n.whole = w at hw
    cases hw with
    | zero => exact ⟨'0', _, rfl, by decide⟩
    | digits hd hz h => exact ⟨_, _, rfl, hd⟩
  · have hexponent := exponent_append he fun c hc => ⟨(hr c hc).1, (hr c hc).2.2⟩
    rw [List.append_assoc, List.append_assoc, numeral, whole_append hw hwhole]
    dsimp only
    rw [fraction_append hf hexp]
    cases hv : n.value <;> simp only [hexponent, hv]

theorem whole_eq_ok (h : whole s = .ok (ds, rest)) : Whole ds ∧ s = ds ++ rest := by
  rw [whole.eq_def] at h
  split at h
  · cases h
  · next c s =>
    split at h
    · next hz =>
      subst hz
      split at h
      · split at h
        · cases h
        · cases h
          exact ⟨.zero, rfl⟩
      · cases h
        exact ⟨.zero, rfl⟩
    · next hz =>
      split at h
      · next hd =>
        cases h
        refine ⟨?_, List.takeWhile_append_dropWhile.symm⟩
        rw [List.takeWhile_cons_of_pos hd]
        exact .digits hd hz (allDigits_takeWhile s)
      · cases h

theorem fraction_eq_ok (h : fraction s = .ok (ds, rest)) :
    AllDigits ds ∧ s = fractionText ds ++ rest := by
  rw [fraction.eq_def] at h
  split at h
  · next s =>
    dsimp only at h
    split at h
    · cases h
    · next hne =>
      cases h
      refine ⟨allDigits_takeWhile s, ?_⟩
      rw [fractionText, if_neg (by simpa using hne), List.cons_append,
        List.takeWhile_append_dropWhile]
  · cases h
    exact ⟨fun c hc => (nomatch hc), rfl⟩

theorem exponentDigits_eq_ok {down : Bool} (h : exponentDigits down s = .ok (e, rest)) :
    ∃ ds, ds ≠ [] ∧ AllDigits ds ∧ e = some (down, ds) ∧ s = ds ++ rest := by
  cases s with
  | nil => cases h
  | cons c s =>
    rw [exponentDigits] at h
    split at h
    · next hd =>
      cases h
      refine ⟨_, ?_, allDigits_takeWhile _, rfl, List.takeWhile_append_dropWhile.symm⟩
      rw [List.takeWhile_cons_of_pos hd]
      exact List.cons_ne_nil _ _
    · cases h

theorem exponent_eq_ok (h : exponent s = .ok (e, rest)) :
    ∃ t, ExponentText e t ∧ s = t ++ rest := by
  rw [exponent.eq_def] at h
  split at h
  · cases h
    exact ⟨[], .none, rfl⟩
  · next m s =>
    split at h
    · next he =>
      split at h
      · next r =>
        obtain ⟨ds, hne, hds, rfl, rfl⟩ := exponentDigits_eq_ok h
        exact ⟨m :: '-' :: ds, .minus he hne hds, rfl⟩
      · next r =>
        obtain ⟨ds, hne, hds, rfl, rfl⟩ := exponentDigits_eq_ok h
        exact ⟨m :: '+' :: ds, .plus he hne hds, rfl⟩
      · obtain ⟨ds, hne, hds, rfl, rfl⟩ := exponentDigits_eq_ok h
        exact ⟨m :: ds, .bare he hne hds, rfl⟩
    · cases h
      exact ⟨[], .none, rfl⟩

theorem numeral_eq_ok (h : numeral negative s = .ok (x, rest)) :
    ∃ (n : Numeral) (t : List Char),
      n.Spelled t ∧ minusText negative ++ s = t ++ rest ∧ n.value = .ok x := by
  rw [numeral] at h
  split at h
  · cases h
  · next w s₁ hw =>
    split at h
    · cases h
    · next d s₂ hd =>
      split at h
      · cases h
      · next e s₃ he =>
        split at h
        · next x hv =>
          cases h
          obtain ⟨hwhole, rfl⟩ := whole_eq_ok hw
          obtain ⟨hdigits, rfl⟩ := fraction_eq_ok hd
          obtain ⟨t, ht, rfl⟩ := exponent_eq_ok he
          refine ⟨⟨negative, w, d, e⟩, _, ⟨hwhole, hdigits, t, ht, rfl⟩, ?_, hv⟩
          simp only [List.append_assoc]
        · cases h

end Json.Reader

end Courier
