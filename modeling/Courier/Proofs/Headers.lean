import Courier.Proofs.Http.HeaderMap

/-! Headers by name. Adding a value concerns the values of its name alone; a suppression clears
them, and whatever is added after it counts again. -/

namespace Courier

namespace Headers

variable {h : Headers} {name other : String}

def given (h : Headers) (name : String) : List String := (h.getAll name).reduceOption

/-- The name is known, but nothing is sent under it. -/
def Suppresses (h : Headers) (name : String) : Prop := h.getAll name ≠ [] ∧ h.given name = []

theorem getAll_eq_valuesOf (h : Headers) (name : String) :
    h.getAll name = valuesOf name h.entries := rfl

theorem contains_iff : h.contains name = true ↔ h.getAll name ≠ [] := by
  simp [contains, getAll]

theorem getAll_congr (hs : sameName name other = true) : h.getAll name = h.getAll other := by
  have hp : ∀ e : String × Option String, sameName e.1 name = sameName e.1 other := by
    intro e
    rw [Bool.eq_iff_iff, sameName_iff, sameName_iff, sameName_iff.1 hs]
  simp [getAll, hp]

theorem getAll_push (h : Headers) (name : String) (value : Option String) (other : String) :
    (h.push name value).getAll other =
      h.getAll other ++ if sameName name other then [value] else [] := by
  rw [push, getAll_eq_valuesOf, valuesOf_append, valuesOf_cons]
  simp [valuesOf, getAll]

theorem getAll_remove (h : Headers) (name other : String) :
    (h.remove name).getAll other = if sameName name other then [] else h.getAll other := by
  have hne : ∀ e : String × Option String, sameName e.1 other = true →
      (sameName e.1 name = true ↔ sameName name other = true) := by
    intro e he
    rw [sameName_iff] at he ⊢
    rw [sameName_iff, he, eq_comm]
  simp only [remove, getAll, List.filter_filter]
  by_cases hs : sameName name other = true
  · simp only [hs, if_true, List.map_eq_nil_iff, List.filter_eq_nil_iff]
    intro e _ he
    simp only [Bool.and_eq_true, Bool.not_eq_true', Bool.eq_false_iff] at he
    exact he.2 ((hne e he.1).2 hs)
  · rw [if_neg hs]
    congr 1
    refine List.filter_congr fun e _ => ?_
    by_cases he : sameName e.1 other = true
    · have hn : sameName e.1 name = false := Bool.eq_false_iff.2 fun hn => hs ((hne e he).1 hn)
      simp [hn]
    · simp [Bool.eq_false_iff.2 he]

theorem sameName_spelling (h : Headers) (name : String) :
    sameName (h.spelling name) name = true := by
  rw [spelling]
  cases hf : h.entries.find? fun e => sameName e.1 name with
  | none => exact sameName_iff.2 rfl
  | some e => simpa using List.find?_some hf

/-- What a new value makes of the values of its name. -/
def join (values : List (Option String)) (value : Option String) : List (Option String) :=
  if value.isNone || values.all Option.isNone then [value] else values ++ [value]

theorem getAll_add (h : Headers) (name : String) (value : Option String) (other : String) :
    (h.add name value).getAll other =
      if sameName name other then join (h.getAll other) value else h.getAll other := by
  have hs : sameName (h.spelling name) other = sameName name other := by
    rw [Bool.eq_iff_iff, sameName_iff, sameName_iff, sameName_iff.1 (sameName_spelling h name)]
  rw [add, getAll_push, hs]
  by_cases hn : sameName name other = true
  · rw [getAll_congr hn, join]
    by_cases hc : (value.isNone || (h.getAll other).all Option.isNone) = true <;>
      simp [hc, hn, getAll_remove]
  · split <;> simp [hn, getAll_remove]

theorem getAll_setDefault (h : Headers) (name value other : String) :
    (h.setDefault name value).getAll other =
      if sameName name other = true ∧ h.getAll other = [] then [some value]
      else h.getAll other := by
  rw [setDefault]
  by_cases hn : sameName name other = true
  · by_cases hc : h.getAll other = []
    · have hno : ¬ h.contains name = true := by simpa [contains_iff, getAll_congr hn] using hc
      rw [if_neg hno, getAll_push]
      simp [hn, hc]
    · have hyes : h.contains name = true := by simpa [contains_iff, getAll_congr hn] using hc
      simp [hyes, hc]
  · split <;> simp [getAll_push, hn]

theorem getAll_setDefault_of_ne_nil (hne : h.getAll other ≠ []) (name value : String) :
    (h.setDefault name value).getAll other = h.getAll other := by
  simp [getAll_setDefault, hne]

theorem valuesOf_sent (h : Headers) (name : String) : valuesOf name h.sent = h.given name := by
  obtain ⟨entries⟩ := h
  simp only [sent, given, getAll_eq_valuesOf]
  induction entries with
  | nil => rfl
  | cons e rest ih =>
    obtain ⟨key, value⟩ := e
    cases value with
    | none => by_cases hs : sameName key name = true <;> simp_all [valuesOf_cons, List.reduceOption]
    | some v =>
      by_cases hs : sameName key name = true <;> simp_all [valuesOf_cons, List.reduceOption]

theorem getAll_foldl_add (entries : List (String × Option String)) (h : Headers) (name : String) :
    (entries.foldl (fun h e => h.add e.1 e.2) h).getAll name =
      (valuesOf name entries).foldl join (h.getAll name) := by
  induction entries generalizing h with
  | nil => rfl
  | cons e rest ih =>
    rw [List.foldl_cons, ih, getAll_add, valuesOf_cons]
    by_cases hs : sameName e.1 name = true <;> simp [hs]

theorem foldl_join_concat_none (values start : List (Option String)) :
    (values ++ [none]).foldl join start = [none] := by
  simp [join]

theorem reduceOption_join_some (values : List (Option String)) (v : String) :
    (join values (some v)).reduceOption = values.reduceOption ++ [v] := by
  by_cases hn : values.all Option.isNone = true
  · have hnil : values.reduceOption = [] := by
      simpa [List.reduceOption, List.filterMap_eq_nil_iff, Option.isNone_iff_eq_none] using hn
    have hj : join values (some v) = [some v] := by simp [join, hn]
    rw [hj, hnil]
    rfl
  · have hj : join values (some v) = values ++ [some v] := by simp [join, hn]
    rw [hj, List.reduceOption_append]
    rfl

/-- What is sent in the end: the values behind the last suppression. -/
theorem reduceOption_foldl_join (values : List (Option String)) :
    (values.foldl join []).reduceOption = (values.rtakeWhile Option.isSome).reduceOption := by
  induction values using List.reverseRecOn with
  | nil => rfl
  | append_singleton values value ih =>
    cases value with
    | none => simp [join, List.reduceOption]
    | some v =>
      rw [List.foldl_concat, reduceOption_join_some, ih, List.rtakeWhile_concat_pos _ _ _ rfl]
      simp [List.reduceOption]

end Headers

end Courier
