import Courier.Proofs.Json.Printed
import Courier.Proofs.Json.Unambiguous

/-! Printed documents, read again. The tree that a document is printed as stands for it if each
number is read back from its numeral, as integers of 64 bits are. -/

namespace Courier

/-- An integer that 64 bits can hold, with or without a sign. -/
def Number.Integral (n : Number) : Prop := ∃ z : Int, n = .integer z ∧ -2 ^ 63 ≤ z ∧ z < 2 ^ 64

theorem Number.Integral.value_numeral {n : Number} (h : n.Integral) : n.numeral.value = .ok n := by
  obtain ⟨z, rfl, hlow, hhigh⟩ := h
  have hw : (numeral (.integer z)).IsWhole := ⟨rfl, rfl⟩
  have hd : (numeral (.integer z)).digits = z.natAbs := by
    rw [Numeral.digits_of_isWhole hw, numeral, Integer.ofDigits_toDigits]
  have hneg : (numeral (.integer z)).negative = decide (z < 0) := rfl
  rw [Numeral.value_of_isWhole hw (by omega) (by simp only [hneg, decide_eq_true_eq]; omega), hd,
    hneg]
  by_cases hz : z < 0
  · simp [hz, hz.ne, abs_of_neg hz]
  · simp [hz, abs_of_nonneg (not_lt.1 hz)]

namespace Json

open Reader

variable {v u : Json} {w : Source} {s : List Char} {level : Option Nat}

mutual

def nesting : Json → Nat
  | null | bool _ | number _ | string _ => 0
  | array items => itemsNesting items + 1
  | object fields => fieldsNesting fields + 1

def itemsNesting : List Json → Nat
  | [] => 0
  | v :: vs => max (nesting v) (itemsNesting vs)

def fieldsNesting : List (String × Json) → Nat
  | [] => 0
  | (_, v) :: fs => max (nesting v) (fieldsNesting fs)

end

mutual

theorem nesting_source : ∀ v : Json, v.source.nesting = v.nesting
  | null | bool _ | number _ | string _ => rfl
  | array items => by rw [source, Source.nesting, nesting, itemsNesting_itemSources]
  | object fields => by rw [source, Source.nesting, nesting, membersNesting_fieldSources]

theorem itemsNesting_itemSources : ∀ vs : List Json,
    Source.itemsNesting (itemSources vs) = itemsNesting vs
  | [] => rfl
  | v :: vs => by
    rw [itemSources, Source.itemsNesting, itemsNesting, nesting_source v,
      itemsNesting_itemSources vs]

theorem membersNesting_fieldSources : ∀ fs : List (String × Json),
    Source.membersNesting (fieldSources fs) = fieldsNesting fs
  | [] => rfl
  | (_, v) :: fs => by
    rw [fieldSources, Source.membersNesting, fieldsNesting, nesting_source v,
      membersNesting_fieldSources fs]

end

theorem fieldsNesting_insert (k : String) (v : Json) (fields : List (String × Json)) :
    fieldsNesting (Fields.insert k v fields) ≤ max v.nesting (fieldsNesting fields) := by
  induction fields with
  | nil => simp [Fields.insert, fieldsNesting]
  | cons f fs ih =>
    rw [Fields.insert]
    split <;> simp only [fieldsNesting] <;> omega

mutual

theorem nesting_of_evaluate : ∀ {w : Source} {v : Json}, w.evaluate = some v →
    v.nesting ≤ w.nesting
  | .null, _, h | .bool _, _, h | .string _, _, h => by
    cases h
    exact le_rfl
  | .number n, _, h => by
    obtain ⟨x, -, rfl⟩ := Option.map_eq_some_iff.1 h
    exact le_rfl
  | .array ws, _, h => by
    obtain ⟨vs, hvs, rfl⟩ := Option.map_eq_some_iff.1 h
    exact Nat.succ_le_succ (itemsNesting_of_evaluateItems hvs)
  | .object ms, _, h => by
    obtain ⟨fs, hfs, rfl⟩ := Option.map_eq_some_iff.1 h
    have hle := fieldsNesting_of_evaluateMembers hfs
    rw [fieldsNesting, Nat.zero_max] at hle
    exact Nat.succ_le_succ hle

theorem itemsNesting_of_evaluateItems : ∀ {ws : List Source} {vs : List Json},
    Source.evaluateItems ws = some vs → itemsNesting vs ≤ Source.itemsNesting ws
  | [], _, h => by
    cases h
    exact le_rfl
  | w :: ws, _, h => by
    obtain ⟨v, hv, h⟩ := Option.bind_eq_some_iff.1 h
    obtain ⟨vs, hvs, rfl⟩ := Option.map_eq_some_iff.1 h
    exact max_le_max (nesting_of_evaluate hv) (itemsNesting_of_evaluateItems hvs)

theorem fieldsNesting_of_evaluateMembers : ∀ {ms : List (String × Source)}
    {before fs : List (String × Json)}, Source.evaluateMembers before ms = some fs →
      fieldsNesting fs ≤ max (fieldsNesting before) (Source.membersNesting ms)
  | [], _, _, h => by
    cases h
    exact le_max_left _ _
  | (k, w) :: ms, before, _, h => by
    obtain ⟨v, hv, h⟩ := Option.bind_eq_some_iff.1 h
    have hrest := fieldsNesting_of_evaluateMembers h
    have hinsert := fieldsNesting_insert k v before
    have hle := nesting_of_evaluate hv
    rw [Source.membersNesting]
    omega

end

def Integral : Json → Prop
  | number n => n.Integral
  | _ => True

theorem throughout_integer {z : Int} (hlow : -2 ^ 63 ≤ z) (hhigh : z < 2 ^ 64) :
    Throughout Integral (number (.integer z)) :=
  throughout_number ⟨z, rfl, hlow, hhigh⟩

theorem evaluateItems_itemSources {items : List Json}
    (h : ∀ v ∈ items, v.source.evaluate = some v) :
    Source.evaluateItems (itemSources items) = some items := by
  induction items with
  | nil => rfl
  | cons v vs ih =>
    rw [itemSources, Source.evaluateItems, h v List.mem_cons_self,
      ih fun u hu => h u (List.mem_cons_of_mem v hu)]
    rfl

theorem evaluateMembers_fieldSources {before fields : List (String × Json)}
    (hn : ((before ++ fields).map Prod.fst).Nodup)
    (h : ∀ f ∈ fields, f.2.source.evaluate = some f.2) :
    Source.evaluateMembers before (fieldSources fields) = some (before ++ fields) := by
  induction fields generalizing before with
  | nil => rw [List.append_nil, fieldSources, Source.evaluateMembers]
  | cons f fs ih =>
    have hnew : f.1 ∉ before.map Prod.fst := by
      rw [List.map_append, List.nodup_append] at hn
      exact fun hf => hn.2.2 f.1 hf f.1 (by simp) rfl
    rw [List.append_cons] at hn ⊢
    rw [fieldSources, Source.evaluateMembers, h f List.mem_cons_self, Option.bind_some,
      Fields.insert_of_notMem hnew]
    exact ih hn fun g hg => h g (List.mem_cons_of_mem f hg)

theorem evaluate_source (h : v.Throughout Regular) (hi : v.Throughout Integral) :
    v.source.evaluate = some v := by
  induction v using Json.induction with
  | null | bool | string => rfl
  | number n =>
    have hn : n.Integral := hi.self
    rw [source, Source.evaluate, hn.value_numeral]
    rfl
  | array items ih =>
    have hitems := evaluateItems_itemSources fun d hd => ih d hd (h.of_mem hd) (hi.of_mem hd)
    rw [source, Source.evaluate, hitems]
    rfl
  | object fields ih =>
    have hfields : ∀ f ∈ fields, f.2.source.evaluate = some f.2 := fun f hf =>
      ih f hf (h.of_mem_fields h.self hf) (hi.of_mem_fields h.self hf)
    have hmembers : Source.evaluateMembers [] (fieldSources fields) = some fields :=
      evaluateMembers_fieldSources h.self hfields
    rw [source, Source.evaluate, hmembers]
    rfl

/-- The text is JSON, nested as deep as it may be, and stands for the document. -/
def Denotes (s : List Char) (v : Json) : Prop := ∃ w : Source, w.IsDocument s ∧ w.evaluate = some v

theorem Denotes.unique (h : Denotes s v) (hu : Denotes s u) : v = u := by
  obtain ⟨w, hw, hv⟩ := h
  obtain ⟨w', hw', hu⟩ := hu
  rw [Source.isDocument_unique hw' hw, hv] at hu
  exact Option.some.inj hu

theorem denotes_text (h : v.Throughout Regular) (hi : v.Throughout Integral) :
    Denotes (text level v) u ↔ u = v := by
  have hv : Denotes (text level v) v := ⟨v.source, isDocument_text h level, evaluate_source h hi⟩
  constructor
  · exact fun hu => hu.unique hv
  · rintro rfl
    exact hv

theorem document_text (h : v.Throughout Regular) (hi : v.Throughout Integral) :
    document (text level v) = .ok u ↔ v.nesting ≤ depthLimit ∧ u = v := by
  rw [document_eq_ok_of_isDocument (isDocument_text h level), nesting_source, evaluate_source h hi,
    Option.some.injEq, eq_comm (a := v)]

end Json

end Courier
