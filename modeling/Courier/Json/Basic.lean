import Courier.Json.Number

/-! JSON documents. Objects keep the order in which their keys were first written. -/

namespace Courier

inductive Json where
  | null
  | bool (b : Bool)
  | number (n : Number)
  | string (s : String)
  | array (items : List Json)
  | object (fields : List (String × Json))

-- Ordered fields. A repeated key is read at its first place.
namespace Fields

variable {α : Type}

def find? (key : String) : List (String × α) → Option α
  | [] => none
  | (k, v) :: rest => if k = key then some v else find? key rest

/-- Replaces the value of a key where it stands, and appends a key that is new. -/
def insert (key : String) (value : α) : List (String × α) → List (String × α)
  | [] => [(key, value)]
  | (k, v) :: rest => if k = key then (k, value) :: rest else (k, v) :: insert key value rest

theorem find?_insert_self (key : String) (value : α) (fields : List (String × α)) :
    find? key (insert key value fields) = some value := by
  induction fields with
  | nil => simp [insert, find?]
  | cons f rest ih => by_cases h : f.1 = key <;> simp [insert, find?, h, ih]

theorem find?_insert_of_ne {key other : String} (h : other ≠ key) (value : α)
    (fields : List (String × α)) : find? other (insert key value fields) = find? other fields := by
  induction fields with
  | nil => simp [insert, find?, Ne.symm h]
  | cons f rest ih =>
    by_cases hk : f.1 = key
    · simp [insert, find?, hk, Ne.symm h]
    · by_cases ho : f.1 = other <;> simp_all [insert, find?]

theorem insert_insert (key : String) (v w : α) (fields : List (String × α)) :
    insert key w (insert key v fields) = insert key w fields := by
  induction fields with
  | nil => simp [insert]
  | cons f rest ih => by_cases h : f.1 = key <;> simp [insert, h, ih]

theorem insert_of_notMem {key : String} {fields : List (String × α)}
    (h : key ∉ fields.map Prod.fst) (value : α) :
    insert key value fields = fields ++ [(key, value)] := by
  induction fields with
  | nil => rfl
  | cons f rest ih =>
    rw [List.map_cons, List.mem_cons, not_or] at h
    simp [insert, Ne.symm h.1, ih h.2]

theorem find?_of_notMem {key : String} {fields : List (String × α)}
    (h : key ∉ fields.map Prod.fst) : find? key fields = none := by
  induction fields with
  | nil => rfl
  | cons f rest ih =>
    rw [List.map_cons, List.mem_cons, not_or] at h
    simp [find?, Ne.symm h.1, ih h.2]

theorem find?_of_mem {fields : List (String × α)} (h : (fields.map Prod.fst).Nodup)
    {f : String × α} (hf : f ∈ fields) : find? f.1 fields = some f.2 := by
  induction fields with
  | nil => cases hf
  | cons g rest ih =>
    rw [List.map_cons, List.nodup_cons] at h
    rcases List.mem_cons.1 hf with rfl | hf
    · simp [find?]
    · have hne : g.1 ≠ f.1 := fun he => h.1 (he ▸ List.mem_map_of_mem hf)
      simp [find?, hne, ih h.2 hf]

theorem mem_of_find? {key : String} {value : α} {fields : List (String × α)}
    (h : find? key fields = some value) : (key, value) ∈ fields := by
  induction fields with
  | nil => cases h
  | cons f rest ih =>
    by_cases hk : f.1 = key
    · simp only [find?, hk, if_true, Option.some.injEq] at h
      simp [← hk, ← h]
    · exact List.mem_cons_of_mem f (ih (by simpa [find?, hk] using h))

/-- A new key goes to the end and a known one keeps its place. -/
theorem map_fst_insert (key : String) (value : α) (fields : List (String × α)) :
    (insert key value fields).map Prod.fst =
      if key ∈ fields.map Prod.fst then fields.map Prod.fst else fields.map Prod.fst ++ [key] := by
  induction fields with
  | nil => simp [insert]
  | cons f rest ih =>
    by_cases h : f.1 = key
    · simp [insert, h]
    · by_cases hm : key ∈ rest.map Prod.fst <;> simp_all [insert, Ne.symm h]

end Fields

namespace Json

theorem induction {motive : Json → Prop} (null : motive null) (bool : ∀ b, motive (bool b))
    (number : ∀ n, motive (number n)) (string : ∀ s, motive (string s))
    (array : ∀ items, (∀ d ∈ items, motive d) → motive (array items))
    (object : ∀ fields, (∀ f ∈ fields, motive f.2) → motive (object fields)) :
    (doc : Json) → motive doc
  | .null => null
  | .bool b => bool b
  | .number n => number n
  | .string s => string s
  | .array items =>
    array items fun d _ => induction null bool number string array object d
  | .object fields =>
    object fields fun f hf =>
      have : sizeOf f.2 < sizeOf fields := by
        have hlt := List.sizeOf_lt_of_mem hf
        obtain ⟨k, d⟩ := f
        simp only [Prod.mk.sizeOf_spec] at hlt ⊢
        omega
      induction null bool number string array object f.2

inductive Kind where
  | null | boolean | number | string | array | object
  deriving DecidableEq

def Kind.name : Kind → String
  | .null => "null"
  | .boolean => "boolean"
  | .number => "number"
  | .string => "string"
  | .array => "array"
  | .object => "object"

def kind : Json → Kind
  | null => .null
  | bool _ => .boolean
  | number _ => .number
  | string _ => .string
  | array _ => .array
  | object _ => .object

mutual

def decEq : (a b : Json) → Decidable (a = b)
  | null, null => isTrue rfl
  | bool a, bool b => decidable_of_iff (a = b) (by simp)
  | number a, number b => decidable_of_iff (a = b) (by simp)
  | string a, string b => decidable_of_iff (a = b) (by simp)
  | array a, array b => @decidable_of_iff _ (a = b) (by simp) (decEqItems a b)
  | object a, object b => @decidable_of_iff _ (a = b) (by simp) (decEqFields a b)
  | null, bool _ | null, number _ | null, string _ | null, array _ | null, object _
  | bool _, null | bool _, number _ | bool _, string _ | bool _, array _ | bool _, object _
  | number _, null | number _, bool _ | number _, string _ | number _, array _ | number _, object _
  | string _, null | string _, bool _ | string _, number _ | string _, array _ | string _, object _
  | array _, null | array _, bool _ | array _, number _ | array _, string _ | array _, object _
  | object _, null | object _, bool _ | object _, number _ | object _, string _
  | object _, array _ => isFalse (by simp)

def decEqItems : (a b : List Json) → Decidable (a = b)
  | [], [] => isTrue rfl
  | [], _ :: _ | _ :: _, [] => isFalse (by simp)
  | a :: as, b :: bs =>
    @decidable_of_iff _ (a = b ∧ as = bs) (by simp)
      (@instDecidableAnd _ _ (decEq a b) (decEqItems as bs))

def decEqFields : (a b : List (String × Json)) → Decidable (a = b)
  | [], [] => isTrue rfl
  | [], _ :: _ | _ :: _, [] => isFalse (by simp)
  | (j, a) :: as, (k, b) :: bs =>
    @decidable_of_iff _ (j = k ∧ a = b ∧ as = bs) (by simp [and_assoc])
      (@instDecidableAnd _ _ _ (@instDecidableAnd _ _ (decEq a b) (decEqFields as bs)))

end

instance : DecidableEq Json := decEq

end Json

end Courier
