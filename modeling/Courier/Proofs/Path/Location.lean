import Courier.Path.Write
import Mathlib

/-! Locations in a document, and what one step of a write does to the container it steps into:
the child there is replaced, its siblings stay, and an array gains at most empty slots before it. -/

namespace Courier

namespace Json

inductive Step where
  | field (name : String)
  | item (place : Nat)
  deriving DecidableEq

abbrev Location := List Step

def Step.container : Step → Kind
  | .field _ => .object
  | .item _ => .array

def child? : Json → Step → Option Json
  | .object fields, .field k => Fields.find? k fields
  | .array items, .item i => items[i]?
  | _, _ => none

def get? (doc : Json) : Location → Option Json
  | [] => some doc
  | s :: q => (doc.child? s).bind (get? · q)

@[simp] theorem get?_nil (doc : Json) : doc.get? [] = some doc := rfl

theorem get?_cons (doc : Json) (s : Step) (q : Location) :
    doc.get? (s :: q) = (doc.child? s).bind (get? · q) := rfl

theorem get?_append {doc d : Json} {p : Location} (h : doc.get? p = some d) (q : Location) :
    doc.get? (p ++ q) = d.get? q := by
  induction p generalizing doc with
  | nil =>
    cases h
    rfl
  | cons s p ih =>
    obtain ⟨e, he, hd⟩ := Option.bind_eq_some_iff.1 h
    rw [List.cons_append, get?_cons, he]
    exact ih hd

theorem child?_null (s : Step) : child? .null s = none := by
  cases s <;> rfl

theorem get?_null_cons (s : Step) (q : Location) : get? .null (s :: q) = none := by
  simp [get?_cons, child?_null]

/-- What holds of the document and of all documents in it. -/
def Throughout (P : Json → Prop) (doc : Json) : Prop := ∀ q d, doc.get? q = some d → P d

theorem Throughout.self {P : Json → Prop} {doc : Json} (h : doc.Throughout P) : P doc :=
  h [] doc rfl

theorem Throughout.child {P : Json → Prop} {doc d : Json} {s : Step} (h : doc.Throughout P)
    (hd : doc.child? s = some d) : d.Throughout P := by
  intro q e he
  exact h (s :: q) e (by rw [get?_cons, hd]; exact he)

theorem Throughout.of_mem {P : Json → Prop} {items : List Json} {d : Json}
    (h : (array items).Throughout P) (hd : d ∈ items) : d.Throughout P := by
  obtain ⟨i, hi⟩ := List.mem_iff_getElem?.1 hd
  exact h.child (s := .item i) hi

theorem Throughout.of_mem_fields {P : Json → Prop} {fields : List (String × Json)}
    {f : String × Json} (h : (object fields).Throughout P) (hn : (fields.map Prod.fst).Nodup)
    (hf : f ∈ fields) : f.2.Throughout P :=
  h.child (s := .field f.1) (Fields.find?_of_mem hn hf)

theorem throughout_of_child? {P : Json → Prop} {doc : Json} (h : P doc)
    (hc : ∀ s d, doc.child? s = some d → d.Throughout P) : doc.Throughout P := by
  intro q d hq
  cases q with
  | nil =>
    cases hq
    exact h
  | cons s q =>
    obtain ⟨e, he, hd⟩ := Option.bind_eq_some_iff.1 hq
    exact hc s e he q d hd

theorem throughout_leaf {P : Json → Prop} {doc : Json} (h : P doc)
    (hc : ∀ s, doc.child? s = none) : doc.Throughout P := by
  refine throughout_of_child? h fun s d hd => ?_
  rw [hc] at hd
  cases hd

theorem throughout_null {P : Json → Prop} (h : P null) : Throughout P null :=
  throughout_leaf h child?_null

theorem throughout_number {P : Json → Prop} {n : Number} (h : P (number n)) :
    Throughout P (number n) :=
  throughout_leaf h fun s => by cases s <;> rfl

theorem throughout_string {P : Json → Prop} {s : String} (h : P (string s)) :
    Throughout P (string s) :=
  throughout_leaf h fun s => by cases s <;> rfl

theorem throughout_object {P : Json → Prop} {fields : List (String × Json)}
    (h : P (object fields)) (hs : ∀ f ∈ fields, f.2.Throughout P) :
    (object fields).Throughout P := by
  refine throughout_of_child? h fun s d hd => ?_
  cases s with
  | field k => exact hs (k, d) (Fields.mem_of_find? hd)
  | item i => cases hd

theorem throughout_array {P : Json → Prop} {items : List Json} (h : P (array items))
    (hs : ∀ d ∈ items, d.Throughout P) : (array items).Throughout P := by
  refine throughout_of_child? h fun s d hd => ?_
  cases s with
  | field k => cases hd
  | item i => exact hs d (List.mem_of_getElem? hd)

theorem kind_eq_null {doc : Json} (h : doc.kind = .null) : doc = .null := by
  cases doc <;> simp_all [kind]

/-- A document that is a container of this kind, or is `null` and may become one. -/
def Admits (doc : Json) (k : Kind) : Prop := doc = .null ∨ doc.kind = k

instance (doc : Json) (k : Kind) : Decidable (doc.Admits k) :=
  inferInstanceAs (Decidable (_ ∨ _))

/-- The number of places in an array, with `null` as an empty one. -/
def length (doc : Json) : Nat := ((Path.items? doc).getD []).length

end Json

namespace Path

open Json

@[simp] theorem fields?_object (fields : List (String × Json)) :
    fields? (.object fields) = some fields := rfl

@[simp] theorem items?_array (items : List Json) : items? (.array items) = some items := rfl

theorem fields?_eq_none {doc : Json} : fields? doc = none ↔ ¬ doc.Admits .object := by
  cases doc <;> simp [fields?, Admits, kind]

theorem items?_eq_none {doc : Json} : items? doc = none ↔ ¬ doc.Admits .array := by
  cases doc <;> simp [items?, Admits, kind]

theorem exists_fields? {doc : Json} :
    (∃ fields, fields? doc = some fields) ↔ doc.Admits .object := by
  cases doc <;> simp [fields?, Admits, kind]

theorem exists_items? {doc : Json} : (∃ items, items? doc = some items) ↔ doc.Admits .array := by
  cases doc <;> simp [items?, Admits, kind]

theorem child?_field {doc : Json} {fields : List (String × Json)} (h : fields? doc = some fields)
    (k : String) : doc.child? (.field k) = Fields.find? k fields := by
  cases doc with
  | null => cases h; rfl
  | object => cases h; rfl
  | _ => simp [fields?] at h

theorem child?_item {doc : Json} {items : List Json} (h : items? doc = some items) (i : Nat) :
    doc.child? (.item i) = items[i]? := by
  cases doc with
  | null => cases h; rfl
  | array => cases h; rfl
  | _ => simp [items?] at h

theorem length_pad (items : List Json) (i : Nat) :
    (pad items i).length = max items.length (i + 1) := by
  simp only [pad, List.length_append, List.length_replicate]
  omega

theorem pad_eq_self {items : List Json} {i : Nat} (h : i < items.length) : pad items i = items := by
  have hz : i + 1 - items.length = 0 := by omega
  simp [pad, hz]

theorem set_pad_length (items : List Json) (child : Json) :
    (pad items items.length).set items.length child = items ++ [child] := by
  have hz : items.length + 1 - items.length = 1 := by omega
  simp [pad, hz]

theorem getElem?_pad (items : List Json) (i j : Nat) :
    (pad items i)[j]? = if j < items.length then items[j]? else
      if j < i + 1 then some .null else none := by
  simp only [pad, List.getElem?_append, List.getElem?_replicate]
  grind

/-- The container with a child put at a step. A missing container comes into being, and an array
is filled up to the place. -/
def put (doc : Json) (s : Step) (child : Json) : Json :=
  match s with
  | .field k => .object (Fields.insert k child ((fields? doc).getD []))
  | .item i => .array ((pad ((items? doc).getD []) i).set i child)

@[simp] theorem kind_put (doc : Json) (s : Step) (child : Json) :
    (put doc s child).kind = s.container := by
  cases s <;> rfl

@[simp] theorem child?_put_self (doc : Json) (s : Step) (child : Json) :
    (put doc s child).child? s = some child := by
  cases s with
  | field k => exact Fields.find?_insert_self k child _
  | item i =>
    have hlt : i < (pad ((items? doc).getD []) i).length := by
      rw [length_pad]
      omega
    simp [put, child?, hlt]

/-- A sibling of the step is what it was, or a new empty slot before it. -/
theorem child?_put_of_ne {doc : Json} {s t : Step} (hs : doc.Admits s.container) (h : t ≠ s)
    (child : Json) :
    (put doc s child).child? t = doc.child? t ∨
      doc.child? t = none ∧ (put doc s child).child? t = some .null ∧
        ∃ i j, s = .item i ∧ t = .item j ∧ doc.length ≤ j ∧ j < i := by
  cases s with
  | field k =>
    obtain ⟨fields, hf⟩ := exists_fields?.2 hs
    left
    cases t with
    | field l =>
      have hne : l ≠ k := fun he => h (by rw [he])
      rw [child?_field hf]
      simp only [put, hf, Option.getD_some, child?]
      exact Fields.find?_insert_of_ne hne child fields
    | item j => cases doc <;> simp_all [put, child?, Admits, kind, Step.container]
  | item i =>
    obtain ⟨items, hf⟩ := exists_items?.2 hs
    cases t with
    | field l => left; cases doc <;> simp_all [put, child?, Admits, kind, Step.container]
    | item j =>
      have hne : j ≠ i := fun he => h (by rw [he])
      rw [child?_item hf]
      simp only [put, hf, Option.getD_some, child?, List.getElem?_set, hne.symm, if_false,
        getElem?_pad, Json.length]
      by_cases hj : j < items.length
      · simp [hj]
      · by_cases hi : j < i
        · right
          simp [hj, hi, Nat.lt_succ_of_lt hi, Nat.le_of_not_lt hj]
        · have hge : ¬ j < i + 1 := by omega
          simp [hj, hge]

theorem put_put (doc : Json) (s : Step) (b c : Json) : put (put doc s b) s c = put doc s c := by
  cases s with
  | field k => simp [put, Fields.insert_insert]
  | item i =>
    have hlt : i < ((pad ((items? doc).getD []) i).set i b).length := by
      rw [List.length_set, length_pad]
      omega
    simp [put, pad_eq_self hlt]

end Path

end Courier
