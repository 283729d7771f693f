import Courier.Content
import Courier.Proofs.Basic

/-! What items are for. Each separator serves one of four purposes, and what is decoded from an item
is of use for it. -/

namespace Courier

inductive Purpose where
  | header
  | query
  | data
  | upload
  deriving DecidableEq

def Separator.purpose : Separator → Purpose
  | header | headerEmpty | headerFile => .header
  | query | queryFile => .query
  | field | fieldFile | json | jsonFile => .data
  | upload => .upload

namespace Item

def purpose (item : Item) : Purpose := item.separator.purpose

variable {files : Files} {item : Item}

theorem isNestedJson_iff : item.separator.isNestedJson = true ↔ item.purpose = .data := by
  rw [purpose]
  cases item.separator <;> decide

theorem isData_iff :
    item.separator.isData = true ↔ item.purpose = .data ∨ item.purpose = .upload := by
  rw [purpose]
  cases item.separator <;> decide

theorem isUpload_iff : Content.isUpload item = true ↔ item.purpose = .upload := by
  rw [purpose, Content.isUpload]
  cases item.separator <;> decide

/-- What is decoded from an item, and the purposes it may serve. -/
inductive Decoded.Serves : Decoded → Purpose → Prop
  | header (value : Option String) : Serves (.header value) .header
  | query (s : String) : Serves (.text s) .query
  | field (s : String) : Serves (.text s) .data
  | json (v : Json) : Serves (.json v) .data
  | upload (u : Upload) : Serves (.upload u) .upload

theorem serves_of_decode {d : Decoded} (h : item.decode files = .ok d) : d.Serves item.purpose := by
  rw [purpose]
  unfold decode at h
  split at h <;> rename_i hs <;> rw [hs]
  · cases h
    exact .header _
  · split at h
    · cases h
      exact .header _
    · cases h
  · obtain ⟨s, -, rfl⟩ := Except.map_eq_ok.1 h
    exact .header _
  · cases h
    exact .query _
  · cases h
    exact .field _
  · obtain ⟨s, -, rfl⟩ := Except.map_eq_ok.1 h
    exact .query _
  · obtain ⟨s, -, rfl⟩ := Except.map_eq_ok.1 h
    exact .field _
  · obtain ⟨v, -, rfl⟩ := Except.map_eq_ok.1 h
    exact .json _
  · split at h
    · cases h
    · obtain ⟨v, -, rfl⟩ := Except.map_eq_ok.1 h
      exact .json _
  · obtain ⟨u, -, rfl⟩ := Except.map_eq_ok.1 h
    exact .upload _

variable (files item)

def HasHeader (value : Option String) : Prop := item.decode files = .ok (.header value)

def HasText (s : String) : Prop := item.decode files = .ok (.text s)

def HasUpload (u : Upload) : Prop := item.decode files = .ok (.upload u)

/-- The text of a form field. JSON gives one if it is no container and not `null`. -/
def HasField (s : String) : Prop :=
  item.decode files = .ok (.text s) ∨
    ∃ v, item.decode files = .ok (.json v) ∧ Content.formValue v = .ok s

/-- The value that is written into a document. Text becomes a string. -/
def HasValue (v : Json) : Prop :=
  item.decode files = .ok (.json v) ∨ ∃ s, item.decode files = .ok (.text s) ∧ v = .string s

end Item

namespace Content

def forPurpose (p : Purpose) (items : List Item) : List Item :=
  items.filter fun item => item.purpose = p

variable {items : List Item} {p : Purpose}

theorem purpose_of_mem_forPurpose {item : Item} (h : item ∈ forPurpose p items) :
    item.purpose = p := by
  simpa [forPurpose] using (List.mem_filter.1 h).2

theorem filter_isUpload (items : List Item) : items.filter isUpload = forPurpose .upload items :=
  List.filter_congr fun item _ => by rw [Bool.eq_iff_iff, Item.isUpload_iff, decide_eq_true_iff]

theorem filter_isNestedJson (items : List Item) :
    items.filter (fun item => item.separator.isNestedJson) = forPurpose .data items :=
  List.filter_congr fun item _ => by
    rw [Bool.eq_iff_iff, Item.isNestedJson_iff, decide_eq_true_iff]

theorem forPurpose_filter_not_isNestedJson (p : Purpose) (items : List Item) :
    forPurpose p (items.filter fun item => !item.separator.isNestedJson) =
      if p = .data then [] else forPurpose p items := by
  rw [forPurpose, List.filter_filter]
  split
  · next hp =>
    refine List.filter_eq_nil_iff.2 fun item _ => ?_
    simp [hp, ← Item.isNestedJson_iff]
  · next hp =>
    refine List.filter_congr fun item _ => ?_
    by_cases hi : item.purpose = p
    · have hd : item.separator.isNestedJson = false := by
        rw [Bool.eq_false_iff, Ne, Item.isNestedJson_iff, hi]
        exact hp
      simp [hi, hd]
    · simp [hi]

end Content

end Courier
