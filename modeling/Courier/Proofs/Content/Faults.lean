import Courier.Proofs.Content.Purpose

/-! What can be wrong with items. Uploads are complained of by the choice of the encoding alone;
what fails after it is an item, its path, or a field that has no text. -/

namespace Courier

namespace Item

/-- What can be wrong with an item by itself. The error names the item. -/
inductive Fault (item : Item) : ItemError → Prop
  | file (e : FileError) : Fault item (.file item.source e)
  | notText : Fault item (.notText item.source item.value)
  | badJson (e : Json.Error) : Fault item (.badJson item.source e)
  | emptyHeader : Fault item (.emptyHeader item.source)

variable {files : Files} {item : Item} {e : ItemError}

theorem fault_of_readFile {path : String} (h : item.readFile files path = .error e) :
    item.Fault e := by
  obtain ⟨f, -, rfl⟩ := Except.mapError_eq_error.1 h
  exact .file f

theorem fault_of_readText (h : item.readText files = .error e) : item.Fault e := by
  rw [readText] at h
  split at h
  · next hf =>
    cases h
    exact fault_of_readFile hf
  · split at h
    · cases h
    · cases h
      exact .notText

theorem fault_of_readJson {text : String} (h : item.readJson text = .error e) : item.Fault e := by
  obtain ⟨f, -, rfl⟩ := Except.mapError_eq_error.1 h
  exact .badJson f

theorem fault_of_decode (h : item.decode files = .error e) : item.Fault e := by
  unfold decode at h
  split at h
  · cases h
  · split at h
    · cases h
    · cases h
      exact .emptyHeader
  · exact fault_of_readText (Except.map_eq_error.1 h)
  · cases h
  · cases h
  · exact fault_of_readText (Except.map_eq_error.1 h)
  · exact fault_of_readText (Except.map_eq_error.1 h)
  · exact fault_of_readJson (Except.map_eq_error.1 h)
  · split at h
    · next ht =>
      cases h
      exact fault_of_readText ht
    · exact fault_of_readJson (Except.map_eq_error.1 h)
  · exact fault_of_readFile (Except.map_eq_error.1 (Except.map_eq_error.1 h))

end Item

namespace Content

def HasUploads (items : List Item) : Prop := ∃ item ∈ items, item.separator = .upload

instance (items : List Item) : Decidable (HasUploads items) :=
  inferInstanceAs (Decidable (∃ item ∈ items, item.separator = .upload))

/-- The encoding asked for. Without one, uploads make a request multipart. -/
def effective (explicit : Option Encoding) (items : List Item) : Encoding :=
  explicit.getD (if HasUploads items then .multipart else .json)

theorem forPurpose_upload_eq_nil {items : List Item} :
    forPurpose .upload items = [] ↔ ¬ HasUploads items := by
  rw [← filter_isUpload, List.filter_eq_nil_iff]
  simp [HasUploads, isUpload]

theorem encodingOf_eq (explicit : Option Encoding) (items : List Item) :
    encodingOf explicit items =
      if explicit = some .json ∧ HasUploads items then
        .error (.uploadsInJson ((forPurpose .upload items).map Item.key))
      else .ok (effective explicit items) := by
  by_cases hu : HasUploads items
  · have hne : (forPurpose .upload items).isEmpty = false := by
      simpa using (not_congr forPurpose_upload_eq_nil).2 (not_not.2 hu)
    cases explicit with
    | none => simp [encodingOf, filter_isUpload, effective, hu, hne]
    | some e => cases e <;> simp [encodingOf, filter_isUpload, effective, hu, hne]
  · have hnil := forPurpose_upload_eq_nil.2 hu
    cases explicit with
    | none => simp [encodingOf, filter_isUpload, effective, hu, hnil]
    | some e => cases e <;> simp [encodingOf, filter_isUpload, effective, hu, hnil]

/-- What can be wrong with items once the encoding is chosen. -/
inductive Fault (items : List Item) : ItemError → Prop
  | item {item : Item} {e : ItemError} (hi : item ∈ items) (h : item.Fault e) : Fault items e
  | complexField : Fault items .complexField
  | badPath (e : Path.Error) : Fault items (.badPath e)

variable {files : Files} {item : Item} {items others : List Item} {e : ItemError}

theorem Fault.mono (h : Fault items e) (hs : items ⊆ others) : Fault others e := by
  cases h with
  | item hi h => exact .item (hs hi) h
  | complexField => exact .complexField
  | badPath e => exact .badPath e

theorem not_fault_uploadsInJson {keys : List String} : ¬ Fault items (.uploadsInJson keys) := by
  intro h
  cases h with
  | item _ h => cases h

theorem fault_of_formValue {v : Json} (h : formValue v = .error e) : Fault items e := by
  cases v with
  | null | array | object =>
    cases h
    exact .complexField
  | _ => cases h

theorem fault_of_add {c : Content} {d : Item.Decoded} (h : c.add item d = .error e) :
    Fault items e := by
  cases d with
  | header v => cases h
  | upload u => cases h
  | text s =>
    rw [add] at h
    split at h <;> cases h
  | json v => exact fault_of_formValue (Except.map_eq_error.1 h)

theorem fault_of_addAll {c : Content} (h : addAll files c items = .error e) : Fault items e := by
  induction items generalizing c with
  | nil => cases h
  | cons item items ih =>
    rw [addAll] at h
    split at h
    · next hd =>
      cases h
      exact .item (by simp) (Item.fault_of_decode hd)
    · split at h
      · next ha =>
        cases h
        exact fault_of_add ha
      · exact (ih h).mono (by simp)

theorem fault_of_pairs (h : pairs files items = .error e) : Fault items e := by
  induction items with
  | nil => cases h
  | cons item items ih =>
    rw [pairs] at h
    split at h
    · next hd =>
      cases h
      exact .item (by simp) (Item.fault_of_decode hd)
    · exact (ih (Except.map_eq_error.1 h)).mono (by simp)

theorem fault_of_document (h : document files items = .error e) : Fault items e := by
  rw [document] at h
  split at h
  · next hp =>
    cases h
    exact fault_of_pairs hp
  · obtain ⟨p, -, rfl⟩ := Except.mapError_eq_error.1 h
    exact .badPath p

theorem fault_of_ofItems {explicit : Option Encoding}
    (h : ofItems files explicit items = .error e) :
    explicit = some .json ∧ HasUploads items ∧
        e = .uploadsInJson ((forPurpose .upload items).map Item.key) ∨ Fault items e := by
  rw [ofItems, encodingOf_eq] at h
  by_cases hx : explicit = some .json ∧ HasUploads items
  · rw [if_pos hx] at h
    cases h
    exact .inl ⟨hx.1, hx.2, rfl⟩
  · right
    simp only [hx, if_false] at h
    have hsub : ∀ q : Item → Bool, items.filter q ⊆ items := fun _ => List.filter_subset_self items
    split at h
    · split at h
      · next hd =>
        cases h
        exact (fault_of_document hd).mono (hsub _)
      · exact (fault_of_addAll h).mono (hsub _)
    · exact (fault_of_addAll h).mono (hsub _)

theorem ofItems_eq_uploadsInJson_iff {explicit : Option Encoding} {keys : List String} :
    ofItems files explicit items = .error (.uploadsInJson keys) ↔
      explicit = some .json ∧ HasUploads items ∧
        keys = (forPurpose .upload items).map Item.key := by
  constructor
  · intro h
    rcases fault_of_ofItems h with ⟨he, hu, hk⟩ | hf
    · exact ⟨he, hu, by simpa using hk⟩
    · exact absurd hf not_fault_uploadsInJson
  · rintro ⟨he, hu, rfl⟩
    rw [ofItems, encodingOf_eq, if_pos ⟨he, hu⟩]

end Content

end Courier
