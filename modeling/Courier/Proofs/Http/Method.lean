import Courier.Proofs.Http.Sent
import Courier.Proofs.Path.Wrapping

/-! What data makes of a request. An item for the body leaves something behind whatever its value
is, so that it makes the request a `POST`, and gives it a body. -/

namespace Courier

namespace Path

theorem assemble_eq_nil_iff {pairs : List (String × Json)} {fields : List (String × Json)}
    (h : assemble pairs = .ok fields) : fields = [] ↔ pairs = [] := by
  obtain ⟨doc, hb, rfl⟩ := Except.map_eq_ok.1 h
  constructor
  · intro hw
    by_contra hne
    exact wrap_ne_nil hne hb hw
  · rintro rfl
    cases hb
    rfl

end Path

namespace Content

variable {files : Files} {items : List Item} {c : Content} {e : Encoding}
  {explicit : Option Encoding}

def HasData (items : List Item) : Prop := ∃ item ∈ items, item.separator.isData = true

theorem Routed.isEmpty_data_iff (hr : Routed files e items c) :
    c.data.isEmpty = true ↔ forPurpose .data items = [] := by
  by_cases he : e = .json
  · obtain ⟨ps, fields, hps, hf, hd⟩ := hr.document he
    rw [hd, Data.isEmpty, List.isEmpty_iff, Path.assemble_eq_nil_iff hf, hps.eq_nil_iff]
  · obtain ⟨fields, hf, hd⟩ := hr.form he
    rw [hd, Data.isEmpty, MultiMap.isEmpty, List.isEmpty_iff, hf.eq_nil_iff]

theorem Routed.hasData_iff (hr : Routed files e items c) : c.hasData = true ↔ HasData items := by
  rw [HasData, exists_isData_iff, hasData, Bool.or_eq_true, Bool.not_eq_true', Bool.not_eq_true',
    ← Bool.not_eq_true, ← Bool.not_eq_true, hr.isEmpty_data_iff, hr.isEmpty_uploads_iff, not_not,
    or_comm]

theorem method_none (c : Content) : c.method none = if c.hasData then "POST" else "GET" := rfl

theorem Routed.method_iff (hr : Routed files e items c) :
    (c.method none = "POST" ↔ HasData items) ∧ (c.method none = "GET" ↔ ¬ HasData items) := by
  rw [← hr.hasData_iff, method_none]
  cases c.hasData <;> simp

theorem Routed.isEmpty_uploads_of_json (hn : ¬ (explicit = some .json ∧ HasUploads items))
    (hr : Routed files (effective explicit items) items c) {fields : List (String × Json)}
    (hd : c.data = .json fields) : c.uploads.isEmpty = true := by
  rw [hr.isEmpty_uploads_iff]
  intro hu
  have he : effective explicit items ≠ .json := by
    cases explicit with
    | none => simp [effective, hu]
    | some e =>
      rintro (rfl : e = .json)
      exact hn ⟨rfl, hu⟩
  obtain ⟨others, -, ho⟩ := hr.form he
  rw [hd] at ho
  cases ho

end Content

namespace Http

open Content

variable {c : Content} {body : Body} {described : List (String × String)}

theorem body_ne_none_iff (h : encodeBody c = .ok (body, described)) (he : c.encoding ≠ .multipart)
    (hu : ∀ fields, c.data = .json fields → c.uploads.isEmpty = true) :
    body ≠ .none ↔ c.hasData = true := by
  cases hd : c.data with
  | json fields =>
    simp only [encodeBody, hd] at h
    cases h
    rw [hasData, hd, hu fields hd, Data.isEmpty]
    cases fields.isEmpty <;> simp
  | form fields =>
    simp only [encodeBody, hd, he, decide_false, Bool.false_or] at h
    rw [hasData, hd, Data.isEmpty]
    split at h
    · next hparts =>
      rw [hparts]
      split at h
      · cases h
      · cases h
        split <;> simp
    · next hparts =>
      rw [Bool.not_eq_true] at hparts
      rw [hparts]
      split at h
      · next hf =>
        cases h
        simp [hf]
      · next hf =>
        cases h
        simp [hf]

/-- Data decides on method and body. Content has data exactly if one of its items is for the body,
whatever the key and the value of this item are. Where no method is asked for, the method is then
`POST` and otherwise `GET`; and a request in JSON or as a form has a body in just this case. -/
theorem build_follows_data {files : Files} {explicit : Option Encoding} {items : List Item}
    (hc : ofItems files explicit items = .ok c) :
    (c.hasData = true ↔ HasData items) ∧
    (c.method none = "POST" ↔ HasData items) ∧ (c.method none = "GET" ↔ ¬ HasData items) ∧
    ∀ method url auth r, build method url c auth = .ok r →
      (method = none → (r.method = "POST" ↔ HasData items) ∧
        (r.method = "GET" ↔ ¬ HasData items)) ∧
      (effective explicit items = .json ∨ effective explicit items = .form →
        (r.body ≠ .none ↔ HasData items)) := by
  obtain ⟨hn, hr⟩ := ofItems_eq_ok_iff.1 hc
  refine ⟨hr.hasData_iff, hr.method_iff.1, hr.method_iff.2, fun method url auth r hb => ?_⟩
  obtain ⟨u, described, custom, hb⟩ := exists_built hb
  constructor
  · rintro rfl
    rw [hb.method]
    exact hr.method_iff
  · intro he
    have hne : c.encoding ≠ .multipart := by
      rw [hr.encoding]
      rcases he with he | he <;> simp [he]
    rw [body_ne_none_iff hb.encoded hne fun _ => hr.isEmpty_uploads_of_json hn, hr.hasData_iff]

theorem build_follows_data_null :
    let files : Files := ⟨fun _ => .error .notFound, fun _ => false, "", fun _ => none⟩
    let items : List Item := [⟨"X", "1", .header, "X:1"⟩, ⟨"", "null", .json, ":=null"⟩]
    let c : Content := {
      headers := ⟨[("X", some "1")]⟩
      data := .json [("", .null)]
      uploads := .empty
      query := .empty
      encoding := .json }
    ofItems files none items = .ok c ∧ HasData items ∧ c.hasData = true ∧
      ∃ r, build none "http://[::1]/" c none = .ok r ∧ r.method = "POST" ∧ r.body ≠ .none := by
  intro files items c
  have hc : ofItems files none items = .ok c := by cbv
  have hd : HasData items := ⟨⟨"", "null", .json, ":=null"⟩, by simp [items], rfl⟩
  obtain ⟨r, hr⟩ : ∃ r, build none "http://[::1]/" c none = .ok r :=
    Except.isOk_iff.1 (by decide +kernel)
  obtain ⟨hdata, -, -, hbuilt⟩ := build_follows_data hc
  obtain ⟨hmethod, hbody⟩ := hbuilt none _ none r hr
  exact ⟨hc, hd, hdata.2 hd, r, hr, (hmethod rfl).1.2 hd, (hbody (.inl rfl)).2 hd⟩

end Http

end Courier
