import Courier.Http.Request
import Courier.Proofs.Path.Root

/-! The wrapping of documents in fields, and what taking it off gives back. An array is wrapped in
an object that a run can also build by itself: this object is mistaken for the array. -/

namespace Courier

namespace Path

open Json

/-- The run leaves an array under the empty key and nothing else. -/
def LooksWrapped (pairs : List (String × Json)) : Prop :=
  (∀ p ∈ pairs, p.1 = "") ∧ ∃ items, pairs.getLast?.map Prod.snd = some (.array items)

theorem LooksWrapped.ne_nil {pairs : List (String × Json)} (h : LooksWrapped pairs) :
    pairs ≠ [] := by
  obtain ⟨-, items, hl⟩ := h
  rintro rfl
  cases hl

theorem LooksWrapped.enters {pairs : List (String × Json)} (h : LooksWrapped pairs) :
    ∀ p ∈ pairs, Enters p.1 .object := by
  intro p hp
  exact ⟨.key "", rootAccessor?_eq_key_empty.2 (h.1 p hp), rfl⟩

variable {pairs : List (String × Json)} {doc : Json}

theorem enters_of_build (hne : pairs ≠ []) (h : build .null pairs = .ok doc) :
    (doc.kind = .object ∨ doc.kind = .array) ∧
      ∀ k, doc.kind = k ↔ ∀ p ∈ pairs, Enters p.1 k := by
  obtain ⟨-, hp⟩ := kind_of_build hne h
  obtain ⟨p, hm⟩ := List.exists_mem_of_ne_nil pairs hne
  refine ⟨(hp p hm).cases, fun k => ⟨?_, fun hk => (hp p hm).unique (hk p hm)⟩⟩
  rintro rfl
  exact hp

theorem kind_document_iff (h : build .null pairs = .ok doc) {k : Json.Kind} :
    (if pairs = [] then .object [] else doc : Json).kind = k ↔
      (pairs = [] → k = .object) ∧ ∀ p ∈ pairs, Enters p.1 k := by
  split
  · next hnil =>
    subst hnil
    simp [kind, eq_comm]
  · next hne => simpa [hne] using (enters_of_build hne h).2 k

theorem eq_object_wrapped_iff (h : build .null pairs = .ok doc) :
    (∃ items, doc = .object [("", .array items)]) ↔ LooksWrapped pairs := by
  constructor
  · rintro ⟨items, rfl⟩
    have hne : pairs ≠ [] := by
      rintro rfl
      cases h
    have hempty : ∀ p ∈ pairs, p.1 = "" := by
      intro p hp
      obtain ⟨a, ha, hk⟩ := (kind_of_build hne h).2 p hp
      cases a with
      | key k =>
        -- The key is still there, so it is the only one.
        have hs := build_has_key h hp ha
        by_cases hk : k = ""
        · rwa [← rootAccessor?_eq_key_empty, ← hk]
        · simp [child?, Fields.find?, hk] at hs
      | index | append => cases hk
    obtain ⟨last, hl⟩ : ∃ last, pairs.getLast?.map Prod.snd = some last :=
      ⟨_, by rw [List.getLast?_eq_some_getLast hne]; rfl⟩
    have hdoc := build_empty h hempty hl
    refine ⟨hempty, items, ?_⟩
    rw [hl]
    simpa [put, fields?, Fields.insert, eq_comm] using hdoc
  · rintro ⟨hempty, items, hl⟩
    exact ⟨items, build_empty h hempty hl⟩

theorem wrap_ne_nil (hne : pairs ≠ []) (h : build .null pairs = .ok doc) : wrap doc ≠ [] := by
  obtain ⟨p, hp⟩ := List.exists_mem_of_ne_nil pairs hne
  obtain ⟨a, ha, hk⟩ := (kind_of_build hne h).2 p hp
  cases doc with
  | object fields =>
    cases a with
    | key k =>
      have hs := build_has_key h hp ha
      rintro (rfl : fields = [])
      cases hs
    | index | append => cases hk
  | null => cases a <;> cases hk
  | _ => simp [wrap]

theorem unwrap_wrap_of_build (h : build .null pairs = .ok doc) (hw : ¬ LooksWrapped pairs) :
    unwrap (wrap doc) = if pairs = [] then .object [] else doc := by
  rw [← eq_object_wrapped_iff h] at hw
  split
  · next hnil =>
    subst hnil
    cases h
    rfl
  · next hne =>
    rcases (enters_of_build hne h).1 with hk | hk
    · cases doc <;> cases hk
      exact unwrap_of_ne fun items hf => hw ⟨items, by rw [← hf]; rfl⟩
    · cases doc <;> cases hk
      rfl

theorem encodeBody_wrap (h : build .null pairs = .ok doc) {c : Content}
    (hc : c.data = .json (wrap doc)) :
    Http.encodeBody c =
      .ok (if pairs = [] then .none else .text (Json.render none (unwrap (wrap doc))), []) := by
  by_cases hne : pairs = []
  · subst hne
    cases h
    simp [Http.encodeBody, hc, wrap]
  · simp [Http.encodeBody, hc, hne, wrap_ne_nil hne h]

/-- Taking the wrapping off gives the document of the run, unless all pairs wrote at the empty
path and the last value is an array: then it gives this array. What is sent is what it gives. -/
theorem unwrap_assemble {pairs : List (String × Json)} {fields : List (String × Json)}
    (h : assemble pairs = .ok fields) :
    ∃ doc, build .null pairs = .ok doc ∧
      (unwrap fields = (if pairs = [] then .object [] else doc) ↔ ¬ LooksWrapped pairs) ∧
      (LooksWrapped pairs → ∃ items, pairs.getLast?.map Prod.snd = some (.array items) ∧
        doc = .object [("", .array items)] ∧ unwrap fields = .array items) ∧
      ((unwrap fields).kind = .array ↔
        (pairs ≠ [] ∧ ∀ p ∈ pairs, Enters p.1 .array) ∨ LooksWrapped pairs) ∧
      ((unwrap fields).kind = .object ↔
        (∀ p ∈ pairs, Enters p.1 .object) ∧ ¬ LooksWrapped pairs) ∧
      ∀ c : Content, c.data = .json fields →
        Http.encodeBody c =
          .ok (if pairs = [] then .none else .text (Json.render none (unwrap fields)), []) := by
  obtain ⟨doc, hb, rfl⟩ := Except.map_eq_ok.1 h
  refine ⟨doc, hb, ?_⟩
  by_cases hw : LooksWrapped pairs
  · obtain ⟨items, hl⟩ := hw.2
    obtain rfl : doc = .object [("", .array items)] := build_empty hb hw.1 hl
    have hu : unwrap (wrap (.object [("", .array items)])) = .array items := rfl
    refine ⟨?_, fun _ => ⟨items, hl, rfl, hu⟩, ?_, ?_, fun c hc => encodeBody_wrap hb hc⟩
    · simp [hu, hw, hw.ne_nil]
    · simp [hu, hw, kind]
    · simp [hu, hw, kind]
  · have hu := unwrap_wrap_of_build hb hw
    refine ⟨by simp [hu, hw], fun h => absurd h hw, ?_, ?_, fun c hc => encodeBody_wrap hb hc⟩
    · rw [hu, kind_document_iff hb]
      simp [hw]
    · rw [hu, kind_document_iff hb]
      simp [hw]

theorem unwrap_assemble_empty_path_twice :
    let pairs : List (String × Json) := [("", .bool true), ("", .array [.null])]
    let fields : List (String × Json) := [("", .array [.null])]
    let content : Content := ⟨.empty, .json fields, .empty, .empty, .json⟩
    assemble pairs = .ok fields ∧ LooksWrapped pairs ∧
      build .null pairs = .ok (.object [("", .array [.null])]) ∧
      unwrap fields = .array [.null] ∧
      Http.encodeBody content = .ok (.text "[null]".toList, []) := by
  intro pairs fields content
  have ha : assemble pairs = .ok fields := by cbv
  have hw : LooksWrapped pairs := ⟨by simp [pairs], [.null], rfl⟩
  obtain ⟨doc, hb, -, hdoc, -, -, hbody⟩ := unwrap_assemble ha
  obtain ⟨items, hl, rfl, hu⟩ := hdoc hw
  obtain rfl : items = [.null] := by simpa [pairs, eq_comm] using hl
  refine ⟨ha, hw, hb, hu, ?_⟩
  rw [hbody content rfl, if_neg hw.ne_nil]
  rfl

/-- Keys enter objects, but an array is given back. -/
theorem unwrap_assemble_ne_document :
    let pairs : List (String × Json) := [("", .array [.null])]
    ∃ fields doc, assemble pairs = .ok fields ∧ build .null pairs = .ok doc ∧
      (∀ p ∈ pairs, Enters p.1 .object) ∧ doc.kind = .object ∧
      unwrap fields ≠ doc ∧ (unwrap fields).kind = .array := by
  have hw : LooksWrapped [("", .array [.null])] := ⟨by simp, [.null], rfl⟩
  refine ⟨[("", .array [.null])], .object [("", .array [.null])], ?_, ?_, hw.enters, rfl, ?_, rfl⟩
  · cbv
  · cbv
  · simp [unwrap]

end Path

end Courier
