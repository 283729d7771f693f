import Courier.Proofs.Content.Faults

/-! Where items end up. Each serves one purpose, and what a request is made of for one purpose comes
from the items for it alone, in their order, however they are mixed with others. -/

namespace Courier

namespace Content

open Item

/-- One entry for each item, in order, with its key and a value that belongs to it. -/
def Entries {α : Type} (R : Item → α → Prop) (items : List Item) (entries : List (String × α)) :
    Prop :=
  List.Forall₂ (fun item e => e.1 = item.key ∧ R item e.2) items entries

/-- A collection after the entries of items were added to it one by one. -/
def Gathers {α β : Type} (R : Item → α → Prop) (add : β → String → α → β) (items : List Item)
    (before after : β) : Prop :=
  ∃ entries, Entries R items entries ∧ after = entries.foldl (fun b e => add b e.1 e.2) before

section

variable {α β : Type} {R : Item → α → Prop} {add : β → String → α → β} {before after : β}

theorem gathers_nil : Gathers R add [] before after ↔ after = before := by
  simp [Gathers, Entries]

theorem gathers_cons {item : Item} {items : List Item} :
    Gathers R add (item :: items) before after ↔
      ∃ v, R item v ∧ Gathers R add items (add before item.key v) after := by
  simp only [Gathers, Entries, List.forall₂_cons_left_iff]
  constructor
  · rintro ⟨_, ⟨⟨k, v⟩, entries, ⟨rfl, hv⟩, he, rfl⟩, rfl⟩
    exact ⟨v, hv, entries, he, rfl⟩
  · rintro ⟨v, hv, entries, he, rfl⟩
    exact ⟨_, ⟨(item.key, v), entries, ⟨rfl, hv⟩, he, rfl⟩, rfl⟩

variable {p : Purpose} {item : Item} {items : List Item}

theorem gathers_cons_self (hp : item.purpose = p) :
    Gathers R add (forPurpose p (item :: items)) before after ↔
      ∃ v, R item v ∧ Gathers R add (forPurpose p items) (add before item.key v) after := by
  have hl : forPurpose p (item :: items) = item :: forPurpose p items := by simp [forPurpose, hp]
  rw [hl, gathers_cons]

theorem gathers_cons_of_ne (hp : item.purpose ≠ p) :
    Gathers R add (forPurpose p (item :: items)) before after ↔
      Gathers R add (forPurpose p items) before after := by
  have hl : forPurpose p (item :: items) = forPurpose p items := by simp [forPurpose, hp]
  rw [hl]

end

/-- What taking in one item makes of a content: one of its parts gains one entry. -/
inductive Takes (files : Files) (item : Item) (c : Content) : Content → Prop
  | header {value : Option String} (hp : item.purpose = .header) (hv : item.HasHeader files value) :
    Takes files item c { c with headers := c.headers.add item.key value }
  | query {s : String} (hp : item.purpose = .query) (hv : item.HasText files s) :
    Takes files item c { c with query := c.query.add item.key s }
  | data {s : String} (hp : item.purpose = .data) (hv : item.HasField files s) :
    Takes files item c { c with data := c.data.addField item.key s }
  | upload {u : Upload} (hp : item.purpose = .upload) (hv : item.HasUpload files u) :
    Takes files item c { c with uploads := c.uploads.add item.key u }

theorem takes_iff {files : Files} {item : Item} {c after : Content} :
    (∃ d, item.decode files = .ok d ∧ c.add item d = .ok after) ↔ Takes files item c after := by
  constructor
  · rintro ⟨d, hd, ha⟩
    have hs := serves_of_decode hd
    generalize hp : item.purpose = p at hs
    cases hs with
    | header value =>
      cases ha
      exact .header hp hd
    | query s =>
      have hdata : ¬ item.separator.isData = true := by simp [isData_iff, hp]
      rw [add, if_neg hdata] at ha
      cases ha
      exact .query hp hd
    | field s =>
      rw [add, if_pos (isData_iff.2 (.inl hp))] at ha
      cases ha
      exact .data hp (.inl hd)
    | json v =>
      obtain ⟨s, hs, rfl⟩ := Except.map_eq_ok.1 ha
      exact .data hp (.inr ⟨v, hd, hs⟩)
    | upload u =>
      cases ha
      exact .upload hp hd
  · intro h
    cases h with
    | header hp hv => exact ⟨_, hv, rfl⟩
    | query hp hv =>
      have hdata : ¬ item.separator.isData = true := by simp [isData_iff, hp]
      exact ⟨_, hv, by rw [add, if_neg hdata]⟩
    | data hp hv =>
      rcases hv with hv | ⟨v, hv, hs⟩
      · exact ⟨_, hv, by rw [add, if_pos (isData_iff.2 (.inl hp))]⟩
      · exact ⟨_, hv, Except.map_eq_ok.2 ⟨_, hs, rfl⟩⟩
    | upload hp hv => exact ⟨_, hv, rfl⟩

theorem addAll_cons_eq_ok {files : Files} {item : Item} {items : List Item} {c after : Content} :
    addAll files c (item :: items) = .ok after ↔
      ∃ mid, Takes files item c mid ∧ addAll files mid items = .ok after := by
  simp only [← takes_iff, addAll]
  cases item.decode files with
  | error e => simp
  | ok d => cases hc : c.add item d <;> simp [hc]

/-- A content after items were taken in: each part has gained the entries for its purpose. -/
structure Added (files : Files) (items : List Item) (before after : Content) : Prop where
  encoding : after.encoding = before.encoding
  headers : Gathers (HasHeader files) Headers.add (forPurpose .header items) before.headers
    after.headers
  query : Gathers (HasText files) MultiMap.add (forPurpose .query items) before.query after.query
  data : Gathers (HasField files) (fun d k s => d.addField k s) (forPurpose .data items) before.data
    after.data
  uploads : Gathers (HasUpload files) MultiMap.add (forPurpose .upload items) before.uploads
    after.uploads

theorem added_nil {files : Files} {before after : Content} :
    Added files [] before after ↔ after = before := by
  constructor
  · rintro ⟨he, hh, hq, hd, hu⟩
    cases before
    cases after
    simp_all [forPurpose, gathers_nil]
  · rintro rfl
    constructor <;> simp [forPurpose, gathers_nil]

theorem added_cons {files : Files} {item : Item} {items : List Item} {before after : Content} :
    Added files (item :: items) before after ↔
      ∃ mid, Takes files item before mid ∧ Added files items mid after := by
  constructor
  · rintro ⟨he, hh, hq, hd, hu⟩
    cases hp : item.purpose with
    | header =>
      rw [gathers_cons_of_ne (by simp [hp])] at hq hd hu
      obtain ⟨value, hv, hh⟩ := (gathers_cons_self hp).1 hh
      exact ⟨_, .header hp hv, he, hh, hq, hd, hu⟩
    | query =>
      rw [gathers_cons_of_ne (by simp [hp])] at hh hd hu
      obtain ⟨s, hv, hq⟩ := (gathers_cons_self hp).1 hq
      exact ⟨_, .query hp hv, he, hh, hq, hd, hu⟩
    | data =>
      rw [gathers_cons_of_ne (by simp [hp])] at hh hq hu
      obtain ⟨s, hv, hd⟩ := (gathers_cons_self hp).1 hd
      exact ⟨_, .data hp hv, he, hh, hq, hd, hu⟩
    | upload =>
      rw [gathers_cons_of_ne (by simp [hp])] at hh hq hd
      obtain ⟨u, hv, hu⟩ := (gathers_cons_self hp).1 hu
      exact ⟨_, .upload hp hv, he, hh, hq, hd, hu⟩
  · rintro ⟨mid, ht, he, hh, hq, hd, hu⟩
    cases ht with
    | header hp hv =>
      exact ⟨he, (gathers_cons_self hp).2 ⟨_, hv, hh⟩, (gathers_cons_of_ne (by simp [hp])).2 hq,
        (gathers_cons_of_ne (by simp [hp])).2 hd, (gathers_cons_of_ne (by simp [hp])).2 hu⟩
    | query hp hv =>
      exact ⟨he, (gathers_cons_of_ne (by simp [hp])).2 hh, (gathers_cons_self hp).2 ⟨_, hv, hq⟩,
        (gathers_cons_of_ne (by simp [hp])).2 hd, (gathers_cons_of_ne (by simp [hp])).2 hu⟩
    | data hp hv =>
      exact ⟨he, (gathers_cons_of_ne (by simp [hp])).2 hh, (gathers_cons_of_ne (by simp [hp])).2 hq,
        (gathers_cons_self hp).2 ⟨_, hv, hd⟩, (gathers_cons_of_ne (by simp [hp])).2 hu⟩
    | upload hp hv =>
      exact ⟨he, (gathers_cons_of_ne (by simp [hp])).2 hh, (gathers_cons_of_ne (by simp [hp])).2 hq,
        (gathers_cons_of_ne (by simp [hp])).2 hd, (gathers_cons_self hp).2 ⟨_, hv, hu⟩⟩

theorem addAll_eq_ok_iff {files : Files} {items : List Item} {before after : Content} :
    addAll files before items = .ok after ↔ Added files items before after := by
  induction items generalizing before with
  | nil =>
    rw [added_nil, addAll, Except.ok.injEq]
    exact eq_comm
  | cons item items ih =>
    rw [addAll_cons_eq_ok, added_cons]
    exact exists_congr fun mid => and_congr_right fun _ => ih

theorem foldl_add {α : Type} (m : MultiMap α) (entries : List (String × α)) :
    entries.foldl (fun m e => m.add e.1 e.2) m = ⟨m.entries ++ entries⟩ := by
  induction entries generalizing m with
  | nil => simp
  | cons e entries ih =>
    rw [List.foldl_cons, ih, MultiMap.add, List.append_assoc, List.singleton_append]

theorem foldl_addField_form (m : MultiMap String) (entries : List (String × String)) :
    entries.foldl (fun (d : Data) e => d.addField e.1 e.2) (.form m) =
      .form ⟨m.entries ++ entries⟩ := by
  rw [← foldl_add]
  induction entries generalizing m with
  | nil => rfl
  | cons e entries ih => exact ih (m.add e.1 e.2)

theorem gathers_empty_iff {α : Type} {R : Item → α → Prop} {items : List Item} {m : MultiMap α} :
    Gathers R MultiMap.add items .empty m ↔ Entries R items m.entries := by
  constructor
  · rintro ⟨entries, he, rfl⟩
    rwa [foldl_add]
  · intro h
    exact ⟨m.entries, h, by rw [foldl_add]; rfl⟩

theorem gathers_form_iff {R : Item → String → Prop} {items : List Item} {d : Data} :
    Gathers R (fun d k s => d.addField k s) items (.form .empty) d ↔
      ∃ fields, Entries R items fields.entries ∧ d = .form fields := by
  constructor
  · rintro ⟨entries, he, rfl⟩
    exact ⟨⟨entries⟩, he, by rw [foldl_addField_form]; rfl⟩
  · rintro ⟨fields, he, rfl⟩
    exact ⟨fields.entries, he, by rw [foldl_addField_form]; rfl⟩

theorem hasValue_iff {files : Files} {item : Item} (hp : item.purpose = .data) {v : Json} :
    item.HasValue files v ↔ ∃ d, item.decode files = .ok d ∧ documentValue d = v := by
  constructor
  · rintro (h | ⟨s, h, rfl⟩)
    · exact ⟨_, h, rfl⟩
    · exact ⟨_, h, rfl⟩
  · rintro ⟨d, hd, rfl⟩
    have hs := serves_of_decode hd
    rw [hp] at hs
    cases hs with
    | field s => exact .inr ⟨s, hd, rfl⟩
    | json v => exact .inl hd

theorem pairs_eq_ok_iff {files : Files} {items : List Item} {ps : List (String × Json)}
    (hp : ∀ item ∈ items, item.purpose = .data) :
    pairs files items = .ok ps ↔ Entries (HasValue files) items ps := by
  induction items generalizing ps with
  | nil =>
    simp [pairs, Entries, eq_comm]
  | cons item items ih =>
    have ih : ∀ qs, pairs files items = .ok qs ↔ Entries (HasValue files) items qs :=
      fun qs => ih fun i hi => hp i (List.mem_cons_of_mem item hi)
    rw [Entries, List.forall₂_cons_left_iff, pairs]
    constructor
    · intro h
      split at h
      · cases h
      · next d hd =>
        obtain ⟨qs, hq, rfl⟩ := Except.map_eq_ok.1 h
        exact ⟨_, qs, ⟨rfl, (hasValue_iff (hp item (by simp))).2 ⟨d, hd, rfl⟩⟩, (ih qs).1 hq, rfl⟩
    · rintro ⟨⟨k, v⟩, qs, ⟨rfl, hv⟩, hq, rfl⟩
      obtain ⟨d, hd, rfl⟩ := (hasValue_iff (hp item (by simp))).1 hv
      rw [hd]
      exact Except.map_eq_ok.2 ⟨qs, (ih qs).2 hq, rfl⟩

theorem document_eq_ok_iff {files : Files} {items : List Item} {fields : List (String × Json)}
    (hp : ∀ item ∈ items, item.purpose = .data) :
    document files items = .ok fields ↔
      ∃ ps, Entries (HasValue files) items ps ∧ Path.assemble ps = .ok fields := by
  simp only [← pairs_eq_ok_iff hp, document]
  cases pairs files items with
  | error e => simp
  | ok ps => simp [Except.mapError_eq_ok]

/-- The content that items amount to. Each part holds what the items for its purpose give, in their
order and with their keys. -/
structure Routed (files : Files) (e : Encoding) (items : List Item) (c : Content) : Prop where
  encoding : c.encoding = e
  headers : Gathers (HasHeader files) Headers.add (forPurpose .header items) .empty c.headers
  query : Entries (HasText files) (forPurpose .query items) c.query.entries
  uploads : Entries (HasUpload files) (forPurpose .upload items) c.uploads.entries
  document : e = .json → ∃ ps fields, Entries (HasValue files) (forPurpose .data items) ps ∧
    Path.assemble ps = .ok fields ∧ c.data = .json fields
  form : e ≠ .json → ∃ fields, Entries (HasField files) (forPurpose .data items)
    fields.entries ∧ c.data = .form fields

section

variable {files : Files} {items : List Item} {c : Content}

theorem routed_json_iff :
    Routed files .json items c ↔
      ∃ fields, document files (forPurpose .data items) = .ok fields ∧
        Added files (items.filter fun item => !item.separator.isNestedJson)
          ⟨.empty, .json fields, .empty, .empty, .json⟩ c := by
  simp only [document_eq_ok_iff fun item => purpose_of_mem_forPurpose]
  constructor
  · rintro ⟨he, hh, hq, hu, hd, -⟩
    obtain ⟨ps, fields, hps, hf, hd⟩ := hd rfl
    refine ⟨fields, ⟨ps, hps, hf⟩, he, ?_, ?_, ?_, ?_⟩ <;> rw [forPurpose_filter_not_isNestedJson]
    · exact hh
    · exact gathers_empty_iff.2 hq
    · exact gathers_nil.2 hd
    · exact gathers_empty_iff.2 hu
  · rintro ⟨fields, ⟨ps, hps, hf⟩, he, hh, hq, hd, hu⟩
    rw [forPurpose_filter_not_isNestedJson] at hh hq hd hu
    exact {
      encoding := he
      headers := hh
      query := gathers_empty_iff.1 hq
      uploads := gathers_empty_iff.1 hu
      document := fun _ => ⟨ps, fields, hps, hf, gathers_nil.1 hd⟩
      form := fun hne => absurd rfl hne }

theorem routed_form_iff {encoding : Encoding} (hne : encoding ≠ .json) :
    Routed files encoding items c ↔
      Added files items ⟨.empty, .form .empty, .empty, .empty, encoding⟩ c := by
  constructor
  · rintro ⟨he, hh, hq, hu, -, hd⟩
    exact ⟨he, hh, gathers_empty_iff.2 hq, gathers_form_iff.2 (hd hne), gathers_empty_iff.2 hu⟩
  · rintro ⟨he, hh, hq, hd, hu⟩
    exact {
      encoding := he
      headers := hh
      query := gathers_empty_iff.1 hq
      uploads := gathers_empty_iff.1 hu
      document := fun hj => absurd hj hne
      form := fun _ => gathers_form_iff.1 hd }

theorem ofItems_eq_ok_iff {explicit : Option Encoding} :
    ofItems files explicit items = .ok c ↔
      ¬ (explicit = some .json ∧ HasUploads items) ∧
        Routed files (effective explicit items) items c := by
  rw [ofItems, encodingOf_eq]
  by_cases hx : explicit = some .json ∧ HasUploads items
  · simp [hx]
  · simp only [hx, if_false, not_false_iff, true_and]
    generalize effective explicit items = encoding
    by_cases he : encoding = .json
    · subst he
      rw [routed_json_iff]
      simp only [BEq.rfl, Bool.true_and, if_true, filter_isNestedJson, ← addAll_eq_ok_iff]
      cases document files (forPurpose .data items) <;> simp
    · have hb : (encoding == .json) = false := by simpa using he
      rw [routed_form_iff he, ← addAll_eq_ok_iff]
      simp [he, hb]

theorem Routed.congr {e : Encoding} {others : List Item}
    (h : ∀ p, forPurpose p items = forPurpose p others) (hr : Routed files e items c) :
    Routed files e others c where
  encoding := hr.encoding
  headers := h .header ▸ hr.headers
  query := h .query ▸ hr.query
  uploads := h .upload ▸ hr.uploads
  document hj := h .data ▸ hr.document hj
  form hne := h .data ▸ hr.form hne

theorem hasUploads_congr {others : List Item}
    (h : ∀ p, forPurpose p items = forPurpose p others) : HasUploads items ↔ HasUploads others := by
  rw [← not_iff_not, ← forPurpose_upload_eq_nil, ← forPurpose_upload_eq_nil, h]

theorem ofItems_eq_ok_of_congr {explicit : Option Encoding} {others : List Item}
    (h : ∀ p, forPurpose p items = forPurpose p others)
    (hc : ofItems files explicit items = .ok c) : ofItems files explicit others = .ok c := by
  obtain ⟨hn, hr⟩ := ofItems_eq_ok_iff.1 hc
  have he : effective explicit items = effective explicit others := by
    simp only [effective, hasUploads_congr h]
  rw [hasUploads_congr h] at hn
  rw [he] at hr
  exact ofItems_eq_ok_iff.2 ⟨hn, hr.congr h⟩

end

/-- Uploads are refused exactly where JSON is asked for. Otherwise a content comes about exactly if
it holds what the items for each purpose give, whatever stands between them. -/
theorem ofItems_routes (files : Files) (explicit : Option Encoding) (items : List Item) :
    (∀ keys, ofItems files explicit items = .error (.uploadsInJson keys) ↔
      explicit = some .json ∧ HasUploads items ∧
        keys = (forPurpose .upload items).map Item.key) ∧
    (∀ c, ofItems files explicit items = .ok c ↔
      ¬ (explicit = some .json ∧ HasUploads items) ∧
        Routed files (effective explicit items) items c) ∧
    ∀ others, (∀ p, forPurpose p items = forPurpose p others) →
      ∀ c, ofItems files explicit items = .ok c ↔ ofItems files explicit others = .ok c :=
  ⟨fun _ => ofItems_eq_uploadsInJson_iff, fun _ => ofItems_eq_ok_iff, fun _ h _ =>
    ⟨ofItems_eq_ok_of_congr h, ofItems_eq_ok_of_congr fun p => (h p).symm⟩⟩

theorem ofItems_routes_interleaved :
    let files : Files := ⟨fun path => if path = "f.txt" then .ok [104] else .error .notFound,
      fun _ => false, "", fun path => if path = "f.txt" then some "text/plain" else none⟩
    let items : List Item := [⟨"X", "1", .header, "X:1"⟩, ⟨"a[]", "1", .field, "a[]=1"⟩,
      ⟨"doc", "f.txt", .upload, "doc@f.txt"⟩, ⟨"q", "f.txt", .queryFile, "q==@f.txt"⟩,
      ⟨"n", "true", .json, "n:=true"⟩, ⟨"x", "", .headerEmpty, "x;"⟩]
    let others : List Item := [⟨"doc", "f.txt", .upload, "doc@f.txt"⟩, ⟨"X", "1", .header, "X:1"⟩,
      ⟨"x", "", .headerEmpty, "x;"⟩, ⟨"a[]", "1", .field, "a[]=1"⟩, ⟨"n", "true", .json, "n:=true"⟩,
      ⟨"q", "f.txt", .queryFile, "q==@f.txt"⟩]
    let c : Content := {
      headers := ⟨[("X", some "1"), ("X", some "")]⟩
      data := .form ⟨[("a[]", "1"), ("n", "true")]⟩
      uploads := ⟨[("doc", ⟨"f.txt", "f.txt", [104], some "text/plain"⟩)]⟩
      query := ⟨[("q", "h")]⟩
      encoding := .multipart }
    (∀ p, forPurpose p items = forPurpose p others) ∧ ofItems files none items = .ok c ∧
      Routed files .multipart items c ∧ ofItems files none others = .ok c ∧
      ofItems files (some .json) items = .error (.uploadsInJson ["doc"]) := by
  intro files items others c
  have hp : ∀ p, forPurpose p items = forPurpose p others := by
    intro p
    cases p <;> rfl
  have hc : ofItems files none items = .ok c := by cbv
  have hu : HasUploads items := by decide
  obtain ⟨-, hok, hothers⟩ := ofItems_routes files none items
  exact ⟨hp, hc, ((hok c).1 hc).2, (hothers others hp c).1 hc,
    ((ofItems_routes files (some .json) items).1 ["doc"]).2 ⟨rfl, hu, rfl⟩⟩

end Content

end Courier
