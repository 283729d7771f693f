import Courier.Proofs.Path.Outcome
import Courier.Proofs.Path.Spelling

/-! A document is what its leaves build: written in order, each at the path text of its location,
they give the document back, with its keys in their order. -/

namespace Courier

namespace Json

def Step.prepend (s : Step) (l : Location × Json) : Location × Json := (s :: l.1, l.2)

mutual

/-- Scalars, `null` and empty containers, in order, each with its location. -/
def leaves : Json → List (Location × Json)
  | object (f :: fs) => fieldLeaves (f :: fs)
  | array (d :: ds) => itemLeaves 0 (d :: ds)
  | d => [([], d)]

def fieldLeaves : List (String × Json) → List (Location × Json)
  | [] => []
  | (k, d) :: rest => d.leaves.map (Step.prepend (.field k)) ++ fieldLeaves rest

def itemLeaves (i : Nat) : List Json → List (Location × Json)
  | [] => []
  | d :: rest => d.leaves.map (Step.prepend (.item i)) ++ itemLeaves (i + 1) rest

end

/-- The leaves below the root. An empty document has none. -/
def entries : Json → List (Location × Json)
  | object fields => fieldLeaves fields
  | array items => itemLeaves 0 items
  | _ => []

theorem mem_fieldLeaves {fields : List (String × Json)} {l : Location × Json} :
    l ∈ fieldLeaves fields ↔ ∃ f ∈ fields, ∃ m ∈ f.2.leaves, Step.prepend (.field f.1) m = l := by
  induction fields with
  | nil => simp [fieldLeaves]
  | cons f rest ih => simp [fieldLeaves, ih]

theorem mem_itemLeaves {items : List Json} {i : Nat} {l : Location × Json} :
    l ∈ itemLeaves i items ↔
      ∃ j d, items[j]? = some d ∧ ∃ m ∈ d.leaves, Step.prepend (.item (i + j)) m = l := by
  induction items generalizing i with
  | nil => simp [itemLeaves]
  | cons d rest ih =>
    rw [itemLeaves, List.mem_append, List.mem_map, ih]
    constructor
    · rintro (h | ⟨j, e, he, h⟩)
      · exact ⟨0, d, rfl, h⟩
      · exact ⟨j + 1, e, by simpa using he, by rwa [show i + (j + 1) = i + 1 + j by omega]⟩
    · rintro ⟨j, e, he, h⟩
      cases j with
      | zero =>
        cases he
        exact .inl h
      | succ j =>
        exact .inr ⟨j, e, by simpa using he, by rwa [show i + 1 + j = i + (j + 1) by omega]⟩

theorem leaves_ne_nil (doc : Json) : doc.leaves ≠ [] := by
  induction doc using Json.induction with
  | array items ih =>
    cases items with
    | nil => simp [leaves]
    | cons d ds => simp [leaves, itemLeaves, ih d]
  | object fields ih =>
    cases fields with
    | nil => simp [leaves]
    | cons f fs => simp [leaves, fieldLeaves, ih f]
  | _ => simp [leaves]

theorem mem_leaves_of_mem_entries {doc : Json} {l : Location × Json} (h : l ∈ doc.entries) :
    l ∈ doc.leaves ∧ l.1 ≠ [] := by
  cases doc with
  | array items =>
    obtain ⟨j, d, hd, m, hm, rfl⟩ := mem_itemLeaves.1 h
    cases items with
    | nil => cases hd
    | cons d ds => exact ⟨h, by simp [Step.prepend]⟩
  | object fields =>
    obtain ⟨f, hf, m, hm, rfl⟩ := mem_fieldLeaves.1 h
    cases fields with
    | nil => cases hf
    | cons f fs => exact ⟨h, by simp [Step.prepend]⟩
  | _ => cases h

/-- What every container in memory satisfies: no key is there twice, and a length is an integer
of 64 bits. -/
def Proper : Json → Prop
  | object fields => (fields.map Prod.fst).Nodup
  | array items => items.length ≤ Integer.maximum
  | _ => True

theorem get?_of_mem_leaves {doc : Json} (h : doc.Throughout Proper) {l : Location × Json}
    (hl : l ∈ doc.leaves) : doc.get? l.1 = some l.2 := by
  induction doc using Json.induction generalizing l with
  | array items ih =>
    cases items with
    | nil =>
      obtain rfl := List.mem_singleton.1 hl
      rfl
    | cons d ds =>
      obtain ⟨j, e, he, m, hm, rfl⟩ := mem_itemLeaves.1 hl
      have hchild : (array (d :: ds)).child? (.item (0 + j)) = some e := by
        rw [Nat.zero_add]
        exact he
      rw [Step.prepend, get?_cons, hchild]
      exact ih e (List.mem_of_getElem? he) (h.child hchild) hm
  | object fields ih =>
    cases fields with
    | nil =>
      obtain rfl := List.mem_singleton.1 hl
      rfl
    | cons f fs =>
      obtain ⟨g, hg, m, hm, rfl⟩ := mem_fieldLeaves.1 hl
      have hchild : (object (f :: fs)).child? (.field g.1) = some g.2 :=
        Fields.find?_of_mem h.self hg
      rw [Step.prepend, get?_cons, hchild]
      exact ih g hg (h.child hchild) hm
  | _ =>
    obtain rfl := List.mem_singleton.1 hl
    rfl

/-- No key of an object is empty. -/
def Keyed : Json → Prop
  | object fields => "" ∉ fields.map Prod.fst
  | _ => True

def Step.accessor : Step → Path.Accessor
  | .field k => .key k
  | .item i => .index i

end Json

namespace Path

open Json

theorem step_accessor (s : Step) (doc : Json) : s.accessor.step doc = s := by
  cases s <;> simp [Step.accessor, Accessor.step]

theorem under_accessor (s : Step) (doc : Json) :
    s.accessor.under doc = (doc.child? s).getD .null := by
  rw [Accessor.under, step_accessor]

theorem spellable_of_child? {doc d : Json} {s : Step} (hp : Proper doc) (hk : Keyed doc)
    (h : doc.child? s = some d) : s.accessor.Spellable := by
  cases s with
  | field k =>
    cases doc with
    | object fields =>
      have hmem : k ∈ fields.map Prod.fst := List.mem_map_of_mem (Fields.mem_of_find? h)
      rintro rfl
      exact hk hmem
    | _ => cases h
  | item i =>
    cases doc with
    | array items =>
      have hlen : items.length ≤ Integer.maximum := hp
      obtain ⟨hi, -⟩ := List.getElem?_eq_some_iff.1 h
      simp only [Step.accessor, Accessor.Spellable, Integer.InRange, Integer.minimum]
      omega
    | _ => cases h

theorem spellable_of_get? {doc d : Json} {q : Location} (hp : doc.Throughout Proper)
    (hk : doc.Throughout Keyed) (h : doc.get? q = some d) : ∀ s ∈ q, s.accessor.Spellable := by
  induction q generalizing doc with
  | nil => simp
  | cons s q ih =>
    obtain ⟨e, he, hd⟩ := Option.bind_eq_some_iff.1 h
    intro t ht
    rcases List.mem_cons.1 ht with rfl | ht
    · exact spellable_of_child? hp.self hk.self he
    · exact ih (hp.child he) (hk.child he) hd t ht

def fill : List (Location × Json) → Json → Except Failure Json
  | [], doc => .ok doc
  | (q, v) :: rest, doc => (write v (q.map Step.accessor) doc).bind (fill rest)

theorem fill_append (ls ms : List (Location × Json)) (doc : Json) :
    fill (ls ++ ms) doc = (fill ls doc).bind (fill ms) := by
  induction ls generalizing doc with
  | nil => rfl
  | cons l ls ih =>
    simp only [List.cons_append, fill]
    cases write l.2 (l.1.map Step.accessor) doc with
    | error f => rfl
    | ok d => exact ih d

theorem fits_put (s : Step) (doc child : Json) : s.accessor.Fits (put doc s child) where
  kind := by cases s <;> exact .inr rfl
  reach := by
    rintro i hi
    cases s with
    | field k => cases hi
    | item j =>
      cases hi
      have hlen : (put doc (.item j) child).length = max ((items? doc).getD []).length (j + 1) := by
        simp [put, Json.length, length_pad]
      omega

theorem fill_prepend {ls : List (Location × Json)} {s : Step} {doc after : Json} (hne : ls ≠ [])
    (hs : s.accessor.Fits doc) (h : fill ls (s.accessor.under doc) = .ok after) :
    fill (ls.map s.prepend) doc = .ok (put doc s after) := by
  induction ls generalizing doc with
  | nil => exact absurd rfl hne
  | cons l ls ih =>
    obtain ⟨child, hc, hrest⟩ := Except.bind_eq_ok.1 h
    have hw : write l.2 ((s.prepend l).1.map Step.accessor) doc = .ok (put doc s child) :=
      write_cons_eq_ok.2 ⟨refusal?_eq_none.2 hs, child, hc, by rw [step_accessor]⟩
    have hcons : fill ((l :: ls).map s.prepend) doc =
        fill (ls.map s.prepend) (put doc s child) := by
      rw [List.map_cons]
      show (write l.2 ((s.prepend l).1.map Step.accessor) doc).bind _ = _
      rw [hw]
      rfl
    rw [hcons]
    cases ls with
    | nil =>
      cases hrest
      rfl
    | cons m ls =>
      have hu : s.accessor.under (put doc s child) = child := by simp [under_accessor]
      rw [ih (by simp) (fits_put s doc child) (by rw [hu]; exact hrest), put_put]

theorem fill_fieldLeaves {fields done : List (String × Json)} {doc : Json}
    (hd : fields? doc = some done) (hne : fields ≠ [])
    (hn : ((done ++ fields).map Prod.fst).Nodup)
    (h : ∀ f ∈ fields, fill f.2.leaves .null = .ok f.2) :
    fill (fieldLeaves fields) doc = .ok (.object (done ++ fields)) := by
  induction fields generalizing done doc with
  | nil => exact absurd rfl hne
  | cons f rest ih =>
    have hnew : f.1 ∉ done.map Prod.fst := by
      intro hmem
      rw [List.map_append, List.nodup_append] at hn
      exact hn.2.2 _ hmem _ (by simp) rfl
    have hs : (Step.field f.1).accessor.Fits doc := by
      refine ⟨?_, fun i hi => by cases hi⟩
      exact exists_fields?.1 ⟨done, hd⟩
    have hu : (Step.field f.1).accessor.under doc = .null := by
      rw [under_accessor, child?_field hd, Fields.find?_of_notMem hnew]
      rfl
    have hput : put doc (.field f.1) f.2 = .object (done ++ [f]) := by
      simp [put, hd, Fields.insert_of_notMem hnew]
    have hfirst := fill_prepend (leaves_ne_nil f.2) hs (by rw [hu]; exact h f (by simp))
    rw [fieldLeaves, fill_append, hfirst, hput]
    cases rest with
    | nil => rfl
    | cons g rest =>
      have hn' : ((done ++ [f] ++ g :: rest).map Prod.fst).Nodup := by simpa using hn
      have hrest := ih (fields?_object (done ++ [f])) (by simp) hn'
        fun e he => h e (List.mem_cons_of_mem f he)
      rw [List.append_assoc] at hrest
      exact hrest

theorem fill_itemLeaves {items done : List Json} {doc : Json} (hd : items? doc = some done)
    (hne : items ≠ []) (h : ∀ d ∈ items, fill d.leaves .null = .ok d) :
    fill (itemLeaves done.length items) doc = .ok (.array (done ++ items)) := by
  induction items generalizing done doc with
  | nil => exact absurd rfl hne
  | cons d rest ih =>
    have hlen : doc.length = done.length := by simp [Json.length, hd]
    have hs : (Step.item done.length).accessor.Fits doc := by
      refine ⟨exists_items?.1 ⟨done, hd⟩, fun i hi => ?_⟩
      cases hi
      omega
    have hu : (Step.item done.length).accessor.under doc = .null := by
      rw [under_accessor, child?_item hd]
      simp
    have hput : put doc (.item done.length) d = .array (done ++ [d]) := by
      simp [put, hd, set_pad_length]
    have hfirst := fill_prepend (leaves_ne_nil d) hs (by rw [hu]; exact h d (by simp))
    rw [itemLeaves, fill_append, hfirst, hput]
    cases rest with
    | nil => rfl
    | cons e rest =>
      have hrest := ih (items?_array (done ++ [d])) (by simp)
        fun c hc => h c (List.mem_cons_of_mem d hc)
      rw [List.length_append, List.length_singleton, List.append_assoc] at hrest
      exact hrest

theorem fill_leaves {doc : Json} (h : doc.Throughout Proper) : fill doc.leaves .null = .ok doc := by
  induction doc using Json.induction with
  | array items ih =>
    cases items with
    | nil => rfl
    | cons d ds =>
      have hnull : items? .null = some [] := rfl
      exact fill_itemLeaves hnull (by simp) fun e he => ih e he (h.of_mem he)
  | object fields ih =>
    cases fields with
    | nil => rfl
    | cons f fs =>
      have hnull : fields? .null = some [] := rfl
      exact fill_fieldLeaves hnull (by simp) h.self fun g hg => ih g hg (h.of_mem_fields h.self hg)
  | _ => rfl

/-- The leaves below the root of a document, each with the text of the path that leads to it. -/
def pairs (doc : Json) : List (String × Json) :=
  doc.entries.map fun l => (spell (l.1.map Step.accessor), l.2)

theorem assign_spell {as : List Accessor} {doc value after : Json} (hne : as ≠ [])
    (h : ∀ a ∈ as, a.Spellable) (hw : write value as doc = .ok after) :
    assign doc (spell as) value = .ok after := by
  obtain ⟨segments, hs, ha⟩ := parse_spell hne h
  exact assign_eq_ok.2 ⟨segments, hs, by rwa [ha]⟩

theorem build_of_fill {ls : List (Location × Json)} {doc after : Json}
    (h : ∀ l ∈ ls, l.1 ≠ [] ∧ ∀ s ∈ l.1, s.accessor.Spellable) (hf : fill ls doc = .ok after) :
    build doc (ls.map fun l => (spell (l.1.map Step.accessor), l.2)) = .ok after := by
  induction ls generalizing doc with
  | nil =>
    cases hf
    rfl
  | cons l ls ih =>
    obtain ⟨child, hw, hrest⟩ := Except.bind_eq_ok.1 hf
    obtain ⟨hne, hs⟩ := h l (by simp)
    have hsp : ∀ a ∈ l.1.map Step.accessor, a.Spellable := by
      intro a ha
      obtain ⟨s, hm, rfl⟩ := List.mem_map.1 ha
      exact hs s hm
    have ha := assign_spell (by simpa using hne) hsp hw
    simp only [List.map_cons, build, ha]
    exact ih (fun m hm => h m (List.mem_cons_of_mem l hm)) hrest

theorem build_pairs {doc : Json} (hp : doc.Throughout Proper) (hk : doc.Throughout Keyed)
    (he : doc.entries = doc.leaves) : build .null (pairs doc) = .ok doc := by
  refine build_of_fill (fun l hl => ?_) (by rw [he]; exact fill_leaves hp)
  obtain ⟨hm, hne⟩ := mem_leaves_of_mem_entries hl
  exact ⟨hne, spellable_of_get? hp hk (get?_of_mem_leaves hp hm)⟩

theorem unwrap_of_notMem {fields : List (String × Json)} (h : "" ∉ fields.map Prod.fst) :
    unwrap fields = .object fields := by
  refine unwrap_of_ne fun items hf => ?_
  simp [hf] at h

/-- Every object, and every array with an item, is assembled from the paths to its leaves. -/
theorem assemble_pairs {doc : Json} (hp : doc.Throughout Proper) (hk : doc.Throughout Keyed)
    (hr : doc.kind = .object ∨ ∃ items, items ≠ [] ∧ doc = .array items) :
    ∃ fields, assemble (pairs doc) = .ok fields ∧ unwrap fields = doc := by
  rcases hr with hobj | ⟨items, hne, rfl⟩
  · cases doc with
    | object fields =>
      cases fields with
      | nil => exact ⟨[], rfl, rfl⟩
      | cons f fs =>
        refine ⟨f :: fs, ?_, unwrap_of_notMem hk.self⟩
        rw [assemble, build_pairs hp hk rfl]
        rfl
    | _ => cases hobj
  · obtain ⟨d, ds, rfl⟩ := List.exists_cons_of_ne_nil hne
    refine ⟨[("", .array (d :: ds))], ?_, rfl⟩
    rw [assemble, build_pairs hp hk rfl]
    rfl

theorem assemble_pairs_integer_keys :
    let doc : Json := .object [("\\5", .array [.null, .object [("+5", .null)]]), ("]", .null)]
    doc.Throughout Proper ∧ doc.Throughout Keyed ∧ doc.kind = .object ∧
      pairs doc = [("\\\\5[0]", .null), ("\\\\5[1][\\+5]", .null), ("\\]", .null)] ∧
      ∃ fields, assemble (pairs doc) = .ok fields ∧ unwrap fields = doc := by
  have hall : ∀ P : Json → Prop, P .null → P (.object [("+5", .null)]) →
      P (.array [.null, .object [("+5", .null)]]) →
      P (.object [("\\5", .array [.null, .object [("+5", .null)]]), ("]", .null)]) →
      Throughout P (.object [("\\5", .array [.null, .object [("+5", .null)]]), ("]", .null)]) := by
    intro P hn hi ha ho
    have hnull : Throughout P .null := throughout_null hn
    have hinner : Throughout P (.object [("+5", .null)]) := throughout_object hi (by simpa)
    have harray : Throughout P (.array [.null, .object [("+5", .null)]]) :=
      throughout_array ha (by simp [hnull, hinner])
    exact throughout_object ho (by simp [hnull, harray])
  have hp := hall Proper trivial (by simp [Proper]) (by simp [Proper, Integer.maximum])
    (by simp [Proper])
  have hk := hall Keyed trivial (by simp [Keyed]) trivial (by simp [Keyed])
  exact ⟨hp, hk, rfl, by cbv, assemble_pairs hp hk (.inl rfl)⟩

end Path

end Courier
