import Courier.Proofs.Path.Leaves

/-! Writes whose paths part at different keys or different indices. They may change places: each
leaves alone what the other one reads, and all that tells which came first is the order in which the
object where they part got its keys. -/

namespace Courier

namespace Fields

theorem insert_insert_perm {α : Type} {key other : String} (h : key ≠ other) (v w : α)
    (fields : List (String × α)) :
    (insert other w (insert key v fields)).Perm (insert key v (insert other w fields)) := by
  induction fields with
  | nil =>
    simp only [insert, h, h.symm, if_false]
    exact List.Perm.swap (other, w) (key, v) []
  | cons f rest ih =>
    by_cases hk : f.1 = key
    · simp [insert, hk, h]
    · by_cases ho : f.1 = other
      · simp [insert, ho, h.symm]
      · simpa [insert, hk, ho] using ih

end Fields

namespace Path

open Json

/-- Accessors to different places of a container, whatever it holds. -/
inductive Accessor.Parts : Accessor → Accessor → Prop
  | key {k l : String} (h : k ≠ l) : Parts (.key k) (.key l)
  | index {i j : Int} (h : i ≠ j) : Parts (.index i) (.index j)

/-- Documents that are the same but for the order of the fields of the object at a location. -/
inductive Reordered : Location → Json → Json → Prop
  | fields {one two : List (String × Json)} (h : one.Perm two) :
    Reordered [] (.object one) (.object two)
  | child {q : Location} {one two : Json} (doc : Json) (s : Step) (h : Reordered q one two) :
    Reordered (s :: q) (put doc s one) (put doc s two)

theorem exists_accessor_of_fits {a : Accessor} {doc : Json} (ha : a ≠ .append) (h : a.Fits doc) :
    ∃ s : Step, a = s.accessor := by
  cases a with
  | key k => exact ⟨.field k, rfl⟩
  | index i =>
    obtain ⟨hi, -⟩ := h.reach i rfl
    exact ⟨.item i.toNat, by rw [Step.accessor, Int.toNat_of_nonneg hi]⟩
  | append => exact absurd rfl ha

theorem under_put_self (s : Step) (doc child : Json) :
    s.accessor.under (put doc s child) = child := by
  simp [under_accessor]

theorem under_put_of_ne {s t : Step} {doc : Json} (hd : doc.Admits s.container) (h : t ≠ s)
    (child : Json) : t.accessor.under (put doc s child) = t.accessor.under doc := by
  rw [under_accessor, under_accessor]
  rcases child?_put_of_ne hd h child with he | ⟨hn, hnull, -⟩
  · rw [he]
  · rw [hn, hnull]
    rfl

theorem put_item_comm {i j : Nat} (h : i ≠ j) (doc b c : Json) :
    put (put doc (.item i) b) (.item j) c = put (put doc (.item j) c) (.item i) b := by
  simp only [put, items?_array, Option.getD_some, array.injEq]
  apply List.ext_getElem?
  intro n
  simp only [List.getElem?_set, getElem?_pad, List.length_set, length_pad]
  grind

theorem reordered_put_field {k l : String} (h : k ≠ l) (doc b c : Json) :
    Reordered [] (put (put doc (.field k) b) (.field l) c)
      (put (put doc (.field l) c) (.field k) b) :=
  .fields (Fields.insert_insert_perm h b c _)

def writeTwo (v : Json) (as : List Accessor) (w : Json) (bs : List Accessor) (doc : Json) :
    Except Failure Json :=
  (write v as doc).bind (write w bs)

section

variable {v w doc after other : Json} {as bs shared : List Accessor}

theorem writeTwo_shared_eq_ok {s : Step} :
    writeTwo v (s.accessor :: as) w (s.accessor :: bs) doc = .ok after ↔
      s.accessor.Fits doc ∧ ∃ child, writeTwo v as w bs (s.accessor.under doc) = .ok child ∧
        put doc s child = after := by
  simp only [writeTwo, Except.bind_eq_ok, write_cons_eq_ok, refusal?_eq_none, step_accessor]
  constructor
  · rintro ⟨_, ⟨hf, b, hb, rfl⟩, -, c, hc, rfl⟩
    rw [under_put_self] at hc
    exact ⟨hf, c, ⟨b, hb, hc⟩, (put_put doc s b c).symm⟩
  · rintro ⟨hf, c, ⟨b, hb, hc⟩, rfl⟩
    refine ⟨put doc s b, ⟨hf, b, hb, rfl⟩, fits_put s doc b, c, ?_, put_put doc s b c⟩
    rwa [under_put_self]

/-- Writes that part are a write below each of the two steps, the second step being taken into a
container that has been written to. -/
theorem writeTwo_parted_eq_ok {s t : Step} (h : t ≠ s) :
    writeTwo v (s.accessor :: as) w (t.accessor :: bs) doc = .ok after ↔
      s.accessor.Fits doc ∧ ∃ b, write v as (s.accessor.under doc) = .ok b ∧
        t.accessor.Fits (put doc s b) ∧ ∃ c, write w bs (t.accessor.under doc) = .ok c ∧
          put (put doc s b) t c = after := by
  have hu : s.accessor.Fits doc → ∀ b, t.accessor.under (put doc s b) = t.accessor.under doc := by
    intro hf b
    have hd := admits_of_refusal?_eq_none (refusal?_eq_none.2 hf)
    rw [step_accessor] at hd
    exact under_put_of_ne hd h b
  simp only [writeTwo, Except.bind_eq_ok, write_cons_eq_ok, refusal?_eq_none, step_accessor]
  constructor
  · rintro ⟨_, ⟨hf, b, hb, rfl⟩, ht, c, hc, rfl⟩
    rw [hu hf] at hc
    exact ⟨hf, b, hb, ht, c, hc, rfl⟩
  · rintro ⟨hf, b, hb, ht, c, hc, rfl⟩
    exact ⟨put doc s b, ⟨hf, b, hb, rfl⟩, ht, c, by rwa [hu hf], rfl⟩

theorem exists_accessor_of_writeTwo {a : Accessor} (ha : a ≠ .append)
    (hw : writeTwo v (a :: as) w bs doc = .ok after) : ∃ s : Step, a = s.accessor := by
  obtain ⟨mid, hm, -⟩ := Except.bind_eq_ok.1 hw
  obtain ⟨hr, -⟩ := write_cons_eq_ok.1 hm
  exact exists_accessor_of_fits ha (refusal?_eq_none.1 hr)

theorem Accessor.Fits.any_key {k : String} (h : (Accessor.key k).Fits doc) (l : String) :
    (Accessor.key l).Fits doc where
  kind := h.kind
  reach := by
    rintro i ⟨⟩

theorem writeTwo_swap_key {k l : String} (hn : .append ∉ shared) (h : k ≠ l)
    (hw : writeTwo v (shared ++ .key k :: as) w (shared ++ .key l :: bs) doc = .ok after) :
    ∃ other, writeTwo w (shared ++ .key l :: bs) v (shared ++ .key k :: as) doc = .ok other ∧
      Reordered (target shared doc) after other := by
  induction shared generalizing doc after with
  | nil =>
    have hkl : Step.field l ≠ .field k := by simp [h.symm]
    obtain ⟨hf, b, hb, -, c, hc, rfl⟩ := (writeTwo_parted_eq_ok hkl).1 hw
    have hl : (Step.field l).accessor.Fits doc := hf.any_key l
    have hk : (Step.field k).accessor.Fits (put doc (.field l) c) :=
      Accessor.Fits.any_key (fits_put (.field l) doc c) k
    exact ⟨_, (writeTwo_parted_eq_ok hkl.symm).2 ⟨hl, c, hc, hk, b, hb, rfl⟩,
      reordered_put_field h doc b c⟩
  | cons a shared ih =>
    rw [List.mem_cons, not_or] at hn
    obtain ⟨s, rfl⟩ := exists_accessor_of_writeTwo (Ne.symm hn.1) hw
    obtain ⟨hf, child, hc, rfl⟩ := writeTwo_shared_eq_ok.1 hw
    obtain ⟨other, ho, hr⟩ := ih hn.2 hc
    refine ⟨_, writeTwo_shared_eq_ok.2 ⟨hf, other, ho, rfl⟩, ?_⟩
    rw [target, step_accessor]
    exact .child doc s hr

theorem writeTwo_comm_index {i j : Int} (hn : .append ∉ shared) (h : i ≠ j)
    (hw : writeTwo v (shared ++ .index i :: as) w (shared ++ .index j :: bs) doc = .ok after)
    (ho : writeTwo w (shared ++ .index j :: bs) v (shared ++ .index i :: as) doc = .ok other) :
    after = other := by
  induction shared generalizing doc after other with
  | nil =>
    obtain ⟨s, hs⟩ := exists_accessor_of_writeTwo (by simp) hw
    obtain ⟨t, ht⟩ := exists_accessor_of_writeTwo (by simp) ho
    rw [List.nil_append, List.nil_append, hs, ht] at hw ho
    have hst : t ≠ s := by
      rintro rfl
      exact h (Accessor.index.inj (hs.trans ht.symm))
    obtain ⟨-, b, hb, -, c, hc, rfl⟩ := (writeTwo_parted_eq_ok hst).1 hw
    obtain ⟨-, c', hc', -, b', hb', rfl⟩ := (writeTwo_parted_eq_ok hst.symm).1 ho
    obtain rfl := Except.ok.inj (hb.symm.trans hb')
    obtain rfl := Except.ok.inj (hc.symm.trans hc')
    cases s with
    | field k => cases hs
    | item m =>
      cases t with
      | field k => cases ht
      | item n => exact put_item_comm (fun he => hst (by rw [he])) doc b c
  | cons a shared ih =>
    rw [List.mem_cons, not_or] at hn
    obtain ⟨s, rfl⟩ := exists_accessor_of_writeTwo (Ne.symm hn.1) hw
    obtain ⟨-, child, hc, rfl⟩ := writeTwo_shared_eq_ok.1 hw
    obtain ⟨-, child', hc', rfl⟩ := writeTwo_shared_eq_ok.1 ho
    rw [ih hn.2 hc hc']

end

theorem build_two_eq_ok {doc after v w : Json} {pairs : List (String × Json)}
    {source other : String} {segments others : List Segment} (h : build .null pairs = .ok doc)
    (hs : parse source = .ok segments) (ho : parse other = .ok others) :
    build .null (pairs ++ [(source, v), (other, w)]) = .ok after ↔
      writeTwo v (accessors segments) w (accessors others) doc = .ok after := by
  have hnil : ∀ d, build d [] = .ok after ↔ d = after := by simp [build]
  rw [build_append, h, writeTwo]
  simp only [Except.bind_eq_ok, Except.ok.injEq, exists_eq_left', build_cons_eq_ok, assign_eq_ok,
    hs, ho, hnil, exists_eq_right]

/-- Two writes at the end of a run whose paths part at different keys or indices. If at keys, they
succeed in one order exactly if they do in the other. Where they succeed in both, the documents are
the same, but for the order of the fields of the object at whose keys the paths part. -/
theorem assemble_swap {pairs fields : List (String × Json)} {source other : String}
    {segments others : List Segment} {shared as bs : List Accessor} {a b : Accessor}
    (h : assemble pairs = .ok fields) (hs : parse source = .ok segments)
    (ho : parse other = .ok others) (ha : accessors segments = shared ++ a :: as)
    (hb : accessors others = shared ++ b :: bs) (hn : .append ∉ shared) (hp : a.Parts b)
    (v w : Json) :
    ∃ doc, build .null pairs = .ok doc ∧
      (∀ k, a = .key k →
        ((∃ f, assemble (pairs ++ [(source, v), (other, w)]) = .ok f) ↔
          ∃ f, assemble (pairs ++ [(other, w), (source, v)]) = .ok f)) ∧
      ∀ f g, assemble (pairs ++ [(source, v), (other, w)]) = .ok f →
        assemble (pairs ++ [(other, w), (source, v)]) = .ok g →
        ∃ d e, build .null (pairs ++ [(source, v), (other, w)]) = .ok d ∧ f = wrap d ∧
          build .null (pairs ++ [(other, w), (source, v)]) = .ok e ∧ g = wrap e ∧
          (∀ k, a = .key k → Reordered (target shared doc) d e) ∧ (∀ i, a = .index i → d = e) := by
  obtain ⟨doc, hd, -⟩ := Except.map_eq_ok.1 h
  refine ⟨doc, hd, ?_, ?_⟩
  · rintro k rfl
    cases hp with
    | key hkl =>
      simp only [assemble, Except.map_eq_ok, build_two_eq_ok hd hs ho, build_two_eq_ok hd ho hs,
        ha, hb]
      constructor
      · rintro ⟨f, d, hw, -⟩
        obtain ⟨e, he, -⟩ := writeTwo_swap_key hn hkl hw
        exact ⟨_, e, he, rfl⟩
      · rintro ⟨f, d, hw, -⟩
        obtain ⟨e, he, -⟩ := writeTwo_swap_key hn hkl.symm hw
        exact ⟨_, e, he, rfl⟩
  · intro f g hf hg
    obtain ⟨d, hd', rfl⟩ := Except.map_eq_ok.1 hf
    obtain ⟨e, he', rfl⟩ := Except.map_eq_ok.1 hg
    refine ⟨d, e, hd', rfl, he', rfl, ?_, ?_⟩
    · rw [build_two_eq_ok hd hs ho, ha, hb] at hd'
      rw [build_two_eq_ok hd ho hs, ha, hb] at he'
      rintro k rfl
      cases hp with
      | key hkl =>
        obtain ⟨e', he'', hr⟩ := writeTwo_swap_key hn hkl hd'
        rwa [Except.ok.inj (he'.symm.trans he'')]
    · rw [build_two_eq_ok hd hs ho, ha, hb] at hd'
      rw [build_two_eq_ok hd ho hs, ha, hb] at he'
      rintro i rfl
      cases hp with
      | index hij => exact writeTwo_comm_index hn hij hd' he'

theorem assemble_swap_padded :
    let pairs : List (String × Json) := [("a[1]", .null)]
    let one : List (String × Json) := [("a[1][k][]", .bool true), ("a[1][l]", .bool false)]
    let two : List (String × Json) := [("a[1][l]", .bool false), ("a[1][k][]", .bool true)]
    let d : Json := .object [("a", .array [.null,
      .object [("k", .array [.bool true]), ("l", .bool false)]])]
    let e : Json := .object [("a", .array [.null,
      .object [("l", .bool false), ("k", .array [.bool true])]])]
    (∃ f, assemble (pairs ++ one) = .ok f) ∧ (∃ f, assemble (pairs ++ two) = .ok f) ∧
      build .null (pairs ++ one) = .ok d ∧ build .null (pairs ++ two) = .ok e ∧
      Reordered [.field "a", .item 1] d e := by
  intro pairs one two d e
  have hf : assemble pairs = .ok [("a", .array [.null, .null])] := by cbv
  have hs : (parse "a[1][k][]").map accessors =
      .ok ([.key "a", .index 1] ++ .key "k" :: [.append]) := by cbv
  have ho : (parse "a[1][l]").map accessors = .ok ([.key "a", .index 1] ++ .key "l" :: []) := by cbv
  have hd : build .null (pairs ++ one) = .ok d := by cbv
  have he : build .null (pairs ++ two) = .ok e := by cbv
  obtain ⟨segments, hs, ha⟩ := Except.map_eq_ok.1 hs
  obtain ⟨others, ho, hb⟩ := Except.map_eq_ok.1 ho
  obtain ⟨doc, hdoc, hiff, heq⟩ := assemble_swap hf hs ho ha hb (by simp) (.key (by simp))
    (.bool true) (.bool false)
  have hone : ∃ f, assemble (pairs ++ one) = .ok f := ⟨wrap d, Except.map_eq_ok.2 ⟨d, hd, rfl⟩⟩
  have htwo : ∃ f, assemble (pairs ++ two) = .ok f := (hiff "k" rfl).1 hone
  obtain ⟨f, hf'⟩ := hone
  obtain ⟨g, hg'⟩ := htwo
  obtain ⟨d', e', hd', -, he', -, hr, -⟩ := heq f g hf' hg'
  obtain rfl := Except.ok.inj (hd.symm.trans hd')
  obtain rfl := Except.ok.inj (he.symm.trans he')
  have hbefore : build .null pairs = .ok (.object [("a", .array [.null, .null])]) := by cbv
  obtain rfl := Except.ok.inj (hbefore.symm.trans hdoc)
  exact ⟨⟨f, hf'⟩, ⟨g, hg'⟩, hd, he, hr "k" rfl⟩

end Path

end Courier
