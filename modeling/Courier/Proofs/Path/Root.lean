import Courier.Proofs.Path.Outcome

/-! The root of a document. A write enters it with the first accessor of its path, so the paths of
a run agree on the kind of container that the root is, and the root keeps every key it gets. The
first pair decides on the kind, and a path that enters the other kind ends the run. -/

namespace Courier

namespace Path

open Json

/-- The accessor with which a path enters the document. -/
def rootAccessor? (source : String) : Option Accessor :=
  match parse source with
  | .ok segments => (accessors segments).head?
  | .error _ => none

/-- Keys enter objects, brackets arrays. -/
def Enters (source : String) (k : Json.Kind) : Prop :=
  ∃ a, rootAccessor? source = some a ∧ a.container = k

theorem Enters.unique {source : String} {j k : Json.Kind} (hj : Enters source j)
    (hk : Enters source k) : j = k := by
  obtain ⟨a, ha, rfl⟩ := hj
  obtain ⟨b, hb, rfl⟩ := hk
  rw [Option.some.inj (ha.symm.trans hb)]

theorem Enters.cases {source : String} {k : Json.Kind} (h : Enters source k) :
    k = .object ∨ k = .array := by
  obtain ⟨a, -, rfl⟩ := h
  cases a <;> simp [Accessor.container]

theorem rootAccessor?_of_parse {source : String} {segments : List Segment}
    (h : parse source = .ok segments) :
    ∃ a rest, accessors segments = a :: rest ∧ rootAccessor? source = some a := by
  obtain ⟨s, ss, rfl⟩ : ∃ s ss, segments = s :: ss := by
    rcases parse_cases h with ⟨-, rfl⟩ | ⟨-, s, rest, rfl, -⟩ <;> exact ⟨_, _, rfl⟩
  obtain ⟨a, ha⟩ := exists_access_of_parse h s (by simp)
  exact ⟨a, accessors ss, accessors_cons ha ss, by simp [rootAccessor?, h, accessors_cons ha]⟩

theorem Spelled.key_ne_empty {s : Segment} {k : String} (h : Spelled s)
    (ht : ∀ t ∈ s.tokens, t.value ≠ "") (hk : s.action = .access (.key k)) : k ≠ "" := by
  cases h with
  | literal =>
    cases hk
    exact ht _ (by simp [Segment.access])
  | key =>
    cases hk
    exact ht _ (by simp [Segment.access])
  | append | index => cases hk

theorem rootAccessor?_eq_key_empty {source : String} :
    rootAccessor? source = some (.key "") ↔ source = "" := by
  constructor
  · intro h
    by_contra hne
    cases hp : parse source with
    | error e => simp [rootAccessor?, hp] at h
    | ok segments =>
      obtain ⟨s, rest, rfl, hs⟩ := parse_sound hne hp
      obtain ⟨a, ha⟩ := exists_access_of_parse hp s (by simp)
      obtain rfl : a = .key "" := by simpa [rootAccessor?, hp, accessors_cons ha] using h
      refine (hs.spelled s (by simp)).key_ne_empty (fun t ht => ?_) ha rfl
      have hm : t ∈ tokenize source := by simp [← hs.tokens, ht]
      exact value_ne_empty_of_mem_tokenize hm
  · rintro rfl
    rfl

theorem assign_enters {doc value after : Json} {source : String}
    (h : assign doc source value = .ok after) :
    ∃ a child, rootAccessor? source = some a ∧ doc.Admits a.container ∧
      after = put doc (a.step doc) child := by
  obtain ⟨segments, hs, hw⟩ := assign_eq_ok.1 h
  obtain ⟨a, rest, ha, he⟩ := rootAccessor?_of_parse hs
  rw [ha] at hw
  obtain ⟨hr, child, -, rfl⟩ := write_cons_eq_ok.1 hw
  have hd := admits_of_refusal?_eq_none hr
  rw [Accessor.container_step] at hd
  exact ⟨a, child, he, hd, rfl⟩

theorem assign_empty {doc value after : Json} (h : assign doc "" value = .ok after) :
    after = put doc (.field "") value := by
  obtain ⟨segments, hs, hw⟩ := assign_eq_ok.1 h
  rw [parse_empty] at hs
  obtain rfl := Except.ok.inj hs
  obtain ⟨-, child, hc, rfl⟩ := write_cons_eq_ok.1 hw
  rw [← Except.ok.inj hc]
  rfl

theorem isSome_child?_put {doc : Json} {s t : Step} (hs : doc.Admits s.container)
    (h : (doc.child? t).isSome) (child : Json) : ((put doc s child).child? t).isSome := by
  by_cases ht : t = s
  · rw [ht, child?_put_self]
    rfl
  · rcases child?_put_of_ne hs ht child with he | ⟨hn, -⟩
    · rwa [he]
    · simp [hn] at h

/-- The root is what every path enters, and was so before the run unless it was `null`. -/
theorem kind_of_build {doc after : Json} {pairs : List (String × Json)} (hne : pairs ≠ [])
    (h : build doc pairs = .ok after) :
    doc.Admits after.kind ∧ ∀ p ∈ pairs, Enters p.1 after.kind := by
  induction pairs generalizing doc with
  | nil => exact absurd rfl hne
  | cons p rest ih =>
    obtain ⟨mid, hm, hb⟩ := build_cons_eq_ok.1 h
    obtain ⟨a, child, ha, hd, hmid⟩ := assign_enters hm
    have hk : mid.kind = a.container := by rw [hmid, kind_put, Accessor.container_step]
    have hlast : mid.kind = after.kind ∧ ∀ q ∈ rest, Enters q.1 after.kind := by
      by_cases hr : rest = []
      · subst hr
        cases hb
        exact ⟨rfl, by simp⟩
      · obtain ⟨hm, hq⟩ := ih hr hb
        -- What was put is a container, so the rest of the run cannot start over from `null`.
        refine ⟨hm.resolve_left ?_, hq⟩
        rintro rfl
        cases a <;> cases hk
    obtain ⟨hkind, hq⟩ := hlast
    rw [hk] at hkind
    refine ⟨by rwa [← hkind], ?_⟩
    rintro q (_ | ⟨_, hmem⟩)
    · exact ⟨a, ha, hkind⟩
    · exact hq q hmem

theorem build_keeps {doc after : Json} {pairs : List (String × Json)}
    (h : build doc pairs = .ok after) {t : Step} (ht : (doc.child? t).isSome) :
    (after.child? t).isSome := by
  induction pairs generalizing doc with
  | nil =>
    cases h
    exact ht
  | cons p rest ih =>
    obtain ⟨mid, hm, hb⟩ := build_cons_eq_ok.1 h
    obtain ⟨a, child, -, hd, rfl⟩ := assign_enters hm
    rw [← Accessor.container_step a doc] at hd
    exact ih hb (isSome_child?_put hd ht child)

theorem build_has_key {doc after : Json} {pairs : List (String × Json)}
    (h : build doc pairs = .ok after) {p : String × Json} (hp : p ∈ pairs) {k : String}
    (hk : rootAccessor? p.1 = some (.key k)) : (after.child? (.field k)).isSome := by
  induction pairs generalizing doc with
  | nil => cases hp
  | cons q rest ih =>
    obtain ⟨mid, hm, hb⟩ := build_cons_eq_ok.1 h
    rcases List.mem_cons.1 hp with rfl | hp
    · obtain ⟨a, child, ha, -, rfl⟩ := assign_enters hm
      obtain rfl : Accessor.key k = a := Option.some.inj (hk.symm.trans ha)
      refine build_keeps hb ?_
      rw [Accessor.step, child?_put_self]
      rfl
    · exact ih hb hp

theorem exists_fields?_of_build {pairs : List (String × Json)} {doc : Json}
    (h : build .null pairs = .ok doc) (hk : ∀ p ∈ pairs, Enters p.1 .object) :
    ∃ fields, fields? doc = some fields := by
  rw [exists_fields?]
  cases pairs with
  | nil =>
    cases h
    exact .inl rfl
  | cons p rest =>
    have hp := (kind_of_build (List.cons_ne_nil p rest) h).2 p (by simp)
    exact .inr (hp.unique (hk p (by simp)))

theorem wrap_of_fields? {doc : Json} {fields : List (String × Json)}
    (h : fields? doc = some fields) : wrap doc = fields := by
  cases doc with
  | null =>
    cases h
    rfl
  | object =>
    cases h
    rfl
  | _ => cases h

theorem build_empty {doc after : Json} {pairs : List (String × Json)} {last : Json}
    (h : build doc pairs = .ok after) (he : ∀ p ∈ pairs, p.1 = "")
    (hl : pairs.getLast?.map Prod.snd = some last) : after = put doc (.field "") last := by
  induction pairs generalizing doc with
  | nil => cases hl
  | cons p rest ih =>
    obtain ⟨source, value⟩ := p
    obtain ⟨mid, hm, hb⟩ := build_cons_eq_ok.1 h
    obtain rfl : source = "" := he (source, value) (by simp)
    obtain rfl := assign_empty hm
    cases rest with
    | nil =>
      cases hb
      cases hl
      rfl
    | cons q rest =>
      rw [ih hb (fun r hr => he r (List.mem_cons_of_mem _ hr)) (by simpa using hl), put_put]

theorem kind_of_build_build {pairs rest : List (String × Json)} {doc after : Json}
    (hne : pairs ≠ []) (h : build .null pairs = .ok doc) (ha : build doc rest = .ok after) :
    after.kind = doc.kind := by
  by_cases hr : rest = []
  · subst hr
    cases ha
    rfl
  · obtain ⟨p, hp⟩ := List.exists_mem_of_ne_nil pairs hne
    have hdoc := (kind_of_build hne h).2 p hp
    obtain ⟨hnull | hk, -⟩ := kind_of_build hr ha
    · subst hnull
      rcases hdoc.cases with hk | hk <;> cases hk
    · exact hk.symm

theorem build_take {pairs : List (String × Json)} {doc : Json} (h : build .null pairs = .ok doc)
    {n : Nat} (hn : 0 < n) (hle : n ≤ pairs.length) :
    ∃ mid, build .null (pairs.take n) = .ok mid ∧ mid.kind = doc.kind := by
  rw [← List.take_append_drop n pairs, build_append] at h
  obtain ⟨mid, hm, hd⟩ := Except.bind_eq_ok.1 h
  have hne : pairs.take n ≠ [] := by
    rw [← List.length_pos_iff, List.length_take]
    omega
  exact ⟨mid, hm, (kind_of_build_build hne hm hd).symm⟩

theorem assign_not_enters {source : String} {segments : List Segment} {doc : Json}
    (h : parse source = .ok segments) (hd : doc ≠ .null) (he : ¬ Enters source doc.kind)
    (value : Json) :
    ∃ s a, segments.head? = some s ∧ s.action = .access a ∧
      assign doc source value = .error ⟨source, Failure.span s, .wrongType a "" doc.kind⟩ := by
  obtain ⟨a, rest, ha, hr⟩ := rootAccessor?_of_parse h
  have hk : ¬ doc.Admits a.container := by
    rintro (hnull | hk)
    · exact hd hnull
    · exact he ⟨a, hr, hk.symm⟩
  cases segments with
  | nil => cases ha
  | cons s ss =>
    obtain ⟨b, hb⟩ := exists_access_of_parse h s (by simp)
    obtain rfl : b = a := by
      rw [accessors_cons hb] at ha
      exact (List.cons.inj ha).1
    refine ⟨s, b, rfl, hb, ?_⟩
    have hu : FirstUnfit (s :: ss) doc 0 s b :=
      ⟨rfl, hb, fun m hm => absurd hm (Nat.not_lt_zero m), fun hf => hk hf.kind⟩
    rw [assign_eq_error value h hu (refusal?_of_not_admits hk)]
    simp [Failure.explain, Segment.accessor?, hb, standing, reached, reconstruct, accessors]

/-- The first pair fixes the kind of the root for the whole run: all paths enter it, and after each
pair the document is of this kind. A path that parses but enters the other kind ends the run. No
value, not even `null`, makes a root of another kind. -/
theorem assemble_fixes_root :
    (∀ pairs fields, assemble pairs = .ok fields →
      ∃ k, (k = .object ∨ k = .array) ∧ (∀ p ∈ pairs, Enters p.1 k) ∧
        ∀ n, 0 < n → n ≤ pairs.length →
          ∃ doc, build .null (pairs.take n) = .ok doc ∧ doc.kind = k) ∧
    (∀ pairs fields k source segments, pairs ≠ [] → assemble pairs = .ok fields →
      (∀ p ∈ pairs, Enters p.1 k) → parse source = .ok segments → ¬ Enters source k →
      ∀ value rest, ∃ s a e, segments.head? = some s ∧ s.action = .access a ∧
        e = ⟨source, Failure.span s, .wrongType a "" k⟩ ∧ e.problem.category = .mismatch ∧
        assemble (pairs ++ (source, value) :: rest) = .error e) ∧
    ∀ pairs rest doc after, pairs ≠ [] → build .null pairs = .ok doc → build doc rest = .ok after →
      after.kind = doc.kind := by
  refine ⟨fun pairs fields h => ?_, ?_, fun _ _ _ _ => kind_of_build_build⟩
  · obtain ⟨doc, hb, -⟩ := Except.map_eq_ok.1 h
    by_cases hne : pairs = []
    · subst hne
      exact ⟨.object, .inl rfl, by simp, fun n hn hle => absurd hle (Nat.not_le_of_lt hn)⟩
    · obtain ⟨-, hp⟩ := kind_of_build hne hb
      obtain ⟨p, hm⟩ := List.exists_mem_of_ne_nil pairs hne
      exact ⟨doc.kind, (hp p hm).cases, hp, fun n => build_take hb⟩
  · intro pairs fields k source segments hne h hk hs hnot value rest
    obtain ⟨doc, hb, -⟩ := Except.map_eq_ok.1 h
    obtain ⟨p, hm⟩ := List.exists_mem_of_ne_nil pairs hne
    have hdoc := (kind_of_build hne hb).2 p hm
    obtain rfl := hdoc.unique (hk p hm)
    have hnull : doc ≠ .null := by
      rintro rfl
      rcases hdoc.cases with hz | hz <;> cases hz
    obtain ⟨s, a, hhead, ha, he⟩ := assign_not_enters hs hnull hnot value
    refine ⟨s, a, _, hhead, ha, rfl, rfl, ?_⟩
    rw [assemble, build_append, hb]
    simp [Except.bind, Except.map, build, he]

theorem assemble_fixes_root_null :
    let pairs : List (String × Json) := [("[1]", .null), ("[]", .object [("a", .null)])]
    let fields : List (String × Json) := [("", .array [.null, .null, .object [("a", .null)]])]
    let e : Error := ⟨"a[b]", some (.range 0 1), .wrongType (.key "a") "" .array⟩
    (assemble pairs = .ok fields ∧ (∀ p ∈ pairs, Enters p.1 .array) ∧
      ∀ n, 0 < n → n ≤ 2 → ∃ doc, build .null (pairs.take n) = .ok doc ∧ doc.kind = .array) ∧
    (¬ Enters "a[b]" .array ∧ assemble (pairs ++ [("a[b]", .null), ("[]", .null)]) = .error e) ∧
    ∃ doc after, build .null pairs = .ok doc ∧ build doc [("[0]", .null)] = .ok after ∧
      after.kind = doc.kind := by
  intro pairs fields e
  obtain ⟨hfirst, hother, hlater⟩ := assemble_fixes_root
  have hf : assemble pairs = .ok fields := by cbv
  have hb : Enters "[1]" .array := ⟨.index 1, by cbv, rfl⟩
  have hnot : ¬ Enters "a[b]" .array := by
    intro h
    have ho : Enters "a[b]" .object := ⟨.key "a", by cbv, rfl⟩
    cases h.unique ho
  obtain ⟨k, -, hk, htake⟩ := hfirst pairs fields hf
  obtain rfl : k = .array := (hk ("[1]", .null) (by simp [pairs])).unique hb
  have hp : parse "a[b]" = .ok [.access (.key "a") [⟨.text, "a", 0, 1⟩] true,
      .access (.key "b") [⟨.left, "[", 1, 2⟩, ⟨.text, "b", 2, 3⟩, ⟨.right, "]", 3, 4⟩] false] := by
    cbv
  obtain ⟨s, a, _, hs, ha, rfl, -, he⟩ :=
    hother pairs fields .array "a[b]" _ (by simp [pairs]) hf hk hp hnot .null [("[]", .null)]
  cases hs
  cases ha
  refine ⟨⟨hf, hk, htake⟩, ⟨hnot, he⟩, .array [.null, .null, .object [("a", .null)]],
    .array [.null, .null, .object [("a", .null)]], by cbv, by cbv, ?_⟩
  exact hlater pairs [("[0]", .null)] _ _ (by simp [pairs]) (by cbv) (by cbv)

end Path

end Courier
