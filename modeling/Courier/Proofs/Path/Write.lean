import Courier.Proofs.Basic
import Courier.Proofs.Path.Location

/-! The law of a write: the value stands at the location its path addresses, all that is apart from
this location stays, and nothing else comes into being but containers on the way and padding. -/

namespace Courier

namespace Path

open Json

namespace Accessor

/-- An append goes to the place behind the last item. -/
def step (a : Accessor) (doc : Json) : Step :=
  match a with
  | key k => .field k
  | index i => .item i.toNat
  | append => .item doc.length

/-- What stands where the accessor leads, `null` if nothing does. -/
def under (a : Accessor) (doc : Json) : Json := (doc.child? (a.step doc)).getD .null

def refusal? (a : Accessor) (doc : Json) : Option Refusal :=
  if doc.Admits a.container then
    match a with
    | index i =>
      match slot i doc.length with
      | .error r => some r
      | .ok _ => none
    | _ => none
  else some (.wrongType doc.kind)

theorem container_step (a : Accessor) (doc : Json) : (a.step doc).container = a.container := by
  cases a <;> rfl

theorem under_append (doc : Json) : append.under doc = .null := by
  cases doc <;> simp [under, step, child?, Json.length, items?]

end Accessor

theorem slot_eq_ok {i : Int} {n place : Nat} (h : slot i n = .ok place) : place = i.toNat := by
  simp only [slot] at h
  grind

/-- One step of a write: the accessor is refused, or the rest is written below it and put back. -/
theorem write_cons (value : Json) (a : Accessor) (rest : List Accessor) (doc : Json) :
    write value (a :: rest) doc =
      match a.refusal? doc with
      | some r => refuse r
      | none =>
        ((write value rest (a.under doc)).mapError Failure.deeper).map (put doc (a.step doc)) := by
  cases a with
  | key k =>
    by_cases hd : doc.Admits .object
    · obtain ⟨fields, hf⟩ := exists_fields?.2 hd
      have hu : (Accessor.key k).under doc = (Fields.find? k fields).getD .null := by
        rw [Accessor.under, Accessor.step, child?_field hf]
      rw [hu]
      cases hw : write value rest ((Fields.find? k fields).getD .null) <;>
        simp [write, Accessor.refusal?, Accessor.container, Accessor.step, hd, hf, hw, put,
          Except.mapError, Except.map]
    · simp [write, Accessor.refusal?, Accessor.container, hd, fields?_eq_none.2 hd]
  | index i =>
    by_cases hd : doc.Admits .array
    · obtain ⟨items, hf⟩ := exists_items?.2 hd
      have hu : (Accessor.index i).under doc = (items[i.toNat]?).getD .null := by
        rw [Accessor.under, Accessor.step, child?_item hf]
      rw [hu]
      cases hs : slot i items.length with
      | error r => simp [write, Accessor.refusal?, Accessor.container, hd, hf, Json.length, hs]
      | ok place =>
        obtain rfl := slot_eq_ok hs
        cases hw : write value rest ((items[i.toNat]?).getD .null) <;>
          simp [write, Accessor.refusal?, Accessor.container, Accessor.step, hd, hf, hs, hw, put,
            Json.length, Except.mapError, Except.map]
    · simp [write, Accessor.refusal?, Accessor.container, hd, items?_eq_none.2 hd]
  | append =>
    by_cases hd : doc.Admits .array
    · obtain ⟨items, hf⟩ := exists_items?.2 hd
      rw [Accessor.under_append]
      cases hw : write value rest .null <;>
        simp [write, Accessor.refusal?, Accessor.container, Accessor.step, hd, hf, hw, put,
          Json.length, set_pad_length, Except.mapError, Except.map]
    · simp [write, Accessor.refusal?, Accessor.container, hd, items?_eq_none.2 hd]

theorem write_cons_eq_ok {value doc after : Json} {a : Accessor} {rest : List Accessor} :
    write value (a :: rest) doc = .ok after ↔
      a.refusal? doc = none ∧ ∃ child, write value rest (a.under doc) = .ok child ∧
        put doc (a.step doc) child = after := by
  rw [write_cons]
  cases a.refusal? doc with
  | some r => simp [refuse]
  | none => simp [Except.map_eq_ok, Except.mapError_eq_ok]

theorem admits_of_refusal?_eq_none {a : Accessor} {doc : Json} (h : a.refusal? doc = none) :
    doc.Admits (a.step doc).container := by
  rw [Accessor.container_step]
  cases Decidable.em (doc.Admits a.container) with
  | inl hd => exact hd
  | inr hd => simp [Accessor.refusal?, hd] at h

/-- The location that a path addresses in a document. -/
def target : List Accessor → Json → Location
  | [], _ => []
  | a :: rest, doc => a.step doc :: target rest (a.under doc)

/-- A place in front of the one through which an index enters an array. -/
def Padding (as : List Accessor) (w q : Location) : Prop :=
  ∃ p i j r n, w = p ++ .item i :: r ∧ q = p ++ [.item j] ∧ j < i ∧
    as[p.length]? = some (.index n)

theorem Padding.cons {as : List Accessor} {w q : Location} (h : Padding as w q) (a : Accessor)
    (s : Step) : Padding (a :: as) (s :: w) (s :: q) := by
  obtain ⟨p, i, j, r, n, rfl, rfl, hj, ha⟩ := h
  exact ⟨s :: p, i, j, r, n, rfl, rfl, hj, by simpa using ha⟩

theorem padding_of_skipped {a : Accessor} {doc : Json} {i j : Nat} (hi : a.step doc = .item i)
    (hle : doc.length ≤ j) (hlt : j < i) (rest : List Accessor) (w : Location) :
    Padding (a :: rest) (a.step doc :: w) [.item j] := by
  refine ⟨[], i, j, w, ?_⟩
  cases a with
  | key k => cases hi
  | index n => exact ⟨n, by rw [hi]; rfl, rfl, hlt, rfl⟩
  | append =>
    cases hi
    omega

/-- What a write at a path makes of the document `before`. -/
structure Written (as : List Accessor) (value before after : Json) : Prop where
  reads : after.get? (target as before) = some value
  keeps : ∀ q d, before.get? q = some d → ¬ q <+: target as before → ¬ target as before <+: q →
    after.get? q = some d
  adds : ∀ q d, after.get? q = some d → before.get? q = none →
    q <+: target as before ∨ target as before <+: q ∨ Padding as (target as before) q ∧ d = .null
  kinds : ∀ p d, p <+: target as before → p ≠ target as before → before.get? p = some d →
    d.kind = .object ∨ d.kind = .array → ∃ e, after.get? p = some e ∧ e.kind = d.kind

-- Each part of the law by recursion on the path: the step itself, then what is below it.
theorem get?_put_cons (doc : Json) (s : Step) (child : Json) (q : Location) :
    (put doc s child).get? (s :: q) = child.get? q := by
  simp [get?_cons]

/-- Below a step, `null` stands for what does not exist: only at the step itself they differ. -/
theorem get?_under_cons (a : Accessor) (doc : Json) (t : Step) (q : Location) :
    doc.get? (a.step doc :: t :: q) = (a.under doc).get? (t :: q) := by
  rw [get?_cons, Accessor.under]
  cases doc.child? (a.step doc) with
  | none => exact (get?_null_cons t q).symm
  | some d => rfl

theorem write_reads {as : List Accessor} {value before after : Json}
    (h : write value as before = .ok after) : after.get? (target as before) = some value := by
  induction as generalizing before after with
  | nil =>
    cases h
    rfl
  | cons a rest ih =>
    obtain ⟨-, child, hc, rfl⟩ := write_cons_eq_ok.1 h
    rw [target, get?_put_cons]
    exact ih hc

theorem write_keeps {as : List Accessor} {value before after : Json}
    (h : write value as before = .ok after) {q : Location} {d : Json}
    (hq : before.get? q = some d) (hp : ¬ q <+: target as before)
    (he : ¬ target as before <+: q) : after.get? q = some d := by
  induction as generalizing before after q with
  | nil => exact absurd (List.nil_prefix) he
  | cons a rest ih =>
    obtain ⟨hr, child, hc, rfl⟩ := write_cons_eq_ok.1 h
    rw [target] at hp he
    cases q with
    | nil => exact absurd List.nil_prefix hp
    | cons t q =>
      by_cases ht : t = a.step before
      · subst ht
        simp only [List.cons_prefix_cons, true_and] at hp he
        rw [get?_put_cons]
        refine ih hc ?_ hp he
        cases q with
        | nil => exact absurd List.nil_prefix hp
        | cons t q => rwa [← get?_under_cons]
      · obtain ⟨e, hs, hd⟩ := Option.bind_eq_some_iff.1 hq
        rcases child?_put_of_ne (admits_of_refusal?_eq_none hr) ht child with hsame | ⟨hnew, -⟩
        · rw [get?_cons, hsame, hs]
          exact hd
        · rw [hs] at hnew
          cases hnew

theorem write_adds {as : List Accessor} {value before after : Json}
    (h : write value as before = .ok after) {q : Location} {d : Json}
    (hq : after.get? q = some d) (hn : before.get? q = none) :
    q <+: target as before ∨ target as before <+: q ∨
      Padding as (target as before) q ∧ d = .null := by
  induction as generalizing before after q with
  | nil => exact .inr (.inl List.nil_prefix)
  | cons a rest ih =>
    obtain ⟨hr, child, hc, rfl⟩ := write_cons_eq_ok.1 h
    rw [target]
    cases q with
    | nil => exact .inl List.nil_prefix
    | cons t q =>
      by_cases ht : t = a.step before
      · subst ht
        rw [get?_put_cons] at hq
        cases q with
        | nil => exact .inl (List.cons_prefix_cons.2 ⟨rfl, List.nil_prefix⟩)
        | cons t q =>
          rw [get?_under_cons] at hn
          rcases ih hc hq hn with hp | he | ⟨hp, hd⟩
          · exact .inl (List.cons_prefix_cons.2 ⟨rfl, hp⟩)
          · exact .inr (.inl (List.cons_prefix_cons.2 ⟨rfl, he⟩))
          · exact .inr (.inr ⟨hp.cons a _, hd⟩)
      · obtain ⟨e, hs, hd⟩ := Option.bind_eq_some_iff.1 hq
        rcases child?_put_of_ne (admits_of_refusal?_eq_none hr) ht child with
          hsame | ⟨-, hnull, i, j, hi, rfl, hle, hlt⟩
        · rw [get?_cons, ← hsame, hs] at hn
          rw [Option.bind_some, hd] at hn
          cases hn
        · -- The slot is new and empty, so nothing is below it.
          rw [hnull] at hs
          cases hs
          obtain rfl : q = [] := by
            cases q with
            | nil => rfl
            | cons t q =>
              rw [get?_null_cons] at hd
              cases hd
          cases hd
          exact .inr (.inr ⟨padding_of_skipped hi hle hlt rest _, rfl⟩)

theorem write_kinds {as : List Accessor} {value before after : Json}
    (h : write value as before = .ok after) {p : Location} {d : Json}
    (hp : p <+: target as before) (hne : p ≠ target as before) (hd : before.get? p = some d)
    (hk : d.kind = .object ∨ d.kind = .array) :
    ∃ e, after.get? p = some e ∧ e.kind = d.kind := by
  induction as generalizing before after p with
  | nil => exact absurd (List.prefix_nil.1 hp) hne
  | cons a rest ih =>
    obtain ⟨hr, child, hc, rfl⟩ := write_cons_eq_ok.1 h
    rw [target] at hp hne
    cases p with
    | nil =>
      cases hd
      refine ⟨_, rfl, ?_⟩
      rw [kind_put]
      rcases admits_of_refusal?_eq_none hr with rfl | hs
      · simp [kind] at hk
      · exact hs.symm
    | cons t p =>
      obtain ⟨rfl, hp'⟩ := List.cons_prefix_cons.1 hp
      rw [get?_put_cons]
      have hne : p ≠ target rest (a.under before) := fun he => hne (by rw [he])
      obtain ⟨e, hs, he⟩ := Option.bind_eq_some_iff.1 hd
      refine ih hc hp' hne ?_
      simp only [Accessor.under, hs]
      exact he

theorem write_written {as : List Accessor} {value before after : Json}
    (h : write value as before = .ok after) : Written as value before after where
  reads := write_reads h
  keeps _ _ := write_keeps h
  adds _ _ := write_adds h
  kinds _ _ := write_kinds h

theorem assign_eq_ok {doc value after : Json} {source : String} :
    assign doc source value = .ok after ↔
      ∃ segments, parse source = .ok segments ∧
        write value (accessors segments) doc = .ok after := by
  simp only [assign]
  cases parse source with
  | error e => simp
  | ok segments => simp [Except.mapError_eq_ok]

theorem build_cons_eq_ok {doc after value : Json} {source : String}
    {rest : List (String × Json)} :
    build doc ((source, value) :: rest) = .ok after ↔
      ∃ mid, assign doc source value = .ok mid ∧ build mid rest = .ok after := by
  rw [build]
  cases assign doc source value <;> simp

theorem build_concat_eq_ok {doc after value : Json} {pairs : List (String × Json)}
    {source : String} :
    build doc (pairs ++ [(source, value)]) = .ok after ↔
      ∃ before, build doc pairs = .ok before ∧ assign before source value = .ok after := by
  rw [build_append, Except.bind_eq_ok]
  simp only [build_cons_eq_ok]
  simp [build]

/-- Every write at a path text keeps the law, and so does every step of a run over pairs. -/
theorem assign_obeys_law :
    (∀ before source value after, assign before source value = .ok after →
      ∃ segments, parse source = .ok segments ∧
        Written (accessors segments) value before after) ∧
    ∀ pairs source value after, build .null (pairs ++ [(source, value)]) = .ok after →
      ∃ before segments, build .null pairs = .ok before ∧ parse source = .ok segments ∧
        Written (accessors segments) value before after := by
  have hstep : ∀ before source value after, assign before source value = .ok after →
      ∃ segments, parse source = .ok segments ∧
        Written (accessors segments) value before after := by
    intro before source value after h
    obtain ⟨segments, hs, hw⟩ := assign_eq_ok.1 h
    exact ⟨segments, hs, write_written hw⟩
  refine ⟨hstep, fun pairs source value after h => ?_⟩
  obtain ⟨before, hb, ha⟩ := build_concat_eq_ok.1 h
  obtain ⟨segments, hs, hw⟩ := hstep before source value after ha
  exact ⟨before, segments, hb, hs, hw⟩

theorem assign_obeys_law_past_end :
    let before : Json := .object [("a", .array [.bool false])]
    let after : Json := .object [("a", .array [.bool false, .null, .null,
      .object [("b", .bool true)]])]
    (assign before "a[3][b]" (.bool true) = .ok after ∧
      ∃ segments, parse "a[3][b]" = .ok segments ∧
        Written (accessors segments) (.bool true) before after) ∧
    build .null ([("a[]", .bool false)] ++ [("a[3][b]", .bool true)]) = .ok after ∧
      ∃ before segments, build .null [("a[]", .bool false)] = .ok before ∧
        parse "a[3][b]" = .ok segments ∧
        Written (accessors segments) (.bool true) before after := by
  have hw : assign (.object [("a", .array [.bool false])]) "a[3][b]" (.bool true) =
      .ok (.object [("a", .array [.bool false, .null, .null, .object [("b", .bool true)]])]) := by
    cbv
  have hb : build .null ([("a[]", .bool false)] ++ [("a[3][b]", .bool true)]) =
      .ok (.object [("a", .array [.bool false, .null, .null, .object [("b", .bool true)]])]) := by
    cbv
  exact ⟨⟨hw, assign_obeys_law.1 _ _ _ _ hw⟩, hb, assign_obeys_law.2 _ _ _ _ hb⟩

end Path

end Courier

