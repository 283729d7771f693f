import Courier.Proofs.Path.Root

/-! The order of keys. A write keeps the keys of every object on its way in their order, and appends
the key it steps to where this is new. So a run leaves the keys of its document in the order in
which its paths first mention them. -/

namespace Courier

namespace Path

open Json

/-- What becomes of the keys of the objects in front of a location that is written to. -/
structure KeepsOrder (w : Location) (before after : Json) : Prop where
  /-- The objects on the way are those that a key leads into. -/
  entered : ∀ p s r fields, w = p ++ s :: r →
    before.get? p = some (.object fields) ∨ after.get? p = some (.object fields) →
    ∃ k, s = .field k
  known : ∀ p k r fields, w = p ++ .field k :: r → before.get? p = some (.object fields) →
    ∃ new, after.get? p = some (.object new) ∧ new.map Prod.fst =
      if k ∈ fields.map Prod.fst then fields.map Prod.fst else fields.map Prod.fst ++ [k]
  fresh : ∀ p k r, w = p ++ .field k :: r → (∀ fields, before.get? p ≠ some (.object fields)) →
    ∃ child, after.get? p = some (.object [(k, child)])

/-- The key with which a path enters the document. -/
def rootKey? (source : String) : Option String :=
  match rootAccessor? source with
  | some (.key k) => some k
  | _ => none

/-- The keys that paths enter the document with, one for each path with a key at its root. -/
def rootKeys (pairs : List (String × Json)) : List String := pairs.filterMap fun p => rootKey? p.1

variable {doc value before after : Json} {as : List Accessor} {fields : List (String × Json)}
  {pairs : List (String × Json)} {p r : Location} {s : Step}

theorem getD_get?_under (a : Accessor) (doc : Json) (q : Location) :
    ((a.under doc).get? q).getD .null = (doc.get? (a.step doc :: q)).getD .null := by
  cases q with
  | nil =>
    rw [get?_cons, Accessor.under]
    cases doc.child? (a.step doc) <;> rfl
  | cons t q => rw [get?_under_cons]

theorem write_puts (h : write value as before = .ok after) (hw : target as before = p ++ s :: r) :
    ((before.get? p).getD .null).Admits s.container ∧
      ∃ child, after.get? p = some (put ((before.get? p).getD .null) s child) := by
  induction as generalizing before after p with
  | nil => simp [target] at hw
  | cons a rest ih =>
    obtain ⟨hr, child, hc, rfl⟩ := write_cons_eq_ok.1 h
    rw [target] at hw
    cases p with
    | nil =>
      obtain ⟨rfl, -⟩ := List.cons.inj hw
      exact ⟨admits_of_refusal?_eq_none hr, child, rfl⟩
    | cons t p =>
      rw [List.cons_append] at hw
      obtain ⟨rfl, hrest⟩ := List.cons.inj hw
      rw [get?_put_cons, ← getD_get?_under]
      exact ih hc hrest

theorem exists_field_of_container (h : s.container = .object) : ∃ k, s = .field k := by
  cases s with
  | field k => exact ⟨k, rfl⟩
  | item i => cases h

theorem write_keeps_order (h : write value as before = .ok after) :
    KeepsOrder (target as before) before after where
  entered p s r fields hw ho := by
    obtain ⟨hd, child, ha⟩ := write_puts h hw
    refine exists_field_of_container ?_
    rcases ho with hb | hb
    · simpa [hb, Admits, kind, eq_comm] using hd
    · rw [← kind_put ((before.get? p).getD .null) s child, ← Option.some.inj (hb.symm.trans ha)]
      rfl
  known p k r fields hw hb := by
    obtain ⟨-, child, ha⟩ := write_puts h hw
    rw [hb] at ha
    exact ⟨_, ha, Fields.map_fst_insert k child fields⟩
  fresh p k r hw hb := by
    obtain ⟨hd, child, ha⟩ := write_puts h hw
    have hnull : (before.get? p).getD .null = .null := by
      rcases hd with hn | ho
      · exact hn
      · cases hg : before.get? p with
        | none => rfl
        | some d =>
          rw [hg] at ho
          cases d <;> cases ho
          exact absurd hg (hb _)
    rw [hnull] at ha
    exact ⟨child, ha⟩

theorem rootKey?_eq_some {source k : String} :
    rootKey? source = some k ↔ rootAccessor? source = some (.key k) := by
  unfold rootKey?
  split <;> simp_all

theorem enters_object_iff {source : String} :
    Enters source .object ↔ ∃ k, rootKey? source = some k := by
  simp only [rootKey?_eq_some]
  constructor
  · rintro ⟨a, ha, hk⟩
    cases a with
    | key k => exact ⟨k, ha⟩
    | index | append => cases hk
  · rintro ⟨k, hk⟩
    exact ⟨.key k, hk, rfl⟩

theorem eraseDups_concat (ks : List String) (k : String) :
    (ks ++ [k]).eraseDups = if k ∈ ks.eraseDups then ks.eraseDups else ks.eraseDups ++ [k] := by
  rw [List.eraseDups_append]
  by_cases hk : k ∈ ks <;> simp [List.removeAll, List.eraseDups_cons, hk]

theorem nodup_eraseDups (ks : List String) : ks.eraseDups.Nodup := by
  induction ks using List.reverseRecOn with
  | nil => exact List.nodup_nil
  | append_singleton ks k ih =>
    rw [eraseDups_concat]
    split
    · exact ih
    · next hk => exact List.Nodup.append ih (List.nodup_singleton k) (by simpa using hk)

theorem keys_of_build (h : build .null pairs = .ok doc) (hk : ∀ p ∈ pairs, Enters p.1 .object)
    (hf : fields? doc = some fields) : fields.map Prod.fst = (rootKeys pairs).eraseDups := by
  induction pairs using List.reverseRecOn generalizing doc fields with
  | nil =>
    cases h
    cases hf
    rfl
  | append_singleton pairs p ih =>
    obtain ⟨source, v⟩ := p
    obtain ⟨before, hb, ha⟩ := build_concat_eq_ok.1 h
    have hpairs : ∀ q ∈ pairs, Enters q.1 .object := fun q hq => hk q (by simp [hq])
    obtain ⟨old, hold⟩ := exists_fields?_of_build hb hpairs
    obtain ⟨k, hroot⟩ := enters_object_iff.1 (hk (source, v) (by simp))
    obtain ⟨a, child, he, -, rfl⟩ := assign_enters ha
    obtain rfl : Accessor.key k = a := Option.some.inj ((rootKey?_eq_some.1 hroot).symm.trans he)
    have hkeys : rootKeys (pairs ++ [(source, v)]) = rootKeys pairs ++ [k] := by
      simp [rootKeys, hroot]
    simp only [Accessor.step, put, hold, Option.getD_some, fields?_object,
      Option.some.injEq] at hf
    rw [← hf, Fields.map_fst_insert, ih hb hpairs hold, hkeys, eraseDups_concat]

/-- Keys keep the order of their first mention. A write that succeeds leaves each object on its way
with the keys it had, in their order, and after them the key that is stepped to if it is new; an
object that comes into being has this key alone. So where all paths of a run have keys at the root,
the keys of its document are these, none twice, in the order in which they first occur. -/
theorem assign_keeps_key_order :
    (∀ before source value after, assign before source value = .ok after →
      ∃ segments, parse source = .ok segments ∧
        KeepsOrder (target (accessors segments) before) before after) ∧
    ∀ pairs fields, assemble pairs = .ok fields → (∀ p ∈ pairs, Enters p.1 .object) →
      (fields.map Prod.fst).Nodup ∧ fields.map Prod.fst = (rootKeys pairs).eraseDups := by
  refine ⟨fun before source value after h => ?_, fun pairs fields h hk => ?_⟩
  · obtain ⟨segments, hs, hw⟩ := assign_eq_ok.1 h
    exact ⟨segments, hs, write_keeps_order hw⟩
  · obtain ⟨doc, hb, rfl⟩ := Except.map_eq_ok.1 h
    obtain ⟨fields, hf⟩ := exists_fields?_of_build hb hk
    rw [wrap_of_fields? hf, keys_of_build hb hk hf]
    exact ⟨nodup_eraseDups _, rfl⟩

theorem assign_keeps_key_order_revisited :
    let before : Json := .object [("z", .object [("k", .null), ("l", .bool true)]), ("a", .null)]
    let after : Json := .object [("z", .object [("k", .object [("n", .null)]), ("l", .bool true)]),
      ("a", .null)]
    let pairs : List (String × Json) :=
      [("z[k]", .null), ("a", .bool true), ("z[l]", .bool true), ("a", .null), ("z[k][n]", .null)]
    let fields : List (String × Json) :=
      [("z", .object [("k", .object [("n", .null)]), ("l", .bool true)]), ("a", .null)]
    (assign before "z[k][n]" .null = .ok after ∧
      KeepsOrder [.field "z", .field "k", .field "n"] before after) ∧
    assemble pairs = .ok fields ∧ (∀ p ∈ pairs, Enters p.1 .object) ∧
      (fields.map Prod.fst).Nodup ∧ fields.map Prod.fst = (rootKeys pairs).eraseDups := by
  intro before after pairs fields
  have hw : assign before "z[k][n]" .null = .ok after := by cbv
  have hacc : (parse "z[k][n]").map accessors = .ok [.key "z", .key "k", .key "n"] := by cbv
  obtain ⟨segments, hs, horder⟩ := assign_keeps_key_order.1 _ _ _ _ hw
  obtain ⟨segments', hs', ha⟩ := Except.map_eq_ok.1 hacc
  obtain rfl := Except.ok.inj (hs.symm.trans hs')
  rw [ha] at horder
  have hf : assemble pairs = .ok fields := by cbv
  have hk : ∀ p ∈ pairs, Enters p.1 .object := by
    have hroots : ∀ p ∈ pairs, (rootKey? p.1).isSome = true := by decide +kernel
    exact fun p hp => enters_object_iff.2 (Option.isSome_iff_exists.1 (hroots p hp))
  exact ⟨⟨hw, horder⟩, hf, hk, assign_keeps_key_order.2 pairs fields hf hk⟩

end Path

end Courier
