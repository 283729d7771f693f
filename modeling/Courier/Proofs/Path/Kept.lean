import Courier.Proofs.Json.Grammar
import Courier.Proofs.Path.Write

/-! What is left of the values that a run writes. A scalar stays where it was put until a later pair
writes there, or to a container around it. -/

namespace Courier

namespace Path

open Json

variable {doc child value before after d : Json} {as : List Accessor} {q l t : Location}
  {pairs : List (String × Json)} {i j : Nat}

theorem regular_put (h : doc.Throughout Regular) (hc : child.Throughout Regular) (s : Step) :
    (put doc s child).Throughout Regular := by
  cases s with
  | field k =>
    have hfields : (((fields? doc).getD []).map Prod.fst).Nodup ∧
        ∀ f ∈ (fields? doc).getD [], f.2.Throughout Regular := by
      cases doc with
      | object fields => exact ⟨h.self, fun f hf => h.of_mem_fields h.self hf⟩
      | _ => exact ⟨List.nodup_nil, fun f hf => (nomatch hf)⟩
    refine throughout_object (Fields.nodup_insert hfields.1 k child) fun f hf => ?_
    rcases Fields.mem_insert hf with rfl | hf
    · exact hc
    · exact hfields.2 f hf
  | item i =>
    have hitems : ∀ d ∈ (items? doc).getD [], d.Throughout Regular := by
      cases doc with
      | array items => exact fun d hd => h.of_mem hd
      | _ => exact fun d hd => (nomatch hd)
    refine throughout_array trivial fun d hd => ?_
    rcases List.mem_or_eq_of_mem_set hd with hd | rfl
    · rcases List.mem_append.1 hd with hd | hd
      · exact hitems d hd
      · rw [List.eq_of_mem_replicate hd]
        exact throughout_null trivial
    · exact hc

theorem regular_under (h : doc.Throughout Regular) (a : Accessor) :
    (a.under doc).Throughout Regular := by
  rw [Accessor.under]
  cases hc : doc.child? (a.step doc) with
  | none => exact throughout_null trivial
  | some d => exact h.child hc

theorem regular_write (h : before.Throughout Regular) (hv : value.Throughout Regular)
    (hw : write value as before = .ok after) : after.Throughout Regular := by
  induction as generalizing before after with
  | nil =>
    cases hw
    exact hv
  | cons a rest ih =>
    obtain ⟨-, child, hc, rfl⟩ := write_cons_eq_ok.1 hw
    exact regular_put h (ih (regular_under h a) hc) _

theorem regular_build (h : doc.Throughout Regular)
    (hp : ∀ p ∈ pairs, p.2.Throughout Regular) (hb : build doc pairs = .ok after) :
    after.Throughout Regular := by
  induction pairs generalizing doc with
  | nil =>
    cases hb
    exact h
  | cons p rest ih =>
    obtain ⟨source, value⟩ := p
    obtain ⟨mid, hm, hb⟩ := build_cons_eq_ok.1 hb
    obtain ⟨segments, -, hw⟩ := assign_eq_ok.1 hm
    have hmid := regular_write h (hp (source, value) List.mem_cons_self) hw
    exact ih hmid (fun q hq => hp q (List.mem_cons_of_mem _ hq)) hb

theorem write_admits (h : write value as before = .ok after) (hp : q <+: target as before)
    (hne : q ≠ target as before) (hd : before.get? q = some d) :
    d.Admits .object ∨ d.Admits .array := by
  induction as generalizing before after q with
  | nil => exact absurd (List.prefix_nil.1 hp) hne
  | cons a rest ih =>
    obtain ⟨hr, child, hc, rfl⟩ := write_cons_eq_ok.1 h
    rw [target] at hp hne
    cases q with
    | nil =>
      obtain rfl : before = d := Option.some.inj hd
      have hadmits := admits_of_refusal?_eq_none hr
      cases hs : a.step before with
      | field k =>
        rw [hs] at hadmits
        exact .inl hadmits
      | item i =>
        rw [hs] at hadmits
        exact .inr hadmits
    | cons s q =>
      obtain ⟨rfl, hp'⟩ := List.cons_prefix_cons.1 hp
      have hne' : q ≠ target rest (a.under before) := fun he => hne (by rw [he])
      obtain ⟨e, he, hd⟩ := Option.bind_eq_some_iff.1 hd
      refine ih hc hp' hne' ?_
      rw [Accessor.under, he]
      exact hd

/-- Nothing can be put into it. -/
def IsScalar (d : Json) : Prop := ¬ d.Admits .object ∧ ¬ d.Admits .array

/-- A scalar stays where it is unless the write replaces it, or a container around it. -/
theorem write_keeps_scalar (h : write value as before = .ok after) (hd : before.get? q = some d)
    (hs : IsScalar d) (hq : ¬ target as before <+: q) : after.get? q = some d := by
  refine write_keeps h hd ?_ hq
  intro hp
  have hne : q ≠ target as before := by
    rintro rfl
    exact hq (List.prefix_refl _)
  rcases write_admits h hp hne hd with hadmits | hadmits
  · exact hs.1 hadmits
  · exact hs.2 hadmits

/-- The location that the pair at an index is written to. -/
def WrittenTo (pairs : List (String × Json)) (i : Nat) (l : Location) : Prop :=
  ∃ p before segments, pairs[i]? = some p ∧ build .null (pairs.take i) = .ok before ∧
    parse p.1 = .ok segments ∧ l = target (accessors segments) before

/-- No pair behind the index is written to the location, or to one around it. -/
def Stays (pairs : List (String × Json)) (i : Nat) (l : Location) : Prop :=
  ∀ j t, i < j → WrittenTo pairs j t → ¬ t <+: l

theorem build_take_succ {p : String × Json} (h : pairs[i]? = some p) :
    build .null (pairs.take (i + 1)) =
      (build .null (pairs.take i)).bind fun before => build before [p] := by
  rw [List.take_add_one, h, Option.toList_some, build_append]

theorem exists_writtenTo (h : build .null pairs = .ok after) {p : String × Json}
    (hp : pairs[i]? = some p) :
    ∃ t mid, WrittenTo pairs i t ∧ build .null (pairs.take (i + 1)) = .ok mid ∧
      mid.get? t = some p.2 := by
  have hsplit : pairs = pairs.take (i + 1) ++ pairs.drop (i + 1) := (List.take_append_drop _ _).symm
  rw [hsplit, build_append] at h
  obtain ⟨mid, hm, -⟩ := Except.bind_eq_ok.1 h
  rw [build_take_succ hp] at hm
  obtain ⟨before, hb, ha⟩ := Except.bind_eq_ok.1 hm
  obtain ⟨source, value⟩ := p
  obtain ⟨mid', hassign, he⟩ := build_cons_eq_ok.1 ha
  obtain rfl : mid' = mid := Except.ok.inj he
  obtain ⟨segments, hs, hw⟩ := assign_eq_ok.1 hassign
  refine ⟨_, mid', ⟨(source, value), before, segments, hp, hb, hs, rfl⟩, ?_, write_reads hw⟩
  rw [build_take_succ hp, hb]
  exact build_cons_eq_ok.2 ⟨mid', hassign, rfl⟩

theorem get?_build_take (h : build .null pairs = .ok after) (hw : WrittenTo pairs i t)
    {p : String × Json} (hp : pairs[i]? = some p) (hd : p.2.get? q = some d) (hs : IsScalar d)
    (hstays : Stays pairs i (t ++ q)) (hij : i < j) (hj : j ≤ pairs.length) {mid : Json}
    (hm : build .null (pairs.take j) = .ok mid) : mid.get? (t ++ q) = some d := by
  induction j, hij using Nat.le_induction generalizing mid with
  | base =>
    obtain ⟨t', mid', hw', hm', hget⟩ := exists_writtenTo h hp
    obtain ⟨p', before, segments, hp', hb, hseg, ht'⟩ := hw'
    obtain ⟨p'', before'', segments'', hp'', hb'', hseg'', ht⟩ := hw
    obtain rfl := Except.ok.inj (hm.symm.trans hm')
    obtain rfl := Option.some.inj (hp'.symm.trans hp'')
    obtain rfl := Except.ok.inj (hb.symm.trans hb'')
    obtain rfl := Except.ok.inj (hseg.symm.trans hseg'')
    obtain rfl : t = t' := ht.trans ht'.symm
    rw [get?_append hget]
    exact hd
  | succ j hij ih =>
    obtain ⟨e, he⟩ : ∃ e, pairs[j]? = some e := ⟨pairs[j], List.getElem?_eq_getElem (by omega)⟩
    rw [build_take_succ he] at hm
    obtain ⟨before, hb, ha⟩ := Except.bind_eq_ok.1 hm
    obtain ⟨source, value⟩ := e
    obtain ⟨mid', ha, hmid⟩ := build_cons_eq_ok.1 ha
    cases hmid
    obtain ⟨segments, hseg, hwrite⟩ := assign_eq_ok.1 ha
    have hspared := hstays j _ hij ⟨(source, value), before, segments, he, hb, hseg, rfl⟩
    exact write_keeps_scalar hwrite (ih (by omega) hb) hs hspared

theorem get?_build (h : build .null pairs = .ok after) (hw : WrittenTo pairs i t)
    {p : String × Json} (hp : pairs[i]? = some p) (hd : p.2.get? q = some d) (hs : IsScalar d)
    (hstays : Stays pairs i (t ++ q)) : after.get? (t ++ q) = some d := by
  obtain ⟨hi, -⟩ := List.getElem?_eq_some_iff.1 hp
  refine get?_build_take h hw hp hd hs hstays hi (le_refl _) ?_
  rwa [List.take_length]

end Path

end Courier
