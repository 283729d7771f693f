import Courier.Proofs.Path.KeyOrder

/-! How much a document grows. Each accessor of a path adds at most one stretch of padding to the
container that it steps into, and the place behind it. So a run adds no more than its paths have
accessors and its values have nodes. -/

namespace Courier

namespace Json

mutual

/-- Scalars, `null`, arrays and objects at every depth, the document itself among them. -/
def nodes : Json → Nat
  | array items => itemNodes items + 1
  | object fields => fieldNodes fields + 1
  | _ => 1

def itemNodes : List Json → Nat
  | [] => 0
  | v :: vs => v.nodes + itemNodes vs

def fieldNodes : List (String × Json) → Nat
  | [] => 0
  | (_, v) :: fs => v.nodes + fieldNodes fs

end

theorem itemNodes_append (vs ws : List Json) :
    itemNodes (vs ++ ws) = itemNodes vs + itemNodes ws := by
  induction vs with
  | nil => simp [itemNodes]
  | cons v vs ih => simp [itemNodes, ih, Nat.add_assoc]

theorem itemNodes_replicate_null (n : Nat) : itemNodes (List.replicate n .null) = n := by
  induction n with
  | zero => rfl
  | succ n ih => simp [List.replicate_succ, itemNodes, nodes, ih, Nat.add_comm]

theorem itemNodes_set {items : List Json} {i : Nat} {old : Json} (h : items[i]? = some old)
    (child : Json) :
    itemNodes (items.set i child) + old.nodes = itemNodes items + child.nodes := by
  induction items generalizing i with
  | nil => cases h
  | cons v vs ih =>
    cases i with
    | zero =>
      cases h
      simp only [List.set_cons_zero, itemNodes]
      omega
    | succ i =>
      have hrest := ih (i := i) h
      simp only [List.set_cons_succ, itemNodes]
      omega

theorem fieldNodes_insert (k : String) (child : Json) (fields : List (String × Json)) :
    fieldNodes (Fields.insert k child fields) + ((Fields.find? k fields).getD .null).nodes =
      fieldNodes fields + child.nodes + if k ∈ fields.map Prod.fst then 0 else 1 := by
  induction fields with
  | nil => simp [Fields.insert, Fields.find?, fieldNodes, nodes]
  | cons f fs ih =>
    by_cases hk : f.1 = k
    · simp [Fields.insert, Fields.find?, fieldNodes, hk]
      omega
    · simp only [Fields.insert, Fields.find?, hk, if_false, fieldNodes, List.map_cons,
        List.mem_cons, Ne.symm hk, false_or]
      omega

end Json

namespace Path

open Json

variable {doc value before after child : Json} {a : Accessor} {as : List Accessor}
  {pairs fields : List (String × Json)}

theorem itemNodes_pad (items : List Json) (i : Nat) :
    itemNodes (pad items i) = itemNodes items + (i + 1 - items.length) := by
  rw [pad, itemNodes_append, itemNodes_replicate_null]

theorem nodes_put_item {items : List Json} (h : items? doc = some items) (i : Nat) (child : Json) :
    (put doc (.item i) child).nodes + (items[i]?.getD .null).nodes =
      doc.nodes + child.nodes + (i + 1 - items.length) := by
  have hdoc : doc.nodes = itemNodes items + 1 := by
    cases doc <;> cases h <;> rfl
  have hold : (pad items i)[i]? = some (items[i]?.getD .null) := by
    rw [getElem?_pad]
    by_cases hi : i < items.length <;> simp [hi]
  have hset := itemNodes_set hold child
  rw [itemNodes_pad] at hset
  rw [put, h, Option.getD_some, nodes, hdoc]
  omega

theorem nodes_put_field {fields : List (String × Json)} (h : fields? doc = some fields) (k : String)
    (child : Json) :
    (put doc (.field k) child).nodes + ((Fields.find? k fields).getD .null).nodes ≤
      doc.nodes + child.nodes + 1 := by
  have hdoc : doc.nodes = fieldNodes fields + 1 := by
    cases doc <;> cases h <;> rfl
  have hinsert := fieldNodes_insert k child fields
  rw [put, h, Option.getD_some, nodes, hdoc]
  split at hinsert <;> omega

/-- Besides what is written below it, a step adds at most its padding and its own place. -/
theorem nodes_put_le (h : a.Fits doc) (child : Json) :
    (put doc (a.step doc) child).nodes + (a.under doc).nodes ≤
      doc.nodes + child.nodes + (paddingLimit + 1) := by
  have hitem : ∀ i, a.container = .array → a.step doc = .item i →
      i ≤ doc.length + paddingLimit → (put doc (a.step doc) child).nodes + (a.under doc).nodes ≤
        doc.nodes + child.nodes + (paddingLimit + 1) := by
    intro i ha hi hle
    obtain ⟨items, hitems⟩ := exists_items?.2 (ha ▸ h.kind)
    have hlength : doc.length = items.length := by rw [Json.length, hitems, Option.getD_some]
    have hput := nodes_put_item hitems i child
    rw [Accessor.under, hi, child?_item hitems]
    omega
  cases a with
  | key k =>
    obtain ⟨fields, hfields⟩ := exists_fields?.2 h.kind
    have hput := nodes_put_field hfields k child
    rw [Accessor.under, Accessor.step, child?_field hfields]
    omega
  | index i =>
    have hreach : i ≤ doc.length + paddingLimit := (h.reach i rfl).2
    exact hitem _ rfl rfl (by omega)
  | append => exact hitem _ rfl rfl (by omega)

theorem write_nodes_le (h : write value as before = .ok after) :
    after.nodes ≤ before.nodes + value.nodes + (paddingLimit + 1) * as.length := by
  induction as generalizing before after with
  | nil =>
    cases h
    omega
  | cons a rest ih =>
    obtain ⟨hr, child, hc, rfl⟩ := write_cons_eq_ok.1 h
    have hstep := nodes_put_le (refusal?_eq_none.1 hr) child
    have hrest := ih hc
    rw [List.length_cons, Nat.mul_succ]
    omega

theorem write_length_le {p : Location} {items : List Json}
    (h : write value as before = .ok after) (hp : p <+: target as before)
    (hne : p ≠ target as before) (hb : before.get? p = some (.array items)) :
    ∃ longer, after.get? p = some (.array longer) ∧ items.length ≤ longer.length := by
  obtain ⟨q, hq⟩ := hp
  cases q with
  | nil => exact absurd (by simpa using hq) hne
  | cons s r =>
    obtain ⟨hd, child, ha⟩ := write_puts h hq.symm
    rw [hb, Option.getD_some] at hd ha
    cases s with
    | field k => rcases hd with hd | hd <;> cases hd
    | item i =>
      refine ⟨_, ha, ?_⟩
      rw [items?_array, Option.getD_some, List.length_set, length_pad]
      omega

/-- How many segments the path of a text has. -/
def segmentCount (source : String) : Nat :=
  match parse source with
  | .ok segments => segments.length
  | .error _ => 0

theorem segmentCount_of_parse {source : String} {segments : List Segment}
    (h : parse source = .ok segments) : segmentCount source = segments.length := by
  rw [segmentCount, h]

theorem length_accessors {source : String} {segments : List Segment}
    (h : parse source = .ok segments) : (accessors segments).length = segments.length := by
  have hsome : ∀ s ∈ segments, s.accessor?.isSome = true := by
    intro s hs
    obtain ⟨a, ha⟩ := exists_access_of_parse h s hs
    simp [Segment.accessor?, ha]
  rw [accessors, List.length_filterMap_eq_countP, List.countP_eq_length.2 hsome]

theorem assign_nodes_le {source : String} (h : assign before source value = .ok after) :
    (∃ segments, parse source = .ok segments) ∧
      after.nodes ≤ before.nodes + (value.nodes + (paddingLimit + 1) * segmentCount source) := by
  obtain ⟨segments, hs, hw⟩ := assign_eq_ok.1 h
  have hle := write_nodes_le hw
  rw [length_accessors hs, ← segmentCount_of_parse hs] at hle
  exact ⟨⟨segments, hs⟩, by omega⟩

theorem build_nodes_le (h : build before pairs = .ok after) :
    (∀ p ∈ pairs, ∃ segments, parse p.1 = .ok segments) ∧
      after.nodes ≤ before.nodes +
        (pairs.map fun p => p.2.nodes + (paddingLimit + 1) * segmentCount p.1).sum := by
  induction pairs generalizing before with
  | nil =>
    cases h
    simp
  | cons p rest ih =>
    obtain ⟨mid, hmid, hrest⟩ := build_cons_eq_ok.1 h
    obtain ⟨hparse, hstep⟩ := assign_nodes_le hmid
    obtain ⟨hparses, hle⟩ := ih hrest
    refine ⟨List.forall_mem_cons.2 ⟨hparse, hparses⟩, ?_⟩
    rw [List.map_cons, List.sum_cons]
    omega

theorem nodes_wrap_le (doc : Json) : (Json.object (wrap doc)).nodes ≤ doc.nodes + 1 := by
  cases doc <;> simp [wrap, nodes, fieldNodes]

/-- A write adds at most the nodes of its value, and for each segment of its path a stretch of
padding with the place behind it; no array on its way gets shorter. So the document of a run is
bounded by the values and the paths of its pairs, in whatever order they come. -/
theorem assemble_bounded :
    (∀ before source value after, assign before source value = .ok after →
      ∃ segments, parse source = .ok segments ∧
        after.nodes ≤ before.nodes + value.nodes + 100001 * segments.length ∧
        ∀ p items, p <+: target (accessors segments) before →
          p ≠ target (accessors segments) before → before.get? p = some (.array items) →
          ∃ longer, after.get? p = some (.array longer) ∧ items.length ≤ longer.length) ∧
    ∀ pairs fields, assemble pairs = .ok fields →
      (∀ p ∈ pairs, ∃ segments, parse p.1 = .ok segments) ∧
        (Json.object fields).nodes ≤
          2 + (pairs.map fun p => p.2.nodes + 100001 * segmentCount p.1).sum := by
  constructor
  · intro before source value after h
    obtain ⟨segments, hs, hw⟩ := assign_eq_ok.1 h
    have hle := write_nodes_le hw
    rw [length_accessors hs] at hle
    exact ⟨segments, hs, hle, fun p items hp hne hb => write_length_le hw hp hne hb⟩
  · intro pairs fields h
    obtain ⟨doc, hb, rfl⟩ := Except.map_eq_ok.1 h
    obtain ⟨hparse, hle⟩ := build_nodes_le hb
    have hle : doc.nodes ≤
        1 + (pairs.map fun p => p.2.nodes + 100001 * segmentCount p.1).sum := hle
    exact ⟨hparse, (nodes_wrap_le doc).trans (by omega)⟩

theorem assemble_bounded_padded :
    let before : Json := .object [("a", .array [.bool false])]
    let after : Json := .object [("a", .array [.bool false, .null, .null,
      .array [.array [.null]]])]
    let pairs : List (String × Json) := [("[2]", .bool true), ("[][k]", .null)]
    let fields : List (String × Json) :=
      [("", .array [.null, .null, .bool true, .object [("k", .null)]])]
    (assign before "a[3][]" (.array [.null]) = .ok after ∧ before.nodes = 3 ∧ after.nodes = 8 ∧
      ∃ segments, parse "a[3][]" = .ok segments ∧
        after.nodes ≤ before.nodes + (Json.array [.null]).nodes + 100001 * segments.length ∧
        ∃ longer, after.get? [.field "a"] = some (.array longer) ∧ 1 ≤ longer.length) ∧
    assemble pairs = .ok fields ∧ (Json.object fields).nodes = 7 ∧
      (Json.object fields).nodes ≤
        2 + (pairs.map fun p => p.2.nodes + 100001 * segmentCount p.1).sum := by
  intro before after pairs fields
  have hw : assign before "a[3][]" (.array [.null]) = .ok after := by cbv
  have ha : assemble pairs = .ok fields := by cbv
  obtain ⟨segments, hs, hle, hlonger⟩ := assemble_bounded.1 _ _ _ _ hw
  have hpath : (parse "a[3][]").map accessors = .ok [.key "a", .index 3, .append] := by cbv
  have haccessors : accessors segments = [.key "a", .index 3, .append] := by
    rw [hs] at hpath
    exact Except.ok.inj hpath
  have htarget : target (accessors segments) before = [.field "a", .item 3, .item 0] := by
    rw [haccessors]
    rfl
  obtain ⟨longer, hget, hlength⟩ := hlonger [.field "a"] [.bool false]
    (by rw [htarget]; exact ⟨[.item 3, .item 0], rfl⟩) (by rw [htarget]; decide) rfl
  exact ⟨⟨hw, rfl, rfl, segments, hs, hle, longer, hget, hlength⟩, ha, rfl,
    (assemble_bounded.2 _ _ ha).2⟩

end Path

end Courier
