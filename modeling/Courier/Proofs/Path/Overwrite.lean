import Courier.Proofs.Path.Independent

/-! Writing at one path twice. What the first write builds on its way the second one finds there,
and what it leaves at the end the second one replaces. An append goes to a new place each time, so
all of this is about paths without one. -/

namespace Courier

namespace Path

variable {v w doc after : Json} {as : List Accessor}

theorem exists_write_congr (v w : Json) (as : List Accessor) (doc : Json) :
    (∃ after, write v as doc = .ok after) ↔ ∃ after, write w as doc = .ok after := by
  rw [exists_write_iff, exists_write_iff]

theorem writeTwo_same_eq_ok (hn : .append ∉ as) :
    writeTwo v as w as doc = .ok after ↔ write w as doc = .ok after := by
  induction as generalizing doc after with
  | nil => simp [writeTwo, write, Except.bind]
  | cons a rest ih =>
    rw [List.mem_cons, not_or] at hn
    by_cases hf : a.Fits doc
    · obtain ⟨s, rfl⟩ := exists_accessor_of_fits (Ne.symm hn.1) hf
      rw [writeTwo_shared_eq_ok, write_cons_eq_ok, refusal?_eq_none, step_accessor]
      simp only [ih hn.2]
    · -- The first step is refused to either write.
      constructor
      · intro hw
        obtain ⟨mid, hm, -⟩ := Except.bind_eq_ok.1 hw
        exact absurd (refusal?_eq_none.1 (write_cons_eq_ok.1 hm).1) hf
      · intro hw
        exact absurd (refusal?_eq_none.1 (write_cons_eq_ok.1 hw).1) hf

section

variable {source : String} {segments : List Segment}

theorem exists_assign_congr (source : String) (v w doc : Json) :
    (∃ after, assign doc source v = .ok after) ↔ ∃ after, assign doc source w = .ok after := by
  simp only [assign_eq_ok]
  constructor
  · rintro ⟨after, segments, hp, hw⟩
    obtain ⟨other, ho⟩ := (exists_write_congr v w _ doc).1 ⟨after, hw⟩
    exact ⟨other, segments, hp, ho⟩
  · rintro ⟨after, segments, hp, hw⟩
    obtain ⟨other, ho⟩ := (exists_write_congr v w _ doc).2 ⟨after, hw⟩
    exact ⟨other, segments, hp, ho⟩

theorem assign_over {mid : Json} (hp : parse source = .ok segments)
    (hn : .append ∉ accessors segments) (hv : assign doc source v = .ok mid) :
    assign mid source w = .ok after ↔ assign doc source w = .ok after := by
  simp only [assign_eq_ok, hp, Except.ok.injEq, exists_eq_left'] at hv ⊢
  have htwo : writeTwo v (accessors segments) w (accessors segments) doc = .ok after ↔
      write w (accessors segments) doc = .ok after := writeTwo_same_eq_ok hn
  rwa [writeTwo, hv] at htwo

theorem build_same_eq_ok {rest : List (String × Json)} (hp : parse source = .ok segments)
    (hn : .append ∉ accessors segments) :
    build doc ((source, v) :: (source, w) :: rest) = .ok after ↔
      build doc ((source, w) :: rest) = .ok after := by
  simp only [build_cons_eq_ok]
  constructor
  · rintro ⟨mid, hv, other, hw, hr⟩
    exact ⟨other, (assign_over hp hn hv).1 hw, hr⟩
  · rintro ⟨other, hw, hr⟩
    obtain ⟨mid, hv⟩ := (exists_assign_congr source v w doc).2 ⟨other, hw⟩
    exact ⟨mid, hv, other, (assign_over hp hn hv).2 hw, hr⟩

/-- The last write wins. One of two values can be written at a path exactly if the other can; and if
the path has no append, then writing one and after it the other makes the same document as writing
only the other. In particular, writing a value once more changes nothing. In a run it is the same:
of two pairs with this path, one right after the other, the first might as well be missing. -/
theorem assign_last_wins (hp : parse source = .ok segments) (hn : .append ∉ accessors segments)
    (doc v w : Json) :
    ((∃ mid, assign doc source v = .ok mid) ↔ ∃ after, assign doc source w = .ok after) ∧
      (∀ mid, assign doc source v = .ok mid →
        (∃ after, assign mid source w = .ok after ∧ assign doc source w = .ok after) ∧
        assign mid source v = .ok mid) ∧
      ∀ rest after, build doc ((source, v) :: (source, w) :: rest) = .ok after ↔
        build doc ((source, w) :: rest) = .ok after := by
  refine ⟨exists_assign_congr source v w doc, fun mid hv => ⟨?_, (assign_over hp hn hv).2 hv⟩,
    fun rest after => build_same_eq_ok hp hn⟩
  obtain ⟨after, hw⟩ := (exists_assign_congr source v w doc).1 ⟨mid, hv⟩
  exact ⟨after, (assign_over hp hn hv).2 hw, hw⟩

end

theorem assign_last_wins_vivified :
    let doc : Json := .object [("b", .bool true), ("a", .array [.null, .object [("k", .null)]])]
    let source := "a[0][k][2][l]"
    let v : Json := .array [.bool false]
    let mid : Json := .object [("b", .bool true), ("a", .array [
      .object [("k", .array [.null, .null, .object [("l", .array [.bool false])]])],
      .object [("k", .null)]])]
    let after : Json := .object [("b", .bool true), ("a", .array [
      .object [("k", .array [.null, .null, .object [("l", .null)]])], .object [("k", .null)]])]
    (parse source).map accessors = .ok [.key "a", .index 0, .key "k", .index 2, .key "l"] ∧
      assign doc source v = .ok mid ∧ assign doc source .null = .ok after ∧
      assign mid source .null = .ok after ∧ assign mid source v = .ok mid ∧
      build doc [(source, v), (source, .null)] = .ok after := by
  intro doc source v mid after
  have hs : (parse source).map accessors =
      .ok [.key "a", .index 0, .key "k", .index 2, .key "l"] := by cbv
  have hv : assign doc source v = .ok mid := by cbv
  have hw : assign doc source .null = .ok after := by cbv
  refine ⟨hs, hv, hw, ?_⟩
  obtain ⟨segments, hp, ha⟩ := Except.map_eq_ok.1 hs
  obtain ⟨-, hlast, hrun⟩ := assign_last_wins hp (by simp [ha]) doc v .null
  obtain ⟨⟨other, ho, hdoc⟩, hsame⟩ := hlast mid hv
  obtain rfl := Except.ok.inj (hw.symm.trans hdoc)
  exact ⟨ho, hsame, (hrun [] after).2 (build_cons_eq_ok.2 ⟨after, hw, rfl⟩)⟩

end Path

end Courier
