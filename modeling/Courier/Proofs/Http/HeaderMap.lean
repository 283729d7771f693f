import Courier.Headers
import Courier.Http.HeaderMap
import Courier.Proofs.Basic

/-! Header maps by name. A map keeps the values of a name in one group, under the name in lower
case. What an operation does is said by the values that each name has after it. -/

namespace Courier

def lower (name : String) : String := String.ofList (name.toList.map Char.toLower)

theorem lower_lower (name : String) : lower (lower name) = lower name := by
  simp [lower, Function.comp_def]

theorem sameName_iff {a b : String} : sameName a b = true ↔ lower a = lower b := by
  simp [sameName, lower, String.ofList_inj]

theorem sameName_of_lowered {a : String} (h : lower a = a) (b : String) :
    sameName a b = decide (a = lower b) := by
  rw [Bool.eq_iff_iff, sameName_iff, h, decide_eq_true_iff]

/-- The values that headers have under a name, however the name is spelled. -/
def valuesOf {α : Type} (name : String) (headers : List (String × α)) : List α :=
  (headers.filter fun e => sameName e.1 name).map Prod.snd

section

variable {α : Type} {name : String}

theorem valuesOf_cons (e : String × α) (headers : List (String × α)) :
    valuesOf name (e :: headers) =
      (if sameName e.1 name then [e.2] else []) ++ valuesOf name headers := by
  by_cases h : sameName e.1 name <;> simp [valuesOf, h]

theorem valuesOf_append (headers others : List (String × α)) :
    valuesOf name (headers ++ others) = valuesOf name headers ++ valuesOf name others := by
  simp [valuesOf]

theorem valuesOf_map_prodMk (key : String) (vs : List α) :
    valuesOf name (vs.map (key, ·)) = if sameName key name then vs else [] := by
  by_cases h : sameName key name <;> simp [valuesOf, List.filter_map, Function.comp_def, h]

theorem valuesOf_eq_nil {headers : List (String × α)} :
    valuesOf name headers = [] ↔ ∀ e ∈ headers, ¬ sameName e.1 name = true := by
  simp [valuesOf]

end

namespace Http

namespace HeaderMap

def values (h : HeaderMap) (name : String) : List String := valuesOf name h.toList

structure Tidy (h : HeaderMap) : Prop where
  distinct : h.names.Nodup
  lowered : ∀ g ∈ h.groups, lower g.1 = g.1
  filled : ∀ g ∈ h.groups, g.2 ≠ []

variable {h custom : HeaderMap} {name other value : String} {headers : List (String × String)}
  {e : String × String}

theorem values_eq_find? (ht : h.Tidy) (name : String) :
    h.values name = (Fields.find? (lower name) h.groups).getD [] := by
  obtain ⟨groups⟩ := h
  obtain ⟨hd, hl, -⟩ := ht
  simp only [values, toList, names] at hd hl ⊢
  induction groups with
  | nil => rfl
  | cons g rest ih =>
    obtain ⟨hg, hrest⟩ := List.forall_mem_cons.1 hl
    rw [List.map_cons, List.nodup_cons] at hd
    rw [List.flatMap_cons, valuesOf_append, valuesOf_map_prodMk, ih hd.2 hrest,
      sameName_of_lowered hg]
    by_cases hn : g.1 = lower name
    · have hnone := Fields.find?_of_notMem hd.1
      rw [hn] at hnone
      simp [Fields.find?, hn, hnone]
    · simp [Fields.find?, hn]

theorem Tidy.values_ne_nil_iff (ht : h.Tidy) :
    h.values name ≠ [] ↔ lower name ∈ h.names := by
  rw [values_eq_find? ht]
  constructor
  · intro hv
    by_contra hn
    rw [Fields.find?_of_notMem hn] at hv
    exact hv rfl
  · intro hn
    obtain ⟨g, hg, hgn⟩ := List.mem_map.1 hn
    rw [← hgn, Fields.find?_of_mem ht.distinct hg]
    exact ht.filled g hg

theorem Tidy.contains_iff (ht : h.Tidy) (hl : lower name = name) :
    h.contains name = true ↔ h.values name ≠ [] := by
  rw [ht.values_ne_nil_iff, hl]
  simp [contains, names]

theorem tidy_empty : empty.Tidy := by
  constructor <;> simp [empty, names]

theorem appendTo_eq_insert (name value : String) (groups : List (String × List String)) :
    appendTo name value groups =
      Fields.insert name ((Fields.find? name groups).getD [] ++ [value]) groups := by
  induction groups with
  | nil => rfl
  | cons g rest ih =>
    by_cases hg : g.1 = name <;> simp [appendTo, Fields.insert, Fields.find?, hg, ih]

theorem Tidy.append (ht : h.Tidy) (hl : lower name = name) (value : String) :
    (h.append name value).Tidy where
  distinct := by
    rw [names, HeaderMap.append, appendTo_eq_insert]
    exact Fields.nodup_insert ht.distinct name _
  lowered g hg := by
    rw [HeaderMap.append, appendTo_eq_insert] at hg
    rcases Fields.mem_insert hg with rfl | hg
    · exact hl
    · exact ht.lowered g hg
  filled g hg := by
    rw [HeaderMap.append, appendTo_eq_insert] at hg
    rcases Fields.mem_insert hg with rfl | hg
    · simp
    · exact ht.filled g hg

theorem Tidy.values_append (ht : h.Tidy) (hl : lower name = name) (value other : String) :
    (h.append name value).values other =
      h.values other ++ if sameName name other then [value] else [] := by
  rw [values_eq_find? (ht.append hl value), values_eq_find? ht, HeaderMap.append,
    appendTo_eq_insert, sameName_of_lowered hl]
  by_cases hn : name = lower other
  · rw [hn, Fields.find?_insert_self]
    simp
  · rw [Fields.find?_insert_of_ne (Ne.symm hn)]
    simp [hn]

theorem Tidy.appendAll (ht : h.Tidy) (hl : ∀ e ∈ headers, lower e.1 = e.1) :
    (h.appendAll headers).Tidy ∧
      ∀ other, (h.appendAll headers).values other = h.values other ++ valuesOf other headers := by
  induction headers generalizing h with
  | nil => exact ⟨ht, fun other => by simp [HeaderMap.appendAll, valuesOf]⟩
  | cons e rest ih =>
    obtain ⟨he, hrest⟩ := List.forall_mem_cons.1 hl
    obtain ⟨htidy, hv⟩ := ih (ht.append he e.2) hrest
    refine ⟨htidy, fun other => (hv other).trans ?_⟩
    rw [ht.values_append he, valuesOf_cons, List.append_assoc]

theorem tidy_ofList (hl : ∀ e ∈ headers, lower e.1 = e.1) : (ofList headers).Tidy :=
  (tidy_empty.appendAll hl).1

theorem values_ofList (hl : ∀ e ∈ headers, lower e.1 = e.1) (name : String) :
    (ofList headers).values name = valuesOf name headers := by
  rw [ofList, (tidy_empty.appendAll hl).2]
  rfl

theorem removeFrom_perm {groups : List (String × List String)}
    (hd : (groups.map Prod.fst).Nodup) (name : String) :
    (removeFrom name groups).Perm (groups.filter fun g => g.1 ≠ name) := by
  induction groups with
  | nil => rfl
  | cons g rest ih =>
    rw [List.map_cons, List.nodup_cons] at hd
    by_cases hg : g.1 = name
    · have hrest : rest.filter (fun g => g.1 ≠ name) = rest := by
        refine List.filter_eq_self.2 fun e he => ?_
        have hne : e.1 ≠ name := fun hn => hd.1 (by rw [hg, ← hn]; exact List.mem_map_of_mem he)
        simpa using hne
      rw [List.filter_cons_of_neg (by simpa using hg), hrest]
      cases hl : rest.getLast? with
      | none => simp [removeFrom, hg, List.getLast?_eq_none_iff.1 hl]
      | some l =>
        have hsplit : rest.dropLast ++ [l] = rest := List.dropLast_append_getLast? l hl
        have hp : (l :: rest.dropLast).Perm (rest.dropLast ++ [l]) :=
          (List.perm_append_singleton l _).symm
        simpa [removeFrom, hg, hl, hsplit] using hp
    · simpa [removeFrom, hg] using (ih hd.2)

theorem Tidy.remove (ht : h.Tidy) (name : String) : (h.remove name).Tidy := by
  have hp := removeFrom_perm ht.distinct name
  have hm : ∀ g ∈ (h.remove name).groups, g ∈ h.groups := fun g hg =>
    List.mem_of_mem_filter (hp.mem_iff.1 hg)
  refine ⟨?_, fun g hg => ht.lowered g (hm g hg), fun g hg => ht.filled g (hm g hg)⟩
  exact (hp.map Prod.fst).nodup_iff.2 (ht.distinct.sublist (List.filter_sublist.map Prod.fst))

theorem Tidy.values_remove (ht : h.Tidy) (hl : lower name = name) (other : String) :
    (h.remove name).values other = if sameName name other then [] else h.values other := by
  have hp := removeFrom_perm ht.distinct name
  rw [values_eq_find? (ht.remove name), values_eq_find? ht, HeaderMap.remove,
    Fields.find?_of_perm hp.symm (ht.distinct.sublist (List.filter_sublist.map Prod.fst)),
    Fields.find?_filter_ne, sameName_of_lowered hl]
  by_cases hn : name = lower other
  · simp [hn]
  · simp [hn, Ne.symm hn]

theorem Tidy.removeAll {names : List String} (ht : h.Tidy) (hl : ∀ n ∈ names, lower n = n) :
    (h.removeAll names).Tidy ∧ ∀ other, (h.removeAll names).values other =
      if lower other ∈ names then [] else h.values other := by
  induction names generalizing h with
  | nil => exact ⟨ht, fun other => by simp [HeaderMap.removeAll]⟩
  | cons n rest ih =>
    obtain ⟨hn, hrest⟩ := List.forall_mem_cons.1 hl
    obtain ⟨htidy, hv⟩ := ih (ht.remove n) hrest
    refine ⟨htidy, fun other => (hv other).trans ?_⟩
    rw [ht.values_remove hn, sameName_of_lowered hn]
    by_cases hr : lower other ∈ rest <;> by_cases ho : n = lower other <;>
      simp [hr, ho, eq_comm]

theorem Tidy.lowered_names (ht : h.Tidy) : ∀ n ∈ h.names, lower n = n := by
  intro n hn
  obtain ⟨g, hg, rfl⟩ := List.mem_map.1 hn
  exact ht.lowered g hg

theorem Tidy.lowered_toList (ht : h.Tidy) : ∀ e ∈ h.toList, lower e.1 = e.1 := by
  intro e he
  obtain ⟨g, hg, he⟩ := List.mem_flatMap.1 he
  obtain ⟨v, -, rfl⟩ := List.mem_map.1 he
  exact ht.lowered g hg

theorem Tidy.override (ht : h.Tidy) (hc : custom.Tidy) :
    (h.override custom).Tidy ∧ ∀ name, (h.override custom).values name =
      if custom.values name = [] then h.values name else custom.values name := by
  obtain ⟨hr, hrv⟩ := ht.removeAll hc.lowered_names
  obtain ⟨ho, hov⟩ := hr.appendAll hc.lowered_toList
  refine ⟨ho, fun name => (hov name).trans ?_⟩
  have hn : lower name ∈ custom.names ↔ custom.values name ≠ [] := hc.values_ne_nil_iff.symm
  rw [hrv, ← values]
  by_cases hv : custom.values name = [] <;> simp [hn, hv]

theorem mem_toList_append (he : e ∈ (h.append name value).toList) :
    e = (name, value) ∨ e ∈ h.toList := by
  obtain ⟨groups⟩ := h
  simp only [HeaderMap.append, toList] at he ⊢
  induction groups with
  | nil =>
    left
    simpa [appendTo] using he
  | cons g rest ih =>
    rw [List.flatMap_cons, List.mem_append]
    by_cases hg : g.1 = name
    · rw [appendTo, if_pos hg, List.flatMap_cons, List.mem_append, List.map_append,
        List.mem_append, List.map_singleton, List.mem_singleton, hg] at he
      rw [hg]
      tauto
    · rw [appendTo, if_neg hg, List.flatMap_cons, List.mem_append] at he
      rcases he with he | he
      · exact .inr (.inl he)
      · exact (ih he).imp_right .inr

theorem mem_toList_appendAll (he : e ∈ (h.appendAll headers).toList) :
    e ∈ headers ∨ e ∈ h.toList := by
  induction headers generalizing h with
  | nil => exact .inr he
  | cons f rest ih =>
    rcases ih he with hr | hh
    · exact .inl (List.mem_cons_of_mem f hr)
    · rcases mem_toList_append hh with rfl | hh
      · exact .inl List.mem_cons_self
      · exact .inr hh

theorem mem_toList_ofList (he : e ∈ (ofList headers).toList) : e ∈ headers := by
  rcases mem_toList_appendAll he with he | he
  · exact he
  · cases he

theorem mem_removeFrom {groups : List (String × List String)} {g : String × List String}
    (hg : g ∈ removeFrom name groups) : g ∈ groups := by
  induction groups with
  | nil => exact hg
  | cons f rest ih =>
    rw [removeFrom] at hg
    split at hg
    · -- The last group comes first.
      split at hg
      · next l hl =>
        apply List.mem_cons_of_mem
        rcases List.mem_cons.1 hg with rfl | hg
        · exact List.mem_of_getLast? hl
        · exact List.mem_of_mem_dropLast hg
      · cases hg
    · rcases List.mem_cons.1 hg with rfl | hg
      · exact List.mem_cons_self
      · exact List.mem_cons_of_mem f (ih hg)

theorem mem_toList_removeAll {names : List String} (he : e ∈ (h.removeAll names).toList) :
    e ∈ h.toList := by
  induction names generalizing h with
  | nil => exact he
  | cons n rest ih =>
    obtain ⟨g, hg, heg⟩ := List.mem_flatMap.1 (ih he)
    exact List.mem_flatMap.2 ⟨g, mem_removeFrom hg, heg⟩

theorem mem_toList_override (he : e ∈ (h.override custom).toList) :
    e ∈ custom.toList ∨ e ∈ h.toList :=
  (mem_toList_appendAll he).imp_right mem_toList_removeAll

end HeaderMap

end Http

end Courier
