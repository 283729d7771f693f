import Courier.Proofs.Headers

/-! Headers behind a history of changes. The changes to a name since it was last absent decide how
it is spelled, and what is sent is what the changes added and no later one took away. -/

namespace Courier

namespace Headers

inductive Change where
  | add (name : String) (value : Option String)
  | setDefault (name value : String)
  | remove (name : String)

namespace Change

def name : Change → String
  | add name _ | setDefault name _ | remove name => name

def apply (c : Change) (h : Headers) : Headers :=
  match c with
  | add name value => h.add name value
  | setDefault name value => h.setDefault name value
  | remove name => h.remove name

def isRemoval : Change → Bool
  | remove _ => true
  | _ => false

/-- The change leaves no value of the name: it suppresses the name or removes it. -/
def clears (c : Change) (name : String) : Bool :=
  match c with
  | add other none | remove other => sameName name other
  | _ => false

end Change

def replay (cs : List Change) : Headers := cs.foldl (fun h c => c.apply h) empty

/-- The changes to a name since it was last absent. -/
def tenure (name : String) (cs : List Change) : List Change :=
  (cs.filter fun c => sameName c.name name).rtakeWhile fun c => !c.isRemoval

/-- The spelling that was used first since the name was last absent. -/
def firstSpelling? (name : String) (cs : List Change) : Option String :=
  (tenure name cs).head?.map Change.name

/-- The header that a change adds behind a history. A default is for absent names only. -/
def Change.added? (before : List Change) : Change → Option (String × String)
  | add name value => value.map ((firstSpelling? name before).getD name, ·)
  | setDefault name value => if tenure name before = [] then some (name, value) else none
  | remove _ => none

/-- The header that the change at a place added, unless a later change cleared its name. -/
def survivor? (cs : List Change) (i : Nat) : Option (String × String) :=
  (cs[i]?.bind (Change.added? (cs.take i))).filter fun e =>
    (cs.drop (i + 1)).all fun c => !c.clears e.1

/-- What a history says about the headers behind it. -/
structure Records (cs : List Change) (h : Headers) : Prop where
  absent : ∀ name, h.getAll name = [] ↔ tenure name cs = []
  unmixed : ∀ name, h.getAll name = [none] ∨ none ∉ h.getAll name
  spelled : ∀ e ∈ h.entries, firstSpelling? e.1 cs = some e.1

variable {h : Headers} {cs : List Change} {c : Change} {name other : String}

theorem sameName_comm (a b : String) : sameName a b = sameName b a := by
  rw [Bool.eq_iff_iff, sameName_iff, sameName_iff, eq_comm]

theorem replay_concat (cs : List Change) (c : Change) :
    replay (cs ++ [c]) = c.apply (replay cs) := by
  simp [replay]

theorem tenure_congr (hs : sameName name other = true) : tenure name cs = tenure other cs := by
  have hp : ∀ c : Change, sameName c.name name = sameName c.name other := by
    intro c
    rw [Bool.eq_iff_iff, sameName_iff, sameName_iff, sameName_iff.1 hs]
  simp [tenure, hp]

theorem firstSpelling?_congr (hs : sameName name other = true) :
    firstSpelling? name cs = firstSpelling? other cs := by
  rw [firstSpelling?, tenure_congr hs, firstSpelling?]

theorem tenure_concat_of_ne (hn : sameName c.name name = false) :
    tenure name (cs ++ [c]) = tenure name cs := by
  simp [tenure, hn]

theorem tenure_concat (hn : sameName c.name name = true) :
    tenure name (cs ++ [c]) = if c.isRemoval then [] else tenure name cs ++ [c] := by
  have hf : (cs ++ [c]).filter (fun c => sameName c.name name) =
      cs.filter (fun c => sameName c.name name) ++ [c] := by
    simp [hn]
  rw [tenure, hf, List.rtakeWhile_concat, tenure]
  cases c.isRemoval <;> rfl

theorem firstSpelling?_concat_of_ne (hn : sameName c.name name = false) :
    firstSpelling? name (cs ++ [c]) = firstSpelling? name cs := by
  rw [firstSpelling?, tenure_concat_of_ne hn, firstSpelling?]

theorem firstSpelling?_concat (hn : sameName c.name name = true) (hr : c.isRemoval = false) :
    firstSpelling? name (cs ++ [c]) = some ((firstSpelling? name cs).getD c.name) := by
  rw [firstSpelling?, tenure_concat hn, firstSpelling?]
  cases tenure name cs <;> simp [hr]

theorem firstSpelling?_eq_none : firstSpelling? name cs = none ↔ tenure name cs = [] := by
  simp [firstSpelling?]

theorem getAll_apply_of_ne (h : Headers) (hn : sameName c.name name = false) :
    (c.apply h).getAll name = h.getAll name := by
  cases c with
  | add other value =>
    have hn : sameName other name = false := hn
    simp [Change.apply, getAll_add, hn]
  | setDefault other value =>
    have hn : sameName other name = false := hn
    simp [Change.apply, getAll_setDefault, hn]
  | remove other =>
    have hn : sameName other name = false := hn
    simp [Change.apply, getAll_remove, hn]

theorem join_ne_nil (values : List (Option String)) (value : Option String) :
    join values value ≠ [] := by
  rw [join]
  split <;> simp

theorem getAll_apply_eq_nil (h : Headers) (hn : sameName c.name name = true) :
    (c.apply h).getAll name = [] ↔ c.isRemoval = true := by
  cases c with
  | add other value =>
    have hn : sameName other name = true := hn
    simp [Change.apply, getAll_add, hn, join_ne_nil, Change.isRemoval]
  | setDefault other value =>
    have hn : sameName other name = true := hn
    by_cases hnil : h.getAll name = [] <;>
      simp [Change.apply, getAll_setDefault, hn, hnil, Change.isRemoval]
  | remove other =>
    have hn : sameName other name = true := hn
    simp [Change.apply, getAll_remove, hn, Change.isRemoval]

theorem join_some {values : List (Option String)} (hu : values = [none] ∨ none ∉ values)
    (value : String) :
    join values (some value) =
      if values = [none] then [some value] else values ++ [some value] := by
  rcases hu with rfl | hu
  · rfl
  · have hne : values ≠ [none] := by
      rintro rfl
      simp at hu
    rw [if_neg hne]
    cases values with
    | nil => rfl
    | cons v vs =>
      have hv : v ≠ none := fun he => hu (by simp [he])
      simp [join, hv]

theorem unmixed_join {values : List (Option String)} (hu : values = [none] ∨ none ∉ values)
    (value : Option String) : join values value = [none] ∨ none ∉ join values value := by
  cases value with
  | none => exact .inl rfl
  | some v =>
    right
    rw [join_some hu]
    rcases hu with rfl | hu
    · simp
    · split <;> simp [hu]

theorem unmixed_apply (hu : ∀ name, h.getAll name = [none] ∨ none ∉ h.getAll name) (c : Change)
    (name : String) : (c.apply h).getAll name = [none] ∨ none ∉ (c.apply h).getAll name := by
  cases c with
  | add other value =>
    rw [Change.apply, getAll_add]
    split
    · exact unmixed_join (hu name) value
    · exact hu name
  | setDefault other value =>
    rw [Change.apply, getAll_setDefault]
    split
    · simp
    · exact hu name
  | remove other =>
    rw [Change.apply, getAll_remove]
    split
    · simp
    · exact hu name

theorem spelling_of_absent (ha : h.getAll name = []) : h.spelling name = name := by
  have hf : (h.entries.find? fun e => sameName e.1 name) = none := by
    simpa [getAll] using ha
  rw [spelling, hf]
  rfl

theorem Records.spelling_eq (hr : Records cs h) (name : String) :
    h.spelling name = (firstSpelling? name cs).getD name := by
  by_cases ha : h.getAll name = []
  · rw [spelling_of_absent ha, firstSpelling?_eq_none.2 ((hr.absent name).1 ha)]
    rfl
  · obtain ⟨e, he⟩ : ∃ e, (h.entries.find? fun e => sameName e.1 name) = some e := by
      rw [← Option.isSome_iff_exists]
      simpa [getAll] using ha
    have hs : sameName e.1 name = true := by simpa using List.find?_some he
    rw [spelling, he, ← firstSpelling?_congr hs, hr.spelled e (List.mem_of_find?_eq_some he)]
    rfl

theorem mem_entries_apply {e : String × Option String} (he : e ∈ (c.apply h).entries) :
    e ∈ h.entries ∧ (sameName c.name e.1 = true → c.isRemoval = false) ∨
      e.1 = h.spelling c.name ∧ c.isRemoval = false := by
  cases c with
  | add name value =>
    rw [Change.apply, add, push] at he
    rcases List.mem_append.1 he with he | he
    · refine .inl ⟨?_, fun _ => rfl⟩
      split at he
      · exact List.mem_of_mem_filter he
      · exact he
    · right
      rw [List.mem_singleton] at he
      rw [he]
      exact ⟨rfl, rfl⟩
  | setDefault name value =>
    rw [Change.apply, setDefault] at he
    split at he
    · exact .inl ⟨he, fun _ => rfl⟩
    · next hc =>
      rcases List.mem_append.1 he with he | he
      · exact .inl ⟨he, fun _ => rfl⟩
      · right
        rw [contains_iff, not_not] at hc
        rw [List.mem_singleton] at he
        rw [he]
        exact ⟨(spelling_of_absent hc).symm, rfl⟩
  | remove name =>
    obtain ⟨hmem, hne⟩ := List.mem_filter.1 he
    refine .inl ⟨hmem, fun hs => ?_⟩
    rw [sameName_comm] at hs
    simp [show sameName e.1 name = true from hs] at hne

theorem records_empty : Records [] empty where
  absent name := by simp [getAll, empty, tenure]
  unmixed name := by simp [getAll, empty]
  spelled e he := by cases he

theorem Records.apply (hr : Records cs h) (c : Change) : Records (cs ++ [c]) (c.apply h) where
  absent name := by
    by_cases hn : sameName c.name name = true
    · rw [getAll_apply_eq_nil h hn, tenure_concat hn]
      split <;> simp_all
    · rw [Bool.not_eq_true] at hn
      rw [getAll_apply_of_ne h hn, tenure_concat_of_ne hn, hr.absent]
  unmixed := unmixed_apply hr.unmixed c
  spelled e he := by
    rcases mem_entries_apply he with ⟨hmem, hkeep⟩ | ⟨hnew, hkeep⟩
    · by_cases hn : sameName c.name e.1 = true
      · rw [firstSpelling?_concat hn (hkeep hn), hr.spelled e hmem]
        rfl
      · rw [firstSpelling?_concat_of_ne (Bool.eq_false_iff.2 hn), hr.spelled e hmem]
    · have hs : sameName e.1 c.name = true := hnew ▸ sameName_spelling h c.name
      rw [firstSpelling?_congr hs, firstSpelling?_concat (sameName_iff.2 rfl) hkeep,
        ← hr.spelling_eq, hnew]

theorem records_replay (cs : List Change) : Records cs (replay cs) := by
  induction cs using List.reverseRecOn with
  | nil => exact records_empty
  | append_singleton cs c ih =>
    rw [replay_concat]
    exact ih.apply c

theorem sent_push (h : Headers) (name : String) (value : Option String) :
    (h.push name value).sent = h.sent ++ (value.map (name, ·)).toList := by
  cases value <;> simp [push, sent]

theorem sent_remove (h : Headers) (name : String) :
    (h.remove name).sent = h.sent.filter fun e => !sameName e.1 name := by
  simp only [remove, sent, List.filter_filterMap, List.filterMap_filter]
  refine List.filterMap_congr fun e _ => ?_
  obtain ⟨key, value⟩ := e
  cases value with
  | none => simp
  | some v => by_cases hs : sameName key name = true <;> simp [hs, Option.filter]

theorem sent_remove_of_given (hg : h.given name = []) : (h.remove name).sent = h.sent := by
  rw [sent_remove, List.filter_eq_self]
  intro e he
  rw [← valuesOf_sent, valuesOf_eq_nil] at hg
  simpa using hg e he

/-- One change clears what it clears, and adds its own header behind the others. -/
theorem Records.sent_apply (hr : Records cs h) (c : Change) :
    (c.apply h).sent =
      h.sent.filter (fun e => !c.clears e.1) ++ (c.added? cs).toList := by
  cases c with
  | add name value =>
    rw [Change.apply, add, sent_push, hr.spelling_eq]
    cases value with
    | none => simp [sent_remove, Change.clears, Change.added?]
    | some v =>
      have hkept : (if (h.getAll name).all Option.isNone then h.remove name else h).sent =
          h.sent := by
        split
        · next hall =>
          refine sent_remove_of_given ?_
          simpa [given, List.reduceOption, List.filterMap_eq_nil_iff,
            Option.isNone_iff_eq_none] using hall
        · rfl
      rw [Option.isNone_some, Bool.false_or, hkept]
      simp [Change.clears, Change.added?]
  | setDefault name value =>
    rw [Change.apply, setDefault]
    by_cases ha : h.getAll name = []
    · have hc : ¬ h.contains name = true := by simpa [contains_iff] using ha
      simp [hc, sent_push, Change.clears, Change.added?, (hr.absent name).1 ha]
    · have hc : h.contains name = true := contains_iff.2 ha
      have ht : tenure name cs ≠ [] := mt (hr.absent name).2 ha
      simp [hc, Change.clears, Change.added?, ht]
  | remove name =>
    rw [Change.apply, sent_remove]
    simp [Change.clears, Change.added?]

theorem survivor?_concat_of_lt {i : Nat} (hi : i < cs.length) (c : Change) :
    survivor? (cs ++ [c]) i = (survivor? cs i).filter fun e => !c.clears e.1 := by
  have htake : (cs ++ [c]).take i = cs.take i := List.take_append_of_le_length hi.le
  have hdrop : (cs ++ [c]).drop (i + 1) = cs.drop (i + 1) ++ [c] :=
    List.drop_append_of_le_length hi
  simp only [survivor?, List.getElem?_append_left hi, htake, hdrop, List.all_append,
    Option.filter_filter, List.all_cons, List.all_nil, Bool.and_true]

theorem survivor?_concat_length (cs : List Change) (c : Change) :
    survivor? (cs ++ [c]) cs.length = c.added? cs := by
  simp only [survivor?, List.getElem?_concat_length, Option.bind_some, List.take_left]
  cases c.added? cs <;> simp

theorem sent_replay (cs : List Change) :
    (replay cs).sent = (List.range cs.length).filterMap (survivor? cs) := by
  induction cs using List.reverseRecOn with
  | nil => rfl
  | append_singleton cs c ih =>
    have hold : (List.range cs.length).filterMap (survivor? (cs ++ [c])) =
        ((List.range cs.length).filterMap (survivor? cs)).filter fun e => !c.clears e.1 := by
      rw [List.filter_filterMap]
      exact List.filterMap_congr fun i hi => survivor?_concat_of_lt (List.mem_range.1 hi) c
    rw [replay_concat, (records_replay cs).sent_apply, ih, List.length_append,
      List.length_singleton, List.range_succ, List.filterMap_append, hold]
    cases ha : c.added? cs <;> simp [survivor?_concat_length, ha]

/-- What each operation makes of the values of a name, and of the other names. -/
structure Laws (h : Headers) : Prop where
  others : ∀ (c : Change) (name : String), sameName c.name name = false →
    (c.apply h).getAll name = h.getAll name
  suppressed : ∀ name, (h.add name none).getAll name = [none]
  joined : ∀ name value, (h.add name (some value)).getAll name =
    if h.getAll name = [none] then [some value] else h.getAll name ++ [some value]
  known : ∀ name value, h.contains name = true → h.setDefault name value = h
  unknown : ∀ name value, h.contains name = false →
    (h.setDefault name value).getAll name = [some value]
  removed : ∀ name, (h.remove name).getAll name = []

theorem laws_of_unmixed (hu : ∀ name, h.getAll name = [none] ∨ none ∉ h.getAll name) : h.Laws where
  others _ _ := getAll_apply_of_ne h
  suppressed name := by simp [getAll_add, sameName_iff, join]
  joined name value := by
    rw [getAll_add, if_pos (sameName_iff.2 rfl), join_some (hu name)]
  known name value hc := by simp [setDefault, hc]
  unknown name value hc := by
    have hnil : h.getAll name = [] := by
      by_contra hne
      rw [contains_iff.2 hne] at hc
      cases hc
    simp [getAll_setDefault, sameName_iff, hnil]
  removed name := by simp [getAll_remove, sameName_iff]

/-- Behind any history the entries of a name are one suppression or values only, in the spelling
that was used first since the name was last absent. Each further change obeys the laws, and what is
sent is what the changes added and no later one cleared, in their order. -/
theorem replay_obeys_history (cs : List Change) :
    (∀ name, ((replay cs).getAll name = [none] ∨ none ∉ (replay cs).getAll name) ∧
      ((replay cs).getAll name = [] ↔ tenure name cs = []) ∧
      ∀ e ∈ (replay cs).entries, sameName e.1 name = true →
        firstSpelling? name cs = some e.1) ∧
    (replay cs).Laws ∧
    (replay cs).sent = (List.range cs.length).filterMap (survivor? cs) := by
  have hr := records_replay cs
  refine ⟨fun name => ⟨hr.unmixed name, hr.absent name, fun e he hs => ?_⟩,
    laws_of_unmixed hr.unmixed, sent_replay cs⟩
  rw [← firstSpelling?_congr hs, hr.spelled e he]

theorem replay_obeys_history_respelled :
    let cs : List Change := [.add "X-A" (some "1"), .add "x-a" none, .setDefault "X-a" "9",
      .add "Y" (some "2"), .remove "X-a", .add "x-a" (some "3"), .add "X-A" (some "4"),
      .add "Z" none]
    let h := replay cs
    h.entries = [("Y", some "2"), ("x-a", some "3"), ("x-a", some "4"), ("Z", none)] ∧
      h.sent = [("Y", "2"), ("x-a", "3"), ("x-a", "4")] ∧
      firstSpelling? "X-A" cs = some "x-a" ∧
      ((Change.remove "y").apply h).getAll "X-A" = h.getAll "X-A" ∧
      h.setDefault "z" "5" = h ∧ (h.setDefault "W" "5").getAll "W" = [some "5"] := by
  intro cs h
  have he : h.entries = [("Y", some "2"), ("x-a", some "3"), ("x-a", some "4"), ("Z", none)] := by
    decide +kernel
  have hs : (List.range cs.length).filterMap (survivor? cs) =
      [("Y", "2"), ("x-a", "3"), ("x-a", "4")] := by
    decide +kernel
  obtain ⟨hnames, hlaws, hsent⟩ := replay_obeys_history cs
  exact ⟨he, hsent.trans hs, (hnames "X-A").2.2 ("x-a", some "3") (by simp [h, he]) (by decide),
    hlaws.others _ _ (by decide), hlaws.known _ _ (by decide), hlaws.unknown _ _ (by decide)⟩

end Headers

end Courier
