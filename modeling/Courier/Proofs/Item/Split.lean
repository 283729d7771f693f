import Courier.Item.Basic
import Courier.Proofs.Text.Escape

/-! Where an item is split: at the first place where a separator stands whose characters are all
literal, and there at the longest one. The order in which separators are listed plays no part. -/

namespace Courier

namespace Separator

theorem text_ne_nil (s : Separator) : s.text ≠ [] := by
  cases s <;> simp [text]

theorem text_injective : Function.Injective text := by
  intro s t h
  cases s <;> cases t <;> simp_all [text]

theorem mem_all (s : Separator) : s ∈ all := by
  cases s <;> simp [all]

end Separator

namespace Item

variable {separators others : List Separator} {m n : Mark} {ms before after b a : List Mark}
  {s t : Separator}

theorem isSpecial_iff {c : Char} :
    isSpecial separators c = true ↔ ∃ s ∈ separators, c ∈ s.text := by
  simp [isSpecial]

theorem startsWith_iff {cs : List Char} :
    startsWith cs ms = true ↔ ∃ after, ms = cs.map .plain ++ after := by
  induction cs generalizing ms with
  | nil => simp [startsWith]
  | cons c cs ih =>
    cases ms with
    | nil => simp [startsWith]
    | cons m ms =>
      cases m with
      | escaped d => simp [startsWith]
      | plain d =>
        rw [startsWith, Bool.and_eq_true, beq_iff_eq, ih]
        simp [eq_comm]

theorem foldr_longer_eq_none {l : List Separator} : l.foldr longer none = none ↔ l = [] := by
  cases l with
  | nil => simp
  | cons s l =>
    cases h : l.foldr longer none with
    | none => simp [h, longer]
    | some t =>
      simp only [List.foldr_cons, h, longer, reduceCtorEq, iff_false]
      split <;> simp

theorem longest_of_foldr_longer {l : List Separator} (h : l.foldr longer none = some s) :
    s ∈ l ∧ ∀ t ∈ l, t.text.length ≤ s.text.length := by
  induction l generalizing s with
  | nil => cases h
  | cons u l ih =>
    cases hl : l.foldr longer none with
    | none =>
      obtain rfl := foldr_longer_eq_none.1 hl
      obtain rfl : u = s := by simpa [longer] using h
      simp
    | some v =>
      obtain ⟨hv, hmax⟩ := ih hl
      rw [List.foldr_cons, hl, longer] at h
      split at h
      · next hlt =>
        cases h
        refine ⟨by simp, fun t ht => ?_⟩
        rcases List.mem_cons.1 ht with rfl | ht
        · exact le_rfl
        · exact (hmax t ht).trans hlt.le
      · next hge =>
        cases h
        refine ⟨List.mem_cons_of_mem u hv, fun t ht => ?_⟩
        rcases List.mem_cons.1 ht with rfl | ht
        · exact Nat.not_lt.1 hge
        · exact hmax t ht

theorem separatorAt?_eq_none :
    separatorAt? separators ms = none ↔ ∀ s ∈ separators, ¬ startsWith s.text ms = true := by
  rw [separatorAt?, foldr_longer_eq_none, List.filter_eq_nil_iff]

theorem separatorAt?_eq_some (h : separatorAt? separators ms = some s) :
    s ∈ separators ∧ startsWith s.text ms = true ∧
      ∀ t ∈ separators, startsWith t.text ms = true → t.text.length ≤ s.text.length := by
  obtain ⟨hs, hmax⟩ := longest_of_foldr_longer h
  obtain ⟨hmem, hstart⟩ := List.mem_filter.1 hs
  exact ⟨hmem, hstart, fun t ht hst => hmax t (List.mem_filter.2 ⟨ht, hst⟩)⟩

/-- A listed separator stands in the marks, and none of its characters is escaped. -/
structure Occurs (separators : List Separator) (ms before : List Mark) (s : Separator)
    (after : List Mark) : Prop where
  listed : s ∈ separators
  marks : ms = before ++ s.text.map .plain ++ after

/-- No separator starts before this one, and none that starts with it is longer. -/
structure Splits (separators : List Separator) (ms before : List Mark) (s : Separator)
    (after : List Mark) : Prop extends Occurs separators ms before s after where
  earliest : ∀ b t a, Occurs separators ms b t a → before.length ≤ b.length
  longest : ∀ t a, Occurs separators ms before t a → t.text.length ≤ s.text.length

theorem occurs_nil_iff :
    Occurs separators ms [] s after ↔ s ∈ separators ∧ ms = s.text.map .plain ++ after :=
  ⟨fun h => ⟨h.listed, h.marks⟩, fun h => ⟨h.1, h.2⟩⟩

theorem occurs_cons_iff :
    Occurs separators (m :: ms) (n :: before) s after ↔
      m = n ∧ Occurs separators ms before s after := by
  constructor
  · rintro ⟨hs, hm⟩
    obtain ⟨rfl, rfl⟩ := List.cons.inj hm
    exact ⟨rfl, hs, rfl⟩
  · rintro ⟨rfl, hs, rfl⟩
    exact ⟨hs, rfl⟩

theorem not_occurs_nil : ¬ Occurs separators [] before s after := by
  intro h
  have hz := h.marks
  simp [s.text_ne_nil] at hz

theorem Occurs.startsWith (h : Occurs separators ms [] s after) :
    startsWith s.text ms = true :=
  startsWith_iff.2 ⟨after, (occurs_nil_iff.1 h).2⟩

theorem Occurs.exists_cons (h : Occurs separators (m :: ms) before s after)
    (hn : separatorAt? separators (m :: ms) = none) :
    ∃ b, before = m :: b ∧ Occurs separators ms b s after := by
  cases before with
  | nil => exact absurd h.startsWith (separatorAt?_eq_none.1 hn s h.listed)
  | cons n b =>
    obtain ⟨rfl, hb⟩ := occurs_cons_iff.1 h
    exact ⟨b, rfl, hb⟩

theorem Splits.cons (h : Splits separators ms before s after)
    (hn : separatorAt? separators (m :: ms) = none) :
    Splits separators (m :: ms) (m :: before) s after where
  toOccurs := occurs_cons_iff.2 ⟨rfl, h.toOccurs⟩
  earliest b t a hb := by
    obtain ⟨c, rfl, hc⟩ := hb.exists_cons hn
    exact Nat.succ_le_succ (h.earliest c t a hc)
  longest t a ht := h.longest t a (occurs_cons_iff.1 ht).2

theorem splits_of_separatorAt? (h : separatorAt? separators ms = some s) :
    Splits separators ms [] s (ms.drop s.text.length) := by
  obtain ⟨hs, hstart, hmax⟩ := separatorAt?_eq_some h
  obtain ⟨after, rfl⟩ := startsWith_iff.1 hstart
  have hdrop : (s.text.map Mark.plain ++ after).drop s.text.length = after := by
    rw [← List.length_map (f := Mark.plain), List.drop_left]
  rw [hdrop]
  exact {
    listed := hs
    marks := rfl
    earliest := fun _ _ _ _ => Nat.zero_le _
    longest := fun t a ht => hmax t ht.listed ht.startsWith }

theorem splits_of_split? (h : split? separators ms = some (before, s, after)) :
    Splits separators ms before s after := by
  induction ms generalizing before with
  | nil => cases h
  | cons m ms ih =>
    rw [split?] at h
    split at h
    · next s' hs =>
      cases h
      exact splits_of_separatorAt? hs
    · next hn =>
      obtain ⟨⟨b, t, a⟩, hb, he⟩ := Option.map_eq_some_iff.1 h
      cases he
      exact (ih hb).cons hn

theorem not_occurs_of_split? (h : split? separators ms = none) :
    ¬ Occurs separators ms before s after := by
  induction ms generalizing before with
  | nil => exact not_occurs_nil
  | cons m ms ih =>
    intro ho
    rw [split?] at h
    split at h
    · cases h
    · next hn =>
      obtain ⟨b, -, hb⟩ := ho.exists_cons hn
      exact ih (Option.map_eq_none_iff.1 h) hb

/-- There is one place to split at. -/
theorem Splits.unique (h : Splits separators ms before s after) (h' : Splits separators ms b t a) :
    before = b ∧ s = t ∧ after = a := by
  have hlen : before.length = b.length :=
    le_antisymm (h.earliest b t a h'.toOccurs) (h'.earliest before s after h.toOccurs)
  have hm : before ++ (s.text.map .plain ++ after) = b ++ (t.text.map .plain ++ a) := by
    rw [← List.append_assoc, ← List.append_assoc, ← h.marks, ← h'.marks]
  obtain ⟨rfl, hrest⟩ := List.append_inj hm hlen
  have htext : s.text.length = t.text.length :=
    le_antisymm (h'.longest s after h.toOccurs) (h.longest t a h'.toOccurs)
  obtain ⟨hs, rfl⟩ := List.append_inj hrest (by simpa using htext)
  have hplain : Function.Injective Mark.plain := fun _ _ => Mark.plain.inj
  exact ⟨rfl, Separator.text_injective (hplain.list_map hs), rfl⟩

theorem split?_eq_some_iff :
    split? separators ms = some (before, s, after) ↔ Splits separators ms before s after := by
  refine ⟨splits_of_split?, fun h => ?_⟩
  cases hs : split? separators ms with
  | none => exact absurd h.toOccurs (not_occurs_of_split? hs)
  | some x =>
    obtain ⟨rfl, rfl, rfl⟩ := h.unique (splits_of_split? hs)
    rfl

theorem isSome_split?_iff :
    (split? separators ms).isSome = true ↔
      ∃ before s after, Occurs separators ms before s after := by
  constructor
  · intro h
    obtain ⟨⟨b, s, a⟩, hs⟩ := Option.isSome_iff_exists.1 h
    exact ⟨b, s, a, (splits_of_split? hs).toOccurs⟩
  · rintro ⟨b, s, a, ho⟩
    cases hs : split? separators ms with
    | none => exact absurd ho (not_occurs_of_split? hs)
    | some x => rfl

theorem Occurs.congr (h : ∀ s, s ∈ separators ↔ s ∈ others)
    (ho : Occurs separators ms before s after) : Occurs others ms before s after :=
  ⟨(h s).1 ho.listed, ho.marks⟩

theorem Splits.congr (h : ∀ s, s ∈ separators ↔ s ∈ others)
    (hs : Splits separators ms before s after) : Splits others ms before s after where
  toOccurs := hs.toOccurs.congr h
  earliest b t a ht := hs.earliest b t a (ht.congr fun s => (h s).symm)
  longest t a ht := hs.longest t a (ht.congr fun s => (h s).symm)

theorem split?_congr (h : ∀ s, s ∈ separators ↔ s ∈ others) (ms : List Mark) :
    split? separators ms = split? others ms := by
  ext ⟨b, s, a⟩
  rw [split?_eq_some_iff, split?_eq_some_iff]
  exact ⟨Splits.congr h, Splits.congr fun s => (h s).symm⟩

theorem isSpecial_congr (h : ∀ s, s ∈ separators ↔ s ∈ others) :
    isSpecial separators = isSpecial others := by
  funext c
  rw [Bool.eq_iff_iff, isSpecial_iff, isSpecial_iff]
  exact exists_congr fun s => and_congr_left fun _ => h s

theorem parseWith?_congr (h : ∀ s, s ∈ separators ↔ s ∈ others) (source : String) :
    parseWith? separators source = parseWith? others source := by
  rw [parseWith?, parseWith?, isSpecial_congr h, split?_congr h]

/-- The marks of a source, where the characters of the listed separators are special. -/
def marks (separators : List Separator) (source : String) : List Mark :=
  Mark.read (isSpecial separators) source.toList

theorem reads_iff_eq_marks {source : String} :
    Mark.Reads (fun c => ∃ s ∈ separators, c ∈ s.text) source.toList ms ↔
      ms = marks separators source := by
  have hspecial : (fun c => ∃ s ∈ separators, c ∈ s.text) =
      fun c => isSpecial separators c = true :=
    funext fun c => propext isSpecial_iff.symm
  rw [hspecial, Mark.reads_iff, marks]

theorem parseWith?_eq_some_iff {source : String} {item : Item} :
    parseWith? separators source = some item ↔
      ∃ before after, Splits separators (marks separators source) before item.separator after ∧
        item.key = String.ofList (Mark.decode before) ∧
        item.value = String.ofList (Mark.decode after) ∧ item.source = source := by
  rw [parseWith?, Option.map_eq_some_iff]
  constructor
  · rintro ⟨⟨b, s, a⟩, hs, rfl⟩
    exact ⟨b, a, split?_eq_some_iff.1 hs, rfl, rfl, rfl⟩
  · rintro ⟨b, a, hs, hk, hv, hsrc⟩
    refine ⟨(b, item.separator, a), split?_eq_some_iff.2 hs, ?_⟩
    cases item
    simp_all

theorem isSome_parseWith?_iff {source : String} :
    (parseWith? separators source).isSome = true ↔
      ∃ before s after, Occurs separators (marks separators source) before s after := by
  rw [parseWith?, Option.isSome_map]
  exact isSome_split?_iff

theorem Splits.decode (h : Splits separators ms before s after) :
    Mark.decode before ++ s.text ++ Mark.decode after = Mark.decode ms := by
  rw [h.marks, Mark.decode_append, Mark.decode_append, Mark.decode_map_plain]

/-- A source is read in one way, as marks. It is an item if a listed separator stands in them, and
is split at the first such place, there at the longest separator. Only which separators are listed
matters. -/
theorem parseWith?_first_longest (separators : List Separator) (source : String) :
    ∃ ms, (∀ ns, Mark.Reads (fun c => ∃ s ∈ separators, c ∈ s.text) source.toList ns ↔ ns = ms) ∧
      ((parseWith? separators source).isSome = true ↔
        ∃ before s after, Occurs separators ms before s after) ∧
      (∀ item, parseWith? separators source = some item →
        (∃ before after, Splits separators ms before item.separator after ∧
          item.key = String.ofList (Mark.decode before) ∧
          item.value = String.ofList (Mark.decode after)) ∧
        item.source = source ∧
        item.key.toList ++ item.separator.text ++ item.value.toList = Mark.decode ms) ∧
      ∀ others, (∀ s, s ∈ separators ↔ s ∈ others) →
        parseWith? others source = parseWith? separators source := by
  refine ⟨marks separators source, fun ns => reads_iff_eq_marks, isSome_parseWith?_iff,
    fun item h => ?_, fun others h => (parseWith?_congr h source).symm⟩
  obtain ⟨before, after, hs, hk, hv, hsource⟩ := parseWith?_eq_some_iff.1 h
  refine ⟨⟨before, after, hs, hk, hv⟩, hsource, ?_⟩
  rw [hk, hv, String.toList_ofList, String.toList_ofList, hs.decode]

theorem parseWith?_first_longest_behind_escape :
    let separators : List Separator := [.queryFile, .query, .query]
    let source := "é=\\==\\\\==@f"
    let item : Item := ⟨"é===\\\\", "f", .queryFile, source⟩
    parseWith? separators source = some item ∧
      (∀ s, s ∈ separators ↔ s ∈ [Separator.query, .queryFile]) ∧
      ∃ ms, Mark.Reads (fun c => ∃ s ∈ separators, c ∈ s.text) source.toList ms ∧
        (∃ before after, Splits separators ms before item.separator after ∧
          item.key = String.ofList (Mark.decode before) ∧
          item.value = String.ofList (Mark.decode after)) ∧
        item.key.toList ++ item.separator.text ++ item.value.toList = Mark.decode ms ∧
        parseWith? [.query, .queryFile] source = parseWith? separators source := by
  have hp : parseWith? [.queryFile, .query, .query] "é=\\==\\\\==@f" =
      some ⟨"é===\\\\", "f", .queryFile, "é=\\==\\\\==@f"⟩ := by
    cbv
  have hl : ∀ s, s ∈ [Separator.queryFile, .query, .query] ↔ s ∈ [Separator.query, .queryFile] := by
    intro s
    cases s <;> decide
  obtain ⟨ms, hread, -, hitem, hothers⟩ :=
    parseWith?_first_longest [.queryFile, .query, .query] "é=\\==\\\\==@f"
  obtain ⟨hs, -, hd⟩ := hitem _ hp
  exact ⟨hp, hl, ms, (hread ms).2 rfl, hs, hd, hothers _ hl⟩

end Item

end Courier
