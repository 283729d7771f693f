import Courier.Proofs.Item.Split
import Courier.Proofs.Path.Spelling
import Courier.Proofs.Text.Backslashes

/-! Items written with escaped separators, read back. The texts of paths are among the keys that
come through unchanged: each backslash in them makes a pair with the character behind it. -/

namespace Courier

namespace Item

/-- The characters that separators are made of. -/
def isMark (c : Char) : Bool := c = ':' || c = ';' || c = '=' || c = '@'

theorem isMark_iff {c : Char} : isMark c = true ↔ c = ':' ∨ c = ';' ∨ c = '=' ∨ c = '@' := by
  simp [isMark, or_assoc]

theorem isSpecial_all : isSpecial Separator.all = isMark := by
  funext c
  rw [Bool.eq_iff_iff, isSpecial_iff, isMark_iff]
  constructor
  · rintro ⟨s, -, hc⟩
    cases s <;> simp [Separator.text] at hc <;> tauto
  · rintro (rfl | rfl | rfl | rfl)
    · exact ⟨.header, Separator.mem_all _, by decide⟩
    · exact ⟨.headerEmpty, Separator.mem_all _, by decide⟩
    · exact ⟨.field, Separator.mem_all _, by decide⟩
    · exact ⟨.upload, Separator.mem_all _, by decide⟩

theorem isMark_of_mem_text {s : Separator} {c : Char} (h : c ∈ s.text) : isMark c = true := by
  rw [← isSpecial_all]
  exact isSpecial_iff.2 ⟨s, Separator.mem_all s, h⟩

theorem notMem_text (s : Separator) : '\\' ∉ s.text := by
  intro h
  cases isMark_of_mem_text h

/-- An item with a backslash in front of every character of key and value that separators are made
of. -/
def spell (key : String) (s : Separator) (value : String) : String :=
  String.ofList (escape isMark key.toList ++ s.text ++ escape isMark value.toList)

theorem marks_spell {key value : String} (hk : Paired isMark key.toList)
    (hv : EvenRuns isMark value.toList) (s : Separator) :
    marks Separator.all (spell key s value) =
      key.toList.map (Mark.ofEscaped isMark) ++ s.text.map .plain ++
        value.toList.map (Mark.ofEscaped isMark) := by
  rw [marks, isSpecial_all, spell, String.toList_ofList, List.append_assoc,
    hk.read_escape_append rfl, Mark.read_append_of_notMem _ (notMem_text s), hv.read_escape rfl,
    List.append_assoc]

theorem plain_notMem_map_ofEscaped {c : Char} (h : isMark c = true) (s : List Char) :
    Mark.plain c ∉ s.map (Mark.ofEscaped isMark) := by
  intro hm
  obtain ⟨d, -, hd⟩ := List.mem_map.1 hm
  by_cases hs : isMark d = true
  · simp [Mark.ofEscaped, hs] at hd
  · rw [Mark.ofEscaped, if_neg hs] at hd
    cases hd
    exact hs h

theorem Occurs.length_le {separators : List Separator} {front rest b a : List Mark} {t : Separator}
    (h : Occurs separators (front ++ rest) b t a) (hf : ∀ c ∈ t.text, Mark.plain c ∉ front) :
    front.length ≤ b.length := by
  by_contra hlt
  obtain ⟨c, cs, hc⟩ := List.exists_cons_of_ne_nil t.text_ne_nil
  have hget := congrArg (·[b.length]?) h.marks
  simp only [hc, List.append_assoc, List.map_cons, List.cons_append] at hget
  rw [List.getElem?_append_left (Nat.not_le.1 hlt), List.getElem?_append_right le_rfl,
    Nat.sub_self] at hget
  exact hf c (by simp [hc]) (List.mem_of_getElem? hget)

theorem Occurs.text_length_le {separators : List Separator} {front rest a : List Mark}
    {s t : Separator} (h : Occurs separators (front ++ s.text.map .plain ++ rest) front t a)
    (hr : ∀ c ∈ t.text, Mark.plain c ∉ rest) : t.text.length ≤ s.text.length := by
  by_contra hlt
  have hm := h.marks
  rw [List.append_assoc, List.append_assoc] at hm
  obtain ⟨us, ht, hu⟩ : ∃ us, t.text.map Mark.plain = s.text.map .plain ++ us ∧ rest = us ++ a := by
    rcases List.append_eq_append_iff.1 (List.append_cancel_left hm).symm with
      ⟨us, hs, -⟩ | ⟨us, ht, hu⟩
    · have hlen := congrArg List.length hs
      simp only [List.length_map, List.length_append] at hlen
      omega
    · exact ⟨us, ht, hu⟩
  cases us with
  | nil =>
    have hlen := congrArg List.length ht
    simp only [List.length_map, List.append_nil] at hlen
    omega
  | cons m us =>
    have hmt : m ∈ t.text.map Mark.plain := by rw [ht]; simp
    obtain ⟨c, hc, rfl⟩ := List.mem_map.1 hmt
    exact hr c hc (by rw [hu]; simp)

/-- Between an escaped key and an escaped value only the separator written there stands. -/
theorem splits_spell (key value : List Char) (s : Separator) :
    Splits Separator.all
      (key.map (Mark.ofEscaped isMark) ++ s.text.map .plain ++ value.map (Mark.ofEscaped isMark))
      (key.map (Mark.ofEscaped isMark)) s (value.map (Mark.ofEscaped isMark)) where
  listed := Separator.mem_all s
  marks := rfl
  earliest b t a h := by
    rw [List.append_assoc] at h
    exact h.length_le fun c hc => plain_notMem_map_ofEscaped (isMark_of_mem_text hc) key
  longest t a h :=
    h.text_length_le fun c hc => plain_notMem_map_ofEscaped (isMark_of_mem_text hc) value

/-- Splitting undoes escaping, if no backslash of key or value pairs up with one that escaping puts
in. -/
theorem parse?_spell {key value : String} (hk : Paired isMark key.toList)
    (hv : EvenRuns isMark value.toList) (s : Separator) :
    parse? (spell key s value) = some ⟨key, value, s, spell key s value⟩ := by
  rw [parse?, parseWith?_eq_some_iff, marks_spell hk hv]
  refine ⟨_, _, splits_spell key.toList value.toList s, ?_, ?_, rfl⟩
  · rw [Mark.decode_map_ofEscaped, String.ofList_toList]
  · rw [Mark.decode_map_ofEscaped, String.ofList_toList]

/-- Splitting undoes escaping for each separator, if the backslashes in front of characters that
separators are made of come in even runs, in the key also those in front of the separator itself. -/
theorem parse?_spell_evenRuns {key value : String} (hk : EvenRuns isMark key.toList)
    (he : EvenEnd key.toList) (hv : EvenRuns isMark value.toList) :
    ∀ s ∈ Separator.all, parse? (spell key s value) = some ⟨key, value, s, spell key s value⟩ := by
  intro s _
  have hcolon : isMark ':' = true := rfl
  exact parse?_spell (hk.paired he hcolon (by decide)) hv s

theorem parse?_spell_evenRuns_longer :
    let key := "=\\é\\\\:"
    let value := "=@\\\\;\\"
    EvenRuns isMark key.toList ∧ EvenEnd key.toList ∧ EvenRuns isMark value.toList ∧
      spell key .field value = "\\=\\é\\\\\\:=\\=\\@\\\\\\;\\" ∧
      ∀ s ∈ Separator.all,
        parse? (spell key s value) = some ⟨key, value, s, spell key s value⟩ := by
  intro key value
  have hk : EvenRuns isMark key.toList := by decide
  have he : EvenEnd key.toList := by decide
  have hv : EvenRuns isMark value.toList := by decide
  exact ⟨hk, he, hv, by cbv, parse?_spell_evenRuns hk he hv⟩

end Item

namespace Path

open Item (isMark)

theorem isMark_of_isSpecial {c : Char} (h : Lexeme.isSpecial c = true) : isMark c = false := by
  rcases Lexeme.isSpecial_iff.1 h with rfl | rfl | rfl <;> rfl

theorem isMark_of_read? {s : List Char} {n : Int} (h : Integer.read? s = some n) {c : Char}
    (hc : c ∈ s) : isMark c = false := by
  by_contra hm
  have hi := Integer.mem_of_read? h hc
  rcases Item.isMark_iff.1 (Bool.eq_true_of_not_eq_false hm) with rfl | rfl | rfl | rfl <;>
    simp at hi

theorem paired_spellKey (k : String) : Paired isMark (spellKey k) := by
  cases hr : Integer.read? k.toList with
  | none =>
    rw [spellKey, hr]
    exact Paired.escape rfl (fun c => isMark_of_isSpecial) k.toList
  | some n =>
    obtain ⟨d, ds, hd⟩ : ∃ d ds, k.toList = d :: ds := by
      refine List.exists_cons_of_ne_nil fun hz => ?_
      rw [hz] at hr
      cases hr
    have hmark : isMark d = false := isMark_of_read? hr (by simp [hd])
    have hrest : '\\' ∉ ds := fun hm => Lexeme.notMem_of_read? hr (by simp [hd, hm])
    rw [spellKey, hr, hd]
    exact .backslash hmark (.of_notMem hrest)

theorem paired_spell_accessor (a : Accessor) : Paired isMark a.spell := by
  have hclose : Paired isMark [']'] := .char (by decide) .nil
  cases a with
  | key k => exact .char (by decide) ((paired_spellKey k).append hclose)
  | index i => exact .char (by decide) ((Paired.of_notMem (Integer.notMem_spell i)).append hclose)
  | append => exact .char (by decide) hclose

theorem paired_flatMap_spell (as : List Accessor) : Paired isMark (as.flatMap Accessor.spell) := by
  induction as with
  | nil => exact .nil
  | cons a as ih => exact (paired_spell_accessor a).append ih

theorem paired_spell (as : List Accessor) : Paired isMark (spell as).toList := by
  unfold spell
  split
  · next k rest =>
    rw [String.toList_ofList]
    exact (paired_spellKey k).append (paired_flatMap_spell rest)
  · rw [String.toList_ofList]
    exact paired_flatMap_spell _

theorem map_action_of_parse {source : String} {segments : List Segment}
    (h : parse source = .ok segments) :
    segments.map Segment.action = (accessors segments).map .access := by
  have hacc := exists_access_of_parse h
  clear h
  induction segments with
  | nil => rfl
  | cons s segments ih =>
    obtain ⟨a, ha⟩ := hacc s (by simp)
    rw [accessors_cons ha, List.map_cons, List.map_cons, ha,
      ih fun t ht => hacc t (List.mem_cons_of_mem s ht)]

/-- An item for a chain of accessors, with separators escaped in the text of its path and in the
value, is split into these two, and the path is parsed into the chain. -/
theorem parse?_spell_path {as : List Accessor} (hne : as ≠ []) (h : ∀ a ∈ as, a.Spellable)
    {value : String} (hv : EvenRuns isMark value.toList) (s : Separator) :
    Item.parse? (Item.spell (spell as) s value) =
        some ⟨spell as, value, s, Item.spell (spell as) s value⟩ ∧
      ∃ segments, parse (spell as) = .ok segments ∧
        segments.map Segment.action = as.map .access := by
  refine ⟨Item.parse?_spell (paired_spell as) hv s, ?_⟩
  obtain ⟨segments, hp, hacc⟩ := parse_spell hne h
  exact ⟨segments, hp, by rw [map_action_of_parse hp, hacc]⟩

theorem parse?_spell_path_backslashes :
    let as : List Accessor := [.key "\\=[", .key "-5", .append, .index (-5), .key "@\\"]
    let value := "\\\\=@\\"
    as ≠ [] ∧ (∀ a ∈ as, a.Spellable) ∧ EvenRuns isMark value.toList ∧
      spell as = "\\\\=\\[[\\-5][][-5][@\\\\]" ∧
      Item.spell (spell as) .json value =
        "\\\\\\=\\[[\\-5][][-5][\\@\\\\]:=\\\\\\=\\@\\" ∧
      Item.parse? (Item.spell (spell as) .json value) =
        some ⟨spell as, value, .json, Item.spell (spell as) .json value⟩ ∧
      ∃ segments, parse (spell as) = .ok segments ∧
        segments.map Segment.action = as.map .access := by
  intro as value
  have hne : as ≠ [] := by simp [as]
  have hs : ∀ a ∈ as, a.Spellable := by
    simp [as, Accessor.Spellable, Integer.InRange, Integer.minimum, Integer.maximum]
  have hv : EvenRuns isMark value.toList := by decide
  exact ⟨hne, hs, hv, by cbv, by cbv, parse?_spell_path hne hs hv .json⟩

end Path

end Courier
