import Courier.Json.Printer
import Courier.Proofs.Json.Grammar
import Courier.Proofs.Number.Printed

/-! Printed JSON text has a tree, with what was printed at its place. -/

namespace Courier

namespace Json

open Reader Source

variable {v : Json} {rest : List Char}

theorem unit?_control {n : Nat} (h : n < 0x20) :
    unit? '0' '0' (hexDigit (n / 16)) (hexDigit (n % 16)) = some n := by
  revert h n
  decide

theorem stringBody_escapeChar (acc : List Char) (c : Char) (s : List Char) :
    stringBody acc (escapeChar c ++ s) = stringBody (c :: acc) s := by
  have hescape : ∀ e x : Char, e ≠ 'u' → unescape? e = some x →
      stringBody acc ('\\' :: e :: s) = stringBody (x :: acc) s := by
    intro e x he hx
    rw [stringBody.eq_def]
    simp [he, hx]
  rw [escapeChar]
  split_ifs with hquote hslash hb hf hn hr ht hcontrol
  · subst hquote
    exact hescape _ _ (by decide) rfl
  · subst hslash
    exact hescape _ _ (by decide) rfl
  · subst hb
    exact hescape _ _ (by decide) rfl
  · subst hf
    exact hescape _ _ (by decide) rfl
  · subst hn
    exact hescape _ _ (by decide) rfl
  · subst hr
    exact hescape _ _ (by decide) rfl
  · subst ht
    exact hescape _ _ (by decide) rfl
  · have hunit := unit?_control hcontrol
    have hlow : isLowSurrogate c.toNat = false := by
      simp only [isLowSurrogate, Bool.and_eq_false_iff, decide_eq_false_iff_not]
      omega
    have hhigh : isHighSurrogate c.toNat = false := by
      simp only [isHighSurrogate, Bool.and_eq_false_iff, decide_eq_false_iff_not]
      omega
    show stringBody acc ('\\' :: 'u' :: '0' :: '0' :: hexDigit (c.toNat / 16) ::
      hexDigit (c.toNat % 16) :: s) = _
    rw [stringBody.eq_def]
    simp [hunit, hlow, hhigh]
  · show stringBody acc (c :: s) = _
    rw [stringBody.eq_def]
    simp [hquote, hslash, hcontrol]

theorem stringBody_escaped (acc cs rest : List Char) :
    stringBody acc (cs.flatMap escapeChar ++ '"' :: rest) =
      .ok (String.ofList (acc.reverse ++ cs), rest) := by
  induction cs generalizing acc with
  | nil =>
    rw [List.flatMap_nil, List.nil_append, List.append_nil, stringBody.eq_def]
    rfl
  | cons c cs ih =>
    rw [List.flatMap_cons, List.append_assoc, stringBody_escapeChar, ih, List.reverse_cons,
      List.append_assoc, List.singleton_append]

theorem exists_quoted (s : String) (rest : List Char) :
    ∃ body, quoted s ++ rest = '"' :: body ∧ stringBody [] body = .ok (s, rest) := by
  refine ⟨s.toList.flatMap escapeChar ++ '"' :: rest, by simp [quoted], ?_⟩
  rw [stringBody_escaped]
  simp

mutual

/-- The tree that a document is printed as. -/
def source : Json → Source
  | null => .null
  | bool b => .bool b
  | number n => .number n.numeral
  | string s => .string s
  | array items => .array (itemSources items)
  | object fields => .object (fieldSources fields)

def itemSources : List Json → List Source
  | [] => []
  | v :: vs => v.source :: itemSources vs

def fieldSources : List (String × Json) → List (String × Source)
  | [] => []
  | (k, v) :: fs => (k, v.source) :: fieldSources fs

end

theorem blanks_lineBreak (level : Option Nat) (s : List Char) :
    Blanks (lineBreak level ++ s) s := by
  have hspaces : ∀ n, Blanks (List.replicate n ' ' ++ s) s := by
    intro n
    induction n with
    | zero => exact .none
    | succ n ih => exact .more rfl ih
  cases level with
  | none => exact .none
  | some level => exact .more rfl (hspaces _)

theorem key_quoted (k : String) (level : Option Nat) (rest : List Char) :
    Key k (quoted k ++ (colon level ++ rest)) rest := by
  obtain ⟨body, hq, hbody⟩ := exists_quoted k (colon level ++ rest)
  rw [hq]
  cases level with
  | none => exact .intro hbody .none .none
  | some level => exact .intro hbody .none (.more rfl .none)

theorem spellsItems_comma {ws : List Source} {s : List Char} (hne : ws ≠ [])
    (h : SpellsItems true ws s rest) : SpellsItems false ws (',' :: s) rest := by
  cases h with
  | close => exact absurd rfl hne
  | first hb hw hr => exact .next .none hb hw hr

theorem spellsMembers_comma {ms : List (String × Source)} {s : List Char} (hne : ms ≠ [])
    (h : SpellsMembers true ms s rest) : SpellsMembers false ms (',' :: s) rest := by
  cases h with
  | close => exact absurd rfl hne
  | first hb hk hw hr => exact .next .none hb hk hw hr

/-- The document is printed as its tree, at every level and in front of any text. -/
def Prints (v : Json) : Prop := ∀ level rest, Spells v.source (text level v ++ rest) rest

theorem spellsItems_text {items : List Json} (h : ∀ v ∈ items, v.Prints) (level : Option Nat)
    (rest : List Char) :
    SpellsItems true (itemSources items) (itemsText level items ++ ']' :: rest) rest := by
  induction items with
  | nil => exact .close .none
  | cons v vs ih =>
    have hv := h v List.mem_cons_self
    have ih := ih fun w hw => h w (List.mem_cons_of_mem v hw)
    have hbreak := blanks_lineBreak (inner level)
    cases vs with
    | nil =>
      have hlast : SpellsItems false [] (lineBreak level ++ ']' :: rest) rest :=
        .close (blanks_lineBreak level _)
      rw [itemsText, List.append_assoc, List.append_assoc]
      exact .first (hbreak _) (hv _ _) hlast
    | cons w vs =>
      have hnext := spellsItems_comma (by rw [itemSources]; exact List.cons_ne_nil _ _) ih
      rw [itemsText, List.append_assoc, List.append_assoc]
      exact .first (hbreak _) (hv _ _) hnext

theorem spellsMembers_text {fields : List (String × Json)} (h : ∀ f ∈ fields, f.2.Prints)
    (level : Option Nat) (rest : List Char) :
    SpellsMembers true (fieldSources fields) (fieldsText level fields ++ '}' :: rest) rest := by
  induction fields with
  | nil => exact .close .none
  | cons f fs ih =>
    obtain ⟨k, v⟩ := f
    have hv := h (k, v) List.mem_cons_self
    have ih := ih fun g hg => h g (List.mem_cons_of_mem _ hg)
    have hbreak := blanks_lineBreak (inner level)
    cases fs with
    | nil =>
      have hlast : SpellsMembers false [] (lineBreak level ++ '}' :: rest) rest :=
        .close (blanks_lineBreak level _)
      rw [fieldsText]
      simp only [List.append_assoc]
      exact .first (hbreak _) (key_quoted k level _) (hv _ _) hlast
    | cons g fs =>
      have hnext := spellsMembers_comma (by rw [fieldSources]; exact List.cons_ne_nil _ _) ih
      rw [fieldsText]
      simp only [List.append_assoc]
      exact .first (hbreak _) (key_quoted k level _) (hv _ _) hnext

theorem prints (h : v.Throughout Regular) : v.Prints := by
  induction v using Json.induction with
  | null => exact fun level rest => .null
  | bool b =>
    intro level rest
    cases b
    · exact .false
    · exact .true
  | number n => exact fun level rest => .number (Number.spelled_numeral h.self)
  | string s =>
    intro level rest
    obtain ⟨body, hq, hbody⟩ := exists_quoted s rest
    rw [text, hq]
    exact .string hbody
  | array items ih =>
    intro level rest
    have hitems : ∀ v ∈ items, v.Prints := fun d hd => ih d hd (h.of_mem hd)
    rw [text, List.append_assoc]
    exact .array (spellsItems_text hitems level rest)
  | object fields ih =>
    intro level rest
    have hfields : ∀ f ∈ fields, f.2.Prints := fun f hf =>
      ih f hf (h.of_mem_fields h.self hf)
    rw [text, List.append_assoc]
    exact .object (spellsMembers_text hfields level rest)

theorem isDocument_text (h : v.Throughout Regular) (level : Option Nat) :
    v.source.IsDocument (text level v) := by
  have hv := prints h level []
  rw [List.append_nil] at hv
  exact ⟨_, [], .none, hv, .none⟩

theorem itemSources_eq_map (items : List Json) : itemSources items = items.map source := by
  induction items with
  | nil => rfl
  | cons v vs ih => rw [itemSources, ih, List.map_cons]

theorem find?_fieldSources (k : String) (fields : List (String × Json)) :
    Fields.find? k (fieldSources fields) = (Fields.find? k fields).map source := by
  induction fields with
  | nil => rfl
  | cons f fs ih =>
    rw [fieldSources, Fields.find?, Fields.find?, ih]
    split <;> rfl

theorem map_fst_fieldSources (fields : List (String × Json)) :
    (fieldSources fields).map Prod.fst = fields.map Prod.fst := by
  induction fields with
  | nil => rfl
  | cons f fs ih => rw [fieldSources, List.map_cons, List.map_cons, ih]

theorem child?_source (h : Regular v) (s : Step) :
    v.source.child? s = (v.child? s).map source := by
  cases v with
  | array items =>
    cases s with
    | field k => rfl
    | item i =>
      show (itemSources items)[i]? = _
      rw [itemSources_eq_map, List.getElem?_map]
      rfl
  | object fields =>
    cases s with
    | field k =>
      -- No key comes twice, so the last member with it is also the first one.
      have hkeys : ((fieldSources fields).reverse.map Prod.fst).Nodup := by
        rw [List.map_reverse, List.nodup_reverse, map_fst_fieldSources]
        exact h
      show Fields.find? k (fieldSources fields).reverse = _
      rw [← Fields.find?_of_perm (List.reverse_perm _) hkeys, find?_fieldSources]
      rfl
    | item i => rfl
  | _ => cases s <;> rfl

theorem get?_source (h : v.Throughout Regular) (q : Location) :
    v.source.get? q = (v.get? q).map source := by
  induction q generalizing v with
  | nil => rfl
  | cons s q ih =>
    rw [Source.get?_cons, Json.get?_cons, child?_source h.self]
    cases hc : v.child? s with
    | none => rfl
    | some d => exact ih (h.child hc)

end Json

end Courier
