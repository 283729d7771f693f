import Courier.Proofs.Json.Numeral

/-! What is read from a JSON text. Each accepted text is that of a tree, and the document is the one
that the tree stands for, whichever tree of the text it is. -/

namespace Courier

namespace Json.Reader

open Source

variable {w : Source} {ws : List Source} {ms : List (String × Source)} {c : Char}
  {s t r rest : List Char} {v : Json} {vs : List Json} {fs : List (String × Json)} {k : String}
  {first : Bool} {fuel depth : Nat}

theorem blanks_skip (s : List Char) : Blanks s (skip s) := by
  induction s with
  | nil => exact .none
  | cons c s ih =>
    by_cases hc : isBlank c = true
    · rw [skip, List.dropWhile_cons_of_pos hc]
      exact .more hc ih
    · rw [skip, List.dropWhile_cons_of_neg hc]
      exact .none

theorem skip_of_blanks (h : Blanks s t) : skip s = skip t := by
  induction h with
  | none => rfl
  | more hc _ ih => rw [← ih, skip, List.dropWhile_cons_of_pos hc, skip]

theorem skip_eq_cons (h : Blanks s (c :: t)) (hc : isBlank c = false) : skip s = c :: t := by
  rw [skip_of_blanks h, skip, List.dropWhile_cons_of_neg (by simp [hc])]

theorem skip_eq_nil_iff : skip s = [] ↔ Blanks s [] := by
  constructor
  · intro h
    rw [← h]
    exact blanks_skip s
  · intro h
    rw [skip_of_blanks h]
    rfl

theorem blanks_of_skip (h : skip s = t) : Blanks s t := h ▸ blanks_skip s

theorem ends_of_blanks (h : Blanks s t) (ht : Ends t) : Ends s := by
  cases h with
  | none => exact ht
  | @more d s t hd h =>
    rintro c ⟨⟩
    simp only [isBlank, Bool.or_eq_true, decide_eq_true_eq] at hd
    rcases hd with ((rfl | rfl) | rfl) | rfl <;> decide

theorem ends_cons (hc : c = ',' ∨ c = ']' ∨ c = '}') (t : List Char) : Ends (c :: t) := by
  rintro d ⟨⟩
  rcases hc with rfl | rfl | rfl <;> decide

theorem ends_of_spellsItems (h : SpellsItems false ws s rest) : Ends s := by
  cases h with
  | close h => exact ends_of_blanks h (ends_cons (by simp) _)
  | next hc => exact ends_of_blanks hc (ends_cons (by simp) _)

theorem ends_of_spellsMembers (h : SpellsMembers false ms s rest) : Ends s := by
  cases h with
  | close h => exact ends_of_blanks h (ends_cons (by simp) _)
  | next hc => exact ends_of_blanks hc (ends_cons (by simp) _)

def Begins (c : Char) : Prop := isBlank c = false ∧ c ≠ ',' ∧ c ≠ ']' ∧ c ≠ '}'

theorem begins_of_isDigit (h : c.isDigit = true) : Begins c := by
  have hb : isBlank c = false := by
    rw [Bool.eq_false_iff]
    intro hb
    simp only [isBlank, Bool.or_eq_true, decide_eq_true_eq] at hb
    rcases hb with ((rfl | rfl) | rfl) | rfl <;> cases h
  refine ⟨hb, ?_, ?_, ?_⟩ <;>
    · rintro rfl
      cases h

theorem exists_begins_of_spells (h : Spells w s rest) : ∃ c t, s = c :: t ∧ Begins c := by
  have hmark : ∀ c ∈ ['n', 't', 'f', '"', '[', '{', '-'], Begins c := by
    intro c hc
    simp only [List.mem_cons, List.not_mem_nil, or_false] at hc
    rcases hc with rfl | rfl | rfl | rfl | rfl | rfl | rfl <;> exact ⟨rfl, by decide⟩
  cases h with
  | @number n t rest h =>
    obtain ⟨hw, -, e, -, rfl⟩ := h
    cases hn : n.negative with
    | true => exact ⟨'-', _, rfl, hmark '-' (by simp)⟩
    | false =>
      generalize n.whole = ds at hw
      cases hw with
      | zero => exact ⟨'0', _, rfl, begins_of_isDigit rfl⟩
      | digits hd => exact ⟨_, _, rfl, begins_of_isDigit hd⟩
  | null => exact ⟨_, _, rfl, hmark _ (by simp)⟩
  | true => exact ⟨_, _, rfl, hmark _ (by simp)⟩
  | false => exact ⟨_, _, rfl, hmark _ (by simp)⟩
  | string => exact ⟨_, _, rfl, hmark _ (by simp)⟩
  | array => exact ⟨_, _, rfl, hmark _ (by simp)⟩
  | object => exact ⟨_, _, rfl, hmark _ (by simp)⟩

theorem length_of_blanks (h : Blanks s t) : t.length ≤ s.length := by
  induction h with
  | none => exact le_rfl
  | more _ _ ih => exact Nat.le_succ_of_le ih

theorem length_of_stringBody {acc : List Char} {v : String}
    (h : stringBody acc s = .ok (v, rest)) : rest.length < s.length := by
  fun_induction stringBody acc s with
  | case2 =>
    cases h
    exact Nat.lt_succ_self _
  | case4 | case6 | case15 | case18 =>
    rename_i ih
    have := ih h
    simp only [List.length_cons]
    omega
  | _ => cases h

theorem length_of_key (h : Key k s rest) : rest.length < s.length := by
  obtain ⟨hk, hc, hb⟩ := h
  have hk := length_of_stringBody hk
  have hc := length_of_blanks hc
  have hb := length_of_blanks hb
  simp only [List.length_cons] at hc ⊢
  omega

theorem length_of_spelled {n : Numeral} (h : n.Spelled t) : 0 < t.length := by
  obtain ⟨hw, -, e, -, rfl⟩ := h
  have hpos : 0 < n.whole.length := by
    generalize n.whole = ds at hw
    cases hw <;> exact Nat.succ_pos _
  simp only [List.length_append]
  omega

mutual

theorem length_of_spells : ∀ {w : Source} {s rest : List Char}, Spells w s rest →
    rest.length < s.length
  | _, _, _, .null | _, _, _, .true | _, _, _, .false => by
    simp only [List.length_cons]
    omega
  | _, _, _, .number h => by
    have hpos := length_of_spelled h
    rw [List.length_append]
    omega
  | _, _, _, .string h => Nat.lt_succ_of_lt (length_of_stringBody h)
  | _, _, _, .array h => Nat.lt_succ_of_lt (length_of_spellsItems h)
  | _, _, _, .object h => Nat.lt_succ_of_lt (length_of_spellsMembers h)

theorem length_of_spellsItems : ∀ {first : Bool} {ws : List Source} {s rest : List Char},
    SpellsItems first ws s rest → rest.length < s.length
  | _, _, _, _, .close h => length_of_blanks h
  | _, _, _, _, .first hb hw hr =>
    (length_of_spellsItems hr).trans ((length_of_spells hw).trans_le (length_of_blanks hb))
  | _, _, _, _, .next hc hb hw hr => by
    have hstart := (length_of_spells hw).trans_le (length_of_blanks hb)
    exact (length_of_spellsItems hr).trans
      (hstart.trans ((Nat.lt_succ_self _).trans_le (length_of_blanks hc)))

theorem length_of_spellsMembers : ∀ {first : Bool} {ms : List (String × Source)}
    {s rest : List Char}, SpellsMembers first ms s rest → rest.length < s.length
  | _, _, _, _, .close h => length_of_blanks h
  | _, _, _, _, .first hb hk hw hr => by
    have hstart := (length_of_key hk).trans_le (length_of_blanks hb)
    exact (length_of_spellsMembers hr).trans ((length_of_spells hw).trans hstart)
  | _, _, _, _, .next hc hb hk hw hr => by
    have hstart := (length_of_key hk).trans_le (length_of_blanks hb)
    have hvalue := (length_of_spells hw).trans hstart
    exact (length_of_spellsMembers hr).trans
      (hvalue.trans ((Nat.lt_succ_self _).trans_le (length_of_blanks hc)))

end

-- With enough fuel, any tree of the text says what is read, and whether it is.
def ValueFollows (fuel : Nat) : Prop :=
  ∀ {depth w s t rest v r}, 2 * s.length ≤ fuel → Blanks s t → Spells w t rest → Ends rest →
    (value fuel depth s = .ok (v, r) ↔ r = rest ∧ w.nesting ≤ depth ∧ w.evaluate = some v)

def ItemsFollow (fuel : Nat) : Prop :=
  ∀ {depth first acc ws s rest vs r}, 2 * s.length + 1 ≤ fuel → SpellsItems first ws s rest →
    (items fuel depth first acc s = .ok (vs, r) ↔ r = rest ∧ itemsNesting ws ≤ depth ∧
      ∃ us, evaluateItems ws = some us ∧ vs = acc.reverse ++ us)

def FieldsFollow (fuel : Nat) : Prop :=
  ∀ {depth first acc ms s rest fs r}, 2 * s.length + 1 ≤ fuel → SpellsMembers first ms s rest →
    (fields fuel depth first acc s = .ok (fs, r) ↔
      r = rest ∧ membersNesting ms ≤ depth ∧ evaluateMembers acc ms = some fs)

theorem value_digit (hs : skip s = c :: t) (hd : c.isDigit = true) :
    value (fuel + 1) depth s = (numeral false (c :: t)).map fun (n, r) => (number n, r) := by
  have hne : ∀ m : Char, m.isDigit = false → c ≠ m := by
    rintro m hm rfl
    rw [hd] at hm
    cases hm
  rw [value, hs]
  simp [hd, hne 'n' rfl, hne 't' rfl, hne 'f' rfl, hne '-' rfl]

theorem value_numeral {n : Numeral} (hn : n.Spelled t) (hs : skip s = t ++ rest) (he : Ends rest) :
    value (fuel + 1) depth s = .ok (v, r) ↔ r = rest ∧ n.value.toOption.map number = some v := by
  obtain ⟨body, rfl, ⟨d, ds, rfl, hd⟩, hread⟩ := numeral_append hn he
  have hv : value (fuel + 1) depth s =
      (numeral n.negative (d :: ds ++ rest)).map fun (n, r) => (number n, r) := by
    cases hneg : n.negative with
    | true =>
      rw [hneg] at hs
      rw [value, hs]
      rfl
    | false =>
      rw [hneg] at hs
      exact value_digit hs hd
  rw [hv, hread]
  cases n.value with
  | ok x => simp [Except.map, Except.toOption, eq_comm, and_comm]
  | error unread => simp [Except.map, Except.toOption]

theorem value_scalar {x : Json} (h : value fuel depth s = .ok (x, rest)) (hd : w.nesting = 0)
    (he : w.evaluate = some x) :
    value fuel depth s = .ok (v, r) ↔ r = rest ∧ w.nesting ≤ depth ∧ w.evaluate = some v := by
  rw [h, hd, he]
  simp [eq_comm, and_comm]

theorem bracket_iff {α : Type} {x : Except Fault (α × List Char)} {f : α → Json} {o : Option α}
    {n : Nat} (h : ∀ a r, x = .ok (a, r) ↔ r = rest ∧ n ≤ depth ∧ o = some a) :
    x.map (fun p => (f p.1, p.2)) = .ok (v, r) ↔
      r = rest ∧ n + 1 ≤ depth + 1 ∧ o.map f = some v := by
  rw [Except.map_eq_ok, Nat.add_le_add_iff_right, Option.map_eq_some_iff]
  constructor
  · rintro ⟨⟨a, r'⟩, hx, hv⟩
    cases hv
    obtain ⟨rfl, hd, ho⟩ := (h a _).1 hx
    exact ⟨rfl, hd, a, ho, rfl⟩
  · rintro ⟨rfl, hd, a, ho, rfl⟩
    exact ⟨(a, r), (h a r).2 ⟨rfl, hd, ho⟩, rfl⟩

theorem valueFollows_succ (hi : ItemsFollow fuel) (hf : FieldsFollow fuel) :
    ValueFollows (fuel + 1) := by
  intro depth w s t rest v r hfuel hb hw he
  obtain ⟨c, u, hc, hbegin⟩ := exists_begins_of_spells hw
  have hskip : skip s = t := by
    rw [hc] at hb ⊢
    exact skip_eq_cons hb hbegin.1
  have hinner : 2 * u.length + 1 ≤ fuel := by
    have hlen := length_of_blanks hb
    rw [hc, List.length_cons] at hlen
    omega
  cases hw with
  | number hn =>
    rw [value_numeral hn hskip he]
    simp [nesting, evaluate]
  | null | true | false =>
    refine value_scalar ?_ rfl rfl
    rw [value, hskip]
    rfl
  | string hs =>
    refine value_scalar ?_ rfl rfl
    rw [value, hskip]
    simp only [Char.reduceEq, if_false, if_true]
    rw [hs]
    rfl
  | array hs =>
    obtain ⟨-, rfl⟩ := List.cons.inj hc
    cases depth with
    | zero =>
      rw [value, hskip]
      simp [nesting]
    | succ depth =>
      have hitems : ∀ vs r, items fuel depth true [] _ = .ok (vs, r) ↔ _ := fun _ _ => hi hinner hs
      rw [value, hskip, nesting, evaluate]
      exact bracket_iff fun vs r => by simpa using hitems vs r
  | object hs =>
    obtain ⟨-, rfl⟩ := List.cons.inj hc
    cases depth with
    | zero =>
      rw [value, hskip]
      simp [nesting]
    | succ depth =>
      rw [value, hskip, nesting, evaluate]
      exact bracket_iff fun fs r => hf hinner hs

theorem items_next {acc : List Json} (hs : skip s = c :: t) (hc : c ≠ ']')
    (hn : nextItem first c t = .ok r) :
    items (fuel + 1) depth first acc s =
      (value fuel depth r).bind fun p => items fuel depth false (p.1 :: acc) p.2 := by
  rw [items, hs]
  simp only [hc, if_false, hn]
  cases value fuel depth r <;> rfl

theorem itemsFollow_succ (hv : ValueFollows fuel) (hi : ItemsFollow fuel) :
    ItemsFollow (fuel + 1) := by
  intro depth first acc ws s rest vs r hfuel hs
  -- An item begins behind blanks, where the reader gets to.
  have hitem : ∀ {w ws t u}, t.length ≤ s.length → Spells w t u → SpellsItems false ws u rest →
      ((value fuel depth t).bind (fun p => items fuel depth false (p.1 :: acc) p.2) =
        .ok (vs, r) ↔ r = rest ∧ itemsNesting (w :: ws) ≤ depth ∧
          ∃ us, evaluateItems (w :: ws) = some us ∧ vs = acc.reverse ++ us) := by
    intro w ws t u hlen hw hrest
    have hshorter := length_of_spells hw
    have hval : ∀ {v r}, value fuel depth t = .ok (v, r) ↔ _ :=
      hv (by omega) .none hw (ends_of_spellsItems hrest)
    have hitems : ∀ {acc : List Json}, items fuel depth false acc u = .ok (vs, r) ↔ _ :=
      hi (by omega) hrest
    rw [Except.bind_eq_ok, itemsNesting, max_le_iff, evaluateItems]
    constructor
    · rintro ⟨⟨v, r'⟩, hread, h⟩
      obtain ⟨rfl, hd, he⟩ := hval.1 hread
      obtain ⟨rfl, hds, us, hus, rfl⟩ := hitems.1 h
      refine ⟨rfl, ⟨hd, hds⟩, v :: us, ?_, by simp⟩
      rw [he, hus]
      rfl
    · rintro ⟨rfl, ⟨hd, hds⟩, us, hus, rfl⟩
      obtain ⟨v, he, hmap⟩ := Option.bind_eq_some_iff.1 hus
      obtain ⟨later, hlater, rfl⟩ := Option.map_eq_some_iff.1 hmap
      exact ⟨(v, u), hval.2 ⟨rfl, hd, he⟩, hitems.2 ⟨rfl, hds, later, hlater, by simp⟩⟩
  cases hs with
  | close hb =>
    rw [items, skip_eq_cons hb rfl]
    simp [itemsNesting, evaluateItems, eq_comm, and_comm]
  | @first w ws _ t u _ hb hw hrest =>
    obtain ⟨c, x, rfl, hbegin⟩ := exists_begins_of_spells hw
    rw [items_next (skip_eq_cons hb hbegin.1) hbegin.2.2.1 rfl]
    exact hitem (length_of_blanks hb) hw hrest
  | @next w ws _ c' t u _ hc hb hw hrest =>
    obtain ⟨c, x, rfl, hbegin⟩ := exists_begins_of_spells hw
    have hnext : nextItem false ',' c' = .ok (c :: x) := by
      simp [nextItem, skip_eq_cons hb hbegin.1, hbegin.2.2.1]
    have hlen := (length_of_blanks hb).trans ((Nat.le_succ _).trans (length_of_blanks hc))
    rw [items_next (skip_eq_cons hc rfl) (by decide) hnext]
    exact hitem hlen hw hrest

theorem skipColon_of_blanks (h : Blanks s (':' :: t)) : skipColon s = .ok t := by
  rw [skipColon, skip_eq_cons h rfl]
  rfl

theorem fields_next {acc : List (String × Json)} {a u : List Char} (hs : skip s = c :: t)
    (hc : c ≠ '}') (hn : nextKey first c t = .ok a) (hk : stringBody [] a = .ok (k, u))
    (hcolon : skipColon u = .ok r) :
    fields (fuel + 1) depth first acc s =
      (value fuel depth r).bind fun p => fields fuel depth false (Fields.insert k p.1 acc) p.2 := by
  rw [fields, hs]
  simp only [hc, if_false, hn, hk, hcolon]
  cases value fuel depth r <;> rfl

theorem fieldsFollow_succ (hv : ValueFollows fuel) (hf : FieldsFollow fuel) :
    FieldsFollow (fuel + 1) := by
  intro depth first acc ms s rest fs r hfuel hs
  -- The value of a member begins behind blanks, where the reader gets to.
  have hmember : ∀ {k w ms a t u}, a.length ≤ s.length → Blanks a t → Spells w t u →
      SpellsMembers false ms u rest →
      ((value fuel depth a).bind (fun p => fields fuel depth false (Fields.insert k p.1 acc) p.2) =
        .ok (fs, r) ↔ r = rest ∧ membersNesting ((k, w) :: ms) ≤ depth ∧
          evaluateMembers acc ((k, w) :: ms) = some fs) := by
    intro k w ms a t u hlen hb hw hrest
    have hshorter := (length_of_spells hw).trans_le (length_of_blanks hb)
    have hval : ∀ {v r}, value fuel depth a = .ok (v, r) ↔ _ :=
      hv (by omega) hb hw (ends_of_spellsMembers hrest)
    have hfields : ∀ {acc : List (String × Json)},
        fields fuel depth false acc u = .ok (fs, r) ↔ _ := hf (by omega) hrest
    rw [Except.bind_eq_ok, membersNesting, max_le_iff, evaluateMembers]
    constructor
    · rintro ⟨⟨v, r'⟩, hread, h⟩
      obtain ⟨rfl, hd, he⟩ := hval.1 hread
      obtain ⟨rfl, hds, hfs⟩ := hfields.1 h
      exact ⟨rfl, ⟨hd, hds⟩, Option.bind_eq_some_iff.2 ⟨v, he, hfs⟩⟩
    · rintro ⟨rfl, ⟨hd, hds⟩, hfs⟩
      obtain ⟨v, he, hfs⟩ := Option.bind_eq_some_iff.1 hfs
      exact ⟨(v, u), hval.2 ⟨rfl, hd, he⟩, hfields.2 ⟨rfl, hds, hfs⟩⟩
  cases hs with
  | close hb =>
    rw [fields, skip_eq_cons hb rfl]
    simp [membersNesting, evaluateMembers, eq_comm, and_comm]
  | first hb hk hw hrest =>
    obtain ⟨hbody, hcolon, hblank⟩ := hk
    have hlen := length_of_blanks hb
    have hkey := length_of_stringBody hbody
    have hvalue := length_of_blanks hcolon
    simp only [List.length_cons] at hlen hvalue
    rw [fields_next (skip_eq_cons hb rfl) (by decide) rfl hbody (skipColon_of_blanks hcolon)]
    exact hmember (by omega) hblank hw hrest
  | @next _ _ _ _ c' _ _ _ _ hc hb hk hw hrest =>
    obtain @⟨body, _, _, _, hbody, hcolon, hblank⟩ := hk
    have hcomma := length_of_blanks hc
    have hlen := length_of_blanks hb
    have hkey := length_of_stringBody hbody
    have hvalue := length_of_blanks hcolon
    have hnext : nextKey false ',' c' = .ok body := by simp [nextKey, skip_eq_cons hb rfl]
    simp only [List.length_cons] at hcomma hlen hvalue
    rw [fields_next (skip_eq_cons hc rfl) (by decide) hnext hbody (skipColon_of_blanks hcolon)]
    exact hmember (by omega) hblank hw hrest

theorem follows (fuel : Nat) : ValueFollows fuel ∧ ItemsFollow fuel ∧ FieldsFollow fuel := by
  induction fuel with
  | zero =>
    refine ⟨?_, ?_, ?_⟩
    · intro depth w s t rest v r hfuel hb hw
      have := length_of_blanks hb
      have := length_of_spells hw
      omega
    · intro depth first acc ws s rest vs r hfuel
      omega
    · intro depth first acc ms s rest fs r hfuel
      omega
  | succ fuel ih =>
    obtain ⟨hv, hi, hf⟩ := ih
    exact ⟨valueFollows_succ hi hf, itemsFollow_succ hv hi, fieldsFollow_succ hv hf⟩

def ValueSound (fuel : Nat) : Prop :=
  ∀ {depth s v r}, value fuel depth s = .ok (v, r) → ∃ w t, Blanks s t ∧ Spells w t r

def ItemsSound (fuel : Nat) : Prop :=
  ∀ {depth first acc s vs r}, items fuel depth first acc s = .ok (vs, r) →
    ∃ ws, SpellsItems first ws s r

def FieldsSound (fuel : Nat) : Prop :=
  ∀ {depth first acc s fs r}, fields fuel depth first acc s = .ok (fs, r) →
    ∃ ms, SpellsMembers first ms s r

theorem word_eq_ok {es : List Char} (h : word es s = .ok rest) : s = es ++ rest := by
  induction es generalizing s with
  | nil =>
    cases h
    rfl
  | cons e es ih =>
    cases s with
    | nil => cases h
    | cons c s =>
      rw [word] at h
      split at h
      · next hc => rw [hc, ih h, List.cons_append]
      · cases h

theorem map_word_eq_ok {α : Type} {es : List Char} {a b : α}
    (h : (word es s).map (fun r => (a, r)) = .ok (b, rest)) : s = es ++ rest := by
  obtain ⟨r, hw, he⟩ := Except.map_eq_ok.1 h
  cases he
  exact word_eq_ok hw

theorem valueSound_succ (hi : ItemsSound fuel) (hf : FieldsSound fuel) :
    ValueSound (fuel + 1) := by
  intro depth s v r h
  rw [value] at h
  split at h
  · cases h
  · next c t hs =>
    have hb := blanks_of_skip hs
    split at h
    · next hc =>
      rw [hc, map_word_eq_ok h] at hb
      exact ⟨_, _, hb, .null⟩
    split at h
    · next hc =>
      rw [hc, map_word_eq_ok h] at hb
      exact ⟨_, _, hb, .true⟩
    split at h
    · next hc =>
      rw [hc, map_word_eq_ok h] at hb
      exact ⟨_, _, hb, .false⟩
    split at h
    · next hc =>
      obtain ⟨⟨x, r'⟩, hn, he⟩ := Except.map_eq_ok.1 h
      cases he
      obtain ⟨n, u, hu, ht, -⟩ := numeral_eq_ok hn
      have ht : '-' :: t = u ++ r := ht
      rw [hc, ht] at hb
      exact ⟨_, _, hb, .number hu⟩
    split at h
    · obtain ⟨⟨x, r'⟩, hn, he⟩ := Except.map_eq_ok.1 h
      cases he
      obtain ⟨n, u, hu, ht, -⟩ := numeral_eq_ok hn
      have ht : c :: t = u ++ r := ht
      rw [ht] at hb
      exact ⟨_, _, hb, .number hu⟩
    split at h
    · next hc =>
      obtain ⟨⟨x, r'⟩, hk, he⟩ := Except.map_eq_ok.1 h
      cases he
      rw [hc] at hb
      exact ⟨_, _, hb, .string hk⟩
    split at h
    · next hc =>
      split at h
      · cases h
      · obtain ⟨⟨vs, r'⟩, hr, he⟩ := Except.map_eq_ok.1 h
        cases he
        obtain ⟨ws, hws⟩ := hi hr
        rw [hc] at hb
        exact ⟨_, _, hb, .array hws⟩
    split at h
    · next hc =>
      split at h
      · cases h
      · obtain ⟨⟨fs, r'⟩, hr, he⟩ := Except.map_eq_ok.1 h
        cases he
        obtain ⟨ms, hms⟩ := hf hr
        rw [hc] at hb
        exact ⟨_, _, hb, .object hms⟩
    · cases h

theorem nextItem_eq_ok (h : nextItem first c t = .ok r) (hb : Blanks s (c :: t)) :
    first = true ∧ Blanks s r ∨ first = false ∧ ∃ u, Blanks s (',' :: u) ∧ Blanks u r := by
  rw [nextItem] at h
  split at h
  · next hfirst =>
    cases h
    exact .inl ⟨hfirst, hb⟩
  · next hfirst =>
    split at h
    · next hc =>
      subst hc
      split at h
      · cases h
      · next d u hs =>
        split at h
        · cases h
        · cases h
          exact .inr ⟨by simpa using hfirst, t, hb, blanks_of_skip hs⟩
    · cases h

theorem nextKey_eq_ok (h : nextKey first c t = .ok r) (hb : Blanks s (c :: t)) :
    first = true ∧ Blanks s ('"' :: r) ∨
      first = false ∧ ∃ u, Blanks s (',' :: u) ∧ Blanks u ('"' :: r) := by
  rw [nextKey] at h
  split at h
  · next hfirst =>
    split at h
    · next hc =>
      subst hc
      cases h
      exact .inl ⟨hfirst, hb⟩
    · cases h
  · next hfirst =>
    split at h
    · next hc =>
      subst hc
      split at h
      · cases h
      · next d u hs =>
        split at h
        · next hd =>
          subst hd
          cases h
          exact .inr ⟨by simpa using hfirst, t, hb, blanks_of_skip hs⟩
        · split at h <;> cases h
    · cases h

theorem skipColon_eq_ok (h : skipColon s = .ok r) : Blanks s (':' :: r) := by
  rw [skipColon] at h
  split at h
  · cases h
  · next c u hs =>
    split at h
    · next hc =>
      subst hc
      cases h
      exact blanks_of_skip hs
    · cases h

theorem itemsSound_succ (hv : ValueSound fuel) (hi : ItemsSound fuel) :
    ItemsSound (fuel + 1) := by
  intro depth first acc s vs r h
  rw [items] at h
  split at h
  · cases h
  · next c t hs =>
    have hb := blanks_of_skip hs
    split at h
    · next hc =>
      subst hc
      cases h
      exact ⟨[], .close hb⟩
    · split at h
      · cases h
      · next a hnext =>
        split at h
        · cases h
        · next v u hval =>
          obtain ⟨w, x, hx, hw⟩ := hv hval
          obtain ⟨ws, hws⟩ := hi h
          rcases nextItem_eq_ok hnext hb with ⟨rfl, hba⟩ | ⟨rfl, y, hy, hya⟩
          · exact ⟨w :: ws, .first (hba.trans hx) hw hws⟩
          · exact ⟨w :: ws, .next hy (hya.trans hx) hw hws⟩

theorem fieldsSound_succ (hv : ValueSound fuel) (hf : FieldsSound fuel) :
    FieldsSound (fuel + 1) := by
  intro depth first acc s fs r h
  rw [fields] at h
  split at h
  · cases h
  · next c t hs =>
    have hb := blanks_of_skip hs
    split at h
    · next hc =>
      subst hc
      cases h
      exact ⟨[], .close hb⟩
    · split at h
      · cases h
      · next a hnext =>
        split at h
        · cases h
        · next k b hk =>
          split at h
          · cases h
          · next d hd =>
            split at h
            · cases h
            · next v u hval =>
              obtain ⟨w, x, hx, hw⟩ := hv hval
              obtain ⟨ms, hms⟩ := hf h
              have hkey : Key k ('"' :: a) x := ⟨hk, skipColon_eq_ok hd, hx⟩
              rcases nextKey_eq_ok hnext hb with ⟨rfl, hba⟩ | ⟨rfl, y, hy, hya⟩
              · exact ⟨(k, w) :: ms, .first hba hkey hw hms⟩
              · exact ⟨(k, w) :: ms, .next hy hya hkey hw hms⟩

theorem sound (fuel : Nat) : ValueSound fuel ∧ ItemsSound fuel ∧ FieldsSound fuel := by
  induction fuel with
  | zero =>
    refine ⟨?_, ?_, ?_⟩
    · intro depth s v r h
      cases h
    · intro depth first acc s vs r h
      cases h
    · intro depth first acc s fs r h
      cases h
  | succ fuel ih =>
    obtain ⟨hv, hi, hf⟩ := ih
    exact ⟨valueSound_succ hi hf, itemsSound_succ hv hi, fieldsSound_succ hv hf⟩

theorem document_eq_ok :
    document s = .ok v ↔
      ∃ rest, value (fuelFor s) depthLimit s = .ok (v, rest) ∧ Blanks rest [] := by
  rw [document]
  cases hv : value (fuelFor s) depthLimit s with
  | error f => simp
  | ok p =>
    obtain ⟨u, rest⟩ := p
    cases hs : skip rest with
    | nil => simp [← skip_eq_nil_iff, hs]
    | cons c t => simp [← skip_eq_nil_iff, hs]

/-- An accepted text has a tree, and is read as each of its trees says. -/
theorem exists_isDocument (h : document s = .ok v) : ∃ w : Source, w.IsDocument s := by
  obtain ⟨rest, hv, hrest⟩ := document_eq_ok.1 h
  obtain ⟨w, t, hb, hw⟩ := (sound _).1 hv
  exact ⟨w, t, rest, hb, hw, hrest⟩

theorem document_eq_ok_of_isDocument (hw : w.IsDocument s) :
    document s = .ok v ↔ w.nesting ≤ depthLimit ∧ w.evaluate = some v := by
  obtain ⟨t, r, hb, hw, hr⟩ := hw
  have hends : Ends r := ends_of_blanks hr fun c hc => nomatch hc
  have hval : ∀ {rest}, value (fuelFor s) depthLimit s = .ok (v, rest) ↔ _ :=
    (follows _).1 (Nat.le_add_right _ 2) hb hw hends
  rw [document_eq_ok]
  constructor
  · rintro ⟨rest, h, -⟩
    exact (hval.1 h).2
  · intro h
    exact ⟨r, hval.2 ⟨rfl, h⟩, hr⟩

theorem evaluate_of_isDocument (h : document s = .ok v) (hw : w.IsDocument s) :
    w.evaluate = some v :=
  ((document_eq_ok_of_isDocument hw).1 h).2

/-- The texts that are read are those of the grammar with brackets not too deep and numerals in
range. -/
theorem document_eq_ok_iff :
    document s = .ok v ↔
      ∃ w : Source, w.IsDocument s ∧ w.nesting ≤ depthLimit ∧ w.evaluate = some v := by
  constructor
  · intro h
    obtain ⟨w, hw⟩ := exists_isDocument h
    exact ⟨w, hw, (document_eq_ok_of_isDocument hw).1 h⟩
  · rintro ⟨w, hw, h⟩
    exact (document_eq_ok_of_isDocument hw).2 h

end Json.Reader

end Courier
