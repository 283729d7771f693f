import Courier.Proofs.Json.Reading

/-! A JSON text has one tree. The longest numeral is taken, so what goes on behind a value tells
where it ends. -/

namespace Courier

namespace Json.Source

open Reader Numeral

variable {w w' : Source} {ws ws' : List Source} {ms ms' : List (String × Source)} {n n' : Numeral}
  {k k' : String} {first : Bool} {c : Char} {s t t' rest rest' : List Char}

def BeginsNumeral (c : Char) : Prop := c = '-' ∨ c.isDigit = true

theorem exists_cons_of_spelled (h : n.Spelled t) :
    ∃ c u, t = c :: u ∧ BeginsNumeral c ∧ (c = '-' ↔ n.negative = true) := by
  obtain ⟨hw, -, e, -, rfl⟩ := h
  cases hn : n.negative with
  | true => exact ⟨'-', _, rfl, .inl rfl, by simp⟩
  | false =>
    generalize n.whole = ds at hw
    cases hw with
    | zero => exact ⟨'0', _, rfl, .inr rfl, by simp⟩
    | @digits d ds hd =>
      refine ⟨d, _, rfl, .inr hd, ?_⟩
      simp only [Bool.false_eq_true, iff_false]
      rintro rfl
      cases hd

theorem spelled_unique (h : n.Spelled t) (h' : n'.Spelled t') (hr : Ends rest) (hr' : Ends rest')
    (he : t ++ rest = t' ++ rest') : n = n' ∧ rest = rest' := by
  have hneg : n.negative = n'.negative := by
    obtain ⟨c, u, hc, -, hsign⟩ := exists_cons_of_spelled h
    obtain ⟨c', u', hc', -, hsign'⟩ := exists_cons_of_spelled h'
    rw [hc, hc'] at he
    rw [Bool.eq_iff_iff, ← hsign, ← hsign', (List.cons.inj he).1]
  obtain ⟨hw, hf, e, hexp, rfl⟩ := h
  obtain ⟨hw', hf', e', hexp', rfl⟩ := h'
  rw [hneg] at he
  simp only [List.append_assoc, List.append_cancel_left_eq] at he
  -- Each part ends where the reader of this part stops.
  have hmark := head?_exponentText hexp hr
  have hmark' := head?_exponentText hexp' hr'
  have hdigits : ∀ (ds : List Char) {u : List Char}, (∀ c ∈ u.head?, c.isDigit = false ∧ c ≠ '.') →
      ∀ c ∈ (fractionText ds ++ u).head?, c.isDigit = false := by
    intro ds u hu c hc
    rw [fractionText] at hc
    split at hc
    · exact (hu c hc).1
    · cases hc
      decide
  have hwhole := whole_append hw (hdigits n.fraction hmark)
  rw [he, whole_append hw' (hdigits _ hmark')] at hwhole
  obtain ⟨hwhole, hfraction⟩ := Prod.mk.inj (Except.ok.inj hwhole)
  have hfrac := fraction_append hf hmark
  rw [← hfraction, fraction_append hf' hmark'] at hfrac
  obtain ⟨hfrac, hexponent⟩ := Prod.mk.inj (Except.ok.inj hfrac)
  have hlast := exponent_append hexp fun c hc => ⟨(hr c hc).1, (hr c hc).2.2⟩
  rw [← hexponent, exponent_append hexp' fun c hc => ⟨(hr' c hc).1, (hr' c hc).2.2⟩] at hlast
  obtain ⟨hlast, hrest⟩ := Prod.mk.inj (Except.ok.inj hlast)
  obtain ⟨negative, whole, fraction, exponent⟩ := n
  obtain ⟨negative', whole', fraction', exponent'⟩ := n'
  simp only at hneg hwhole hfrac hlast
  exact ⟨by rw [hneg, hwhole, hfrac, hlast], hrest.symm⟩

theorem blanks_unique {d : Char} (h : Blanks s (c :: t)) (h' : Blanks s (d :: t'))
    (hc : isBlank c = false) (hd : isBlank d = false) : c = d ∧ t = t' := by
  have hs := skip_eq_cons h hc
  rw [skip_eq_cons h' hd] at hs
  exact ⟨(List.cons.inj hs).1.symm, (List.cons.inj hs).2.symm⟩

theorem skip_of_spells (h : Spells w s rest) : skip s = s := by
  obtain ⟨c, t, rfl, hc⟩ := exists_begins_of_spells h
  exact skip_eq_cons .none hc.1

theorem eq_skip (hb : Blanks s t) (h : Spells w t rest) : t = skip s := by
  rw [skip_of_blanks hb, skip_of_spells h]

theorem member_unique {a a' : List Char} (hb : Blanks s a) (hb' : Blanks s a') (hk : Key k a t)
    (hk' : Key k' a' t') (hw : Spells w t rest) (hw' : Spells w' t' rest') : k = k' ∧ t = t' := by
  obtain ⟨hs, hc, hv⟩ := hk
  obtain ⟨hs', hc', hv'⟩ := hk'
  obtain ⟨-, rfl⟩ := blanks_unique hb hb' rfl rfl
  rw [hs] at hs'
  obtain ⟨rfl, rfl⟩ := Prod.mk.inj (Except.ok.inj hs')
  obtain ⟨-, rfl⟩ := blanks_unique hc hc' rfl rfl
  exact ⟨rfl, (eq_skip hv hw).trans (eq_skip hv' hw').symm⟩

theorem notMem_of_beginsNumeral (h : BeginsNumeral c) : c ∉ ['n', 't', 'f', '"', '[', '{'] := by
  intro hc
  simp only [List.mem_cons, List.not_mem_nil, or_false] at hc
  rcases hc with rfl | rfl | rfl | rfl | rfl | rfl <;> rcases h with h | h <;> cases h

theorem not_spelled_append (hc : c ∈ ['n', 't', 'f', '"', '[', '{']) (h : n.Spelled t)
    (he : t ++ rest = c :: s) : False := by
  obtain ⟨d, u, rfl, hd, -⟩ := exists_cons_of_spelled h
  rw [(List.cons.inj he).1] at hd
  exact notMem_of_beginsNumeral hd hc

theorem not_spells_close (hb : Blanks s t) (h : Spells w t rest) (hc : Blanks s (c :: rest'))
    (hclose : c = ']' ∨ c = '}') : False := by
  obtain ⟨d, u, rfl, hd⟩ := exists_begins_of_spells h
  have hblank : isBlank c = false := by rcases hclose with rfl | rfl <;> rfl
  obtain ⟨rfl, -⟩ := blanks_unique hb hc hd.1 hblank
  rcases hclose with rfl | rfl
  · exact hd.2.2.1 rfl
  · exact hd.2.2.2 rfl

mutual

theorem spells_unique : ∀ {w : Source} {s rest : List Char}, Spells w s rest →
    ∀ {w' : Source} {s' rest' : List Char}, Spells w' s' rest' → s = s' → Ends rest → Ends rest' →
      w = w' ∧ rest = rest'
  | _, _, _, .null, _, _, _, h', hs, _, _ => by
    cases h' with
    | null =>
      simp only [List.cons.injEq, true_and] at hs
      exact ⟨rfl, hs⟩
    | number h' => exact (not_spelled_append (by simp) h' hs.symm).elim
    | _ => cases hs
  | _, _, _, .true, _, _, _, h', hs, _, _ => by
    cases h' with
    | true =>
      simp only [List.cons.injEq, true_and] at hs
      exact ⟨rfl, hs⟩
    | number h' => exact (not_spelled_append (by simp) h' hs.symm).elim
    | _ => cases hs
  | _, _, _, .false, _, _, _, h', hs, _, _ => by
    cases h' with
    | false =>
      simp only [List.cons.injEq, true_and] at hs
      exact ⟨rfl, hs⟩
    | number h' => exact (not_spelled_append (by simp) h' hs.symm).elim
    | _ => cases hs
  | _, _, _, .number h, _, _, _, h', hs, hr, hr' => by
    cases h' with
    | number h' =>
      obtain ⟨rfl, rfl⟩ := spelled_unique h h' hr hr' hs
      exact ⟨rfl, rfl⟩
    | _ => exact (not_spelled_append (by simp) h hs).elim
  | _, _, _, .string h, _, _, _, h', hs, _, _ => by
    cases h' with
    | string h' =>
      rw [(List.cons.inj hs).2, h'] at h
      obtain ⟨rfl, rfl⟩ := Prod.mk.inj (Except.ok.inj h)
      exact ⟨rfl, rfl⟩
    | number h' => exact (not_spelled_append (by simp) h' hs.symm).elim
    | _ => cases hs
  | _, _, _, .array h, _, _, _, h', hs, _, _ => by
    cases h' with
    | array h' =>
      obtain ⟨rfl, rfl⟩ := spellsItems_unique h h' (List.cons.inj hs).2
      exact ⟨rfl, rfl⟩
    | number h' => exact (not_spelled_append (by simp) h' hs.symm).elim
    | _ => cases hs
  | _, _, _, .object h, _, _, _, h', hs, _, _ => by
    cases h' with
    | object h' =>
      obtain ⟨rfl, rfl⟩ := spellsMembers_unique h h' (List.cons.inj hs).2
      exact ⟨rfl, rfl⟩
    | number h' => exact (not_spelled_append (by simp) h' hs.symm).elim
    | _ => cases hs

theorem spellsItems_unique : ∀ {first : Bool} {ws : List Source} {s rest : List Char},
    SpellsItems first ws s rest → ∀ {ws' : List Source} {s' rest' : List Char},
      SpellsItems first ws' s' rest' → s = s' → ws = ws' ∧ rest = rest'
  | _, _, _, _, .close hb, _, _, _, h', hs => by
    subst hs
    cases h' with
    | close hb' => exact ⟨rfl, (blanks_unique hb hb' rfl rfl).2⟩
    | first hb' hw' => exact (not_spells_close hb' hw' hb (.inl rfl)).elim
    | next hc' => cases (blanks_unique hb hc' rfl rfl).1
  | _, _, _, _, .first hb hw hr, _, _, _, h', hs => by
    subst hs
    cases h' with
    | close hb' => exact (not_spells_close hb hw hb' (.inl rfl)).elim
    | first hb' hw' hr' =>
      have hstart := (eq_skip hb hw).trans (eq_skip hb' hw').symm
      obtain ⟨rfl, hrest⟩ := spells_unique hw hw' hstart (ends_of_spellsItems hr)
        (ends_of_spellsItems hr')
      obtain ⟨rfl, rfl⟩ := spellsItems_unique hr hr' hrest
      exact ⟨rfl, rfl⟩
  | _, _, _, _, .next hc hb hw hr, _, _, _, h', hs => by
    subst hs
    cases h' with
    | close hb' => cases (blanks_unique hc hb' rfl rfl).1
    | next hc' hb' hw' hr' =>
      obtain ⟨-, rfl⟩ := blanks_unique hc hc' rfl rfl
      have hstart := (eq_skip hb hw).trans (eq_skip hb' hw').symm
      obtain ⟨rfl, hrest⟩ := spells_unique hw hw' hstart (ends_of_spellsItems hr)
        (ends_of_spellsItems hr')
      obtain ⟨rfl, rfl⟩ := spellsItems_unique hr hr' hrest
      exact ⟨rfl, rfl⟩

theorem spellsMembers_unique : ∀ {first : Bool} {ms : List (String × Source)} {s rest : List Char},
    SpellsMembers first ms s rest → ∀ {ms' : List (String × Source)} {s' rest' : List Char},
      SpellsMembers first ms' s' rest' → s = s' → ms = ms' ∧ rest = rest'
  | _, _, _, _, .close hb, _, _, _, h', hs => by
    subst hs
    cases h' with
    | close hb' => exact ⟨rfl, (blanks_unique hb hb' rfl rfl).2⟩
    | first hb' hk' =>
      cases hk' with
      | intro => cases (blanks_unique hb hb' rfl rfl).1
    | next hc' => cases (blanks_unique hb hc' rfl rfl).1
  | _, _, _, _, .first hb hk hw hr, _, _, _, h', hs => by
    subst hs
    cases h' with
    | close hb' =>
      cases hk with
      | intro => cases (blanks_unique hb hb' rfl rfl).1
    | first hb' hk' hw' hr' =>
      obtain ⟨rfl, hstart⟩ := member_unique hb hb' hk hk' hw hw'
      obtain ⟨rfl, hrest⟩ := spells_unique hw hw' hstart (ends_of_spellsMembers hr)
        (ends_of_spellsMembers hr')
      obtain ⟨rfl, rfl⟩ := spellsMembers_unique hr hr' hrest
      exact ⟨rfl, rfl⟩
  | _, _, _, _, .next hc hb hk hw hr, _, _, _, h', hs => by
    subst hs
    cases h' with
    | close hb' => cases (blanks_unique hc hb' rfl rfl).1
    | next hc' hb' hk' hw' hr' =>
      obtain ⟨-, rfl⟩ := blanks_unique hc hc' rfl rfl
      obtain ⟨rfl, hstart⟩ := member_unique hb hb' hk hk' hw hw'
      obtain ⟨rfl, hrest⟩ := spells_unique hw hw' hstart (ends_of_spellsMembers hr)
        (ends_of_spellsMembers hr')
      obtain ⟨rfl, rfl⟩ := spellsMembers_unique hr hr' hrest
      exact ⟨rfl, rfl⟩

end

/-- A text is that of no more than one tree. -/
theorem isDocument_unique (h : w.IsDocument s) (h' : w'.IsDocument s) : w = w' := by
  obtain ⟨t, rest, hb, hw, hr⟩ := h
  obtain ⟨t', rest', hb', hw', hr'⟩ := h'
  have hends : ∀ {r : List Char}, Blanks r [] → Ends r := fun hr =>
    ends_of_blanks hr fun c hc => (nomatch hc)
  have hstart := (eq_skip hb hw).trans (eq_skip hb' hw').symm
  exact (spells_unique hw hw' hstart (hends hr) (hends hr')).1

end Json.Source

end Courier
