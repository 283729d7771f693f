import Courier.Proofs.Basic
import Courier.Proofs.Text.Urlencoded
import Courier.Url.Parser

/-! What parsed URLs are written with. Whatever the text was, path, query and host hold visible
characters only: others were refused, or stand encoded. -/

namespace Courier

-- Punycode writes letters, digits and hyphens for what is not ASCII.
namespace Punycode

theorem isVisible_digit {n : Nat} (h : n < 36) : IsVisible (digit n) := by
  revert n
  decide

theorem allVisible_spell (bias place q : Nat) : AllVisible (spell bias place q) := by
  induction place, q using spell.induct bias with
  | case1 place q t h =>
    have ht : threshold place bias ≤ 26 := min_le_right _ _
    rw [spell, if_pos h]
    exact allVisible_cons.2 ⟨isVisible_digit (by omega), allVisible_nil⟩
  | case2 place q t h ih =>
    have ht : threshold place bias ≤ 26 := min_le_right _ _
    have hmod : (q - threshold place bias) % (base - threshold place bias) <
        base - threshold place bias := Nat.mod_lt _ (by unfold base; omega)
    rw [spell, if_neg h]
    exact allVisible_cons.2 ⟨isVisible_digit (by unfold base at hmod ⊢; omega), ih⟩

theorem Encoder.out_visit {code : Nat} {e : Encoder} (h : AllVisible e.out) (c : Char) :
    AllVisible (e.visit code c).out := by
  rw [visit]
  split
  · exact h
  · split
    · exact allVisible_append.2 ⟨h, allVisible_spell _ _ _⟩
    · exact h

theorem Encoder.out_insert {e : Encoder} (h : AllVisible e.out) (s : List Char) (code : Nat) :
    AllVisible (e.insert s code).out := by
  have hf : ∀ (t : List Char) (e : Encoder), AllVisible e.out →
      AllVisible (t.foldl (visit code) e).out := by
    intro t
    induction t with
    | nil => exact fun e he => he
    | cons c t ih => exact fun e he => ih _ (out_visit he c)
  exact hf s _ h

theorem allVisible_encode {s : List Char} (h : ∀ c ∈ s, c.toNat < 0x80 → IsVisible c) :
    AllVisible (encode s) := by
  have hplain : AllVisible (s.filter fun c => c.toNat < firstCode) := by
    intro c hc
    obtain ⟨hc, hlt⟩ := List.mem_filter.1 hc
    exact h c hc (of_decide_eq_true hlt)
  have hf : ∀ (codes : List Nat) (e : Encoder), AllVisible e.out →
      AllVisible (codes.foldl (Encoder.insert s) e).out := by
    intro codes
    induction codes with
    | nil => exact fun e he => he
    | cons n codes ih => exact fun e he => ih _ (Encoder.out_insert he s n)
  refine hf _ _ ?_
  dsimp only
  split
  · exact allVisible_nil
  · exact allVisible_append.2 ⟨hplain, by decide⟩

end Punycode

theorem isVisible_of_not_isControl {c : Char} (ha : c.toNat < 0x80)
    (hc : Percent.isControl c = false) (hb : c ≠ ' ') : IsVisible c := by
  have hn : c.toNat ≠ 0x20 := fun hn => hb (by rw [← Char.ofNat_toNat c, hn])
  simp only [Percent.isControl, Bool.or_eq_false_iff, decide_eq_false_iff_not] at hc
  unfold IsVisible
  omega

namespace Domain

theorem isVisible_of_not_isForbidden {c : Char} (h : isForbidden c = false) (ha : c.toNat < 0x80) :
    IsVisible c := by
  simp only [isForbidden, Bool.or_eq_false_iff, decide_eq_false_iff_not] at h
  obtain ⟨⟨hl, hd⟩, -⟩ := h
  exact ⟨by omega, by omega⟩

theorem allVisible_spellLabel? {label s : List Char} (hl : isLabel label = true)
    (h : spellLabel? label = some s) : AllVisible s := by
  have hf : ∀ c ∈ label, c.toNat < 0x80 → IsVisible c := by
    simp only [isLabel, Bool.and_eq_true, Bool.not_eq_true', List.any_eq_false, Bool.not_eq_true]
      at hl
    exact fun c hc => isVisible_of_not_isForbidden (hl.1.1 c hc)
  rw [spellLabel?] at h
  split at h
  · next ha =>
    cases h
    exact fun c hc => hf c hc (of_decide_eq_true (List.all_eq_true.1 ha c hc))
  · split at h
    · cases h
    · cases h
      exact allVisible_append.2 ⟨by decide, Punycode.allVisible_encode hf⟩

theorem exists_of_mem_mapM {α β : Type} {f : α → Option β} {xs : List α} {ys : List β}
    (h : xs.mapM f = some ys) {y : β} (hy : y ∈ ys) : ∃ x ∈ xs, f x = some y := by
  induction xs generalizing ys with
  | nil =>
    cases h
    cases hy
  | cons x xs ih =>
    simp only [List.mapM_cons, Option.bind_eq_bind, Option.bind_eq_some_iff, Option.pure_def,
      Option.some.injEq] at h
    obtain ⟨z, hz, zs, hzs, rfl⟩ := h
    rcases List.mem_cons.1 hy with rfl | hy
    · exact ⟨x, by simp, hz⟩
    · obtain ⟨w, hw, hf⟩ := ih hzs hy
      exact ⟨w, List.mem_cons_of_mem x hw, hf⟩

theorem allVisible_toAscii? {s t : List Char} (h : toAscii? s = some t) : AllVisible t := by
  simp only [toAscii?, Option.bind_eq_bind, Option.bind_eq_some_iff, Option.guard_eq_some',
    Option.pure_def, Option.some.injEq, Bool.and_eq_true] at h
  obtain ⟨mapped, -, labels, -, -, ⟨hlabels, -⟩, spelled, hs, rfl⟩ := h
  refine allVisible_intercalate (by decide) fun p hp => ?_
  obtain ⟨label, hl, hlp⟩ := exists_of_mem_mapM hs hp
  exact allVisible_spellLabel? (List.all_eq_true.1 hlabels label hl) hlp

end Domain

namespace Ipv4

theorem allVisible_spell (address : Nat) : AllVisible (spell address) := by
  refine allVisible_intercalate (by decide) fun p hp => ?_
  obtain ⟨i, -, rfl⟩ := List.mem_map.1 hp
  exact allVisible_toDigits (by decide) (by decide) _

end Ipv4

namespace Ipv6

theorem allVisible_joined (ps : List Nat) : AllVisible (joined ps) := by
  refine allVisible_intercalate (by decide) fun p hp => ?_
  obtain ⟨n, -, rfl⟩ := List.mem_map.1 hp
  exact allVisible_toDigits (by decide) (by decide) n

theorem allVisible_spell (ps : List Nat) : AllVisible (spell ps) := by
  rw [spell]
  split
  · exact allVisible_joined ps
  · exact allVisible_append.2
      ⟨allVisible_append.2 ⟨allVisible_joined _, by decide⟩, allVisible_joined _⟩

end Ipv6

namespace Host

def Visible (h : Host) : Prop := AllVisible h.spell.toList

theorem visible_ipv4 (a : Nat) : (ipv4 a).Visible := by
  simpa [Visible, spell] using Ipv4.allVisible_spell a

theorem visible_ipv6 (ps : List Nat) : (ipv6 ps).Visible := by
  rw [Visible, spell, String.toList_ofList]
  exact allVisible_cons.2 ⟨by decide, allVisible_append.2 ⟨Ipv6.allVisible_spell ps, by decide⟩⟩

theorem visible_parse {s : List Char} {h : Host} (hp : parse s = .ok h) : h.Visible := by
  rw [parse] at hp
  split at hp
  · split at hp
    · cases hp
      exact visible_ipv6 _
    · cases hp
  · split at hp
    · cases hp
    · cases hp
    · next domain hd =>
      split at hp
      · split at hp
        · cases hp
          exact visible_ipv4 _
        · cases hp
      · cases hp
        obtain ⟨t, -, ht⟩ := Option.bind_eq_some_iff.1 hd
        simpa [Visible, spell] using Domain.allVisible_toAscii? ht

theorem visible_parseName {s : List Char} {h : Host} (hp : parseName s = .ok h) : h.Visible := by
  rw [parseName] at hp
  split at hp
  · split at hp
    · cases hp
      exact visible_ipv6 _
    · cases hp
  · split at hp
    · cases hp
    · next hs =>
      cases hp
      rw [Visible, spell, String.toList_ofList]
      refine Percent.allVisible_encode fun c hc ha hr => ?_
      -- A blank is no control character, but it is refused.
      have hb : c ≠ ' ' := by
        rintro rfl
        exact hs (List.any_eq_true.2 ⟨' ', hc, by decide⟩)
      exact isVisible_of_not_isControl ha hr hb

end Host

namespace Url

theorem isVisible_of_not_inFragment {c : Char} (ha : c.toNat < 0x80) (h : inFragment c = false) :
    IsVisible c := by
  simp only [inFragment, Bool.or_eq_false_iff] at h
  refine isVisible_of_not_isControl ha h.1 ?_
  rintro rfl
  cases h.2

theorem isVisible_of_not_inQuery {kind : SchemeKind} {c : Char} (ha : c.toNat < 0x80)
    (h : inQuery kind c = false) : IsVisible c := by
  simp only [inQuery, Bool.or_eq_false_iff] at h
  refine isVisible_of_not_isControl ha h.1.1 ?_
  rintro rfl
  cases h.1.2

theorem allVisible_encode_inPath (s : List Char) : AllVisible (Percent.encode inPath s) := by
  refine Percent.allVisible_encode fun c _ ha h => ?_
  simp only [inPath, Bool.or_eq_false_iff] at h
  exact isVisible_of_not_inFragment ha h.1

section

variable {kind : SchemeKind} {before : List (List Char)}

theorem allVisible_addSegment (hb : ∀ p ∈ before, AllVisible p) (last : Bool)
    (segment : List Char) : ∀ p ∈ addSegment kind last before segment, AllVisible p := by
  have hs := allVisible_encode_inPath segment
  have hlast : ∀ {ps : List (List Char)}, (∀ p ∈ ps, AllVisible p) →
      ∀ p ∈ (if last then [] :: ps else ps), AllVisible p := by
    intro ps hps
    split
    · exact List.forall_mem_cons.2 ⟨allVisible_nil, hps⟩
    · exact hps
  simp only [addSegment]
  split
  · -- One segment is taken away, or none.
    refine hlast ?_
    split
    · split
      · exact hb
      · exact fun p hp => nomatch hp
    · exact fun p hp => hb p (List.mem_of_mem_drop hp)
  · split
    · exact hlast hb
    · split
      · refine List.forall_mem_cons.2 ⟨allVisible_append.2 ⟨?_, by decide⟩, fun p hp => nomatch hp⟩
        exact fun c hc => hs c (List.mem_of_mem_take hc)
      · exact List.forall_mem_cons.2 ⟨hs, hb⟩

theorem allVisible_addSegments (hb : ∀ p ∈ before, AllVisible p) (segments : List (List Char)) :
    ∀ p ∈ addSegments kind before segments, AllVisible p := by
  induction segments generalizing before with
  | nil => exact hb
  | cons s segments ih =>
    cases segments with
    | nil => exact allVisible_addSegment hb true s
    | cons t segments => exact ih (allVisible_addSegment hb false s)

theorem allVisible_readPath (kind : SchemeKind) (s : List Char) :
    AllVisible (readPath kind s).toList := by
  rw [readPath, String.toList_ofList, allVisible_flatMap]
  intro p hp
  refine allVisible_cons.2 ⟨by decide, allVisible_addSegments (fun p hp => ?_) _ p
    (List.mem_reverse.1 hp)⟩
  cases hp

theorem allVisible_pathAfterHost (kind : SchemeKind) (s : List Char) :
    AllVisible (pathAfterHost kind s).toList := by
  cases s with
  | nil => cases kind <;> decide
  | cons c rest =>
    rw [pathAfterHost]
    split <;> exact allVisible_readPath kind _

theorem allVisible_query_splitTail {s path : List Char} {query fragment : Option String}
    (h : splitTail kind s = (path, query, fragment)) : ∀ q ∈ query, AllVisible q.toList := by
  rintro q rfl
  simp only [splitTail] at h
  split at h
  · obtain ⟨-, rfl, -⟩ := h
    rw [String.toList_ofList]
    exact Percent.allVisible_encode fun c _ => isVisible_of_not_inQuery
  · cases h

end

/-- Path, query and host are written in visible characters. -/
structure Visible (u : Url) : Prop where
  path : AllVisible u.path.toList
  query : ∀ q ∈ u.query, AllVisible q.toList
  host : ∀ h ∈ u.host, h.Visible

section

variable {scheme : String} {kind : SchemeKind} {s : List Char} {u : Url}

theorem visible_of_parts {host : Option Host} {rest : List Char} (hh : ∀ h ∈ host, h.Visible)
    (hu : u.host = host) (hp : u.path = pathAfterHost kind (splitTail kind rest).1)
    (hq : u.query = (splitTail kind rest).2.1) : u.Visible where
  path := hp ▸ allVisible_pathAfterHost kind _
  query := hq ▸ allVisible_query_splitTail rfl
  host := hu ▸ hh

theorem visible_parseAuthority (h : parseAuthority scheme kind s = .ok u) : u.Visible := by
  unfold parseAuthority at h
  extract_lets authority rest finish at h
  have hfinish : ∀ parts, finish parts = .ok u → u.Visible := by
    rintro ⟨username, password, hostPort⟩ hf
    dsimp -zeta only [finish] at hf
    extract_lets withHost checked at hf
    have hhost : ∀ host, host.Visible → withHost host = .ok u → u.Visible := by
      intro host hv hw
      obtain ⟨port, -, hw⟩ := Except.bind_eq_ok.1 hw
      extract_lets found build at hw
      have hfound : ∀ h ∈ found, h.Visible := by
        intro h hm
        simp only [found] at hm
        split at hm
        · cases hm
        · cases hm
          exact hv
      split at hw
      · cases hw
      · cases hw
        exact visible_of_parts hfound rfl rfl rfl
    split at hf
    · cases hf
    · change checked () = .ok u at hf
      dsimp -zeta only [checked] at hf
      split at hf
      · obtain ⟨host, hp, hw⟩ := Except.bind_eq_ok.1 hf
        exact hhost host (Host.visible_parse hp) hw
      · obtain ⟨host, hp, hw⟩ := Except.bind_eq_ok.1 hf
        exact hhost host (Host.visible_parseName hp) hw
  split at h
  · exact hfinish ("", none, authority) h
  · split at h
    · cases h
    · exact hfinish (_, _, _) h

theorem visible_parseFileHost {rest : List Char} {host : Option Host}
    (h : parseFileHost s = .ok (host, rest)) : ∀ h ∈ host, h.Visible := by
  simp only [parseFileHost] at h
  split at h
  · cases h
    simp
  · split at h
    · cases h
      simp
    · obtain ⟨g, hg, he⟩ := Except.map_eq_ok.1 h
      cases he
      intro f hf
      split at hf <;> cases hf
      exact Host.visible_parse hg

theorem visible_parseFile (h : parseFile s = .ok u) : u.Visible := by
  unfold parseFile at h
  extract_lets finish at h
  have hfinish : ∀ parts, (∀ h ∈ parts.1, h.Visible) → finish parts = .ok u → u.Visible := by
    rintro ⟨host, rest⟩ hh hf
    cases hf
    exact visible_of_parts hh rfl rfl rfl
  have hnone : finish (none, s) = .ok u → u.Visible := hfinish (none, s) (by simp)
  split at h
  · split at h
    · obtain ⟨parts, hp, hf⟩ := Except.bind_eq_ok.1 h
      exact hfinish parts (visible_parseFileHost hp) hf
    · exact hnone h
  · exact hnone h

end

/-- A URL with a host. Without one the path may be opaque, and keep its blanks. -/
theorem visible_of_parse {s : String} {u : Url} (h : parse s = .ok u) (hh : u.host.isSome = true) :
    u.Visible := by
  rw [parse] at h
  split at h
  · cases h
  · split at h
    · exact visible_parseAuthority h
    · exact visible_parseFile h
    · split at h
      · exact visible_parseAuthority h
      · cases h
        cases hh

end Url

end Courier
