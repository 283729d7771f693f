import Courier.Proofs.Basic
import Courier.Proofs.Path.Token

/-! The grammar of paths over kinds of tokens, and that the parser accepts exactly its sentences:
the segments cut the tokens up, and each is the accessor that its tokens spell. -/

namespace Courier

namespace Path

inductive IsRoot : List Kind → Prop
  | text : IsRoot [.text]
  | number : IsRoot [.number]
  | index : IsRoot [.left, .number, .right]
  | append : IsRoot [.left, .right]

inductive IsHop : List Kind → Prop
  | append : IsHop [.left, .right]
  | key : IsHop [.left, .text, .right]
  | index : IsHop [.left, .number, .right]

inductive IsHops : List Kind → Prop
  | nil : IsHops []
  | cons {h ks : List Kind} (hop : IsHop h) (rest : IsHops ks) : IsHops (h ++ ks)

/-- A root, then hops. -/
inductive IsPath : List Kind → Prop
  | mk {r ks : List Kind} (root : IsRoot r) (hops : IsHops ks) : IsPath (r ++ ks)

/-- The accessor of a segment is the one that its tokens spell. Only the root key stands bare, and
only in a hop does a text in brackets spell a key. -/
inductive Spelled : Segment → Prop
  | literal {t : Token} (ht : t.kind = .text ∨ t.kind = .number) :
    Spelled (.access (.key t.value) [t] true)
  | append {l r : Token} (isRoot : Bool) (hl : l.kind = .left) (hr : r.kind = .right) :
    Spelled (.access .append [l, r] isRoot)
  | index {l t r : Token} {n : Int} (isRoot : Bool) (hl : l.kind = .left) (ht : t.kind = .number)
    (hn : t.number? = some n) (hr : r.kind = .right) :
    Spelled (.access (.index n) [l, t, r] isRoot)
  | key {l t r : Token} (hl : l.kind = .left) (ht : t.kind = .text) (hr : r.kind = .right) :
    Spelled (.access (.key t.value) [l, t, r] false)

theorem isLiteral_iff {k : Kind} : k.isLiteral = true ↔ k = .text ∨ k = .number := by
  cases k <;> simp [Kind.isLiteral]

theorem Spelled.bracketed {l t r : Token} (hl : l.kind = .left) (ht : t.kind.isLiteral = true)
    (hr : r.kind = .right) (hs : t.Sound) :
    Spelled (.access (Path.bracketed t) [l, t, r] false) := by
  rcases isLiteral_iff.1 ht with hk | hk
  · have hn := Token.number?_eq_none (t := t) (by simp [hk])
    rw [Path.bracketed, hn]
    exact .key hl hk hr
  · obtain ⟨n, hn, -⟩ := hs.number hk
    rw [Path.bracketed, hn]
    exact .index false hl hk hn hr

theorem IsHop.bracketed {k : Kind} (h : k.isLiteral = true) : IsHop [.left, k, .right] := by
  rcases isLiteral_iff.1 h with rfl | rfl
  · exact .key
  · exact .index

theorem hops_sound {ts : List Token} {ss : List Segment} (hts : ∀ t ∈ ts, t.Sound)
    (h : hops ts = .ok ss) :
    IsHops (ts.map Token.kind) ∧ ss.flatMap Segment.tokens = ts ∧
      ∀ s ∈ ss, Spelled s ∧ s.isRoot = false := by
  fun_induction hops ts generalizing ss with
  | case1 =>
    cases h
    exact ⟨.nil, rfl, by simp⟩
  | case4 l hl t ts hr ih =>
    obtain ⟨rest, hrest, rfl⟩ := Except.map_eq_ok.1 h
    have hl : l.kind = .left := by simpa using hl
    obtain ⟨hk, hf, hs⟩ := ih (fun u hu => hts u (by simp [hu])) hrest
    refine ⟨?_, by simp [Segment.access, hf], ?_⟩
    · simpa [hl, hr] using IsHops.cons .append hk
    · rintro s (_ | ⟨_, hm⟩)
      · exact ⟨.append false hl hr, rfl⟩
      · exact hs s hm
  | case6 l hl t hr ht close ts hc ih =>
    obtain ⟨rest, hrest, rfl⟩ := Except.map_eq_ok.1 h
    have hl : l.kind = .left := by simpa using hl
    obtain ⟨hk, hf, hs⟩ := ih (fun u hu => hts u (by simp [hu])) hrest
    refine ⟨?_, by simp [Segment.access, hf], ?_⟩
    · simpa [hl, hc] using IsHops.cons (.bracketed ht) hk
    · rintro s (_ | ⟨_, hm⟩)
      · exact ⟨.bracketed hl ht hc (hts t (by simp)), rfl⟩
      · exact hs s hm
  | _ => simp at h

-- Completeness by recursion on the derivation, which says what the next tokens are.
theorem map_kind_eq_two {us : List Token} {j k : Kind} (h : us.map Token.kind = [j, k]) :
    ∃ t u, us = [t, u] ∧ t.kind = j ∧ u.kind = k := by
  simpa [List.map_eq_cons_iff, and_assoc] using h

theorem map_kind_eq_three {us : List Token} {i j k : Kind} (h : us.map Token.kind = [i, j, k]) :
    ∃ t u v, us = [t, u, v] ∧ t.kind = i ∧ u.kind = j ∧ v.kind = k := by
  simpa [List.map_eq_cons_iff, and_assoc] using h

theorem hops_append {us : List Token} (h : IsHop (us.map Token.kind)) (ts : List Token) :
    ∃ s, hops (us ++ ts) = (hops ts).map (s :: ·) := by
  generalize hk : us.map Token.kind = ks at h
  cases h with
  | append =>
    obtain ⟨l, r, rfl, hl, hr⟩ := map_kind_eq_two hk
    exact ⟨.access .append [l, r] false, by cases ts <;> simp [hops, hl, hr]⟩
  | key =>
    obtain ⟨l, t, r, rfl, hl, ht, hr⟩ := map_kind_eq_three hk
    exact ⟨.access (bracketed t) [l, t, r] false, by simp [hops, hl, ht, hr, Kind.isLiteral]⟩
  | index =>
    obtain ⟨l, t, r, rfl, hl, ht, hr⟩ := map_kind_eq_three hk
    exact ⟨.access (bracketed t) [l, t, r] false, by simp [hops, hl, ht, hr, Kind.isLiteral]⟩

theorem hops_complete {ts : List Token} (h : IsHops (ts.map Token.kind)) :
    ∃ ss, hops ts = .ok ss := by
  generalize hk : ts.map Token.kind = ks at h
  induction h generalizing ts with
  | nil =>
    obtain rfl := List.map_eq_nil_iff.1 hk
    exact ⟨[], rfl⟩
  | cons hop _ ih =>
    obtain ⟨us, vs, rfl, hu, hv⟩ := List.map_eq_append_iff.1 hk
    subst hu
    obtain ⟨s, hs⟩ := hops_append hop vs
    obtain ⟨ss, hss⟩ := ih hv
    exact ⟨s :: ss, by rw [hs, hss]; rfl⟩

theorem root_sound {ts rest : List Token} {s : Segment} (hts : ∀ t ∈ ts, t.Sound) (hne : ts ≠ [])
    (h : root ts = .ok (s, rest)) :
    IsRoot (s.tokens.map Token.kind) ∧ s.tokens ++ rest = ts ∧ Spelled s ∧ s.isRoot = true := by
  revert h
  fun_cases root ts with
  | case1 => exact absurd rfl hne
  | case2 t ts ht =>
    rintro ⟨⟩
    have hk := isLiteral_iff.1 ht
    refine ⟨?_, rfl, .literal hk, rfl⟩
    rcases hk with hk | hk
    · simpa [Segment.access, hk] using IsRoot.text
    · simpa [Segment.access, hk] using IsRoot.number
  | case4 l _ hl u us hu hn =>
    rintro ⟨⟩
    -- A number reads back, so only a bracket has none.
    have hr : u.kind = .right := by
      refine hu.resolve_left fun hk => ?_
      obtain ⟨n, hs, -⟩ := (hts u (by simp)).number hk
      rw [hn] at hs
      cases hs
    refine ⟨?_, rfl, .append true hl hr, rfl⟩
    simpa [Segment.access, hl, hr] using IsRoot.append
  | case6 l _ hl u hu n hn close us hc =>
    rintro ⟨⟩
    have hk := Token.kind_of_number? hn
    refine ⟨?_, rfl, .index true hl hk hn hc, rfl⟩
    simpa [Segment.access, hl, hk, hc] using IsRoot.index
  | _ => rintro ⟨⟩

theorem root_append {us : List Token} (hus : ∀ t ∈ us, t.Sound)
    (h : IsRoot (us.map Token.kind)) (ts : List Token) :
    ∃ s, root (us ++ ts) = .ok (s, ts) := by
  generalize hk : us.map Token.kind = ks at h
  cases h with
  | text =>
    obtain ⟨t, rfl, ht⟩ : ∃ t, us = [t] ∧ t.kind = .text := by
      simpa [List.map_eq_cons_iff, and_assoc] using hk
    exact ⟨.access (.key t.value) [t] true, by simp [root, ht, Kind.isLiteral]⟩
  | number =>
    obtain ⟨t, rfl, ht⟩ : ∃ t, us = [t] ∧ t.kind = .number := by
      simpa [List.map_eq_cons_iff, and_assoc] using hk
    exact ⟨.access (.key t.value) [t] true, by simp [root, ht, Kind.isLiteral]⟩
  | index =>
    obtain ⟨l, t, r, rfl, hl, ht, hr⟩ := map_kind_eq_three hk
    obtain ⟨n, hn, -⟩ := (hus t (by simp)).number ht
    exact ⟨.access (.index n) [l, t, r] true, by simp [root, hl, ht, hr, hn, Kind.isLiteral]⟩
  | append =>
    obtain ⟨l, r, rfl, hl, hr⟩ := map_kind_eq_two hk
    have hn : r.number? = none := Token.number?_eq_none (by simp [hr])
    exact ⟨.access .append [l, r] true, by simp [root, hl, hr, hn, Kind.isLiteral]⟩

theorem parse_eq_ok {source : String} {segments : List Segment} :
    parse source = .ok segments ↔ parseTokens (tokenize source) = .ok segments :=
  Except.mapError_eq_ok

theorem parseTokens_eq_ok {ts : List Token} {segments : List Segment} :
    parseTokens ts = .ok segments ↔
      ∃ s rest ss, root ts = .ok (s, rest) ∧ hops rest = .ok ss ∧ segments = s :: ss := by
  rw [parseTokens]
  cases root ts with
  | error e => simp
  | ok p =>
    constructor
    · intro h
      obtain ⟨ss, hss, rfl⟩ := Except.map_eq_ok.1 h
      exact ⟨p.1, p.2, ss, rfl, hss, rfl⟩
    · rintro ⟨s, rest, ss, ⟨⟩, hss, rfl⟩
      exact Except.map_eq_ok.2 ⟨ss, hss, rfl⟩

theorem parse_empty : parse "" = .ok [.access (.key "") [] true] := rfl

/-- What a source that is not empty is parsed into: a root segment and segments for the hops. -/
structure Parsed (source : String) (s : Segment) (rest : List Segment) : Prop where
  root : IsRoot (s.tokens.map Token.kind)
  hops : IsHops ((rest.flatMap Segment.tokens).map Token.kind)
  tokens : (s :: rest).flatMap Segment.tokens = tokenize source
  isRoot : s.isRoot = true
  notRoot : ∀ t ∈ rest, t.isRoot = false
  spelled : ∀ t ∈ s :: rest, Spelled t

theorem parse_sound {source : String} {segments : List Segment} (hne : source ≠ "")
    (h : parse source = .ok segments) : ∃ s rest, segments = s :: rest ∧ Parsed source s rest := by
  have hts : ∀ t ∈ tokenize source, t.Sound := fun _ => sound_of_mem_tokenize
  obtain ⟨s, ts, rest, hr, hrest, rfl⟩ := parseTokens_eq_ok.1 (parse_eq_ok.1 h)
  obtain ⟨hk, ht, hs, hroot⟩ := root_sound hts (mt tokenize_eq_nil.1 hne) hr
  have hmem : ∀ t ∈ ts, t.Sound := fun t hm => hts t (by simp [← ht, hm])
  obtain ⟨hks, hfs, hss⟩ := hops_sound hmem hrest
  refine ⟨s, rest, rfl, hk, by rwa [hfs], by simp [hfs, ht], hroot, fun t hm => (hss t hm).2, ?_⟩
  rintro t (_ | ⟨_, hm⟩)
  · exact hs
  · exact (hss t hm).1

theorem parse_cases {source : String} {segments : List Segment}
    (h : parse source = .ok segments) :
    source = "" ∧ segments = [.access (.key "") [] true] ∨
      source ≠ "" ∧ ∃ s rest, segments = s :: rest ∧ Parsed source s rest := by
  by_cases hne : source = ""
  · subst hne
    rw [parse_empty] at h
    exact .inl ⟨rfl, (Except.ok.inj h).symm⟩
  · exact .inr ⟨hne, parse_sound hne h⟩

theorem parse_complete {source : String} (h : IsPath ((tokenize source).map Token.kind)) :
    ∃ segments, parse source = .ok segments := by
  have hts : ∀ t ∈ tokenize source, t.Sound := fun _ => sound_of_mem_tokenize
  generalize hk : (tokenize source).map Token.kind = ks at h
  cases h with
  | mk hr hh =>
    obtain ⟨us, ts, he, hu, ht⟩ := List.map_eq_append_iff.1 hk
    subst hu ht
    obtain ⟨s, hs⟩ := root_append (fun t hm => hts t (by simp [he, hm])) hr ts
    obtain ⟨rest, hrest⟩ := hops_complete hh
    rw [← he] at hs
    exact ⟨s :: rest, parse_eq_ok.2 (parseTokens_eq_ok.2 ⟨s, ts, rest, hs, hrest, rfl⟩)⟩

theorem Spelled.action_ne_assign {s : Segment} (h : Spelled s) (value : Json) :
    s.action ≠ .assign value := by
  cases h <;> simp [Segment.access]

theorem action_ne_assign_of_parse {source : String} {segments : List Segment}
    (h : parse source = .ok segments) : ∀ s ∈ segments, ∀ value, s.action ≠ .assign value := by
  rcases parse_cases h with ⟨-, rfl⟩ | ⟨-, s, rest, rfl, hp⟩
  · simp [Segment.access]
  · exact fun t hm => (hp.spelled t hm).action_ne_assign

theorem exists_access_of_parse {source : String} {segments : List Segment}
    (h : parse source = .ok segments) : ∀ s ∈ segments, ∃ a, s.action = .access a := by
  intro s hs
  cases ha : s.action with
  | access a => exact ⟨a, rfl⟩
  | assign v => exact absurd ha (action_ne_assign_of_parse h s hs v)

theorem flatMap_tokens_of_parse {source : String} {segments : List Segment}
    (h : parse source = .ok segments) : segments.flatMap Segment.tokens = tokenize source := by
  rcases parse_cases h with ⟨rfl, rfl⟩ | ⟨-, s, rest, rfl, hp⟩
  · rfl
  · exact hp.tokens

/-- The parser accepts exactly the sentences of the grammar and the empty path. Its segments lose
no token and hold the accessors that their tokens spell. -/
theorem parse_iff_isPath (source : String) :
    ((∃ segments, parse source = .ok segments) ↔
      tokenize source = [] ∨ IsPath ((tokenize source).map Token.kind)) ∧
    ∀ segments, parse source = .ok segments →
      segments.flatMap Segment.tokens = tokenize source ∧
      (∃ s rest, segments = s :: rest ∧ s.isRoot = true ∧ ∀ t ∈ rest, t.isRoot = false) ∧
      (∀ s ∈ segments, ∀ value, s.action ≠ .assign value) ∧
      (source = "" → segments = [.access (.key "") [] true]) ∧
      (source ≠ "" → ∀ s ∈ segments, Spelled s) := by
  refine ⟨⟨fun ⟨segments, h⟩ => ?_, fun h => ?_⟩, fun segments h => ?_⟩
  · rcases parse_cases h with ⟨rfl, -⟩ | ⟨-, s, rest, rfl, hp⟩
    · exact .inl rfl
    · right
      rw [← hp.tokens, List.flatMap_cons, List.map_append]
      exact .mk hp.root hp.hops
  · rcases h with h | h
    · rw [tokenize_eq_nil.1 h]
      exact ⟨_, parse_empty⟩
    · exact parse_complete h
  · refine ⟨flatMap_tokens_of_parse h, ?_, action_ne_assign_of_parse h, ?_⟩
    · rcases parse_cases h with ⟨-, rfl⟩ | ⟨-, s, rest, rfl, hp⟩
      · exact ⟨_, [], rfl, rfl, by simp⟩
      · exact ⟨s, rest, rfl, hp.isRoot, hp.notRoot⟩
    · rcases parse_cases h with ⟨rfl, rfl⟩ | ⟨hne, s, rest, rfl, hp⟩
      · exact ⟨fun _ => rfl, fun hne => absurd rfl hne⟩
      · exact ⟨fun he => absurd he hne, fun _ => hp.spelled⟩

theorem parse_iff_isPath_number_in_brackets :
    let segments : List Segment :=
      [.access (.index 7) [⟨.left, "[", 0, 1⟩, ⟨.number, "7", 1, 4⟩, ⟨.right, "]", 4, 5⟩] true,
        .access (.key "7") [⟨.left, "[", 5, 6⟩, ⟨.text, "7", 6, 8⟩, ⟨.right, "]", 8, 9⟩] false]
    parse "[007][\\7]" = .ok segments ∧
      segments.flatMap Segment.tokens = tokenize "[007][\\7]" ∧
      (∃ s rest, segments = s :: rest ∧ s.isRoot = true ∧ ∀ t ∈ rest, t.isRoot = false) ∧
      (∀ s ∈ segments, ∀ value, s.action ≠ .assign value) ∧
      ("[007][\\7]" = "" → segments = [.access (.key "") [] true]) ∧
      ("[007][\\7]" ≠ "" → ∀ s ∈ segments, Spelled s) := by
  have hp : parse "[007][\\7]" =
      .ok [.access (.index 7) [⟨.left, "[", 0, 1⟩, ⟨.number, "7", 1, 4⟩, ⟨.right, "]", 4, 5⟩] true,
        .access (.key "7") [⟨.left, "[", 5, 6⟩, ⟨.text, "7", 6, 8⟩, ⟨.right, "]", 8, 9⟩]
          false] := by
    cbv
  exact ⟨hp, (parse_iff_isPath _).2 _ hp⟩

end Path

end Courier
