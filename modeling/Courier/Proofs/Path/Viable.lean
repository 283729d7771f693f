import Courier.Proofs.Path.Grammar
import Courier.Proofs.Path.Span

/-! Where a source stops being a path. The parser gives up at the first token that no path has
there, and names the kinds that some path has. -/

namespace Courier

namespace Path

/-- Some path begins with these kinds. -/
def Viable (ks : List Kind) : Prop := ∃ rest, IsPath (ks ++ rest)

def ViableHops (ks : List Kind) : Prop := ∃ rest, IsHops (ks ++ rest)

theorem isHops_cons_iff {k : Kind} {ks : List Kind} :
    IsHops (k :: ks) ↔ k = .left ∧ ((∃ rest, ks = .right :: rest ∧ IsHops rest) ∨
      ∃ l rest, l.isLiteral = true ∧ ks = l :: .right :: rest ∧ IsHops rest) := by
  constructor
  · generalize hks : k :: ks = all
    rintro (_ | ⟨hop, rest⟩)
    · cases hks
    · cases hop with
      | append =>
        cases hks
        exact ⟨rfl, .inl ⟨_, rfl, rest⟩⟩
      | key =>
        cases hks
        exact ⟨rfl, .inr ⟨_, _, rfl, rfl, rest⟩⟩
      | index =>
        cases hks
        exact ⟨rfl, .inr ⟨_, _, rfl, rfl, rest⟩⟩
  · rintro ⟨rfl, ⟨rest, rfl, h⟩ | ⟨l, rest, hl, rfl, h⟩⟩
    · exact .cons .append h
    · exact .cons (.bracketed hl) h

theorem isPath_cons_iff {k : Kind} {ks : List Kind} :
    IsPath (k :: ks) ↔ (k.isLiteral = true ∧ IsHops ks) ∨
      k = .left ∧ ((∃ rest, ks = .right :: rest ∧ IsHops rest) ∨
        ∃ rest, ks = .number :: .right :: rest ∧ IsHops rest) := by
  constructor
  · generalize hks : k :: ks = all
    rintro ⟨root, hops⟩
    cases root with
    | text =>
      cases hks
      exact .inl ⟨rfl, hops⟩
    | number =>
      cases hks
      exact .inl ⟨rfl, hops⟩
    | index =>
      cases hks
      exact .inr ⟨rfl, .inr ⟨_, rfl, hops⟩⟩
    | append =>
      cases hks
      exact .inr ⟨rfl, .inl ⟨_, rfl, hops⟩⟩
  · rintro (⟨hk, h⟩ | ⟨rfl, ⟨rest, rfl, h⟩ | ⟨rest, rfl, h⟩⟩)
    · rcases isLiteral_iff.1 hk with rfl | rfl
      · exact .mk .text h
      · exact .mk .number h
    · exact .mk .append h
    · exact .mk .index h

theorem viable_of_append {ks ls : List Kind} (h : Viable (ks ++ ls)) : Viable ks := by
  obtain ⟨rest, h⟩ := h
  exact ⟨ls ++ rest, by rwa [← List.append_assoc]⟩

section

variable {k l : Kind} {ks : List Kind}

theorem viableHops_singleton : ViableHops [k] ↔ k = .left := by
  constructor
  · rintro ⟨rest, h⟩
    exact (isHops_cons_iff.1 h).1
  · rintro rfl
    exact ⟨[.right], isHops_cons_iff.2 ⟨rfl, .inl ⟨[], rfl, .nil⟩⟩⟩

theorem viableHops_left : ViableHops [.left, k] ↔ k = .right ∨ k.isLiteral = true := by
  constructor
  · rintro ⟨rest, h⟩
    rcases (isHops_cons_iff.1 h).2 with ⟨_, he, -⟩ | ⟨l, _, hl, he, -⟩
    · cases he
      exact .inl rfl
    · cases he
      exact .inr hl
  · rintro (rfl | hk)
    · exact ⟨[], .cons .append .nil⟩
    · exact ⟨[.right], isHops_cons_iff.2 ⟨rfl, .inr ⟨k, [], hk, rfl, .nil⟩⟩⟩

theorem viableHops_literal (hl : l.isLiteral = true) :
    ViableHops [.left, l, k] ↔ k = .right := by
  constructor
  · rintro ⟨rest, h⟩
    rcases (isHops_cons_iff.1 h).2 with ⟨_, he, -⟩ | ⟨_, _, -, he, -⟩
    · cases he
      cases hl
    · cases he
      rfl
  · rintro rfl
    exact ⟨[], .cons (.bracketed hl) .nil⟩

theorem isHops_append (h : IsHop ks) (ls : List Kind) : IsHops (ks ++ ls) ↔ IsHops ls := by
  cases h <;> simp [isHops_cons_iff, Kind.isLiteral]

theorem viableHops_append (h : IsHop ks) (ls : List Kind) :
    ViableHops (ks ++ ls) ↔ ViableHops ls := by
  simp [ViableHops, isHops_append h]

theorem viable_singleton : Viable [k] ↔ k = .left ∨ k.isLiteral = true := by
  constructor
  · rintro ⟨rest, h⟩
    rcases isPath_cons_iff.1 h with ⟨hk, -⟩ | ⟨hk, -⟩
    · exact .inr hk
    · exact .inl hk
  · rintro (rfl | hk)
    · exact ⟨[.right], isPath_cons_iff.2 (.inr ⟨rfl, .inl ⟨[], rfl, .nil⟩⟩)⟩
    · exact ⟨[], isPath_cons_iff.2 (.inl ⟨hk, .nil⟩)⟩

theorem viable_left : Viable [.left, k] ↔ k = .number ∨ k = .right := by
  constructor
  · rintro ⟨rest, h⟩
    rcases isPath_cons_iff.1 h with ⟨hk, -⟩ | ⟨-, ⟨_, he, -⟩ | ⟨_, he, -⟩⟩
    · cases hk
    · cases he
      exact .inr rfl
    · cases he
      exact .inl rfl
  · rintro (rfl | rfl)
    · exact ⟨[.right], isPath_cons_iff.2 (.inr ⟨rfl, .inr ⟨[], rfl, .nil⟩⟩)⟩
    · exact ⟨[], isPath_cons_iff.2 (.inr ⟨rfl, .inl ⟨[], rfl, .nil⟩⟩)⟩

theorem viable_number : Viable [.left, .number, k] ↔ k = .right := by
  constructor
  · rintro ⟨rest, h⟩
    rcases isPath_cons_iff.1 h with ⟨hk, -⟩ | ⟨-, ⟨_, he, -⟩ | ⟨_, he, -⟩⟩
    · cases hk
    · cases he
    · cases he
      rfl
  · rintro rfl
    exact ⟨[], isPath_cons_iff.2 (.inr ⟨rfl, .inr ⟨[], rfl, .nil⟩⟩)⟩

theorem isPath_append (h : IsRoot ks) (ls : List Kind) : IsPath (ks ++ ls) ↔ IsHops ls := by
  cases h <;> simp [isPath_cons_iff, Kind.isLiteral]

theorem viable_append (h : IsRoot ks) (ls : List Kind) : Viable (ks ++ ls) ↔ ViableHops ls := by
  simp [Viable, ViableHops, isPath_append h]

end

/-- The expected kinds are those that go on behind the tokens read, and the next token, if there is
one, is of another kind. -/
structure Stops (viable : List Kind → Prop) (read : List Token) (e : Unexpected) : Prop where
  expected : ∀ k, k ∈ e.expected ↔ viable (read.map Token.kind ++ [k])
  unexpected : ∀ t, e.rest.head? = some t → t.kind ∉ e.expected
  nonempty : e.expected ≠ []
  distinct : e.expected.Nodup

section

variable {us vs ts : List Token} {e : Unexpected}

theorem Stops.behind_hop (h : Stops ViableHops us e) (hv : IsHop (vs.map Token.kind)) :
    Stops ViableHops (vs ++ us) e where
  expected k := by rw [List.map_append, List.append_assoc, viableHops_append hv, h.expected]
  unexpected := h.unexpected
  nonempty := h.nonempty
  distinct := h.distinct

theorem Stops.behind_root (h : Stops ViableHops us e) (hv : IsRoot (vs.map Token.kind)) :
    Stops Viable (vs ++ us) e where
  expected k := by rw [List.map_append, List.append_assoc, viable_append hv, h.expected]
  unexpected := h.unexpected
  nonempty := h.nonempty
  distinct := h.distinct

theorem mem_kinds_literal {k : Kind} (ks : List Kind) :
    k ∈ .text :: .number :: ks ↔ k.isLiteral = true ∨ k ∈ ks := by
  cases k <;> simp [Kind.isLiteral]

theorem hops_stops (h : hops ts = .error e) : ∃ us, ts = us ++ e.rest ∧ Stops ViableHops us e := by
  fun_induction hops ts with
  | case1 => cases h
  | case2 l ts hl =>
    cases h
    exact ⟨[], rfl, by simp [viableHops_singleton], by simpa using hl, by simp, by simp⟩
  | case3 l hl =>
    cases h
    have hl : l.kind = .left := by simpa using hl
    refine ⟨[l], rfl, fun k => ?_, by simp, by simp, by simp⟩
    simp only [List.map_cons, List.map_nil, List.singleton_append, hl, viableHops_left,
      mem_kinds_literal, List.mem_singleton, or_comm]
  | case4 l hl t ts hr ih =>
    have hl : l.kind = .left := by simpa using hl
    obtain ⟨us, rfl, hs⟩ := ih (Except.map_eq_error.1 h)
    exact ⟨[l, t] ++ us, rfl, hs.behind_hop (by simpa [hl, hr] using IsHop.append)⟩
  | case5 l hl t hr ht =>
    cases h
    have hl : l.kind = .left := by simpa using hl
    refine ⟨[l, t], rfl, fun k => ?_, by simp, by simp, by simp⟩
    simp [hl, viableHops_literal ht]
  | case6 l hl t hr ht close ts hc ih =>
    have hl : l.kind = .left := by simpa using hl
    obtain ⟨us, rfl, hs⟩ := ih (Except.map_eq_error.1 h)
    exact ⟨[l, t, close] ++ us, rfl, hs.behind_hop (by simpa [hl, hc] using IsHop.bracketed ht)⟩
  | case7 l hl t hr ht close ts hc =>
    cases h
    have hl : l.kind = .left := by simpa using hl
    refine ⟨[l, t], rfl, fun k => ?_, by simpa using hc, by simp, by simp⟩
    simp [hl, viableHops_literal ht]
  | case8 l hl t ts hr ht =>
    cases h
    have hl : l.kind = .left := by simpa using hl
    refine ⟨[l], rfl, fun k => ?_, ?_, by simp, by simp⟩
    · simp only [List.map_cons, List.map_nil, List.singleton_append, hl, viableHops_left,
        mem_kinds_literal, List.mem_singleton, or_comm]
    · simpa [mem_kinds_literal [.right], hr] using ht

theorem root_stops (h : root ts = .error e) : ∃ us, ts = us ++ e.rest ∧ Stops Viable us e := by
  revert h
  fun_cases root ts with
  | case3 l _ hl =>
    rintro ⟨⟩
    exact ⟨[l], rfl, by simp [hl, viable_left], by simp, by simp, by simp⟩
  | case5 l _ hl u _ n hn =>
    rintro ⟨⟩
    have hu := Token.kind_of_number? hn
    exact ⟨[l, u], rfl, by simp [hl, hu, viable_number], by simp, by simp, by simp⟩
  | case7 l _ hl u _ n hn close ts hc =>
    rintro ⟨⟩
    have hu := Token.kind_of_number? hn
    exact ⟨[l, u], rfl, by simp [hl, hu, viable_number], by simpa using hc, by simp, by simp⟩
  | case8 l _ hl u ts hu =>
    rintro ⟨⟩
    exact ⟨[l], rfl, by simp [hl, viable_left], by simpa using hu, by simp, by simp⟩
  | case9 l ts hlit hl =>
    rintro ⟨⟩
    refine ⟨[], rfl, fun k => ?_, ?_, by simp, by simp⟩
    · simp only [List.map_nil, List.nil_append, viable_singleton, mem_kinds_literal,
        List.mem_singleton, or_comm]
    · simpa [mem_kinds_literal [.left], hl] using hlit
  | _ => rintro ⟨⟩

theorem parseTokens_stops (hts : ∀ t ∈ ts, t.Sound) (h : parseTokens ts = .error e) :
    ∃ us, ts = us ++ e.rest ∧ Stops Viable us e := by
  by_cases hne : ts = []
  · subst hne
    cases h
  · rw [parseTokens] at h
    cases hr : root ts with
    | error f =>
      simp only [hr] at h
      cases h
      exact root_stops hr
    | ok p =>
      obtain ⟨s, rest⟩ := p
      simp only [hr] at h
      obtain ⟨hk, rfl, -⟩ := root_sound hts hne hr
      obtain ⟨us, rfl, hs⟩ := hops_stops (Except.map_eq_error.1 h)
      exact ⟨s.tokens ++ us, (List.append_assoc _ _ _).symm, hs.behind_root hk⟩

/-- The parser gives up where the tokens stop being the beginning of a path. -/
theorem Stops.isGreatest (h : Stops Viable us e) :
    IsGreatest {n | n ≤ (us ++ e.rest).length ∧
      Viable (((us ++ e.rest).take n).map Token.kind)} us.length := by
  constructor
  · obtain ⟨k, hk⟩ := List.exists_mem_of_ne_nil _ h.nonempty
    refine ⟨by simp, ?_⟩
    rw [List.take_left]
    exact viable_of_append ((h.expected k).1 hk)
  · rintro n ⟨hn, hv⟩
    by_contra hlt
    cases hr : e.rest with
    | nil =>
      rw [hr, List.append_nil] at hn
      exact hlt hn
    | cons t ts =>
      -- One token more, and the kinds read so far would go on with one that is not expected.
      obtain ⟨m, rfl⟩ : ∃ m, n = us.length + (m + 1) := ⟨n - us.length - 1, by omega⟩
      rw [hr, List.take_length_add_append, List.take_succ_cons, List.map_append, List.map_cons,
        ← List.singleton_append, ← List.append_assoc] at hv
      exact h.unexpected t (by rw [hr]; rfl) ((h.expected t.kind).2 (viable_of_append hv))

end

/-- Commas stand between the alternatives, and an "or" in front of the last one. -/
theorem alternatives_concat (init : List Kind) (last : Kind) :
    alternatives (init ++ [last]) =
      (if init.map Kind.describe = [] then ""
        else ", ".intercalate (init.map Kind.describe) ++ " or ") ++ last.describe := by
  induction init with
  | nil => simp [alternatives]
  | cons k init ih =>
    cases init with
    | nil => simp [alternatives]
    | cons l init =>
      have hlong : alternatives (k :: l :: (init ++ [last])) =
          k.describe ++ ", " ++ alternatives (l :: (init ++ [last])) := by
        cases init <;> simp [alternatives]
      simp only [List.cons_append] at ih ⊢
      rw [hlong, ih]
      simp [String.append_assoc]

/-- A kind of token and the words that messages have for it. No path has a range in it. -/
inductive Described : Kind → String → Prop
  | text : Described .text "a text"
  | number : Described .number "a number"
  | left : Described .left "'['"
  | right : Described .right "']'"

/-- An error is about the token at a place, or about the place behind the source. The kinds in front
of it are as much of the source as some path begins with, and the error names the kinds that some
path goes on with. -/
structure StopsAt (source : String) (e : Error) (k : Nat) : Prop where
  greatest : IsGreatest {n | n ≤ (tokenize source).length ∧
    Viable (((tokenize source).take n).map Token.kind)} k
  category : e.problem.category = .malformed
  title : e.problem.category.title = "Syntax"
  source_eq : e.source = source
  token : ∀ t, (tokenize source)[k]? = some t → e.token = some t
  behind : (tokenize source)[k]? = none → ∃ t, e.token = some t ∧
    t.start = source.utf8ByteSize ∧ t.stop = source.utf8ByteSize + 1
  message : ∃ kinds init last, e.problem.message = "Expecting " ++
      ((if init = [] then "" else ", ".intercalate init ++ " or ") ++ last) ∧
    List.Forall₂ Described kinds (init ++ [last]) ∧ kinds.Nodup ∧
    ∀ kind, kind ∈ kinds ↔ Viable (((tokenize source).take k).map Token.kind ++ [kind])

theorem range_not_mem_hops {ks : List Kind} (h : IsHops ks) : Kind.range ∉ ks := by
  induction h with
  | nil => simp
  | cons hop _ ih => cases hop <;> simpa using ih

theorem range_not_mem {ks : List Kind} (h : IsPath ks) : Kind.range ∉ ks := by
  obtain ⟨root, hops⟩ := h
  have hno := range_not_mem_hops hops
  cases root <;> simpa using hno

theorem described_of_viable {ks : List Kind} {k : Kind} (h : Viable (ks ++ [k])) :
    Described k k.describe := by
  obtain ⟨rest, h⟩ := h
  cases k with
  | range => exact absurd (by simp) (range_not_mem h)
  | _ => constructor

theorem token_of_nil {source : String} {u : Unexpected}
    (hu : parseTokens (tokenize source) = .error u) (hr : u.rest = []) :
    ∃ t, offender (tokenize source) u.rest = some t ∧ t.start = source.utf8ByteSize ∧
      t.stop = source.utf8ByteSize + 1 := by
  have hne : tokenize source ≠ [] := by
    intro hnil
    rw [hnil] at hu
    cases hu
  obtain ⟨t, ht⟩ := Option.ne_none_iff_exists'.1 (mt List.getLast?_eq_none_iff.1 hne)
  have hstop := stop_of_getLast?_tokenize ht
  refine ⟨{ t with start := t.stop, stop := t.stop + 1 }, ?_, hstop, congrArg (· + 1) hstop⟩
  rw [hr, offender, ht]
  rfl

/-- The message lists each expected kind once, in words. -/
theorem Stops.message {us : List Token} {u : Unexpected} (h : Stops Viable us u) :
    ∃ kinds init last, (Problem.unexpected u.expected).message = "Expecting " ++
        ((if init = [] then "" else ", ".intercalate init ++ " or ") ++ last) ∧
      List.Forall₂ Described kinds (init ++ [last]) ∧ kinds.Nodup ∧
      ∀ kind, kind ∈ kinds ↔ Viable (us.map Token.kind ++ [kind]) := by
  obtain ⟨init, last, hlast⟩ : ∃ init last, u.expected = init ++ [last] :=
    ⟨_, _, (List.dropLast_append_getLast h.nonempty).symm⟩
  have hmessage : (Problem.unexpected u.expected).message =
      "Expecting " ++ alternatives (init ++ [last]) := by
    rw [← hlast]
    rfl
  have hwords : List.Forall₂ Described u.expected (u.expected.map Kind.describe) := by
    rw [List.forall₂_map_right_iff, List.forall₂_same]
    exact fun k hk => described_of_viable ((h.expected k).1 hk)
  refine ⟨u.expected, init.map Kind.describe, last.describe, ?_, ?_, h.distinct, h.expected⟩
  · rw [hmessage, alternatives_concat]
  · rwa [hlast, List.map_append, ← hlast] at hwords

/-- A source that is no path is refused where it stops being the beginning of one. -/
theorem parse_error_stops {source : String} {e : Error} (h : parse source = .error e) :
    ∃ k, StopsAt source e k := by
  obtain ⟨u, hu, rfl⟩ := Except.mapError_eq_error.1 h
  obtain ⟨us, hus, hs⟩ := parseTokens_stops (fun _ => sound_of_mem_tokenize) hu
  have hk : (tokenize source)[us.length]? = u.rest.head? := by
    rw [hus, List.getElem?_append_right (Nat.le_refl _), Nat.sub_self, List.head?_eq_getElem?]
  have hread : (tokenize source).take us.length = us := by rw [hus, List.take_left]
  refine ⟨us.length, ?_, rfl, rfl, rfl, fun t ht => ?_, fun hnone => ?_, ?_⟩
  · rw [hus]
    exact hs.isGreatest
  · rw [hk] at ht
    obtain ⟨rest, hr⟩ := List.head?_eq_some_iff.1 ht
    show offender _ u.rest = some t
    rw [hr, offender]
  · rw [hk, List.head?_eq_none_iff] at hnone
    exact token_of_nil hu hnone
  · rw [hread]
    exact hs.message

theorem parse_error_stops_behind_source :
    let e : Error := ⟨"é[b", some ⟨.text, "b", 4, 5⟩, .unexpected [.right]⟩
    parse "é[b" = .error e ∧ ∃ k, StopsAt "é[b" e k := by
  have hp : parse "é[b" = .error ⟨"é[b", some ⟨.text, "b", 4, 5⟩, .unexpected [.right]⟩ := by
    cbv
  exact ⟨hp, parse_error_stops hp⟩

end Path

end Courier
