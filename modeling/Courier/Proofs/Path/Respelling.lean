import Courier.Proofs.Path.Canonical
import Courier.Proofs.Path.Spelling

/-! Paths without backslashes, reconstructed. What comes back is the source with its integers in
canonical spelling, and it is parsed into the same segments. -/

namespace Courier

namespace Path

/-- The brackets one by one, and the maximal runs between them. -/
def runs (source : List Char) : List (List Char) :=
  source.splitBy fun a b => !isBracket a && !isBracket b

/-- The source with every run that is read as an integer spelled canonically. -/
def respelled (source : String) : String :=
  String.ofList ((runs source.toList).flatMap respell)

variable {source : String}

theorem separated_lexemes (source : String) : Lexeme.Separated (lexemes source) :=
  Lexeme.separated_ofMarks _

theorem Lexeme.Plain.isChain_source {l : Lexeme} (h : l.Plain) :
    l.source.IsChain fun a b => (!isBracket a && !isBracket b) = true := by
  cases h with
  | left => exact List.isChain_singleton _
  | right => exact List.isChain_singleton _
  | @run s hne hs =>
    have hb : ∀ c ∈ s, isBracket c = false := by
      intro c hc
      have hsp := hs c hc
      simp only [Lexeme.isSpecial, Bool.or_eq_false_iff] at hsp
      simp [isBracket, hsp.1.1, hsp.1.2]
    rw [Lexeme.source_map_plain]
    refine (List.pairwise_of_forall_mem_list fun a ha b hmem => ?_).isChain
    simp [hb a ha, hb b hmem]

theorem getLast_head_source {l m : Lexeme} (hl : l.source ≠ []) (hm : m.source ≠ [])
    (h : ¬ (l.isRun = true ∧ m.isRun = true)) :
    (!isBracket (l.source.getLast hl) && !isBracket (m.source.head hm)) = false := by
  cases l with
  | left => rfl
  | right => rfl
  | run ms =>
    cases m with
    | left => simp [Lexeme.source, isBracket]
    | right => simp [Lexeme.source, isBracket]
    | run ns => exact absurd ⟨rfl, rfl⟩ h

theorem runs_eq (hb : '\\' ∉ source.toList) :
    runs source.toList = (lexemes source).map Lexeme.source := by
  refine List.splitBy_eq_iff.2 ⟨?_, ?_, ?_, ?_⟩
  · rw [← List.flatMap_def, flatMap_source_lexemes]
  · intro hnil
    obtain ⟨l, hl, he⟩ := List.mem_map.1 hnil
    exact Lexeme.source_ne_nil hl he
  · intro s hs
    obtain ⟨l, hl, rfl⟩ := List.mem_map.1 hs
    exact (plain_of_mem_lexemes hb hl).isChain_source
  · rw [List.isChain_map]
    refine List.IsChain.imp_of_mem_imp (fun l m hl hm h => ?_) (separated_lexemes source)
    exact ⟨Lexeme.source_ne_nil hl, Lexeme.source_ne_nil hm, getLast_head_source _ _ h⟩

/-- The segments of a path give back the source with every integer respelled. -/
theorem reconstruct_eq_respelled {segments : List Segment} (hb : '\\' ∉ source.toList)
    (h : parse source = .ok segments) :
    String.ofList (reconstruct segments) = respelled source := by
  rw [respelled, flatMap_value_of_parse h fun _ => id, flatMap_tokens_of_parse h, tokenize_eq_place,
    flatMap_value_place hb 0 fun _ => id, runs_eq hb, List.flatMap_map]

theorem respell_ne_nil {s : List Char} (h : s ≠ []) : respell s ≠ [] := by
  unfold respell
  split
  · exact Integer.spell_ne_nil _
  · exact h

theorem read?_respell (s : List Char) : Integer.read? (respell s) = Integer.read? s := by
  cases h : Integer.read? s with
  | none => rw [respell_of_none h, h]
  | some n => rw [respell_of_read? h, Integer.read?_spell (Integer.inRange_of_read? h)]

theorem respell_respell (s : List Char) : respell (respell s) = respell s := by
  cases h : Integer.read? s with
  | none => rw [respell_of_none h, respell_of_none h]
  | some n => rw [respell_of_read? (by rw [read?_respell, h]), respell_of_read? h]

theorem not_isSpecial_respell {s : List Char} (hs : ∀ c ∈ s, Lexeme.isSpecial c = false) :
    ∀ c ∈ respell s, Lexeme.isSpecial c = false := by
  cases h : Integer.read? s with
  | none => rwa [respell_of_none h]
  | some n =>
    intro c hc
    exact Lexeme.isSpecial_of_read? ((read?_respell s).trans h) hc

-- The lexemes of the respelled source are those of the source, respelled one by one.
namespace Lexeme

/-- The lexeme with an integer in canonical spelling. -/
def respell : Lexeme → Lexeme
  | run ms => run ((Path.respell (Mark.decode ms)).map .plain)
  | l => l

theorem separated_map_respell {ls : List Lexeme} (h : Separated ls) :
    Separated (ls.map respell) := by
  have hrun : ∀ l : Lexeme, l.respell.isRun = l.isRun := by
    intro l
    cases l <;> rfl
  rw [Separated, List.isChain_map]
  simp only [hrun]
  exact h

theorem Plain.respell {l : Lexeme} (h : l.Plain) : l.respell.Plain := by
  cases h with
  | left => exact .left
  | right => exact .right
  | run hne hs =>
    rw [Lexeme.respell, Mark.decode_map_plain]
    exact .run (respell_ne_nil hne) (not_isSpecial_respell hs)

theorem Plain.source_respell {l : Lexeme} (h : l.Plain) :
    l.respell.source = Path.respell l.source := by
  cases h with
  | left => rfl
  | right => rfl
  | run hne hs => rw [Lexeme.respell, Mark.decode_map_plain, source_map_plain, source_map_plain]

theorem Plain.map_plain_source {l : Lexeme} (h : l.Plain) : l.source.map .plain = l.marks := by
  cases h with
  | left => rfl
  | right => rfl
  | run hne hs => rw [source_map_plain, marks]

theorem Plain.notMem_source {l : Lexeme} (h : l.Plain) : '\\' ∉ l.source := by
  cases h with
  | left => simp [Lexeme.source]
  | right => simp [Lexeme.source]
  | run hne hs =>
    rw [source_map_plain]
    intro hm
    cases hs _ hm

theorem ofMarks_flatMap_marks {ls : List Lexeme} (hsep : Separated ls)
    (hls : ∀ l ∈ ls, l.Plain) : ofMarks (ls.flatMap marks) = ls := by
  induction ls with
  | nil => rfl
  | cons l ls ih =>
    obtain ⟨hl, hrest⟩ := List.forall_mem_cons.1 hls
    have ih := ih (List.IsChain.tail hsep) hrest
    cases hl with
    | left => exact congrArg (cons (.plain '[')) ih
    | right => exact congrArg (cons (.plain ']')) ih
    | @run s hne hs =>
      have hms : ∀ m ∈ s.map Mark.plain, m ≠ .plain '[' ∧ m ≠ .plain ']' := by
        intro m hm
        obtain ⟨c, hc, rfl⟩ := List.mem_map.1 hm
        exact not_bracket_of_not_isSpecial (by simp [hs c hc])
      rw [List.flatMap_cons, marks, ofMarks_append_run (by simpa using hne) hms, ih]
      intro m hm
      -- Behind a run stands a bracket, if anything.
      cases ls with
      | nil => cases hm
      | cons l ls =>
        cases l with
        | left => exact .inl (by simpa [marks] using hm.symm)
        | right => exact .inr (by simpa [marks] using hm.symm)
        | run ns => exact absurd ⟨rfl, rfl⟩ (List.isChain_cons_cons.1 hsep).1

end Lexeme

theorem toList_respelled (hb : '\\' ∉ source.toList) :
    (respelled source).toList =
      ((lexemes source).map Lexeme.respell).flatMap Lexeme.source := by
  rw [respelled, String.toList_ofList, runs_eq hb, List.flatMap_map, List.flatMap_map]
  exact List.flatMap_congr fun l hl => (plain_of_mem_lexemes hb hl).source_respell.symm

theorem lexemes_respelled (hb : '\\' ∉ source.toList) :
    lexemes (respelled source) = (lexemes source).map Lexeme.respell := by
  have hplain : ∀ l ∈ (lexemes source).map Lexeme.respell, l.Plain := by
    intro l hl
    obtain ⟨m, hm, rfl⟩ := List.mem_map.1 hl
    exact (plain_of_mem_lexemes hb hm).respell
  have hslash : '\\' ∉ (respelled source).toList := by
    rw [toList_respelled hb]
    intro hm
    obtain ⟨l, hl, hc⟩ := List.mem_flatMap.1 hm
    exact (hplain l hl).notMem_source hc
  rw [lexemes, read_of_notMem hslash, toList_respelled hb, List.map_flatMap,
    List.flatMap_congr fun l hl => (hplain l hl).map_plain_source,
    Lexeme.ofMarks_flatMap_marks (Lexeme.separated_map_respell (separated_lexemes source)) hplain]

-- Parsing looks at the kinds and the values of tokens, not at where they stand.
def Token.unplaced (t : Token) : Token := { t with start := 0, stop := 0 }

@[simp] theorem Token.kind_unplaced (t : Token) : t.unplaced.kind = t.kind := rfl

@[simp] theorem Token.value_unplaced (t : Token) : t.unplaced.value = t.value := rfl

@[simp] theorem Token.number?_unplaced (t : Token) : t.unplaced.number? = t.number? := rfl

def Segment.unplaced (s : Segment) : Segment := { s with tokens := s.tokens.map Token.unplaced }

theorem reconstruct_map_unplaced (ss : List Segment) :
    reconstruct (ss.map Segment.unplaced) = reconstruct ss := by
  simp only [reconstruct, List.flatMap_map]
  rfl

theorem bracketed_unplaced (t : Token) : bracketed t.unplaced = bracketed t := rfl

theorem hops_unplaced {ts : List Token} {ss : List Segment} (h : hops ts = .ok ss) :
    hops (ts.map Token.unplaced) = .ok (ss.map Segment.unplaced) := by
  fun_induction hops ts generalizing ss with
  | case1 =>
    cases h
    rfl
  | case4 l hl t ts hr ih =>
    obtain ⟨rest, hrest, rfl⟩ := Except.map_eq_ok.1 h
    have hl : l.kind = .left := by simpa using hl
    cases ts <;>
      simp_all [hops, Except.map, Segment.unplaced, Segment.access]
  | case6 l hl t hr ht close ts hc ih =>
    obtain ⟨rest, hrest, rfl⟩ := Except.map_eq_ok.1 h
    have hl : l.kind = .left := by simpa using hl
    simp [hops, hl, hr, ht, hc, ih hrest, bracketed_unplaced, Except.map, Segment.unplaced,
      Segment.access]
  | _ => simp at h

theorem root_unplaced {ts rest : List Token} {s : Segment} (h : root ts = .ok (s, rest)) :
    root (ts.map Token.unplaced) = .ok (s.unplaced, rest.map Token.unplaced) := by
  revert h
  fun_cases root ts with
  | case1 =>
    rintro ⟨⟩
    rfl
  | case2 t ts ht =>
    rintro ⟨⟩
    simp [root, ht, Segment.unplaced, Segment.access]
  | case4 l _ hl u us hu hn =>
    rintro ⟨⟩
    simp [root, Kind.isLiteral, hl, hu, hn, Segment.unplaced, Segment.access]
  | case6 l _ hl u hu n hn close us hc =>
    rintro ⟨⟩
    simp [root, Kind.isLiteral, hl, hu, hn, hc, Segment.unplaced, Segment.access]
  | _ => rintro ⟨⟩

theorem parseTokens_unplaced {ts : List Token} {ss : List Segment}
    (h : parseTokens ts = .ok ss) :
    parseTokens (ts.map Token.unplaced) = .ok (ss.map Segment.unplaced) := by
  obtain ⟨s, rest, ss, hr, hss, rfl⟩ := parseTokens_eq_ok.1 h
  exact parseTokens_eq_ok.2 ⟨_, _, _, root_unplaced hr, hops_unplaced hss, rfl⟩

theorem Lexeme.Plain.unplaced_token {l : Lexeme} (h : l.Plain) (m n : Nat) :
    (l.respell.token m).unplaced = (l.token n).unplaced := by
  cases h with
  | left => rfl
  | right => rfl
  | run hne hs =>
    rw [Lexeme.respell, Mark.decode_map_plain]
    simp only [token, classify_map_plain hs, classify_map_plain (not_isSpecial_respell hs),
      read?_respell, respell_respell]
    rfl

theorem map_unplaced_place {ls : List Lexeme} (hls : ∀ l ∈ ls, l.Plain) (m n : Nat) :
    (Lexeme.place m (ls.map Lexeme.respell)).map Token.unplaced =
      (Lexeme.place n ls).map Token.unplaced := by
  induction ls generalizing m n with
  | nil => rfl
  | cons l ls ih =>
    obtain ⟨hl, hrest⟩ := List.forall_mem_cons.1 hls
    rw [List.map_cons, Lexeme.place, Lexeme.place, List.map_cons, List.map_cons,
      hl.unplaced_token m n, ih hrest]

theorem tokenize_respelled (hb : '\\' ∉ source.toList) :
    (tokenize (respelled source)).map Token.unplaced =
      (tokenize source).map Token.unplaced := by
  rw [tokenize_eq_place, tokenize_eq_place, lexemes_respelled hb]
  exact map_unplaced_place (fun l => plain_of_mem_lexemes hb) 0 0

/-- The respelled source is a path too, of the same segments up to the places of their tokens. -/
theorem parse_respelled {segments : List Segment} (hb : '\\' ∉ source.toList)
    (h : parse source = .ok segments) :
    ∃ again, parse (respelled source) = .ok again ∧
      again.map Segment.unplaced = segments.map Segment.unplaced := by
  have htokens := tokenize_respelled hb
  obtain ⟨again, hagain⟩ : ∃ again, parse (respelled source) = .ok again := by
    by_cases hne : source = ""
    · subst hne
      exact ⟨_, parse_empty⟩
    · obtain ⟨s, rest, rfl, hp⟩ := parse_sound hne h
      refine parse_complete ?_
      have hkinds : (tokenize (respelled source)).map Token.kind =
          (tokenize source).map Token.kind := by
        simpa [Function.comp_def] using congrArg (List.map Token.kind) htokens
      rw [hkinds, ← hp.tokens, List.flatMap_cons, List.map_append]
      exact .mk hp.root hp.hops
  refine ⟨again, hagain, ?_⟩
  have hbefore := parseTokens_unplaced (parse_eq_ok.1 h)
  have hafter := parseTokens_unplaced (parse_eq_ok.1 hagain)
  rw [htokens, hbefore] at hafter
  exact (Except.ok.inj hafter).symm

/-- What the segments of a path without backslashes give back is the source with every integer in
canonical spelling, so the source itself if all are. It is a path again, of the same accessors, and
gives back itself. -/
theorem reconstruct_respells {segments : List Segment} (hb : '\\' ∉ source.toList)
    (h : parse source = .ok segments) :
    String.ofList (reconstruct segments) = respelled source ∧
    ((∀ run ∈ runs source.toList, ∀ n, Integer.read? run = some n → run = Integer.spell n) →
      String.ofList (reconstruct segments) = source) ∧
    ∃ again, parse (String.ofList (reconstruct segments)) = .ok again ∧
      again.map (fun s => (s.action, s.isRoot)) =
        segments.map (fun s => (s.action, s.isRoot)) ∧
      reconstruct again = reconstruct segments := by
  have hr := reconstruct_eq_respelled hb h
  refine ⟨hr, fun hcan => ?_, ?_⟩
  · have hfix : ∀ run ∈ runs source.toList, respell run = run := by
      intro run hrun
      cases hn : Integer.read? run with
      | none => exact respell_of_none hn
      | some n => rw [respell_of_read? hn, ← hcan run hrun n hn]
    rw [hr, respelled, List.flatMap_congr hfix, List.flatMap_id', runs, List.flatten_splitBy,
      String.ofList_toList]
  · obtain ⟨again, hagain, hsame⟩ := parse_respelled hb h
    refine ⟨again, by rw [hr, hagain], ?_, ?_⟩
    · simpa [Function.comp_def, Segment.unplaced] using
        congrArg (List.map fun s => (s.action, s.isRoot)) hsame
    · simpa only [reconstruct_map_unplaced] using congrArg reconstruct hsame

/-- Signs and zeros in front of an integer go. What lies past the largest one is a key, and a key
keeps its spelling. -/
theorem reconstruct_respells_signs :
    (∃ segments, parse "+007[-0][é][9223372036854775808][]" = .ok segments ∧
      String.ofList (reconstruct segments) = "7[0][é][9223372036854775808][]" ∧
      ∃ again, parse (String.ofList (reconstruct segments)) = .ok again ∧
        again.map (fun s => (s.action, s.isRoot)) =
          segments.map (fun s => (s.action, s.isRoot)) ∧
        reconstruct again = reconstruct segments) ∧
    ∃ segments, parse "7[0][é][9223372036854775808][]" = .ok segments ∧
      String.ofList (reconstruct segments) = "7[0][é][9223372036854775808][]" := by
  constructor
  · obtain ⟨segments, h⟩ :
        ∃ segments, parse "+007[-0][é][9223372036854775808][]" = .ok segments := ⟨_, by cbv⟩
    obtain ⟨hr, _, hagain⟩ := reconstruct_respells (by decide) h
    exact ⟨segments, h, hr.trans (by cbv), hagain⟩
  · obtain ⟨segments, h⟩ :
        ∃ segments, parse "7[0][é][9223372036854775808][]" = .ok segments := ⟨_, by cbv⟩
    have hcan : ∀ run ∈ runs "7[0][é][9223372036854775808][]".toList,
        ∀ n ∈ Integer.read? run, run = Integer.spell n := by
      decide +kernel
    exact ⟨segments, h, (reconstruct_respells (by decide) h).2.1 hcan⟩

end Path

end Courier
