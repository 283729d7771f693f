import Courier.Proofs.Path.Grammar
import Courier.Proofs.Path.Span
import Courier.Proofs.Text.Escape

/-! Reconstructing paths. The segments of a path give back the values of their tokens, and in a
canonical source the values are the source itself. -/

namespace Courier

namespace Path

def isBracket (c : Char) : Bool := c = '[' || c = ']'

/-- A path without escapes whose integers are spelled as they are printed. -/
structure Canonical (source : String) : Prop where
  noBackslash : '\\' ∉ source.toList
  integers : ∀ run ∈ source.toList.splitOnP isBracket, ∀ n, Integer.read? run = some n →
    run = Integer.spell n

namespace Lexeme

/-- What stands between brackets, where two that stand side by side enclose nothing. -/
def pieces : List Lexeme → List (List Char)
  | [] => [[]]
  | run ms :: ls => (pieces ls).modifyHead (Mark.decode ms ++ ·)
  | _ :: ls => [] :: pieces ls

theorem pieces_cons_plain (c : Char) (ls : List Lexeme) :
    pieces (cons (.plain c) ls) =
      if isBracket c then [] :: pieces ls else (pieces ls).modifyHead (c :: ·) := by
  by_cases hl : c = '['
  · simp [cons, hl, isBracket, pieces]
  · by_cases hr : c = ']'
    · simp [cons, hr, isBracket, pieces]
    · have hb : isBracket c = false := by simp [isBracket, hl, hr]
      cases ls with
      | nil => simp [cons, hl, hr, hb, pieces, Mark.char]
      | cons l ls =>
        cases l with
        | run ms =>
          simp only [cons, hl, hr, hb, pieces, Mark.plain.injEq, if_false, Bool.false_eq_true,
            List.modifyHead_modifyHead]
          rfl
        | _ => simp [cons, hl, hr, hb, pieces, Mark.char]

theorem pieces_ofMarks_plain (s : List Char) :
    pieces (ofMarks (s.map .plain)) = s.splitOnP isBracket := by
  induction s with
  | nil => rfl
  | cons c s ih =>
    rw [List.map_cons, ofMarks_cons, pieces_cons_plain, ih, List.splitOnP_cons_eq_if_modifyHead]

theorem decode_mem_pieces {ls : List Lexeme} {ms : List Mark} (h : Separated ls)
    (hm : run ms ∈ ls) (hne : Mark.decode ms ≠ []) : Mark.decode ms ∈ pieces ls := by
  induction ls with
  | nil => cases hm
  | cons l ls ih =>
    have ih := ih (List.IsChain.tail h)
    cases l with
    | run ns =>
      -- Behind a run stands a bracket or nothing, so the run is the whole first piece.
      have hnext : ∃ tail, pieces ls = [] :: tail := by
        cases ls with
        | nil => exact ⟨[], rfl⟩
        | cons l ls =>
          cases l with
          | run os => exact absurd ⟨rfl, rfl⟩ (List.isChain_cons_cons.1 h).1
          | _ => exact ⟨_, rfl⟩
      obtain ⟨tail, ht⟩ := hnext
      rcases List.mem_cons.1 hm with he | hm
      · cases he
        simp [pieces, ht]
      · have hp := ih hm
        rw [ht] at hp
        simp [pieces, ht, (List.mem_cons.1 hp).resolve_left hne]
    | left =>
      rcases List.mem_cons.1 hm with he | hm
      · cases he
      · exact List.mem_cons_of_mem _ (ih hm)
    | right =>
      rcases List.mem_cons.1 hm with he | hm
      · cases he
      · exact List.mem_cons_of_mem _ (ih hm)

end Lexeme

theorem Spelled.reconstruct {s : Segment} (h : Spelled s) (hs : ∀ t ∈ s.tokens, t.Sound) :
    s.reconstruct = s.tokens.flatMap fun t => t.value.toList := by
  cases h with
  | literal ht => simp [Segment.access, Segment.reconstruct]
  | append isRoot hl hr =>
    have hlv := (hs _ (by simp [Segment.access])).left hl
    have hrv := (hs _ (by simp [Segment.access])).right hr
    simp [Segment.access, Segment.reconstruct, hlv, hrv]
  | @index l t r n isRoot hl ht hn hr =>
    have hlv := (hs l (by simp [Segment.access])).left hl
    have hrv := (hs r (by simp [Segment.access])).right hr
    obtain ⟨m, hm, htv⟩ := (hs t (by simp [Segment.access])).number ht
    obtain rfl : m = n := Option.some.inj (hm.symm.trans hn)
    simp [Segment.access, Segment.reconstruct, hlv, hrv, htv]
  | @key l t r hl ht hr =>
    have hlv := (hs l (by simp [Segment.access])).left hl
    have hrv := (hs r (by simp [Segment.access])).right hr
    simp [Segment.access, Segment.reconstruct, hlv, hrv]

theorem flatMap_value_of_parse {source : String} {segments : List Segment}
    (h : parse source = .ok segments) {ss : List Segment} (hss : ∀ s ∈ ss, s ∈ segments) :
    reconstruct ss = (ss.flatMap Segment.tokens).flatMap fun t => t.value.toList := by
  rw [reconstruct, List.flatMap_assoc]
  refine List.flatMap_congr fun s hm => ?_
  have hs := hss s hm
  rcases parse_cases h with ⟨rfl, rfl⟩ | ⟨-, r, rest, rfl, hp⟩
  · obtain rfl := List.mem_singleton.1 hs
    rfl
  · refine (hp.spelled s hs).reconstruct fun t ht => ?_
    have hmem : t ∈ tokenize source := by
      rw [← hp.tokens]
      exact List.mem_flatMap.2 ⟨s, hs, ht⟩
    exact sound_of_mem_tokenize hmem

/-- The canonical spelling of an integer. Any other text stays as it is. -/
def respell (run : List Char) : List Char :=
  match Integer.read? run with
  | some n => Integer.spell n
  | none => run

theorem respell_of_read? {run : List Char} {n : Int} (h : Integer.read? run = some n) :
    respell run = Integer.spell n := by
  simp [respell, h]

theorem respell_of_none {run : List Char} (h : Integer.read? run = none) : respell run = run := by
  simp [respell, h]

theorem classify_map_plain {s : List Char} (hs : ∀ c ∈ s, Lexeme.isSpecial c = false) :
    Lexeme.classify (s.map .plain) =
      (if (Integer.read? s).isSome then .number else .text, respell s) := by
  have hd := Mark.decode_map_plain s
  cases hn : Integer.read? s with
  | some n =>
    have he : (s.map Mark.plain).any Mark.isEscaped = false := by
      simp [List.any_map, Function.comp_def, Mark.isEscaped]
    rw [Lexeme.classify_of_read? he (by rw [hd, hn]), respell_of_read? hn]
    rfl
  | none =>
    have hb : s.head? ≠ some '\\' := by
      intro hh
      cases hs _ (List.mem_of_head? hh)
    rw [Lexeme.classify_of_not_sign (by rw [hd, hn]) (by rw [hd]; exact hb), hd,
      respell_of_none hn]
    rfl

namespace Lexeme

/-- A bracket, or characters that stand for themselves and are not special. -/
inductive Plain : Lexeme → Prop
  | left : Plain .left
  | right : Plain .right
  | run {s : List Char} (hne : s ≠ []) (hs : ∀ c ∈ s, isSpecial c = false) :
    Plain (.run (s.map .plain))

theorem source_map_plain (s : List Char) : (Lexeme.run (s.map .plain)).source = s := by
  simp [Lexeme.source, List.flatMap_map, Mark.source]

theorem Plain.value_token {l : Lexeme} (h : l.Plain) (n : Nat) :
    (l.token n).value.toList = respell l.source := by
  cases h with
  | left =>
    rw [Lexeme.source, respell_of_none rfl]
    simp [token]
  | right =>
    rw [Lexeme.source, respell_of_none rfl]
    simp [token]
  | run hne hs =>
    rw [source_map_plain, token, classify_map_plain hs]
    simp

end Lexeme

section

variable {source : String} (hb : '\\' ∉ source.toList)

include hb

theorem read_of_notMem :
    Mark.read Lexeme.isSpecial source.toList = source.toList.map .plain := by
  simpa [Mark.read] using Mark.read_append_of_notMem Lexeme.isSpecial hb []

theorem plain_of_mem_lexemes {l : Lexeme} (hl : l ∈ lexemes source) : l.Plain := by
  cases l with
  | left => exact .left
  | right => exact .right
  | run ms =>
    have hplain : ∀ m ∈ ms, m = .plain m.char ∧ m.char ≠ '\\' := by
      intro m hm
      have hmem : m ∈ (lexemes source).flatMap Lexeme.marks := List.mem_flatMap.2 ⟨_, hl, hm⟩
      rw [lexemes, Lexeme.flatMap_marks_ofMarks, read_of_notMem hb] at hmem
      obtain ⟨c, hc, rfl⟩ := List.mem_map.1 hmem
      exact ⟨rfl, fun he => hb (he ▸ hc)⟩
    have hms : ms = (Mark.decode ms).map .plain := by
      calc ms = ms.map id := (List.map_id ms).symm
        _ = ms.map (Mark.plain ∘ Mark.char) := List.map_congr_left fun m hm => (hplain m hm).1
        _ = (Mark.decode ms).map .plain := by rw [Mark.decode, List.map_map]
    rw [hms]
    refine .run ?_ fun c hc => ?_
    · simpa [Mark.decode] using Lexeme.ne_nil_of_mem_ofMarks hl
    · obtain ⟨m, hm, rfl⟩ := List.mem_map.1 hc
      obtain ⟨hopen, hclose⟩ := Lexeme.not_bracket_of_mem_ofMarks hl m hm
      obtain ⟨hp, hslash⟩ := hplain m hm
      rw [← Bool.not_eq_true, Lexeme.isSpecial_iff]
      rintro (h | h | h)
      · exact hopen (h ▸ hp)
      · exact hclose (h ▸ hp)
      · exact hslash h

theorem flatMap_value_place {ls : List Lexeme} (n : Nat) (hls : ∀ l ∈ ls, l ∈ lexemes source) :
    ((Lexeme.place n ls).flatMap fun t => t.value.toList) =
      ls.flatMap fun l => respell l.source := by
  induction ls generalizing n with
  | nil => rfl
  | cons l ls ih =>
    have hl := plain_of_mem_lexemes hb (hls l (by simp))
    rw [Lexeme.place, List.flatMap_cons, List.flatMap_cons, hl.value_token,
      ih _ fun m hm => hls m (List.mem_cons_of_mem l hm)]

end

namespace Canonical

variable {source : String}

theorem respell_source (h : Canonical source) {l : Lexeme} (hl : l ∈ lexemes source) :
    respell l.source = l.source := by
  cases plain_of_mem_lexemes h.noBackslash hl with
  | left => rfl
  | right => rfl
  | @run s hne hs =>
    rw [Lexeme.source_map_plain]
    cases hn : Integer.read? s with
    | none => exact respell_of_none hn
    | some n =>
      have hd := Mark.decode_map_plain s
      have hp : s ∈ source.toList.splitOnP isBracket := by
        rw [← Lexeme.pieces_ofMarks_plain, ← read_of_notMem h.noBackslash, ← hd]
        exact Lexeme.decode_mem_pieces (Lexeme.separated_ofMarks _) hl (by rwa [hd])
      rw [respell_of_read? hn, ← h.integers s hp n hn]

/-- The values of tokens up to a place of a canonical source are its text up to there. -/
theorem exists_eq_append (h : Canonical source) {ts us : List Token}
    (ht : tokenize source = ts ++ us) :
    ∃ rest, source = String.ofList (ts.flatMap fun t => t.value.toList) ++ rest ∧
      ∀ t, us.head? = some t →
        (String.ofList (ts.flatMap fun t => t.value.toList)).utf8ByteSize = t.start := by
  rw [tokenize_eq_place] at ht
  obtain ⟨ls, ms, hl, rfl, rfl⟩ := Lexeme.place_eq_append ht
  have hvalue : ((Lexeme.place 0 ls).flatMap fun t => t.value.toList) =
      ls.flatMap Lexeme.source := by
    have hls : ∀ l ∈ ls, l ∈ lexemes source := fun l hm => by simp [hl, hm]
    rw [flatMap_value_place h.noBackslash 0 hls]
    exact List.flatMap_congr fun l hm => h.respell_source (hls l hm)
  rw [hvalue]
  refine ⟨String.ofList (ms.flatMap Lexeme.source), ?_, fun t hh => ?_⟩
  · rw [← String.ofList_append, ← List.flatMap_append, ← hl, flatMap_source_lexemes,
      String.ofList_toList]
  · rw [Lexeme.utf8ByteSize_flatMap_source]
    cases ms with
    | nil => cases hh
    | cons l ms =>
      cases hh
      rw [Lexeme.token_start, Nat.zero_add]

end Canonical

end Path

end Courier
