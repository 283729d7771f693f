import Courier.Proofs.Path.Caret
import Courier.Proofs.Text.Marks

/-! Tokens, read off the source. Each bracket that no backslash takes along is a token of its own,
and what stands between two of these says by itself which kind and value its token has. The tokens
of a source are the one list that is like this. -/

namespace Courier

namespace Path

/-- The character stands at the byte, and no backslash in front takes it along: those in front are
settled among themselves. -/
def Free (source : String) (c : Char) (n : Nat) : Prop :=
  ∃ before after, source.toList = before ++ c :: after ∧ Settled before ∧
    n = (String.ofList before).utf8ByteSize

/-- A bracket or a backslash with a backslash in front. -/
def HasEscape (span : List Char) : Prop :=
  ∃ c, Lexeme.isSpecial c = true ∧ ['\\', c] <:+: span

/-- The kind and the value of a token that is not a bracket, by its span. -/
structure Decodes (span : List Char) (kind : Kind) (value : List Char) : Prop where
  /-- The backslashes that escape something are taken out, and nothing else. -/
  escaped : HasEscape span → kind = .text ∧
    ∃ ms, Mark.Reads (fun c => Lexeme.isSpecial c = true) span ms ∧ value = Mark.decode ms
  number : ¬ HasEscape span → ∀ n, Integer.read? span = some n →
    kind = .number ∧ value = Integer.spell n
  /-- A backslash in front of an integer makes it a text. -/
  sign : ¬ HasEscape span → ∀ digits, span = '\\' :: digits →
    (Integer.read? digits).isSome = true → kind = .text ∧ value = digits
  text : ¬ HasEscape span → Integer.read? span = none →
    (∀ digits, span = '\\' :: digits → Integer.read? digits = none) →
    kind = .text ∧ value = span

/-- What the tokens of a source are, said of the source itself. -/
structure Tokenization (source : String) (ts : List Token) : Prop where
  tiles : Tiles 0 source.utf8ByteSize ts
  /-- Every token begins and ends between characters. -/
  valid : ∀ t ∈ ts, String.Pos.Raw.IsValid source ⟨t.start⟩ ∧
    String.Pos.Raw.IsValid source ⟨t.stop⟩
  /-- Brackets are tokens of their own, unless a backslash takes them along. -/
  left : ∀ t, t ∈ ts ∧ t.kind = .left ↔ ∃ n, Free source '[' n ∧ t = ⟨.left, "[", n, n + 1⟩
  right : ∀ t, t ∈ ts ∧ t.kind = .right ↔ ∃ n, Free source ']' n ∧ t = ⟨.right, "]", n, n + 1⟩
  separate : ts.IsChain fun t u => ¬ (t.kind.isLiteral = true ∧ u.kind.isLiteral = true)
  literal : ∀ t ∈ ts, t.kind ≠ .left → t.kind ≠ .right → ∃ before span after,
    Covers source [t] before span after ∧ Decodes span.toList t.kind t.value.toList
  integer : ∀ t ∈ ts, t.kind = .number → ∃ n, Integer.InRange n ∧ t.number? = some n
  value_ne : ∀ t ∈ ts, t.kind.isLiteral = true → t.value ≠ ""

variable {source : String} {n : Nat} {c : Char} {kind : Kind} {t u : Token} {ts us : List Token}

namespace Lexeme

variable {l : Lexeme} {ls : List Lexeme}

theorem isLiteral_token (n : Nat) (l : Lexeme) : (l.token n).kind.isLiteral = l.isRun := by
  cases l with
  | left => rfl
  | right => rfl
  | run ms =>
    rcases classify_cases ms with ⟨k, -, -, hc⟩ | ⟨s, hc⟩ <;>
      simp [token, hc, Kind.isLiteral, isRun]

theorem kind_token_eq_iff (hl : l.isRun = false) {k : Lexeme} {m : Nat} :
    (k.token m).kind = (l.token n).kind ↔ k = l := by
  cases k with
  | run ms =>
    refine iff_of_false (fun h => ?_) ?_
    · have hlit := isLiteral_token m (.run ms)
      rw [h, isLiteral_token, hl] at hlit
      cases hlit
    · rintro rfl
      cases hl
  | left => cases l <;> simp_all [token, isRun]
  | right => cases l <;> simp_all [token, isRun]

theorem Separated.isChain_place (h : Separated ls) :
    (place n ls).IsChain
      fun t u => ¬ (t.kind.isLiteral = true ∧ u.kind.isLiteral = true) := by
  induction ls generalizing n with
  | nil => exact List.isChain_nil
  | cons l ls ih =>
    refine (ih (List.IsChain.tail h)).cons fun t ht => ?_
    cases ls with
    | nil => cases ht
    | cons m ls =>
      obtain rfl := Option.some.inj ht
      rw [isLiteral_token, isLiteral_token]
      exact (List.isChain_cons_cons.1 h).1

theorem cons_bracket (hl : l.isRun = false) (hm : l.marks = [.plain c]) (ls : List Lexeme) :
    cons (.plain c) ls = l :: ls := by
  cases l with
  | run => cases hl
  | _ =>
    cases hm
    rfl

theorem cons_append (m : Mark) (ls : List Lexeme) (hl : l.isRun = false) (rest : List Lexeme) :
    cons m (ls ++ l :: rest) = cons m ls ++ l :: rest := by
  unfold cons
  split
  · rfl
  · split
    · rfl
    · cases ls with
      | nil =>
        cases l with
        | run => cases hl
        | _ => rfl
      | cons k ls => cases k <;> rfl

theorem ofMarks_append_bracket (hl : l.isRun = false) (hm : l.marks = [.plain c])
    (ms ns : List Mark) : ofMarks (ms ++ .plain c :: ns) = ofMarks ms ++ l :: ofMarks ns := by
  induction ms with
  | nil => exact cons_bracket hl hm _
  | cons m ms ih =>
    rw [List.cons_append, ofMarks_cons, ih, cons_append m _ hl, ofMarks_cons]

theorem isSpecial_of_marks (hl : l.isRun = false) (hm : l.marks = [.plain c]) :
    isSpecial c = true := by
  cases l with
  | run => cases hl
  | _ =>
    cases hm
    rfl

end Lexeme

section

variable {l : Lexeme} {before after : List Lexeme}

theorem read_eq_marks (h : lexemes source = before ++ l :: after) :
    Mark.read Lexeme.isSpecial source.toList =
      before.flatMap Lexeme.marks ++ (l.marks ++ after.flatMap Lexeme.marks) := by
  have hm := Lexeme.flatMap_marks_ofMarks (Mark.read Lexeme.isSpecial source.toList)
  rw [← hm, ← lexemes, h]
  simp

theorem readable_marks (h : lexemes source = before ++ l :: after) :
    Mark.Readable Lexeme.isSpecial
      (before.flatMap Lexeme.marks ++ (l.marks ++ after.flatMap Lexeme.marks)) := by
  rw [← read_eq_marks h]
  exact Mark.readable_read rfl _

theorem free_iff (hl : l.isRun = false) (hm : l.marks = [.plain c]) :
    Free source c n ↔
      ∃ before after, lexemes source = before ++ l :: after ∧ n = (before.map Lexeme.size).sum := by
  constructor
  · rintro ⟨before, after, hs, hset, rfl⟩
    have hc : c ≠ '\\' := by
      rintro rfl
      cases l <;> simp [Lexeme.marks, Lexeme.isRun] at hl hm
    refine ⟨lexemes (String.ofList before), lexemes (String.ofList after), ?_, ?_⟩
    · rw [lexemes, hs, hset.read_append, Mark.read_cons_of_ne _ hc,
        Lexeme.ofMarks_append_bracket hl hm]
      simp [lexemes]
    · rw [← Lexeme.utf8ByteSize_flatMap_source, flatMap_source_lexemes, String.toList_ofList]
  · rintro ⟨before, after, h, rfl⟩
    have hread := readable_marks h
    rw [hm, List.singleton_append] at hread
    refine ⟨before.flatMap Lexeme.source, after.flatMap Lexeme.source, ?_, ?_, ?_⟩
    · have hsource : l.source = [c] := by
        rw [← Lexeme.flatMap_source_marks, hm]
        rfl
      rw [← flatMap_source_lexemes, h]
      simp [hsource]
    · rw [← Lexeme.flatMap_source_flatMap_marks]
      exact hread.settled rfl (Lexeme.isSpecial_of_marks hl hm)
    · rw [Lexeme.utf8ByteSize_flatMap_source]

theorem mem_tokenize_bracket_iff (hl : l.isRun = false) (hm : l.marks = [.plain c]) :
    t ∈ tokenize source ∧ t.kind = (l.token 0).kind ↔ ∃ n, Free source c n ∧ t = l.token n := by
  simp only [mem_tokenize_iff, free_iff hl hm]
  constructor
  · rintro ⟨⟨before, k, after, h, rfl⟩, hkind⟩
    obtain rfl := (Lexeme.kind_token_eq_iff hl).1 hkind
    exact ⟨_, ⟨before, after, h, rfl⟩, rfl⟩
  · rintro ⟨_, ⟨before, after, h, rfl⟩, rfl⟩
    exact ⟨⟨before, l, after, h, rfl⟩, (Lexeme.kind_token_eq_iff hl).2 rfl⟩

end

theorem decode_of_isEscaped {ms : List Mark} (h : ms.any Mark.isEscaped = false) :
    Mark.decode ms = ms.flatMap Mark.source := by
  induction ms with
  | nil => rfl
  | cons m ms ih =>
    rw [List.any_cons, Bool.or_eq_false_iff] at h
    cases m with
    | escaped => cases h.1
    | plain => simp [ih h.2, Mark.char, Mark.source]

theorem hasEscape_iff {ms : List Mark} (h : Mark.Readable Lexeme.isSpecial ms) :
    HasEscape (ms.flatMap Mark.source) ↔ ms.any Mark.isEscaped = true := by
  rw [HasEscape, ← Mark.exists_escaped_iff rfl, h.read_source rfl, List.any_eq_true]
  constructor
  · rintro ⟨c, hc⟩
    exact ⟨_, hc, rfl⟩
  · rintro ⟨m, hm, he⟩
    cases m with
    | plain => cases he
    | escaped c => exact ⟨c, hm⟩

theorem decodes_classify {ms : List Mark} (h : Mark.Readable Lexeme.isSpecial ms) :
    Decodes (ms.flatMap Mark.source) (Lexeme.classify ms).1 (Lexeme.classify ms).2 := by
  have hplain : ¬ HasEscape (ms.flatMap Mark.source) →
      ms.any Mark.isEscaped = false ∧ ms.flatMap Mark.source = Mark.decode ms := by
    intro hn
    rw [hasEscape_iff h, Bool.not_eq_true] at hn
    exact ⟨hn, (decode_of_isEscaped hn).symm⟩
  constructor
  · intro he
    rw [Lexeme.classify_of_isEscaped ((hasEscape_iff h).1 he)]
    exact ⟨rfl, ms, Mark.reads_iff.2 (h.read_source rfl).symm, rfl⟩
  · intro hn n hr
    obtain ⟨he, hs⟩ := hplain hn
    rw [hs] at hr
    rw [Lexeme.classify_of_read? he hr]
    exact ⟨rfl, rfl⟩
  · intro hn digits hd hr
    obtain ⟨he, hs⟩ := hplain hn
    rw [Lexeme.classify_of_sign he (hs ▸ hd) hr]
    exact ⟨rfl, rfl⟩
  · intro hn hr hd
    obtain ⟨-, hs⟩ := hplain hn
    rw [hs] at hr hd ⊢
    rw [Lexeme.classify_of_plain hr hd]
    exact ⟨rfl, rfl⟩

theorem exists_decodes (ht : t ∈ tokenize source) (hl : t.kind ≠ .left) (hr : t.kind ≠ .right) :
    ∃ before span after, Covers source [t] before span after ∧
      Decodes span.toList t.kind t.value.toList := by
  obtain ⟨before, l, after, h, rfl⟩ := mem_tokenize_iff.1 ht
  cases l with
  | left => exact absurd rfl hl
  | right => exact absurd rfl hr
  | run ms =>
    have hread : Mark.Readable Lexeme.isSpecial ms := (readable_marks h).middle
    have hrow : lexemes source = before ++ ([.run ms] ++ after) := h
    refine ⟨_, _, _, covers_place hrow (by simp), ?_⟩
    simpa [Lexeme.source, Lexeme.token] using decodes_classify hread

theorem Covers.valid {before span after : String} (h : Covers source [t] before span after) :
    String.Pos.Raw.IsValid source ⟨t.start⟩ ∧ String.Pos.Raw.IsValid source ⟨t.stop⟩ := by
  rw [h.start t rfl, h.stop t rfl, h.source_eq]
  exact ⟨String.Pos.Raw.isValid_iff_exists_append.2 ⟨_, _, String.append_assoc, rfl⟩,
    String.Pos.Raw.isValid_iff_exists_append.2 ⟨_, _, rfl, rfl⟩⟩

theorem tokenization_tokenize (source : String) : Tokenization source (tokenize source) where
  tiles := tiles_tokenize source
  valid t ht := by
    obtain ⟨_, _, _, hc⟩ := exists_covers_of_mem ht
    exact hc.valid
  left _ := mem_tokenize_bracket_iff (l := .left) rfl rfl
  right _ := mem_tokenize_bracket_iff (l := .right) rfl rfl
  separate := (Lexeme.separated_ofMarks _).isChain_place
  literal _ ht hl hr := exists_decodes ht hl hr
  integer t ht hk := by
    obtain ⟨n, hn, -⟩ := (sound_of_mem_tokenize ht).number hk
    rw [Token.number?, if_pos hk] at hn
    exact ⟨n, Integer.inRange_of_read? hn, by rw [Token.number?, if_pos hk, hn]⟩
  value_ne t ht _ := value_ne_empty_of_mem_tokenize ht

theorem Kind.ne_of_isLiteral (h : kind.isLiteral = true) : kind ≠ .left ∧ kind ≠ .right := by
  rcases isLiteral_iff.1 h with rfl | rfl <;> simp

/-- A span says by itself which kind and value it stands for. -/
theorem Decodes.determined (span : List Char) : ∃ k v, k.isLiteral = true ∧
    ∀ kind value, Decodes span kind value → kind = k ∧ value = v := by
  by_cases he : HasEscape span
  · refine ⟨.text, Mark.decode (Mark.read Lexeme.isSpecial span), rfl, fun kind value h => ?_⟩
    obtain ⟨hk, ms, hms, hv⟩ := h.escaped he
    exact ⟨hk, by rw [hv, Mark.reads_iff.1 hms]⟩
  · cases hr : Integer.read? span with
    | some n => exact ⟨.number, Integer.spell n, rfl, fun _ _ h => h.number he n hr⟩
    | none =>
      by_cases hd : ∃ digits, span = '\\' :: digits ∧ (Integer.read? digits).isSome = true
      · obtain ⟨digits, hs, hd⟩ := hd
        exact ⟨.text, digits, rfl, fun _ _ h => h.sign he digits hs hd⟩
      · refine ⟨.text, span, rfl, fun _ _ h => h.text he hr fun digits hs => ?_⟩
        exact Option.not_isSome_iff_eq_none.1 fun hr => hd ⟨digits, hs, hr⟩

theorem eq_of_utf8ByteSize_eq {before after before' after' : String}
    (h : before ++ after = before' ++ after')
    (hs : before.utf8ByteSize = before'.utf8ByteSize) : before = before' := by
  have hcount := charCount?_toList before after
  rw [h, hs, charCount?_toList, Option.some.injEq] at hcount
  have hl := congrArg String.toList h
  rw [String.toList_append, String.toList_append] at hl
  refine String.toList_injective (List.append_inj hl ?_).1
  rw [String.length_toList, String.length_toList, hcount]

theorem Covers.span_eq {before span after before' span' after' : String}
    (h : Covers source [t] before span after) (h' : Covers source [u] before' span' after')
    (hstart : t.start = u.start) (hstop : t.stop = u.stop) : span = span' := by
  have hsource := h.source_eq.symm.trans h'.source_eq
  have hb : before = before' := by
    rw [String.append_assoc, String.append_assoc] at hsource
    refine eq_of_utf8ByteSize_eq hsource ?_
    rw [← h.start t rfl, ← h'.start u rfl, hstart]
  have hbs : before ++ span = before' ++ span' := by
    refine eq_of_utf8ByteSize_eq hsource ?_
    rw [← h.stop t rfl, ← h'.stop u rfl, hstop]
  rw [hb] at hbs
  exact (String.append_right_inj _).1 hbs

namespace Tokenization

variable (hts : Tokenization source ts) (hus : Tokenization source us)

include hts

theorem isLiteral (ht : t ∈ ts) (hl : t.kind ≠ .left) (hr : t.kind ≠ .right) :
    t.kind.isLiteral = true := by
  obtain ⟨-, span, -, -, hd⟩ := hts.literal t ht hl hr
  obtain ⟨k, v, hk, hdet⟩ := Decodes.determined span.toList
  rw [(hdet _ _ hd).1, hk]

include hus

theorem mem_of_bracket (ht : t ∈ ts) (hlit : t.kind.isLiteral = false) : t ∈ us := by
  by_cases hl : t.kind = .left
  · exact ((hus.left t).2 ((hts.left t).1 ⟨ht, hl⟩)).1
  · by_cases hr : t.kind = .right
    · exact ((hus.right t).2 ((hts.right t).1 ⟨ht, hr⟩)).1
    · rw [hts.isLiteral ht hl hr] at hlit
      cases hlit

/-- A literal goes on to the next bracket, so none that begins with it goes further. -/
theorem stop_le (ht : t ∈ ts) (hlit : t.kind.isLiteral = true) (hu : u ∈ us)
    (h : t.start = u.start) : u.stop ≤ t.stop := by
  by_contra hlt
  rw [Nat.not_le] at hlt
  have hend : t.stop < source.utf8ByteSize := hlt.trans_le (hus.tiles.bounds hu).2.2
  obtain ⟨v, hv, hstart, hsep⟩ := hts.tiles.exists_next hts.separate ht hend
  have hbracket : v.kind.isLiteral = false := by simpa [hlit] using hsep
  have htrange := (hts.tiles.bounds ht).2.1
  have hvrange := (hts.tiles.bounds hv).2.1
  -- The bracket would be a token of the other list as well, inside the literal there.
  rcases hus.tiles.apart (hts.mem_of_bracket hus hv hbracket) hu with rfl | hap | hap
  · omega
  · omega
  · omega

theorem eq_of_literal (ht : t ∈ ts) (hu : u ∈ us) (htl : t.kind.isLiteral = true)
    (hul : u.kind.isLiteral = true) (h : t.start = u.start) : t = u := by
  have hstop : t.stop = u.stop :=
    Nat.le_antisymm (hus.stop_le hts hu hul ht h.symm) (hts.stop_le hus ht htl hu h)
  obtain ⟨htl, htr⟩ := Kind.ne_of_isLiteral htl
  obtain ⟨hul, hur⟩ := Kind.ne_of_isLiteral hul
  obtain ⟨_, span, _, hc, hd⟩ := hts.literal t ht htl htr
  obtain ⟨_, span', _, hc', hd'⟩ := hus.literal u hu hul hur
  obtain rfl := hc.span_eq hc' h hstop
  obtain ⟨k, v, -, hdet⟩ := Decodes.determined span.toList
  obtain ⟨hk, hv⟩ := hdet _ _ hd
  obtain ⟨hk', hv'⟩ := hdet _ _ hd'
  calc t = ⟨t.kind, t.value, t.start, t.stop⟩ := rfl
    _ = ⟨u.kind, u.value, u.start, u.stop⟩ := by
      rw [hk.trans hk'.symm, String.toList_injective (hv.trans hv'.symm), h, hstop]
    _ = u := rfl

theorem eq_of_start (ht : t ∈ ts) (hu : u ∈ us) (h : t.start = u.start) : t = u := by
  cases htl : t.kind.isLiteral with
  | false => exact hus.tiles.eq_of_start (hts.mem_of_bracket hus ht htl) hu h
  | true =>
    cases hul : u.kind.isLiteral with
    | false => exact hts.tiles.eq_of_start ht (hus.mem_of_bracket hts hu hul) h
    | true => exact hts.eq_of_literal hus ht hu htl hul h

theorem unique : ts = us :=
  hts.tiles.ext hus.tiles fun _ ht _ hu => hts.eq_of_start hus ht hu

end Tokenization

/-- A list of tokens is what a source is cut into exactly if it is a tokenization of it. -/
theorem eq_tokenize_iff : ts = tokenize source ↔ Tokenization source ts := by
  constructor
  · rintro rfl
    exact tokenization_tokenize source
  · intro h
    exact h.unique (tokenization_tokenize source)

example : tokenize "é\\[[\\-5][+07]\\" =
    [⟨.text, "é[", 0, 4⟩, ⟨.left, "[", 4, 5⟩, ⟨.text, "-5", 5, 8⟩, ⟨.right, "]", 8, 9⟩,
      ⟨.left, "[", 9, 10⟩, ⟨.number, "7", 10, 13⟩, ⟨.right, "]", 13, 14⟩,
      ⟨.text, "\\", 14, 15⟩] := by
  decide +kernel

end Path

end Courier
