import Courier.Path.Parser
import Courier.Proofs.Text.Integer

/-! What the tokens of a source are: they tile it, brackets are spelled as such, and a number is
the canonical spelling of an integer, so that it reads back. -/

namespace Courier

namespace Path

namespace Token

def Sound (t : Token) : Prop :=
  match t.kind with
  | .text => True
  | .number => ∃ n, t.number? = some n ∧ t.value = String.ofList (Integer.spell n)
  | .left => t.value = "["
  | .right => t.value = "]"
  | .range => False

theorem Sound.number {t : Token} (h : t.Sound) (hk : t.kind = .number) :
    ∃ n, t.number? = some n ∧ t.value = String.ofList (Integer.spell n) := by
  simpa [Sound, hk] using h

theorem Sound.left {t : Token} (h : t.Sound) (hk : t.kind = .left) : t.value = "[" := by
  simpa [Sound, hk] using h

theorem Sound.right {t : Token} (h : t.Sound) (hk : t.kind = .right) : t.value = "]" := by
  simpa [Sound, hk] using h

theorem number?_eq_none {t : Token} (h : t.kind ≠ .number) : t.number? = none := by
  simp [number?, h]

theorem kind_of_number? {t : Token} {n : Int} (h : t.number? = some n) : t.kind = .number := by
  by_contra hk
  rw [number?_eq_none hk] at h
  cases h

end Token

theorem foldl_utf8Size (s : List Char) (n : Nat) :
    s.foldl (fun n c => n + c.utf8Size) n = n + (String.ofList s).utf8ByteSize := by
  induction s generalizing n with
  | nil => simp
  | cons c s ih =>
    rw [List.foldl_cons, ih, String.ofList_cons, String.utf8ByteSize_append,
      String.utf8ByteSize_singleton, Nat.add_assoc]

namespace Lexeme

def isRun : Lexeme → Bool
  | run _ => true
  | _ => false

def marks : Lexeme → List Mark
  | left => [.plain '[']
  | right => [.plain ']']
  | run ms => ms

@[simp] theorem ofMarks_nil : ofMarks [] = [] := rfl

theorem ofMarks_cons (m : Mark) (ms : List Mark) : ofMarks (m :: ms) = cons m (ofMarks ms) := rfl

theorem flatMap_marks_cons (m : Mark) (ls : List Lexeme) :
    (cons m ls).flatMap marks = m :: ls.flatMap marks := by
  unfold cons
  split
  · simp_all [marks]
  · split
    · simp_all [marks]
    · split <;> simp [marks]

theorem flatMap_marks_ofMarks (ms : List Mark) : (ofMarks ms).flatMap marks = ms := by
  induction ms with
  | nil => rfl
  | cons m ms ih => rw [ofMarks_cons, flatMap_marks_cons, ih]

theorem run_mem_cons {m : Mark} {ls : List Lexeme} {ns : List Mark} (h : run ns ∈ cons m ls) :
    run ns ∈ ls ∨ (m ≠ .plain '[' ∧ m ≠ .plain ']') ∧
      ∃ os, ns = m :: os ∧ (os = [] ∨ run os ∈ ls) := by
  unfold Lexeme.cons at h
  split at h
  · exact .inl (by simpa using h)
  · split at h
    · exact .inl (by simpa using h)
    · next hl hr =>
      split at h
      · next os rest =>
        rcases List.mem_cons.1 h with he | hm
        · cases he
          exact .inr ⟨⟨hl, hr⟩, os, rfl, .inr (by simp)⟩
        · exact .inl (List.mem_cons_of_mem _ hm)
      · rcases List.mem_cons.1 h with he | hm
        · cases he
          exact .inr ⟨⟨hl, hr⟩, [], rfl, .inl rfl⟩
        · exact .inl hm

theorem ne_nil_of_mem_ofMarks {ms ns : List Mark} (h : run ns ∈ ofMarks ms) : ns ≠ [] := by
  induction ms generalizing ns with
  | nil => cases h
  | cons m ms ih =>
    rw [ofMarks_cons] at h
    rcases run_mem_cons h with hm | ⟨-, os, rfl, -⟩
    · exact ih hm
    · simp

theorem not_bracket_of_mem_ofMarks {ms ns : List Mark} (h : run ns ∈ ofMarks ms) :
    ∀ m ∈ ns, m ≠ .plain '[' ∧ m ≠ .plain ']' := by
  induction ms generalizing ns with
  | nil => cases h
  | cons m ms ih =>
    rw [ofMarks_cons] at h
    rcases run_mem_cons h with hm | ⟨hb, os, rfl, hos⟩
    · exact ih hm
    · intro n hn
      rcases List.mem_cons.1 hn with rfl | hn
      · exact hb
      · rcases hos with rfl | hos
        · cases hn
        · exact ih hos n hn

theorem flatMap_source_marks (l : Lexeme) : l.marks.flatMap Mark.source = l.source := by
  cases l <;> simp [marks, source, Mark.source]

theorem flatMap_source_flatMap_marks (ls : List Lexeme) :
    (ls.flatMap marks).flatMap Mark.source = ls.flatMap source := by
  rw [List.flatMap_assoc]
  simp only [flatMap_source_marks]

/-- Two runs never stand next to each other. -/
def Separated (ls : List Lexeme) : Prop := ls.IsChain fun a b => ¬ (a.isRun = true ∧ b.isRun = true)

theorem Separated.cons {m : Mark} {ls : List Lexeme} (h : Separated ls) :
    Separated (cons m ls) := by
  unfold Lexeme.cons
  split
  · exact List.IsChain.cons h (by simp [isRun])
  · split
    · exact List.IsChain.cons h (by simp [isRun])
    · split
      · next ms rest =>
        cases rest with
        | nil => exact List.isChain_singleton _
        | cons l rest =>
          obtain ⟨hl, hrest⟩ := List.isChain_cons_cons.1 h
          exact List.isChain_cons_cons.2 ⟨hl, hrest⟩
      · next hne =>
        refine List.IsChain.cons h fun l hl => ?_
        cases l with
        | run ms =>
          obtain ⟨rest, rfl⟩ : ∃ rest, ls = run ms :: rest := by
            cases ls with
            | nil => cases hl
            | cons l rest => exact ⟨rest, by cases hl; rfl⟩
          exact absurd rfl (hne ms rest)
        | _ => simp [isRun]

theorem separated_ofMarks (ms : List Mark) : Separated (ofMarks ms) := by
  induction ms with
  | nil => exact List.isChain_nil
  | cons m ms ih => exact ih.cons

theorem size_eq (l : Lexeme) : l.size = (String.ofList l.source).utf8ByteSize := by
  rw [size, foldl_utf8Size, Nat.zero_add]

theorem utf8ByteSize_flatMap_source (ls : List Lexeme) :
    (String.ofList (ls.flatMap source)).utf8ByteSize = (ls.map size).sum := by
  induction ls with
  | nil => simp
  | cons l ls ih =>
    rw [List.flatMap_cons, String.ofList_append, String.utf8ByteSize_append, ih, ← size_eq,
      List.map_cons, List.sum_cons]

theorem place_append (start : Nat) (ls ms : List Lexeme) :
    place start (ls ++ ms) = place start ls ++ place (start + (ls.map size).sum) ms := by
  induction ls generalizing start with
  | nil => simp [place]
  | cons l ls ih => simp [place, ih, Nat.add_assoc]

@[simp] theorem length_place (start : Nat) (ls : List Lexeme) :
    (place start ls).length = ls.length := by
  induction ls generalizing start with
  | nil => rfl
  | cons l ls ih => simp [place, ih]

theorem place_eq_append {start : Nat} {ls : List Lexeme} {ts us : List Token}
    (h : place start ls = ts ++ us) :
    ∃ ms ns, ls = ms ++ ns ∧ ts = place start ms ∧ us = place (start + (ms.map size).sum) ns := by
  refine ⟨ls.take ts.length, ls.drop ts.length, (List.take_append_drop _ _).symm, ?_⟩
  have hl : ts.length ≤ ls.length := by
    rw [← length_place start ls, h, List.length_append]
    omega
  rw [← List.take_append_drop ts.length ls, place_append] at h
  exact (List.append_inj' h (by
    have hc := congrArg List.length h
    simp at hc ⊢
    omega)).imp Eq.symm Eq.symm

theorem mem_place_iff {start : Nat} {ls : List Lexeme} {t : Token} : t ∈ place start ls ↔
    ∃ before l after, ls = before ++ l :: after ∧ t = l.token (start + (before.map size).sum) := by
  constructor
  · intro h
    obtain ⟨ts, us, hts⟩ := List.append_of_mem h
    obtain ⟨before, rest, rfl, -, hrest⟩ := place_eq_append hts
    cases rest with
    | nil => cases hrest
    | cons l after => exact ⟨before, l, after, rfl, (List.cons.inj hrest).1⟩
  · rintro ⟨before, l, after, rfl, rfl⟩
    simp [place_append, place]

theorem classify_of_isEscaped {ms : List Mark} (he : ms.any Mark.isEscaped = true) :
    classify ms = (.text, Mark.decode ms) := by
  simp [classify, he]

theorem classify_of_read? {ms : List Mark} {n : Int} (he : ms.any Mark.isEscaped = false)
    (hr : Integer.read? (Mark.decode ms) = some n) :
    classify ms = (.number, Integer.spell n) := by
  simp [classify, he, hr]

theorem classify_of_plain {ms : List Mark} (hr : Integer.read? (Mark.decode ms) = none)
    (hb : ∀ digits, Mark.decode ms = '\\' :: digits → Integer.read? digits = none) :
    classify ms = (.text, Mark.decode ms) := by
  unfold classify
  simp only [hr]
  split
  · rfl
  · split
    · next digits hd => simp [hb digits hd]
    · rfl

theorem classify_of_not_sign {ms : List Mark} (hr : Integer.read? (Mark.decode ms) = none)
    (hb : (Mark.decode ms).head? ≠ some '\\') : classify ms = (.text, Mark.decode ms) :=
  classify_of_plain hr fun digits hd => absurd (by simp [hd]) hb

theorem isSpecial_iff {c : Char} : isSpecial c = true ↔ c = '[' ∨ c = ']' ∨ c = '\\' := by
  simp [isSpecial, or_assoc]

theorem isSpecial_of_read? {s : List Char} {n : Int} (h : Integer.read? s = some n) {c : Char}
    (hc : c ∈ s) : isSpecial c = false := by
  by_contra hs
  have hi := Integer.mem_of_read? h hc
  rcases isSpecial_iff.1 (Bool.eq_true_of_not_eq_false hs) with rfl | rfl | rfl <;> simp at hi

theorem notMem_of_read? {s : List Char} {n : Int} (h : Integer.read? s = some n) :
    '\\' ∉ s := by
  intro hm
  cases isSpecial_of_read? h hm

theorem classify_of_sign {ms : List Mark} {digits : List Char}
    (he : ms.any Mark.isEscaped = false) (hd : Mark.decode ms = '\\' :: digits)
    (hr : (Integer.read? digits).isSome = true) : classify ms = (.text, digits) := by
  have hn : Integer.read? ('\\' :: digits) = none := by
    cases hn : Integer.read? ('\\' :: digits) with
    | none => rfl
    | some n => exact absurd List.mem_cons_self (notMem_of_read? hn)
  simp [classify, he, hd, hn, hr]

theorem classify_cases (ms : List Mark) :
    (∃ n, ms.any Mark.isEscaped = false ∧ Integer.read? (Mark.decode ms) = some n ∧
      classify ms = (.number, Integer.spell n)) ∨
    ∃ s, classify ms = (.text, s) := by
  by_cases he : ms.any Mark.isEscaped = true
  · exact .inr ⟨_, classify_of_isEscaped he⟩
  · have he : ms.any Mark.isEscaped = false := by simpa using he
    cases hr : Integer.read? (Mark.decode ms) with
    | some n => exact .inl ⟨n, he, rfl, classify_of_read? he hr⟩
    | none =>
      right
      simp only [classify, he, hr, Bool.false_eq_true, if_false]
      split
      · split <;> exact ⟨_, rfl⟩
      · exact ⟨_, rfl⟩

theorem classify_ne_nil {ms : List Mark} (h : ms ≠ []) : (classify ms).2 ≠ [] := by
  have hd : Mark.decode ms ≠ [] := by simpa [Mark.decode] using h
  unfold classify
  simp only
  split
  · exact hd
  · split
    · exact Integer.spell_ne_nil _
    · split
      · next digits _ =>
        split
        · next hr =>
          rintro rfl
          cases hr
        · exact hd
      · exact hd

theorem sound_token (start : Nat) (l : Lexeme) : (l.token start).Sound := by
  cases l with
  | left => rfl
  | right => rfl
  | run ms =>
    rcases classify_cases ms with ⟨n, -, hr, hc⟩ | ⟨s, hc⟩
    · have hn := Integer.read?_spell (Integer.inRange_of_read? hr)
      simp [token, hc, Token.Sound, Token.number?, hn]
    · simp [token, hc, Token.Sound]

end Lexeme

open Lexeme

def lexemes (source : String) : List Lexeme := ofMarks (Mark.read isSpecial source.toList)

theorem tokenize_eq_place (source : String) : tokenize source = place 0 (lexemes source) := rfl

theorem mem_tokenize_iff {source : String} {t : Token} : t ∈ tokenize source ↔
    ∃ before l after, lexemes source = before ++ l :: after ∧
      t = l.token (before.map size).sum := by
  rw [tokenize_eq_place, mem_place_iff]
  simp only [Nat.zero_add]

theorem sound_of_mem_tokenize {source : String} {t : Token} (h : t ∈ tokenize source) :
    t.Sound := by
  obtain ⟨_, l, _, -, rfl⟩ := mem_tokenize_iff.1 h
  exact sound_token _ l

theorem value_ne_empty_of_mem_tokenize {source : String} {t : Token} (h : t ∈ tokenize source) :
    t.value ≠ "" := by
  obtain ⟨before, l, after, hls, rfl⟩ := mem_tokenize_iff.1 h
  cases l with
  | left => simp [token]
  | right => simp [token]
  | run ms =>
    have hmem : run ms ∈ lexemes source := by simp [hls]
    simpa [token] using classify_ne_nil (ne_nil_of_mem_ofMarks hmem)

/-- The lexemes tile the source. -/
theorem flatMap_source_lexemes (source : String) :
    (lexemes source).flatMap Lexeme.source = source.toList := by
  rw [← flatMap_source_flatMap_marks, lexemes, flatMap_marks_ofMarks, Mark.flatMap_source_read]

theorem tokenize_eq_nil {source : String} : tokenize source = [] ↔ source = "" := by
  constructor
  · intro h
    have hl : lexemes source = [] := by
      rw [← List.length_eq_zero_iff, ← length_place 0, ← tokenize_eq_place, h, List.length_nil]
    have hs := flatMap_source_lexemes source
    rw [hl] at hs
    exact String.toList_eq_nil_iff.1 hs.symm
  · rintro rfl
    rfl

end Path

end Courier
