import Courier.Proofs.Path.Leaves
import Courier.Proofs.Path.Root

/-! Numerals in brackets, of any length. One that fits 64 bits is an index: it has to be in reach of
the array it leads into, whose end may be filled up to a limit. One that does not fit is a key. -/

namespace Courier

namespace Path

open Json

def indexed (k : String) (ds : List Char) : String :=
  String.ofList (spellKey k ++ '[' :: (ds ++ [']']))

variable {k : String} {ds : List Char} {doc value : Json} {fields : List (String × Json)}
  {items : List Json}

theorem lexemes_indexed (hk : k ≠ "") (hne : ds ≠ []) (hd : ∀ c ∈ ds, c.isDigit = true) :
    lexemes (indexed k ds) = [.run (keyMarks k)] ++ [.left, .run (ds.map .plain), .right] := by
  have hs : ∀ c ∈ ds, Lexeme.isSpecial c = false := by
    intro c hc
    by_contra hspecial
    have hdigit := hd c hc
    rcases Lexeme.isSpecial_iff.1 (Bool.eq_true_of_not_eq_false hspecial) with
      rfl | rfl | rfl <;> cases hdigit
  have hrest := lexemes_bracketed_append hne hs []
  have hleft : (Mark.read Lexeme.isSpecial ('[' :: (ds ++ [']']))).head? = some (.plain '[') := by
    rw [Mark.read_cons_of_ne _ (by decide)]
    rfl
  rw [lexemes, indexed, String.toList_ofList, read_spellKey_append,
    ofMarks_append_run (keyMarks_ne_nil hk) (fun m => not_bracket_of_mem_keyMarks) ?_, hrest]
  · rfl
  · intro m hm
    exact .inl (Option.some.inj (hm.symm.trans hleft))

/-- A numeral is an index if it fits the range of integers, and else a key. -/
def numeral (ds : List Char) : Accessor :=
  if (Integer.ofDigits ds : Int) ≤ Integer.maximum then .index (Integer.ofDigits ds)
  else .key (String.ofList ds)

theorem classify_numeral (hne : ds ≠ []) (hd : ∀ c ∈ ds, c.isDigit = true) :
    Lexeme.classify (ds.map .plain) =
      if (Integer.ofDigits ds : Int) ≤ Integer.maximum then
        (.number, Integer.spell (Integer.ofDigits ds))
      else (.text, ds) := by
  have hr := Integer.read?_of_isDigit hne hd
  have hdec := Mark.decode_map_plain ds
  split at hr
  · next hle =>
    rw [if_pos hle]
    refine Lexeme.classify_of_read? ?_ (by rw [hdec, hr])
    simp [List.any_map, Function.comp_def, Mark.isEscaped]
  · next hlt =>
    have hb : ds.head? ≠ some '\\' := by
      intro hh
      cases hd _ (List.mem_of_head? hh)
    rw [if_neg hlt, Lexeme.classify_of_not_sign (by rw [hdec, hr]) (by rwa [hdec]), hdec]

theorem hops_place_numeral (hne : ds ≠ []) (hd : ∀ c ∈ ds, c.isDigit = true) (n : Nat) :
    hops (Lexeme.place n [.left, .run (ds.map .plain), .right]) =
      .ok [.access (numeral ds) (Lexeme.place n [.left, .run (ds.map .plain), .right]) false] := by
  have hc := classify_numeral hne hd
  by_cases hle : (Integer.ofDigits ds : Int) ≤ Integer.maximum
  · have hi : Integer.read? (Integer.spell (Integer.ofDigits ds)) =
        some (Integer.ofDigits ds : Int) := by
      refine Integer.read?_spell ⟨?_, hle⟩
      have hz : Integer.minimum ≤ 0 := by decide
      omega
    rw [if_pos hle] at hc
    simp [Lexeme.place, Lexeme.token, hc, hops, Kind.isLiteral, bracketed, Token.number?, hi,
      numeral, hle, Except.map]
  · rw [if_neg hle] at hc
    simp [Lexeme.place, Lexeme.token, hc, hops, Kind.isLiteral, bracketed, Token.number?, numeral,
      hle, Except.map]

theorem parse_indexed (hk : k ≠ "") (hne : ds ≠ []) (hd : ∀ c ∈ ds, c.isDigit = true) :
    ∃ segments, parse (indexed k ds) = .ok segments ∧
      accessors segments = [.key k, numeral ds] := by
  let ls : List Lexeme := [.run (keyMarks k)]
  let ms : List Lexeme := [.left, .run (ds.map .plain), .right]
  let n := 0 + (ls.map Lexeme.size).sum
  refine ⟨[.access (.key k) (Lexeme.place 0 ls) true,
    .access (numeral ds) (Lexeme.place n ms) false], parse_eq_ok.2 ?_, rfl⟩
  rw [tokenize_eq_place, lexemes_indexed hk hne hd, Lexeme.place_append]
  exact parseTokens_eq_ok.2 ⟨_, _, _, root_keyMarks 0 _ k, hops_place_numeral hne hd n, rfl⟩

theorem write_key_index {n : Nat} (hf : fields? doc = some fields)
    (hi : items? ((Fields.find? k fields).getD .null) = some items) :
    write value [.key k, .index n] doc =
      if n ≤ items.length + paddingLimit then
        .ok (.object (Fields.insert k (.array ((pad items n).set n value)) fields))
      else .error ⟨1, .beyond n items.length⟩ := by
  have hslot : slot n items.length =
      if n ≤ items.length + paddingLimit then .ok n else .error (.beyond n items.length) := by
    simp [slot]
  by_cases hle : n ≤ items.length + paddingLimit <;>
    simp [write, hf, hi, hslot, hle, refuse, Failure.deeper]

theorem write_key_key {name : String} (hf : fields? doc = some fields)
    (hi : items? ((Fields.find? k fields).getD .null) = some items) :
    write value [.key k, .key name] doc =
      if Fields.find? k fields = some (.array items) then .error ⟨1, .wrongType .array⟩
      else .ok (.object (Fields.insert k (.object [(name, value)]) fields)) := by
  cases hk : (Fields.find? k fields).getD .null with
  | null =>
    have hne : Fields.find? k fields ≠ some (.array items) := by
      intro ha
      rw [ha] at hk
      cases hk
    have hnull : fields? .null = some [] := rfl
    simp [write, hf, hk, hne, hnull, Fields.insert]
  | array others =>
    rw [hk] at hi
    obtain rfl := Option.some.inj hi
    have ha : Fields.find? k fields = some (.array others) := by
      cases hfind : Fields.find? k fields <;> simp_all
    have hnone : fields? (.array others) = none := rfl
    simp [write, hf, ha, hnone, kind, refuse, Failure.deeper]
  | _ =>
    rw [hk] at hi
    cases hi

theorem assemble_concat {pairs : List (String × Json)} (h : build .null pairs = .ok doc)
    (source : String) (value : Json) :
    assemble (pairs ++ [(source, value)]) = (assign doc source value).map wrap := by
  rw [assemble, build_append, h]
  simp only [Except.bind, build]
  cases assign doc source value <;> rfl

section Run

variable {pairs : List (String × Json)} (h : assemble pairs = .ok fields)
  (hroot : ∀ p ∈ pairs, Enters p.1 .object) (hk : k ≠ "") (hne : ds ≠ [])
  (hd : ∀ c ∈ ds, c.isDigit = true) (value : Json)

include h hroot hk hne hd

theorem assemble_indexed :
    ∃ doc segments, fields? doc = some fields ∧
      assemble (pairs ++ [(indexed k ds, value)]) =
        ((write value [.key k, numeral ds] doc).mapError
          (Failure.explain (indexed k ds) segments)).map wrap := by
  obtain ⟨doc, hb, hw⟩ := Except.map_eq_ok.1 h
  obtain ⟨others, hf⟩ := exists_fields?_of_build hb hroot
  rw [wrap_of_fields? hf] at hw
  obtain ⟨segments, hp, ha⟩ := parse_indexed hk hne hd
  exact ⟨doc, segments, by rw [hf, hw], by rw [assemble_concat hb, assign, hp, ← ha]⟩

theorem assemble_indexed_index {n : Nat} (hnum : numeral ds = .index n)
    (hitems : items? ((Fields.find? k fields).getD .null) = some items) :
    ∃ e, e.problem.category = .outOfRange ∧ e.problem = .indexBeyond n items.length ∧
      assemble (pairs ++ [(indexed k ds, value)]) =
        if n ≤ items.length + paddingLimit then
          .ok (Fields.insert k (.array ((pad items n).set n value)) fields)
        else .error e := by
  obtain ⟨doc, segments, hf, hrun⟩ := assemble_indexed h hroot hk hne hd value
  rw [hnum, write_key_index hf hitems] at hrun
  refine ⟨Failure.explain (indexed k ds) segments ⟨1, .beyond n items.length⟩, ?_, ?_, ?_⟩
  · simp [Failure.explain, Problem.category]
  · simp [Failure.explain]
  · rw [hrun]
    split <;> rfl

theorem assemble_indexed_key {name : String} (hnum : numeral ds = .key name)
    (hitems : items? ((Fields.find? k fields).getD .null) = some items) :
    ∃ e, e.problem.category = .mismatch ∧
      assemble (pairs ++ [(indexed k ds, value)]) =
        if Fields.find? k fields = some (.array items) then .error e
        else .ok (Fields.insert k (.object [(name, value)]) fields) := by
  obtain ⟨doc, segments, hf, hrun⟩ := assemble_indexed h hroot hk hne hd value
  rw [hnum, write_key_key hf hitems] at hrun
  refine ⟨Failure.explain (indexed k ds) segments ⟨1, .wrongType .array⟩, ?_, ?_⟩
  · simp [Failure.explain, Problem.category]
  · rw [hrun]
    split <;> rfl

end Run

/-- An index succeeds exactly if it is in reach of the array, the longest padding included, and is
refused as out of range otherwise, as long as it is an integer of 64 bits. A numeral beyond these is
a key: it is refused by an array, and is put into an object where there is none. -/
theorem assemble_index_reach {pairs : List (String × Json)} (h : assemble pairs = .ok fields)
    (hroot : ∀ p ∈ pairs, Enters p.1 .object) (hk : k ≠ "")
    (hitems : items? ((Fields.find? k fields).getD .null) = some items) (hne : ds ≠ [])
    (hd : ∀ c ∈ ds, c.isDigit = true) (value : Json) :
    let n := Integer.ofDigits ds
    let run := assemble (pairs ++ [(indexed k ds, value)])
    ((n : Int) ≤ Integer.maximum →
      ((∃ after others, run = .ok after ∧ Fields.find? k after = some (.array others) ∧
        others[n]? = some value) ↔ n ≤ items.length + paddingLimit) ∧
      (items.length + paddingLimit < n → ∃ e, run = .error e ∧ e.problem.category = .outOfRange ∧
        e.problem = .indexBeyond n items.length)) ∧
    (Integer.maximum < (n : Int) →
      (Fields.find? k fields = some (.array items) →
        ∃ e, run = .error e ∧ e.problem.category = .mismatch) ∧
      ((Fields.find? k fields).getD .null = .null →
        run = .ok (Fields.insert k (.object [(String.ofList ds, value)]) fields))) := by
  intro n run
  constructor
  · intro hmax
    have hnum : numeral ds = .index n := if_pos hmax
    obtain ⟨e, hcategory, hproblem, hrun⟩ :=
      assemble_indexed_index h hroot hk hne hd value hnum hitems
    split at hrun
    · next hle =>
      have hlt : n < (pad items n).length := by
        rw [length_pad]
        omega
      refine ⟨iff_of_true ⟨_, _, hrun, Fields.find?_insert_self _ _ _, ?_⟩ hle, fun hgt => ?_⟩
      · simp [hlt]
      · omega
    · next hle =>
      refine ⟨iff_of_false ?_ hle, fun _ => ⟨e, hrun, hcategory, hproblem⟩⟩
      rintro ⟨after, others, hok, -⟩
      cases hrun.symm.trans hok
  · intro hmax
    have hnum : numeral ds = .key (String.ofList ds) := if_neg (Int.not_le.2 hmax)
    obtain ⟨e, hcategory, hrun⟩ := assemble_indexed_key h hroot hk hne hd value hnum hitems
    constructor
    · intro ha
      rw [if_pos ha] at hrun
      exact ⟨e, hrun, hcategory⟩
    · intro hnull
      have ha : Fields.find? k fields ≠ some (.array items) := by
        intro ha
        rw [ha] at hnull
        cases hnull
      rwa [if_neg ha] at hrun

theorem assemble_index_reach_leading_zeros :
    let pairs : List (String × Json) := [("b", .null), ("a[1]", .bool true)]
    let fields : List (String × Json) := [("b", .null), ("a", .array [.null, .bool true])]
    assemble pairs = .ok fields ∧ (∀ p ∈ pairs, Enters p.1 .object) ∧
      items? ((Fields.find? "a" fields).getD .null) = some [.null, .bool true] ∧
      (∃ after others, assemble (pairs ++ [("a[007]", .null)]) = .ok after ∧
        Fields.find? "a" after = some (.array others) ∧ others[7]? = some .null) ∧
      (∃ e, assemble (pairs ++ [("a[100003]", .null)]) = .error e ∧
        e.problem.category = .outOfRange ∧ e.problem = .indexBeyond 100003 2) ∧
      ∃ e, assemble (pairs ++ [("a[9223372036854775808]", .null)]) = .error e ∧
        e.problem.category = .mismatch := by
  intro pairs fields
  have hf : assemble pairs = .ok fields := by cbv
  have hk : ∀ p ∈ pairs, Enters p.1 .object := by
    simp only [pairs, List.forall_mem_cons, List.not_mem_nil, false_implies, implies_true, and_true]
    exact ⟨⟨.key "b", by cbv, rfl⟩, ⟨.key "a", by cbv, rfl⟩⟩
  have ha : "a" ≠ "" := by decide
  have hitems : items? ((Fields.find? "a" fields).getD .null) = some [.null, .bool true] := rfl
  have hreach (ds : List Char) (hne : ds ≠ []) (hd : ∀ c ∈ ds, c.isDigit = true) :=
    assemble_index_reach hf hk ha hitems hne hd .null
  refine ⟨hf, hk, hitems, ?_, ?_, ?_⟩
  · exact ((hreach "007".toList (by decide) (by simp)).1 (by decide)).1.2 (by decide)
  · exact ((hreach "100003".toList (by decide) (by simp)).1 (by decide)).2 (by decide)
  · exact ((hreach "9223372036854775808".toList (by decide) (by simp)).2 (by decide)).1 rfl

/-- The first numeral beyond 64 bits is far out of reach, and makes an object all the same. -/
theorem assemble_index_makes_object :
    indexed "a" "9223372036854775808".toList = "a[9223372036854775808]" ∧
      assemble [] = .ok [] ∧
      0 + paddingLimit < Integer.ofDigits "9223372036854775808".toList ∧
      assemble ([] ++ [("a[9223372036854775808]", .null)]) =
        .ok [("a", .object [("9223372036854775808", .null)])] ∧
      ¬ ∃ e, assemble ([] ++ [("a[9223372036854775808]", .null)]) = .error e ∧
        e.problem.category = .outOfRange := by
  have hw : assemble ([] ++ [("a[9223372036854775808]", .null)]) =
      .ok [("a", .object [("9223372036854775808", .null)])] := by cbv
  refine ⟨by cbv, rfl, by decide, hw, ?_⟩
  rintro ⟨e, he, -⟩
  cases hw.symm.trans he

end Path

end Courier
