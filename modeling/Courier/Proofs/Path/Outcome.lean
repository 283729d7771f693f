import Courier.Proofs.Path.Canonical
import Courier.Proofs.Path.Write

/-! The outcome of a write at a path: it succeeds exactly if every accessor fits the document that
the path reaches, and otherwise the error is about the first one that does not. -/

namespace Courier

namespace Path

open Json

/-- The accessor may step into the document: it is of the right kind, and an index is in reach. -/
structure Accessor.Fits (a : Accessor) (doc : Json) : Prop where
  kind : doc.Admits a.container
  reach : ∀ i, a = .index i → 0 ≤ i ∧ i ≤ doc.length + 100000

/-- The document that a path reaches, `null` where nothing stands. -/
def reached : List Accessor → Json → Json
  | [], doc => doc
  | a :: rest, doc => reached rest (a.under doc)

theorem slot_of_reach {i : Int} {n : Nat} (h : 0 ≤ i ∧ i ≤ n + paddingLimit) :
    slot i n = .ok i.toNat := by
  have hneg : ¬ i < 0 := by omega
  have hle : i.toNat ≤ n + paddingLimit := by omega
  simp [slot, hneg, hle]

theorem slot_of_not_reach {i : Int} {n : Nat} (h : ¬ (0 ≤ i ∧ i ≤ n + paddingLimit)) :
    slot i n = .error (if i < 0 then .negative else .beyond i n) := by
  by_cases hneg : i < 0
  · simp [slot, hneg]
  · have hle : ¬ i.toNat ≤ n + paddingLimit := by omega
    simp [slot, hneg, hle]

theorem refusal?_of_not_admits {a : Accessor} {doc : Json} (h : ¬ doc.Admits a.container) :
    a.refusal? doc = some (.wrongType doc.kind) := by
  simp [Accessor.refusal?, h]

theorem refusal?_of_not_reach {i : Int} {doc : Json} (h : doc.Admits .array)
    (hi : ¬ (0 ≤ i ∧ i ≤ doc.length + paddingLimit)) :
    (Accessor.index i).refusal? doc =
      some (if i < 0 then .negative else .beyond i doc.length) := by
  simp [Accessor.refusal?, Accessor.container, h, slot_of_not_reach hi]

theorem refusal?_eq_none {a : Accessor} {doc : Json} : a.refusal? doc = none ↔ a.Fits doc := by
  constructor
  · intro h
    have hk : doc.Admits a.container := by
      by_contra hk
      rw [refusal?_of_not_admits hk] at h
      cases h
    refine ⟨hk, ?_⟩
    rintro i rfl
    by_contra hi
    rw [refusal?_of_not_reach hk hi] at h
    cases h
  · rintro ⟨hk, hi⟩
    cases a with
    | index i => simp [Accessor.refusal?, hk, slot_of_reach (hi i rfl)]
    | _ => simp [Accessor.refusal?, hk]

theorem exists_write_iff (value : Json) (as : List Accessor) (doc : Json) :
    (∃ after, write value as doc = .ok after) ↔
      ∀ (n : Nat) (a : Accessor), as[n]? = some a → a.Fits (reached (as.take n) doc) := by
  induction as generalizing doc with
  | nil => simp [write]
  | cons a rest ih =>
    have hstep : (∃ after, write value (a :: rest) doc = .ok after) ↔
        a.Fits doc ∧ ∃ child, write value rest (a.under doc) = .ok child := by
      simp only [write_cons_eq_ok, refusal?_eq_none]
      constructor
      · rintro ⟨after, hf, child, hc, -⟩
        exact ⟨hf, child, hc⟩
      · rintro ⟨hf, child, hc⟩
        exact ⟨_, hf, child, hc, rfl⟩
    rw [hstep, ih]
    constructor
    · rintro ⟨hf, hrest⟩ n b hb
      cases n with
      | zero =>
        cases hb
        exact hf
      | succ n => exact hrest n b (by simpa using hb)
    · intro h
      exact ⟨h 0 a rfl, fun n b hb => h (n + 1) b (by simpa using hb)⟩

/-- The write fails at the first accessor that is refused, and for its reason. -/
theorem write_eq_error {as : List Accessor} {n : Nat} {a : Accessor} {r : Refusal} {doc : Json}
    (value : Json) (ha : as[n]? = some a)
    (hfit : ∀ m < n, ∀ b, as[m]? = some b → b.Fits (reached (as.take m) doc))
    (hr : a.refusal? (reached (as.take n) doc) = some r) :
    write value as doc = .error ⟨n, r⟩ := by
  induction n generalizing as doc with
  | zero =>
    cases as with
    | nil => cases ha
    | cons b rest =>
      cases ha
      rw [write_cons, show a.refusal? doc = some r from hr]
      rfl
  | succ n ih =>
    cases as with
    | nil => cases ha
    | cons b rest =>
      have hb : b.refusal? doc = none := refusal?_eq_none.2 (hfit 0 (by omega) b rfl)
      have hw : write value rest (b.under doc) = .error ⟨n, r⟩ :=
        ih (by simpa using ha) (fun m hm c hc => hfit (m + 1) (by omega) c (by simpa using hc)) hr
      rw [write_cons, hb, hw]
      rfl

theorem getElem?_accessors {ss : List Segment} (h : ∀ s ∈ ss, ∃ a, s.action = .access a)
    (n : Nat) : (accessors ss)[n]? = ss[n]?.bind Segment.accessor? := by
  induction ss generalizing n with
  | nil => rfl
  | cons s ss ih =>
    obtain ⟨a, ha⟩ := h s (by simp)
    rw [accessors_cons ha]
    cases n with
    | zero => simp [Segment.accessor?, ha]
    | succ n => simpa using ih (fun t ht => h t (by simp [ht])) n

theorem accessors_take {ss : List Segment} (h : ∀ s ∈ ss, ∃ a, s.action = .access a) (n : Nat) :
    accessors (ss.take n) = (accessors ss).take n := by
  induction ss generalizing n with
  | nil => simp [accessors]
  | cons s ss ih =>
    obtain ⟨a, ha⟩ := h s (by simp)
    cases n with
    | zero => rfl
    | succ n =>
      rw [List.take_succ_cons, accessors_cons ha, accessors_cons ha, List.take_succ_cons,
        ih fun t ht => h t (by simp [ht])]

/-- The document that the segments in front of a place reach. -/
def standing (segments : List Segment) (n : Nat) (doc : Json) : Json :=
  reached (accessors (segments.take n)) doc

/-- The canonical text of the segments in front of a place. -/
def walked (segments : List Segment) (n : Nat) : String :=
  String.ofList (reconstruct (segments.take n))

def FitsAt (segments : List Segment) (doc : Json) (n : Nat) : Prop :=
  ∀ s a, segments[n]? = some s → s.action = .access a → a.Fits (standing segments n doc)

structure FirstUnfit (segments : List Segment) (doc : Json) (n : Nat) (s : Segment)
    (a : Accessor) : Prop where
  segment : segments[n]? = some s
  access : s.action = .access a
  before : ∀ m < n, FitsAt segments doc m
  unfit : ¬ a.Fits (standing segments n doc)

/-- A document and the word that messages have for its type. -/
inductive Typed : Json → String → Prop
  | null : Typed .null "null"
  | bool (b : Bool) : Typed (.bool b) "boolean"
  | number (x : Number) : Typed (.number x) "number"
  | string (s : String) : Typed (.string s) "string"
  | array (items : List Json) : Typed (.array items) "array"
  | object (fields : List (String × Json)) : Typed (.object fields) "object"

/-- An accessor, the word that messages have for it, and the one for the type that it needs. -/
inductive Accessor.Worded : Accessor → String → String → Prop
  | key (k : String) : Worded (.key k) "key" "object"
  | index (i : Int) : Worded (.index i) "index" "array"
  | append : Worded .append "append" "array"

/-- What an error says about a segment that steps into a document of a wrong kind. -/
structure Mismatched (source : String) (segments : List Segment) (n : Nat) (s : Segment)
    (a : Accessor) (found : Json) (e : Error) : Prop where
  category : e.problem.category = .mismatch
  title : e.problem.category.title = "Type"
  message : ∃ access word needed, a.Worded access needed ∧ Typed found word ∧ word ≠ "null" ∧
    word ≠ needed ∧ e.problem.message = "Cannot perform '" ++ access ++ "' based access on '" ++
      walked segments n ++ "' which has a type of '" ++ word ++
      "' but this operation requires a type of '" ++ needed ++ "'."
  found_ne : found.kind ≠ .null ∧ found.kind ≠ a.container
  unlocated : s.tokens = [] → e.token = none
  located : ∀ first last, s.tokens.head? = some first → s.tokens.getLast? = some last →
    e.token = some (.range first.start last.stop)
  canonical : Canonical source → ∀ t, e.token = some t →
    ∃ rest, source = walked segments n ++ rest ∧ (walked segments n).utf8ByteSize = t.start

/-- What an error says about a segment whose index is out of reach. -/
structure OutOfReach (s : Segment) (a : Accessor) (length : Nat) (e : Error) : Prop where
  category : e.problem.category = .outOfRange
  title : e.problem.category.title = "Value"
  number : ∃ i t, a = .index i ∧ ¬ (0 ≤ i ∧ i ≤ length + 100000) ∧ t ∈ s.tokens ∧
    t.kind = .number ∧ t.number? = some i ∧ e.token = some t ∧
    e.problem = if i < 0 then .negativeIndex else .indexBeyond i length

section Error

variable {source : String} {segments : List Segment} {n : Nat} {s : Segment} {a : Accessor}

theorem tokenize_eq_append (h : parse source = .ok segments) (hs : segments[n]? = some s) :
    ∃ us, tokenize source = (segments.take n).flatMap Segment.tokens ++ (s.tokens ++ us) := by
  have ht : segments.flatMap Segment.tokens = tokenize source := flatMap_tokens_of_parse h
  obtain ⟨hlt, he⟩ := List.getElem?_eq_some_iff.1 hs
  refine ⟨(segments.drop (n + 1)).flatMap Segment.tokens, ?_⟩
  rw [← ht, ← List.flatMap_cons, ← List.flatMap_append, ← he, List.getElem_cons_drop,
    List.take_append_drop]

theorem number_token_of_parse {i : Int} (h : parse source = .ok segments) (hs : s ∈ segments)
    (ha : s.action = .access (.index i)) :
    ∃ t, s.tokens[1]? = some t ∧ t.kind = .number ∧ t.number? = some i := by
  rcases parse_cases h with ⟨-, rfl⟩ | ⟨-, r, rest, rfl, hp⟩
  · obtain rfl := List.mem_singleton.1 hs
    cases ha
  · cases hp.spelled s hs with
    | index isRoot hl ht hn hr =>
      cases ha
      exact ⟨_, rfl, ht, hn⟩
    | _ => cases ha

theorem source_explain (f : Failure) : (Failure.explain source segments f).source = source := by
  unfold Failure.explain
  cases f.refusal <;> rfl

theorem typed_name (doc : Json) : Typed doc doc.kind.name := by
  cases doc <;> constructor

theorem worded_name (a : Accessor) : a.Worded a.name a.container.name := by
  cases a <;> constructor

theorem Typed.ne_of_not_admits {doc : Json} {access word needed : String} (hd : Typed doc word)
    (hw : a.Worded access needed) (hk : ¬ doc.Admits a.container) :
    word ≠ "null" ∧ word ≠ needed := by
  cases hd <;> cases hw <;> simp_all [Json.Admits, Json.kind, Accessor.container]

/-- The canonical text of the segments in front is what stands in front of the token. -/
theorem exists_eq_walked_append {t : Token} (h : parse source = .ok segments)
    (hs : segments[n]? = some s) (hcan : Canonical source) (ht : Failure.span s = some t) :
    ∃ rest, source = walked segments n ++ rest ∧ (walked segments n).utf8ByteSize = t.start := by
  obtain ⟨us, hus⟩ := tokenize_eq_append h hs
  obtain ⟨rest, hrest, hsize⟩ := hcan.exists_eq_append hus
  have hw : walked segments n = String.ofList (((segments.take n).flatMap
      Segment.tokens).flatMap fun t => t.value.toList) := by
    rw [walked, flatMap_value_of_parse h fun t hm => List.mem_of_mem_take hm]
  rw [hw]
  refine ⟨rest, hrest, ?_⟩
  cases hts : s.tokens with
  | nil => simp [Failure.span, hts] at ht
  | cons first ts =>
    obtain ⟨last, hl⟩ := Option.ne_none_iff_exists'.1
      (mt List.getLast?_eq_none_iff.1 (List.cons_ne_nil first ts))
    simp only [Failure.span, hts, List.head?_cons, hl, Option.some.injEq] at ht
    rw [← ht]
    exact hsize first (by simp [hts])

theorem mismatched_explain {doc : Json} (h : parse source = .ok segments)
    (hs : segments[n]? = some s) (ha : s.action = .access a) (hk : ¬ doc.Admits a.container) :
    Mismatched source segments n s a doc
      (Failure.explain source segments ⟨n, .wrongType doc.kind⟩) := by
  have hacc : s.accessor? = some a := by simp [Segment.accessor?, ha]
  have he : Failure.explain source segments ⟨n, .wrongType doc.kind⟩ =
      ⟨source, Failure.span s, .wrongType a (walked segments n) doc.kind⟩ := by
    simp [Failure.explain, hs, hacc, walked]
  rw [he]
  obtain ⟨hnull, hneeded⟩ := (typed_name doc).ne_of_not_admits (worded_name a) hk
  refine ⟨rfl, rfl, ⟨_, _, _, worded_name a, typed_name doc, hnull, hneeded, rfl⟩,
    ⟨fun hz => hk (.inl (kind_eq_null hz)), fun hz => hk (.inr hz)⟩, ?_, ?_,
    fun hcan _ ht => exists_eq_walked_append h hs hcan ht⟩
  · intro hz
    simp [Failure.span, hz]
  · intro first last hf hl
    simp [Failure.span, hf, hl]

theorem outOfReach_explain {i : Int} {length : Nat} (h : parse source = .ok segments)
    (hs : segments[n]? = some s) (ha : s.action = .access (.index i))
    (hi : ¬ (0 ≤ i ∧ i ≤ length + paddingLimit)) :
    OutOfReach s (.index i) length (Failure.explain source segments
      ⟨n, if i < 0 then .negative else .beyond i length⟩) := by
  obtain ⟨t, ht, hk, hv⟩ := number_token_of_parse h (List.mem_of_getElem? hs) ha
  have he : Failure.explain source segments ⟨n, if i < 0 then .negative else .beyond i length⟩ =
      ⟨source, some t, if i < 0 then .negativeIndex else .indexBeyond i length⟩ := by
    by_cases hneg : i < 0 <;> simp [Failure.explain, hs, ht, hneg]
  rw [he]
  have hc : (if i < 0 then .negativeIndex else .indexBeyond i length : Problem).category =
      .outOfRange := by
    by_cases hneg : i < 0 <;> simp [hneg, Problem.category]
  exact ⟨hc, by rw [hc]; rfl, i, t, rfl, hi, List.mem_of_getElem? ht, hk, hv, rfl, rfl⟩

theorem assign_eq_error {doc : Json} {r : Refusal} (value : Json)
    (h : parse source = .ok segments) (hu : FirstUnfit segments doc n s a)
    (hr : a.refusal? (standing segments n doc) = some r) :
    assign doc source value = .error (Failure.explain source segments ⟨n, r⟩) := by
  have hacc := exists_access_of_parse h
  have hn : (accessors segments)[n]? = some a := by
    rw [getElem?_accessors hacc, hu.segment]
    simp [Segment.accessor?, hu.access]
  have hfit : ∀ m < n, ∀ b, (accessors segments)[m]? = some b →
      b.Fits (reached ((accessors segments).take m) doc) := by
    intro m hm b hb
    rw [getElem?_accessors hacc] at hb
    obtain ⟨t, ht, hb⟩ := Option.bind_eq_some_iff.1 hb
    rw [← accessors_take hacc]
    refine hu.before m hm t b ht ?_
    cases hact : t.action <;> simp_all [Segment.accessor?]
  rw [standing, accessors_take hacc] at hr
  simp [assign, h, write_eq_error value hn hfit hr, Except.mapError]

end Error

theorem exists_assign_iff {source : String} {segments : List Segment} (value : Json)
    (h : parse source = .ok segments) (doc : Json) :
    (∃ after, assign doc source value = .ok after) ↔ ∀ n, FitsAt segments doc n := by
  have hacc := exists_access_of_parse h
  have hw : (∃ after, assign doc source value = .ok after) ↔
      ∃ after, write value (accessors segments) doc = .ok after := by
    simp [assign_eq_ok, h]
  rw [hw, exists_write_iff]
  refine forall_congr' fun n => ⟨fun hf s a hs ha => ?_, fun hf a ha => ?_⟩
  · rw [standing, accessors_take hacc]
    refine hf a ?_
    rw [getElem?_accessors hacc, hs]
    simp [Segment.accessor?, ha]
  · rw [getElem?_accessors hacc] at ha
    obtain ⟨s, hs, ha⟩ := Option.bind_eq_some_iff.1 ha
    rw [← accessors_take hacc]
    refine hf s a hs ?_
    cases hact : s.action <;> simp_all [Segment.accessor?]

/-- A write at a path that parses succeeds exactly if all segments fit. Otherwise the error is about
the first one that does not. -/
theorem assign_outcome {source : String} {segments : List Segment}
    (h : parse source = .ok segments) (doc value : Json) :
    ((∃ after, assign doc source value = .ok after) ↔ ∀ n, FitsAt segments doc n) ∧
    ∀ e, assign doc source value = .error e →
      ∃ n s a, FirstUnfit segments doc n s a ∧ e.source = source ∧
        (¬ (standing segments n doc).Admits a.container →
          Mismatched source segments n s a (standing segments n doc) e) ∧
        ((standing segments n doc).Admits a.container →
          OutOfReach s a (standing segments n doc).length e) := by
  refine ⟨exists_assign_iff value h doc, fun e he => ?_⟩
  have hex : ∃ n, ¬ FitsAt segments doc n := by
    by_contra hall
    obtain ⟨after, hok⟩ := (exists_assign_iff value h doc).2 fun n => not_exists_not.1 hall n
    rw [he] at hok
    cases hok
  -- The first segment that does not fit is the one the write stops at.
  classical
  obtain ⟨s, a, hs, ha, hunfit⟩ : ∃ s a, segments[Nat.find hex]? = some s ∧
      s.action = .access a ∧ ¬ a.Fits (standing segments (Nat.find hex) doc) := by
    simpa [FitsAt] using Nat.find_spec hex
  have hu : FirstUnfit segments doc (Nat.find hex) s a :=
    ⟨hs, ha, fun m hm => not_not.1 (Nat.find_min hex hm), hunfit⟩
  generalize Nat.find hex = n at hs hunfit hu
  refine ⟨n, s, a, hu, ?_⟩
  by_cases hk : (standing segments n doc).Admits a.container
  · obtain ⟨i, rfl, hi⟩ : ∃ i, a = .index i ∧
        ¬ (0 ≤ i ∧ i ≤ (standing segments n doc).length + paddingLimit) := by
      by_contra hno
      exact hunfit ⟨hk, fun i hai => not_not.1 fun hi => hno ⟨i, hai, hi⟩⟩
    have herr := assign_eq_error value h hu (refusal?_of_not_reach hk hi)
    obtain rfl := Except.error.inj (he.symm.trans herr)
    exact ⟨source_explain _, fun hno => absurd hk hno, fun _ => outOfReach_explain h hs ha hi⟩
  · have herr := assign_eq_error value h hu (refusal?_of_not_admits hk)
    obtain rfl := Except.error.inj (he.symm.trans herr)
    exact ⟨source_explain _, fun _ => mismatched_explain h hs ha hk, fun hyes => absurd hyes hk⟩

theorem canonical_multibyte : Canonical "é[0][y]" where
  noBackslash := by simp
  integers := by
    have hs : "é[0][y]".toList.splitOnP isBracket = [['é'], ['0'], [], ['y'], []] := by
      simp [List.splitOnP_cons_eq_if_modifyHead, isBracket]
    have hall : ∀ run ∈ [['é'], ['0'], [], ['y'], []], ∀ n ∈ Integer.read? run,
        run = Integer.spell n := by
      decide +kernel
    rw [hs]
    exact hall

theorem assign_outcome_in_string :
    let source := "é[0][y]"
    let doc : Json := .object [("é", .array [.string "s"])]
    let segments : List Segment :=
      [.access (.key "é") [⟨.text, "é", 0, 2⟩] true,
        .access (.index 0) [⟨.left, "[", 2, 3⟩, ⟨.number, "0", 3, 4⟩, ⟨.right, "]", 4, 5⟩] false,
        .access (.key "y") [⟨.left, "[", 5, 6⟩, ⟨.text, "y", 6, 7⟩, ⟨.right, "]", 7, 8⟩] false]
    let e : Error := ⟨source, some (.range 5 8), .wrongType (.key "y") "é[0]" .string⟩
    parse source = .ok segments ∧ assign doc source .null = .error e ∧ Canonical source ∧
      ∃ n s a, FirstUnfit segments doc n s a ∧ e.source = source ∧
        (¬ (standing segments n doc).Admits a.container →
          Mismatched source segments n s a (standing segments n doc) e) ∧
        ((standing segments n doc).Admits a.container →
          OutOfReach s a (standing segments n doc).length e) := by
  have hp : parse "é[0][y]" = .ok
      [.access (.key "é") [⟨.text, "é", 0, 2⟩] true,
        .access (.index 0) [⟨.left, "[", 2, 3⟩, ⟨.number, "0", 3, 4⟩, ⟨.right, "]", 4, 5⟩] false,
        .access (.key "y") [⟨.left, "[", 5, 6⟩, ⟨.text, "y", 6, 7⟩, ⟨.right, "]", 7, 8⟩]
          false] := by
    cbv
  have he : assign (.object [("é", .array [.string "s"])]) "é[0][y]" .null =
      .error ⟨"é[0][y]", some (.range 5 8), .wrongType (.key "y") "é[0]" .string⟩ := by
    cbv
  exact ⟨hp, he, canonical_multibyte, (assign_outcome hp _ _).2 _ he⟩

end Path

end Courier
