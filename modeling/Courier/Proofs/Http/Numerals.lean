import Courier.Proofs.Content.Routing
import Courier.Proofs.Http.Request
import Courier.Proofs.Json.Printed
import Courier.Proofs.Json.Unambiguous
import Courier.Proofs.Path.Kept
import Courier.Proofs.Path.Wrapping

/-! The numerals of JSON items in the body of a request. Each is written anew there, from the number
that it was read as. -/

namespace Courier

/-- What becomes of a numeral that is read and written again. Integers of 64 bits and numerals of
fifteen digits denote what they did. Any other one that now denotes something else is a shortest one
for the binary64 number it was read as, which is the nearest one if the digits fit 53 bits. -/
structure Numeral.Rewritten (n m : Numeral) : Prop where
  whole : n.IsWhole → -2 ^ 63 ≤ n.rational → n.rational < 2 ^ 64 → m.rational = n.rational
  short : n.Compact (10 ^ 15) → m.rational = n.rational
  rounded : m.rational = n.rational ∨
    ∃ x : Binary64, n.value = .ok (.binary x) ∧ x.Shortest m.rational ∧
      (n.Compact (2 ^ 53) → x.Nearest (Binary64.decimal n.digits n.place))

theorem Numeral.rewritten {n : Numeral} {v : Number} (h : n.value = .ok v) :
    n.Rewritten v.numeral where
  whole hn hlow hhigh := by
    rw [Number.rational_numeral]
    exact written_value_of_isWhole hn hlow hhigh h
  short hn := by
    rw [Number.rational_numeral]
    exact written_value_of_compact hn h
  rounded := by
    rw [Number.rational_numeral]
    have hc := canonical_value h
    rcases value_eq_ok h with ⟨z, -, hz, rfl⟩ | ⟨s, e, x, -, rfl⟩
    · exact .inl hz.symm
    · exact .inr ⟨_, h, Binary64.shortest_written hc, fun hn => nearest_value_of_compact hn h⟩

/-- The text of a JSON item, as given or from its file. -/
inductive Item.GivesJson (files : Files) (item : Item) : String → Prop
  | value (h : item.separator = .json) : GivesJson files item item.value
  | file {text : String} (h : item.separator = .jsonFile) (ht : item.readText files = .ok text) :
    GivesJson files item text

namespace Item

variable {files : Files} {item : Item} {text : String} {v : Json}

theorem readJson_eq_ok :
    item.readJson text = .ok v ↔ Json.Reader.document text.toList = .ok v := by
  rw [readJson, Json.parse, Except.mapError_eq_ok, Except.mapError_eq_ok]

theorem GivesJson.decode_eq (h : item.GivesJson files text) :
    item.decode files = (item.readJson text).map .json := by
  cases h with
  | value h => rw [decode, h]
  | file h ht =>
    rw [decode, h]
    simp only [ht]

theorem GivesJson.document_eq_ok (h : item.GivesJson files text) (hv : item.HasValue files v) :
    Json.Reader.document text.toList = .ok v := by
  rcases hv with hv | ⟨s, hv, -⟩
  · rw [h.decode_eq] at hv
    obtain ⟨w, hw, he⟩ := Except.map_eq_ok.1 hv
    obtain rfl := Decoded.json.inj he
    exact readJson_eq_ok.1 hw
  · rw [h.decode_eq] at hv
    obtain ⟨w, -, he⟩ := Except.map_eq_ok.1 hv
    cases he

theorem exists_givesJson (h : item.decode files = .ok (.json v)) :
    ∃ text, item.GivesJson files text := by
  cases hs : item.separator with
  | json => exact ⟨_, .value hs⟩
  | jsonFile =>
    rw [decode, hs] at h
    dsimp only at h
    split at h
    · cases h
    · next text ht => exact ⟨text, .file hs ht⟩
  | header | query | field =>
    rw [decode, hs] at h
    cases h
  | headerEmpty =>
    rw [decode, hs] at h
    dsimp only at h
    split at h <;> cases h
  | headerFile | queryFile | fieldFile | upload =>
    rw [decode, hs] at h
    obtain ⟨w, -, he⟩ := Except.map_eq_ok.1 h
    cases he

theorem regular_of_hasValue (h : item.HasValue files v) : v.Throughout Json.Regular := by
  rcases id h with hv | ⟨s, -, rfl⟩
  · obtain ⟨text, ht⟩ := exists_givesJson hv
    have hdoc := ht.document_eq_ok h
    obtain ⟨w, hw⟩ := Json.Reader.exists_isDocument hdoc
    exact Json.regular_of_evaluate (Json.Reader.evaluate_of_isDocument hdoc hw)
  · exact Json.throughout_string trivial

end Item

namespace Content

variable {α : Type} {R : Item → α → Prop} {items : List Item} {entries : List (String × α)}
  {item : Item} {i : Nat}

theorem Entries.exists_getElem? (h : Entries R items entries) (hi : items[i]? = some item) :
    ∃ e, entries[i]? = some e ∧ R item e.2 := by
  induction h generalizing i with
  | nil => cases hi
  | cons he _ ih =>
    cases i with
    | zero =>
      cases hi
      exact ⟨_, rfl, he.2⟩
    | succ i => exact ih hi

theorem Entries.exists_of_mem (h : Entries R items entries) {e : String × α} (he : e ∈ entries) :
    ∃ item, R item e.2 := by
  induction h with
  | nil => cases he
  | cons hd _ ih =>
    rcases List.mem_cons.1 he with rfl | he
    · exact ⟨_, hd.2⟩
    · exact ih he

end Content

namespace Http

open Content Courier.Path Json

variable {files : Files} {items : List Item} {c : Content} {explicit : Option Encoding}
  {method auth : Option String} {url text : String} {r : Request} {item : Item} {i : Nat}
  {pairs : List (String × Json)} {doc : Json}

def Body.text? : Body → Option (List Char)
  | .text s => some s
  | _ => Option.none

theorem Body.text?_eq_some {body : Body} {s : List Char} :
    body.text? = some s ↔ body = .text s := by
  cases body <;> simp [text?]

/-- The place in the body of what stands at a location of the document. Where the document is taken
for a wrapped array, the body is this array. -/
def InBody (pairs : List (String × Json)) (l p : Location) : Prop :=
  LooksWrapped pairs ∧ l = .field "" :: p ∨ ¬ LooksWrapped pairs ∧ p = l

/-- The request has a JSON body in which each numeral of the item's text that is kept, in the text
and by the items behind, is followed by one that is so related to it. -/
def Carries (R : Numeral → Numeral → Prop) (files : Files) (items : List Item) (i : Nat)
    (text : String) (r : Request) : Prop :=
  ∃ pairs t body, Entries (Item.HasValue files) (forPurpose .data items) pairs ∧
    WrittenTo pairs i t ∧ r.body = .text body ∧
    (∃! w : Source, w.IsDocument text.toList) ∧ (∃! b : Source, b.IsDocument body) ∧
    ∀ (w b : Source) (q : Location) (n : Numeral), w.IsDocument text.toList →
      b.IsDocument body → w.get? q = some (.number n) → Stays pairs i (t ++ q) →
      ∃ p m, InBody pairs (t ++ q) p ∧ b.get? p = some (.number m) ∧ R n m

theorem regular_of_entries (h : Entries (Item.HasValue files) items pairs) :
    ∀ p ∈ pairs, p.2.Throughout Regular := by
  intro p hp
  obtain ⟨item, hv⟩ := h.exists_of_mem hp
  exact Item.regular_of_hasValue hv

theorem exists_inBody {d : Json} {l : Location} (hb : Path.build .null pairs = .ok doc)
    (hne : pairs ≠ []) (hd : doc.get? l = some d) (hs : IsScalar d) :
    ∃ p, InBody pairs l p ∧ (unwrap (wrap doc)).get? p = some d := by
  by_cases hw : LooksWrapped pairs
  · obtain ⟨vs, rfl⟩ := (eq_object_wrapped_iff hb).2 hw
    cases l with
    | nil =>
      cases hd
      exact absurd (.inr rfl) hs.1
    | cons s p =>
      obtain ⟨e, he, hp⟩ := Option.bind_eq_some_iff.1 hd
      cases s with
      | item i => cases he
      | field k =>
        by_cases hk : "" = k
        · subst hk
          cases he
          exact ⟨p, .inl ⟨hw, rfl⟩, hp⟩
        · simp [child?, Fields.find?, hk] at he
  · refine ⟨l, .inr ⟨hw, rfl⟩, ?_⟩
    rw [unwrap_wrap_of_build hb hw, if_neg hne]
    exact hd

theorem regular_unwrap {fields : List (String × Json)}
    (h : (Json.object fields).Throughout Regular) : (unwrap fields).Throughout Regular := by
  rw [unwrap.eq_def]
  split
  · exact h.child (s := .field "") rfl
  · exact h

theorem regular_wrap (h : doc.Throughout Regular) :
    (Json.object (wrap doc)).Throughout Regular := by
  have hone : (Json.object [("", doc)]).Throughout Regular := by
    refine throughout_object (List.nodup_singleton _) fun f hf => ?_
    rw [List.mem_singleton.1 hf]
    exact h
  cases doc with
  | null => exact throughout_object List.nodup_nil fun f hf => (nomatch hf)
  | object fields => exact h
  | _ => exact hone

theorem isScalar_number (n : Number) : IsScalar (.number n) := by
  constructor <;> rintro (h | h) <;> cases h

/-- The numerals of a JSON item arrive in the body of the request, each where the items put it. -/
theorem build_carries_numerals (hc : ofItems files explicit items = .ok c)
    (hj : c.encoding = .json) (h : build method url c auth = .ok r)
    (hi : (forPurpose .data items)[i]? = some item) (ht : item.GivesJson files text) :
    Carries Numeral.Rewritten files items i text r := by
  obtain ⟨-, hr⟩ := ofItems_eq_ok_iff.1 hc
  have hencoding := hr.encoding
  obtain ⟨pairs, fields, hp, hassemble, hdata⟩ := hr.document (hencoding.symm.trans hj)
  obtain ⟨doc, hb, rfl⟩ := Except.map_eq_ok.1 hassemble
  obtain ⟨p, hpi, hv⟩ := hp.exists_getElem? hi
  have hne : pairs ≠ [] := by
    rintro rfl
    cases hpi
  -- What is written is regular, so that the body has a tree.
  have hdoc : doc.Throughout Regular :=
    regular_build (throughout_null trivial) (regular_of_entries hp) hb
  have hbody := regular_unwrap (regular_wrap hdoc)
  have htree := isDocument_text hbody none
  have hread := ht.document_eq_ok hv
  obtain ⟨w, hw⟩ := Reader.exists_isDocument hread
  obtain ⟨t, -, hwritten, -, -⟩ := exists_writtenTo hb hpi
  obtain ⟨u, described, custom, hbuilt⟩ := exists_built h
  have hsent := hbuilt.encoded
  rw [encodeBody_wrap hb hdata, if_neg hne, render_eq] at hsent
  obtain ⟨hsent, -⟩ := Prod.mk.inj (Except.ok.inj hsent)
  refine ⟨pairs, t, _, hp, hwritten, hsent.symm,
    ⟨w, hw, fun w' hw' => Source.isDocument_unique hw' hw⟩,
    ⟨_, htree, fun b hb => Source.isDocument_unique hb htree⟩, ?_⟩
  intro w b q n hw hbt hq hstays
  obtain rfl := Source.isDocument_unique hbt htree
  obtain ⟨d, hd, hn⟩ := Source.get?_of_evaluate (Reader.evaluate_of_isDocument hread hw) hq
  obtain ⟨v, hvalue, rfl⟩ := Option.map_eq_some_iff.1 hn
  have hscalar := isScalar_number v
  have hkept := get?_build hb hwritten hpi hd hscalar hstays
  obtain ⟨l, hl, hget⟩ := exists_inBody hb hne hkept hscalar
  refine ⟨l, v.numeral, hl, ?_, Numeral.rewritten (Except.toOption_eq_some.1 hvalue)⟩
  rw [get?_source hbody, hget]
  rfl

theorem build_carries_numerals_replaced :
    let files : Files := ⟨fun _ => .error .notFound, fun _ => false, "", fun _ => none⟩
    let items : List Item := [⟨"a", "[1, 2.50]", .json, "a:=[1, 2.50]"⟩,
      ⟨"a[0]", "3", .json, "a[0]:=3"⟩]
    ∃ c r, ofItems files none items = .ok c ∧ c.encoding = .json ∧
      build none "http://[::1]/" c none = .ok r ∧ r.body = .text "\x7b\"a\":[3,2.5]\x7d".toList ∧
      Carries Numeral.Rewritten files items 0 "[1, 2.50]" r := by
  intro files items
  obtain ⟨c, hc, hr⟩ : ∃ c, ofItems files none items = .ok c ∧
      (decide (c.encoding = .json) && (build none "http://[::1]/" c none).toOption.any fun r =>
        decide (r.body.text? = some "\x7b\"a\":[3,2.5]\x7d".toList)) = true :=
    Except.any_toOption.1 (by decide +kernel)
  obtain ⟨hj, hr⟩ := Bool.and_eq_true_iff.1 hr
  obtain ⟨r, hr, hbody⟩ := Except.any_toOption.1 hr
  have hj := of_decide_eq_true hj
  exact ⟨c, r, hc, hj, hr, Body.text?_eq_some.1 (of_decide_eq_true hbody),
    build_carries_numerals hc hj hr rfl (.value rfl)⟩

def pastRange : Numeral := ⟨false, "18446744073709551617".toList, [], none⟩

def pastRangeSent : Numeral :=
  ⟨false, ['1'], "8446744073709552".toList, some (false, ['1', '9'])⟩

theorem isDocument_pastRange :
    (Source.number pastRange).IsDocument "18446744073709551617".toList := by
  have hall : Numeral.AllDigits "8446744073709551617".toList :=
    List.all_eq_true.1 (by decide +kernel)
  have hn : pastRange.Spelled "18446744073709551617".toList :=
    ⟨.digits rfl (by decide) hall, fun c hc => (nomatch hc), [], .none,
      by simp [pastRange, Numeral.minusText, Numeral.fractionText]⟩
  have hw : Source.Spells (.number pastRange) ("18446744073709551617".toList ++ []) [] := .number hn
  rw [List.append_nil] at hw
  exact ⟨_, [], .none, hw, .none⟩

theorem isDocument_pastRangeSent :
    (Source.object [("a", .number pastRangeSent)]).IsDocument
      "\x7b\"a\":1.8446744073709552e+19\x7d".toList := by
  have hall : Numeral.AllDigits "8446744073709552".toList := List.all_eq_true.1 (by decide +kernel)
  have hexp : Numeral.AllDigits ['1', '9'] := List.all_eq_true.1 (by decide)
  have hn : pastRangeSent.Spelled "1.8446744073709552e+19".toList :=
    ⟨.digits rfl (by decide) fun c hc => (nomatch hc), hall, ['e', '+', '1', '9'],
      .plus (.inl rfl) (by decide) hexp,
      by simp [pastRangeSent, Numeral.minusText, Numeral.fractionText]⟩
  have hw : Source.Spells (.number pastRangeSent)
      ("1.8446744073709552e+19".toList ++ ['}']) ['}'] := .number hn
  have hkey := key_quoted "a" none ("1.8446744073709552e+19".toList ++ ['}'])
  have htext : "\x7b\"a\":1.8446744073709552e+19\x7d".toList =
      '{' :: (quoted "a" ++ (colon none ++ ("1.8446744073709552e+19".toList ++ ['}']))) := by
    decide +kernel
  rw [htext]
  exact ⟨_, [], .none, .object (.first .none hkey hw (.close .none)), .none⟩

theorem rational_pastRange : pastRange.rational = 18446744073709551617 := by
  have hd : pastRange.digits = 18446744073709551617 := by decide +kernel
  have hp : pastRange.place = 0 := by decide
  rw [Numeral.rational, hd, hp]
  norm_num [pastRange]

theorem rational_pastRangeSent : pastRangeSent.rational = 18446744073709552000 := by
  have hd : pastRangeSent.digits = 18446744073709552 := by decide +kernel
  have hp : pastRangeSent.place = 3 := by decide +kernel
  rw [Numeral.rational, hd, hp]
  norm_num [pastRangeSent]

/-- Not every numeral is followed by one that denotes the same number. -/
theorem build_rounds_numeral :
    let files : Files := ⟨fun _ => .error .notFound, fun _ => false, "", fun _ => none⟩
    let items : List Item := [⟨"a", "18446744073709551617", .json, "a:=18446744073709551617"⟩]
    ∃ c r, ofItems files none items = .ok c ∧ c.encoding = .json ∧
      build none "http://[::1]/" c none = .ok r ∧
      ¬ Carries (fun n m => m.rational = n.rational) files items 0 "18446744073709551617" r := by
  intro files items
  obtain ⟨c, hc, hr⟩ : ∃ c, ofItems files none items = .ok c ∧
      (decide (c.encoding = .json) && (build none "http://[::1]/" c none).toOption.any fun r =>
        decide (r.body.text? = some "\x7b\"a\":1.8446744073709552e+19\x7d".toList)) = true :=
    Except.any_toOption.1 (by decide +kernel)
  obtain ⟨hj, hr⟩ := Bool.and_eq_true_iff.1 hr
  obtain ⟨r, hr, hbody⟩ := Except.any_toOption.1 hr
  have hbody := Body.text?_eq_some.1 (of_decide_eq_true hbody)
  refine ⟨c, r, hc, of_decide_eq_true hj, hr, ?_⟩
  rintro ⟨pairs, t, body, hp, ⟨p, before, segments, hpi, hb, hs, rfl⟩, hsent, -, -, hall⟩
  have hsent : body = "\x7b\"a\":1.8446744073709552e+19\x7d".toList :=
    Body.text.inj (hsent.symm.trans hbody)
  -- One pair is written, at the key of the only item.
  obtain ⟨v, rfl⟩ : ∃ v, pairs = [("a", v)] := by
    have hitems : forPurpose .data items = items := rfl
    rw [hitems, Entries, List.forall₂_cons_left_iff] at hp
    obtain ⟨e, rest, ⟨hkey, -⟩, hrest, rfl⟩ := hp
    obtain rfl := List.forall₂_nil_left_iff.1 hrest
    obtain ⟨k, v⟩ := e
    obtain rfl : k = "a" := hkey
    exact ⟨v, rfl⟩
  have ht : target (accessors segments) before = [.field "a"] := by
    obtain rfl := Option.some.inj hpi
    obtain rfl := Except.ok.inj hb
    have hkey : (Path.parse "a").map accessors = .ok [.key "a"] := by cbv
    rw [hs] at hkey
    rw [Except.ok.inj hkey]
    rfl
  have hstays : Stays [("a", v)] 0 (target (accessors segments) before ++ []) := by
    rintro j t hj ⟨p, -, -, hp, -⟩
    obtain ⟨hlt, -⟩ := List.getElem?_eq_some_iff.1 hp
    rw [List.length_singleton] at hlt
    omega
  obtain ⟨l, m, hl, hget, he⟩ := hall _ _ [] pastRange isDocument_pastRange
    (hsent ▸ isDocument_pastRangeSent) rfl hstays
  have hplace : l = [.field "a"] := by
    rcases hl with ⟨hwrapped, -⟩ | ⟨-, rfl⟩
    · have hkey := hwrapped.1 ("a", v) (by simp)
      simp at hkey
    · rw [List.append_nil, ht]
  obtain rfl : pastRangeSent = m := by
    rw [hplace] at hget
    exact Source.number.inj (Option.some.inj hget)
  rw [rational_pastRange, rational_pastRangeSent] at he
  norm_num at he

end Http

end Courier
