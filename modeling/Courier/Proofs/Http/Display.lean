import Courier.Proofs.Http.Numerals
import Courier.Proofs.Json.RoundTrip
import Courier.Proofs.Text.Utf8

/-! Bodies as they are shown. JSON text is shown indented, and stands for the document it stood for
if the numbers in it are integers of 64 bits. Any other text is shown as it is. -/

namespace Courier

def Data.document? : Data → Option (List (String × Json))
  | .json fields => some fields
  | .form _ => none

theorem Data.document?_eq_some {data : Data} {fields : List (String × Json)} :
    data.document? = some fields ↔ data = .json fields := by
  cases data <;> simp [document?]

namespace Http

open Content Json

variable {content : Bytes} {s : List Char} {doc : Json} {c : Content}
  {fields : List (String × Json)} {r : Request}

/-- The bytes are JSON text that is read: in UTF-8, with brackets not too deep and all numerals in
range. -/
def Accepts (content : Bytes) (doc : Json) : Prop :=
  ∃ (s : List Char) (w : Source), Utf8.decode? content = some s ∧ w.IsDocument s ∧
    w.nesting ≤ 127 ∧ w.evaluate = some doc

theorem accepts_iff (h : Utf8.decode? content = some s) :
    Accepts content doc ↔ Reader.document s = .ok doc := by
  rw [Reader.document_eq_ok_iff]
  constructor
  · rintro ⟨t, w, ht, hw⟩
    rw [h] at ht
    obtain rfl := Option.some.inj ht
    exact ⟨w, hw⟩
  · rintro ⟨w, hw⟩
    exact ⟨s, w, h, hw⟩

theorem Accepts.unique {d : Json} (h : Accepts content doc) (hd : Accepts content d) : doc = d := by
  obtain ⟨s, w, hs, -⟩ := id h
  exact Except.ok.inj (((accepts_iff hs).1 h).symm.trans ((accepts_iff hs).1 hd))

theorem displayText_of_ok (h : Reader.document s = .ok doc) :
    displayText s = text (some 0) doc := by
  rw [displayText, h, ← render_eq]

theorem displayText_of_ne_ok (h : ∀ doc, Reader.document s ≠ .ok doc) : displayText s = s := by
  rw [displayText]
  cases hs : Reader.document s with
  | ok doc => exact absurd hs (h doc)
  | error f => rfl

theorem displayBytes_of_decode? (h : Utf8.decode? content = some s) :
    displayBytes content = displayText s := by
  rw [displayBytes, h]

theorem displayBytes_encode (s : List Char) : displayBytes (Utf8.encode s) = displayText s :=
  displayBytes_of_decode? (Utf8.decode?_encode s)

theorem displayBytes_of_accepts (h : Accepts content doc) :
    displayBytes content = doc.pretty.toList := by
  obtain ⟨s, w, hs, -⟩ := id h
  rw [displayBytes_of_decode? hs, displayText_of_ok ((accepts_iff hs).1 h), pretty,
    String.toList_ofList, render_eq]

theorem displayBytes_of_not_accepts (h : ∀ doc, ¬ Accepts content doc) :
    displayBytes content = Utf8.decodeLossy content := by
  cases hs : Utf8.decode? content with
  | none => rw [displayBytes, hs]
  | some s =>
    have hno : ∀ doc, Reader.document s ≠ .ok doc := fun doc hdoc => h doc ((accepts_iff hs).2 hdoc)
    rw [displayBytes_of_decode? hs, displayText_of_ne_ok hno, Utf8.decodeLossy_of_decode? hs]

theorem displayText_text (h : doc.Throughout Regular) (hi : doc.Throughout Integral)
    (level : Option Nat) :
    displayText (text level doc) =
      if doc.nesting ≤ 127 then text (some 0) doc else text level doc := by
  split
  · next hn => exact displayText_of_ok ((document_text h hi).2 ⟨hn, rfl⟩)
  · next hn => exact displayText_of_ne_ok fun d hd => hn ((document_text h hi).1 hd).1

/-- What is shown is shown again as it is. -/
theorem displayText_displayText
    (h : ∀ doc, Reader.document s = .ok doc → doc.Throughout Integral) :
    displayText (displayText s) = displayText s := by
  cases hs : Reader.document s with
  | ok doc =>
    obtain ⟨w, hw, hn, he⟩ := Reader.document_eq_ok_iff.1 hs
    have hdoc : doc.nesting ≤ 127 := (nesting_of_evaluate he).trans hn
    rw [displayText_of_ok hs, displayText_text (regular_of_evaluate he) (h doc hs), if_pos hdoc]
  | error f =>
    have hsame : displayText s = s := by rw [displayText, hs]
    rw [hsame, hsame]

/-- How a document comes through if it is written as compact text and this text is shown. -/
structure ShownWhole (doc : Json) : Prop where
  shown : displayBytes (Utf8.encode doc.compact.toList) =
    if doc.nesting ≤ 127 then doc.pretty.toList else doc.compact.toList
  read : doc.nesting ≤ 127 → Json.parse doc.pretty = .ok doc
  denoted : ∀ d, Denotes doc.pretty.toList d ↔ d = doc
  again : displayBytes (Utf8.encode (displayBytes (Utf8.encode doc.compact.toList))) =
    displayBytes (Utf8.encode doc.compact.toList)

theorem shownWhole (h : doc.Throughout Regular) (hi : doc.Throughout Integral) :
    ShownWhole doc := by
  have hpretty : doc.pretty.toList = text (some 0) doc := by
    rw [pretty, String.toList_ofList, render_eq]
  have hcompact : doc.compact.toList = text none doc := by
    rw [compact, String.toList_ofList, render_eq]
  exact {
    shown := by rw [displayBytes_encode, hcompact, hpretty, displayText_text h hi]
    read := fun hn => by
      rw [Json.parse, Except.mapError_eq_ok, hpretty, document_text h hi]
      exact ⟨hn, rfl⟩
    denoted := fun d => by rw [hpretty, denotes_text h hi]
    again := by
      rw [displayBytes_encode, displayBytes_encode, hcompact]
      refine displayText_displayText fun d hd => ?_
      rw [((document_text h hi).1 hd).2]
      exact hi }

/-- The body that is shown stands for the same document as the body that is sent. -/
def ShowsSent (r : Request) (doc : Json) : Prop :=
  ∃ sent shown, r.body = .text sent ∧ shown = displayBytes (Utf8.encode sent) ∧
    r.display = String.ofList (head r ++ ('\n' :: shown ++ ['\n'])) ∧
    (∀ d, Denotes sent d ↔ d = doc) ∧ ∀ d, Denotes shown d ↔ d = doc

theorem integral_unwrap (h : (Json.object fields).Throughout Integral) :
    (Path.unwrap fields).Throughout Integral := by
  rw [Path.unwrap.eq_def]
  split
  · exact h.child (s := .field "") rfl
  · exact h

theorem regular_of_routed {files : Files} {items : List Item} {e : Encoding}
    (hr : Routed files e items c) (hd : c.data = .json fields) :
    (Json.object fields).Throughout Regular := by
  by_cases he : e = .json
  · obtain ⟨pairs, others, hp, hassemble, hdata⟩ := hr.document he
    obtain rfl := Data.json.inj (hdata.symm.trans hd)
    obtain ⟨doc, hb, rfl⟩ := Except.map_eq_ok.1 hassemble
    exact regular_wrap (Path.regular_build (throughout_null trivial) (regular_of_entries hp) hb)
  · obtain ⟨others, -, hdata⟩ := hr.form he
    rw [hd] at hdata
    cases hdata

theorem showsSent (h : doc.Throughout Regular) (hi : doc.Throughout Integral)
    (hb : r.body = .text (text none doc)) : ShowsSent r doc := by
  refine ⟨_, _, hb, rfl, ?_, fun d => denotes_text h hi, fun d => ?_⟩
  · rw [displayBytes_encode, Request.display, hb, bodyText]
  · rw [displayBytes_encode, displayText_text h hi]
    split <;> exact denotes_text h hi

/-- What is no JSON text is shown as it is, and JSON text is shown indented. Neither the text of a
document nor the body of a request then stands for anything else, and showing again what is shown
changes nothing, if the numbers are integers of 64 bits. -/
theorem display_keeps_documents :
    (∀ content, (∀ doc, ¬ Accepts content doc) →
      displayBytes content = Utf8.decodeLossy content) ∧
    (∀ content doc, Accepts content doc → displayBytes content = doc.pretty.toList) ∧
    (∀ doc : Json, doc.Throughout Regular → doc.Throughout Integral → ShownWhole doc) ∧
    (∀ content s, Utf8.decode? content = some s →
      (∀ doc, Accepts content doc → doc.Throughout Integral) →
      displayBytes (Utf8.encode (displayBytes content)) = displayBytes content) ∧
    ∀ files explicit items c fields method url auth r,
      ofItems files explicit items = .ok c → c.data = .json fields →
      (Json.object fields).Throughout Integral → build method url c auth = .ok r →
      if fields = [] then r.body = .none ∧ r.display = String.ofList (head r)
      else ShowsSent r (Path.unwrap fields) := by
  refine ⟨fun _ => displayBytes_of_not_accepts, fun _ _ => displayBytes_of_accepts,
    fun _ => shownWhole, ?_, ?_⟩
  · intro content s hs hi
    rw [displayBytes_encode, displayBytes_of_decode? hs]
    exact displayText_displayText fun doc hdoc => hi doc ((accepts_iff hs).2 hdoc)
  · intro files explicit items c fields method url auth r hc hd hi hr
    obtain ⟨-, hrouted⟩ := ofItems_eq_ok_iff.1 hc
    obtain ⟨u, described, custom, hbuilt⟩ := exists_built hr
    have hsent := hbuilt.encoded
    rw [encodeBody, hd] at hsent
    dsimp only at hsent
    split
    · next hnil =>
      rw [hnil, List.isEmpty_nil, if_pos rfl] at hsent
      obtain ⟨hbody, -⟩ := Prod.mk.inj (Except.ok.inj hsent)
      refine ⟨hbody.symm, ?_⟩
      rw [Request.display, ← hbody, bodyText, List.append_nil]
    · next hne =>
      rw [if_neg (by simpa using hne), render_eq] at hsent
      obtain ⟨hbody, -⟩ := Prod.mk.inj (Except.ok.inj hsent)
      have hregular := regular_unwrap (regular_of_routed hrouted hd)
      exact showsSent hregular (integral_unwrap hi) hbody.symm

theorem display_keeps_documents_escaped :
    let doc : Json := .object [("k\n", .array [.null, .number (.integer 18446744073709551615)]),
      ("", .object [])]
    let files : Files := ⟨fun _ => .error .notFound, fun _ => false, "", fun _ => none⟩
    let items : List Item := [⟨"a", "[1, \"\\n\"]", .json, "a:=[1, \"\\n\"]"⟩]
    displayBytes [0x22, 0xFF, 0x22] = ['"', '\ufffd', '"'] ∧
      displayBytes (Utf8.encode "[-1 ]".toList) = "[\n  -1\n]".toList ∧
      displayBytes (Utf8.encode "[\n  -1\n]".toList) = "[\n  -1\n]".toList ∧
      displayBytes (Utf8.encode doc.compact.toList) = doc.pretty.toList ∧
      Json.parse doc.pretty = .ok doc ∧
      ∃ c r, ofItems files none items = .ok c ∧ build none "http://[::1]/" c none = .ok r ∧
        ShowsSent r (.object [("a", .array [.number (.integer 1), .string "\n"])]) := by
  intro doc files items
  obtain ⟨hlossy, hpretty, hdoc, hagain, hrequest⟩ := display_keeps_documents
  have hgap : Utf8.decode? [0x22, 0xFF, 0x22] = none := by decide +kernel
  have hshown : displayBytes [0x22, 0xFF, 0x22] = ['"', '\ufffd', '"'] := by
    refine (hlossy _ ?_).trans (by decide +kernel)
    rintro d ⟨s, w, hs, -⟩
    rw [hgap] at hs
    cases hs
  -- A list with a blank in it is shown without, and then as it is.
  have hlist : Accepts (Utf8.encode "[-1 ]".toList) (.array [.number (.integer (-1))]) :=
    (accepts_iff (Utf8.decode?_encode _)).2 (by decide +kernel)
  have hindented : displayBytes (Utf8.encode "[-1 ]".toList) = "[\n  -1\n]".toList :=
    (hpretty _ _ hlist).trans (by decide +kernel)
  have hsame := hagain _ _ (Utf8.decode?_encode "[-1 ]".toList) fun d hd => by
    rw [← hlist.unique hd]
    exact throughout_array trivial (by simp [throughout_integer])
  rw [hindented] at hsame
  have hall : ∀ P : Json → Prop, P .null → P (.number (.integer 18446744073709551615)) →
      P (.array [.null, .number (.integer 18446744073709551615)]) → P (.object []) → P doc →
      doc.Throughout P := by
    intro P hnull hn ha ho hd
    have harray := throughout_array ha (by simp [throughout_null hnull, throughout_number hn])
    have hempty : Throughout P (.object []) := throughout_object ho (by simp)
    exact throughout_object hd (by simp [harray, hempty])
  have hkeys : (["k\n", ""] : List String).Nodup := by decide
  have hcomes := hdoc doc (hall Regular trivial trivial trivial List.nodup_nil hkeys)
    (hall Integral trivial (throughout_integer (by decide) (by decide)).self trivial trivial
      trivial)
  have hshallow : doc.nesting ≤ 127 := by decide
  obtain ⟨c, hc, hr⟩ : ∃ c, ofItems files none items = .ok c ∧
      (decide (c.data.document? = some [("a", .array [.number (.integer 1), .string "\n"])]) &&
        (build none "http://[::1]/" c none).isOk) = true :=
    Except.any_toOption.1 (by decide +kernel)
  obtain ⟨hdata, hr⟩ := Bool.and_eq_true_iff.1 hr
  obtain ⟨r, hr⟩ := Except.isOk_iff.1 hr
  have hbreak : Throughout Integral (.string "\n") := throughout_string trivial
  have hitems : Throughout Integral (.array [.number (.integer 1), .string "\n"]) :=
    throughout_array trivial (by simp [throughout_integer, hbreak])
  have hsent := hrequest _ _ _ _ _ _ _ _ _ hc
    (Data.document?_eq_some.1 (of_decide_eq_true hdata)) (throughout_object trivial (by simpa)) hr
  exact ⟨hshown, hindented, hsame, hcomes.shown.trans (if_pos hshallow), hcomes.read hshallow,
    c, r, hc, hr, hsent⟩

end Http

end Courier
