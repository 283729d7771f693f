import Courier.Proofs.Content.Routing
import Courier.Proofs.Http.Request

/-! Which headers are sent. Items have the last word on the names they give values to. A suppression
is weaker: it keeps a default away, but not what the body or the credentials call for. -/

namespace Courier

namespace Content

/-- The items for a header, however they spell its name. -/
def forHeader (name : String) (items : List Item) : List Item :=
  (forPurpose .header items).filter fun item => sameName item.key name

/-- The last item for a header has no value. -/
def Suppressed (name : String) (items : List Item) : Prop :=
  ∃ item, (forHeader name items).getLast? = some item ∧ item.separator = .header ∧ item.value = ""

section

variable {files : Files} {items : List Item} {c : Content} {e : Encoding} {name : String}

theorem Entries.forall₂_valuesOf {α : Type} {R : Item → α → Prop} {entries : List (String × α)}
    (h : Entries R items entries) (name : String) :
    List.Forall₂ R (items.filter fun item => sameName item.key name) (valuesOf name entries) := by
  induction h with
  | nil => exact .nil
  | @cons item entry items entries hv _ ih =>
    rw [List.filter_cons, valuesOf_cons, hv.1]
    split
    · exact .cons hv.2 ih
    · exact ih

theorem Routed.getAll_headers (hr : Routed files e items c) (name : String) :
    ∃ values, List.Forall₂ (Item.HasHeader files) (forHeader name items) values ∧
      c.headers.getAll name = values.foldl Headers.join [] := by
  obtain ⟨entries, he, hh⟩ := hr.headers
  refine ⟨valuesOf name entries, he.forall₂_valuesOf name, ?_⟩
  rw [hh, Headers.getAll_foldl_add]
  rfl

theorem Routed.getAll_of_forHeader_eq_nil (hr : Routed files e items c)
    (hn : forHeader name items = []) : c.headers.getAll name = [] := by
  obtain ⟨values, hv, hg⟩ := hr.getAll_headers name
  rw [hn] at hv
  rw [hg, List.forall₂_nil_left_iff.1 hv]
  rfl

theorem Routed.getAll_suppressed (hr : Routed files e items c) (hs : Suppressed name items) :
    c.headers.getAll name = [none] := by
  obtain ⟨values, hv, hg⟩ := hr.getAll_headers name
  obtain ⟨item, hlast, hsep, hempty⟩ := hs
  obtain ⟨before, hitems⟩ := List.getLast?_eq_some_iff.1 hlast
  -- From behind, the suppressing item and its value come first.
  rw [hitems, ← List.forall₂_reverse_iff, List.reverse_concat, List.forall₂_cons_left_iff] at hv
  obtain ⟨v, others, hv, -, hvalues⟩ := hv
  have hd : item.decode files = .ok (.header none) := by simp [Item.decode, hsep, hempty]
  obtain rfl : none = v := Item.Decoded.header.inj (Except.ok.inj (hd.symm.trans hv))
  rw [hg, ← List.reverse_reverse values, hvalues, List.reverse_cons,
    Headers.foldl_join_concat_none]

theorem Entries.eq_nil_iff {α : Type} {R : Item → α → Prop} {entries : List (String × α)}
    (h : Entries R items entries) : entries = [] ↔ items = [] := by
  cases h <;> simp

theorem Routed.isEmpty_uploads_iff (hr : Routed files e items c) :
    c.uploads.isEmpty = true ↔ ¬ HasUploads items := by
  rw [← forPurpose_upload_eq_nil, MultiMap.isEmpty, List.isEmpty_iff, hr.uploads.eq_nil_iff]

theorem Routed.sendsParts_iff (hr : Routed files e items c) :
    c.sendsParts = true ↔ e = .multipart ∨ e = .form ∧ HasUploads items := by
  have hu := hr.isEmpty_uploads_iff
  rw [sendsParts]
  cases e with
  | json =>
    obtain ⟨ps, fields, -, -, hd⟩ := hr.document rfl
    simp [hd]
  | form =>
    obtain ⟨fields, -, hd⟩ := hr.form (by simp)
    simp [hd, hr.encoding, ← Bool.not_eq_true, hu]
  | multipart =>
    obtain ⟨fields, -, hd⟩ := hr.form (by simp)
    simp [hd, hr.encoding]

theorem Routed.sendsFields_iff (hr : Routed files e items c) :
    c.sendsFields = true ↔ e ≠ .json ∧ forPurpose .data items ≠ [] := by
  rw [sendsFields]
  by_cases he : e = .json
  · obtain ⟨ps, fields, -, -, hd⟩ := hr.document he
    simp [hd, he]
  · obtain ⟨fields, hf, hd⟩ := hr.form he
    simp [hd, he, MultiMap.isEmpty, hf.eq_nil_iff]

theorem exists_isData_iff :
    (∃ item ∈ items, item.separator.isData = true) ↔
      HasUploads items ∨ forPurpose .data items ≠ [] := by
  have hu : HasUploads items ↔ ∃ item ∈ items, item.purpose = .upload := by
    rw [← not_iff_not, ← forPurpose_upload_eq_nil]
    simp [forPurpose]
  have hd : forPurpose .data items ≠ [] ↔ ∃ item ∈ items, item.purpose = .data := by
    simp [forPurpose]
  simp only [Item.isData_iff, hu, hd, and_or_left, exists_or, or_comm]

theorem Routed.sends_iff (hr : Routed files e items c) :
    c.sendsParts = true ∨ c.sendsFields = true ↔
      e = .multipart ∨ e = .form ∧ ∃ item ∈ items, item.separator.isData = true := by
  rw [hr.sendsParts_iff, hr.sendsFields_iff, exists_isData_iff]
  cases e <;> simp

end

end Content

namespace Http

open Content

/-- The URL names a user or a password, to be taken out of it. -/
def HoldsCredentials (url : String) : Prop :=
  ∃ u, Url.parse url = .ok u ∧ (takeCredentials u).2.isSome = true

variable {method : Option String} {url : String} {c : Content} {auth : Option String}
  {u : Url} {described custom : List (String × String)} {body : Body} {r : Request}
  {files : Files} {explicit : Option Encoding} {items : List Item} {name : String}

theorem takeCredentials_addQuery (u : Url) (pairs : List (String × String)) :
    (takeCredentials (u.addQuery pairs)).2 = (takeCredentials u).2 := by
  rw [Url.addQuery]
  split
  · rfl
  · simp only [takeCredentials]
    split
    · rfl
    · split
      · rfl
      · split <;> rfl

theorem mem_names_inherent {inUrl : Option (String × Option String)} {key : String} :
    key ∈ (inherent inUrl described auth).map Prod.fst ↔
      key = "authorization" ∧ (inUrl.isSome = true ∨ auth.isSome = true) ∨
        key ∈ described.map Prod.fst := by
  cases inUrl <;> cases auth <;> simp [inherent] <;> tauto

theorem mem_names_described {key : String} (h : encodeBody c = .ok (body, described)) :
    key ∈ described.map Prod.fst ↔
      key = "content-type" ∧ (c.sendsParts = true ∨ c.sendsFields = true) ∨
        key = "content-length" ∧ c.sendsParts = true := by
  rw [names_described h]
  by_cases hp : c.sendsParts = true
  · simp [hp]
  · by_cases hf : c.sendsFields = true <;> simp [hp, hf]

theorem valuesOf_inherent_ne_nil (h : encodeBody c = .ok (body, described))
    (inUrl : Option (String × Option String)) (auth : Option String) (name : String) :
    valuesOf name (inherent inUrl described auth) ≠ [] ↔
      sameName "authorization" name = true ∧ (inUrl.isSome = true ∨ auth.isSome = true) ∨
      sameName "content-type" name = true ∧ (c.sendsParts = true ∨ c.sendsFields = true) ∨
      sameName "content-length" name = true ∧ c.sendsParts = true := by
  have hn : valuesOf name (inherent inUrl described auth) ≠ [] ↔
      ∃ key ∈ (inherent inUrl described auth).map Prod.fst, sameName key name = true := by
    rw [Ne, valuesOf_eq_nil]
    simp
  rw [hn]
  simp only [mem_names_inherent, mem_names_described h, or_and_right, exists_or, and_assoc,
    exists_eq_left]
  simp only [and_comm, and_or_left]

theorem Built.holdsCredentials_iff (hb : Built method url c auth u described custom r) :
    HoldsCredentials url ↔
      (takeCredentials (u.addQuery c.query.entries)).2.isSome = true := by
  rw [takeCredentials_addQuery]
  constructor
  · rintro ⟨v, hv, hs⟩
    obtain rfl : u = v := Except.ok.inj (hb.parsed.symm.trans hv)
    exact hs
  · exact fun hs => ⟨u, hb.parsed, hs⟩

theorem Built.accept_ne_nil (hb : Built method url c auth u described custom r) :
    r.headers.values "accept" ≠ [] := by
  rw [hb.values]
  split
  · assumption
  · have ha : sameName "accept" "accept" = true := by decide
    split
    · simp
    · next hown => exact fun h => hown ⟨ha, h⟩

theorem Built.userAgent_ne_nil_iff (hb : Built method url c auth u described custom r) :
    r.headers.values "user-agent" ≠ [] ↔ ¬ c.headers.Suppresses "user-agent" := by
  have haccept : sameName "accept" "user-agent" = false := by decide
  have hauth : sameName "authorization" "user-agent" = false := by decide
  have htype : sameName "content-type" "user-agent" = false := by decide
  have hlength : sameName "content-length" "user-agent" = false := by decide
  -- Neither body nor credentials bear this name.
  have hown : valuesOf "user-agent" (inherent (takeCredentials (u.addQuery c.query.entries)).2
      described auth) = [] := by
    simpa [hauth, htype, hlength] using not_congr (valuesOf_inherent_ne_nil hb.encoded
      (takeCredentials (u.addQuery c.query.entries)).2 auth "user-agent")
  have hv : r.headers.values "user-agent" = (withDefaults c).given "user-agent" := by
    rw [hb.values, hown, haccept]
    by_cases hg : (withDefaults c).given "user-agent" = [] <;> simp [hg]
  rw [hv, Headers.Suppresses]
  by_cases hnil : c.headers.getAll "user-agent" = []
  · simp [Headers.given, getAll_withDefaults_userAgent hnil, hnil, List.reduceOption]
  · simp [given_withDefaults hnil, hnil]

theorem Built.values_suppressed (hb : Built method url c auth u described custom r)
    (haccept : sameName "accept" name = false) (hs : c.headers.Suppresses name) :
    r.headers.values name =
      valuesOf name (inherent (takeCredentials (u.addQuery c.query.entries)).2 described auth) := by
  have hg : (withDefaults c).given name = [] := (given_withDefaults hs.1).trans hs.2
  simp [hb.values, hg, haccept]

/-- The values that items give to a name are all that is sent under it. There is always an `accept`
header; a `user-agent` header is missing exactly if the items suppress it. -/
theorem build_sends_given (h : build method url c auth = .ok r) :
    (∀ name, c.headers.given name ≠ [] → r.headers.values name = c.headers.given name) ∧
    r.headers.values "accept" ≠ [] ∧
    (r.headers.values "user-agent" ≠ [] ↔ ¬ c.headers.Suppresses "user-agent") ∧
    ∀ files explicit items, ofItems files explicit items = .ok c →
      ∀ name, ∃ values, List.Forall₂ (Item.HasHeader files) (forHeader name items) values ∧
        c.headers.given name = (values.rtakeWhile Option.isSome).reduceOption := by
  obtain ⟨u, described, custom, hb⟩ := exists_built h
  refine ⟨fun name hg => ?_, hb.accept_ne_nil, hb.userAgent_ne_nil_iff, ?_⟩
  · have hne : c.headers.getAll name ≠ [] := by
      intro hnil
      simp [Headers.given, hnil] at hg
    rw [hb.values, given_withDefaults hne, if_pos hg]
  · intro files explicit items hc name
    obtain ⟨values, hv, hg⟩ := (ofItems_eq_ok_iff.1 hc).2.getAll_headers name
    exact ⟨values, hv, by rw [Headers.given, hg, Headers.reduceOption_foldl_join]⟩

theorem build_sends_given_credentials :
    let files : Files := ⟨fun _ => .error .notFound, fun _ => false, "", fun _ => none⟩
    let items : List Item := [⟨"Content-Type", "a/b", .header, "Content-Type:a/b"⟩,
      ⟨"AUTHORIZATION", "t", .header, "AUTHORIZATION:t"⟩, ⟨"a", "1", .field, "a=1"⟩,
      ⟨"User-Agent", "", .header, "User-Agent:"⟩,
      ⟨"content-type", "", .headerEmpty, "content-type;"⟩]
    let c : Content := {
      headers := ⟨[("Content-Type", some "a/b"), ("AUTHORIZATION", some "t"), ("User-Agent", none),
        ("Content-Type", some "")]⟩
      data := .form ⟨[("a", "1")]⟩
      uploads := .empty
      query := .empty
      encoding := .form }
    ofItems files (some .form) items = .ok c ∧
      ∃ r, build none "http://u:p@[::1]/" c (some "x:y") = .ok r ∧
        r.headers.values "content-type" = ["a/b", ""] ∧ r.headers.values "Authorization" = ["t"] ∧
        r.headers.values "accept" ≠ [] ∧ r.headers.values "user-agent" = [] ∧
        ∃ values, List.Forall₂ (Item.HasHeader files) (forHeader "content-type" items) values ∧
          (values.rtakeWhile Option.isSome).reduceOption = ["a/b", ""] := by
  intro files items c
  have hc : ofItems files (some .form) items = .ok c := rfl
  obtain ⟨r, hr⟩ : ∃ r, build none "http://u:p@[::1]/" c (some "x:y") = .ok r :=
    Except.isOk_iff.1 (by decide +kernel)
  have htype : c.headers.given "content-type" = ["a/b", ""] := by decide
  have hauth : c.headers.given "Authorization" = ["t"] := by decide
  have hagent : c.headers.Suppresses "user-agent" := by
    constructor <;> decide
  obtain ⟨hgiven, haccept, huser, hitems⟩ := build_sends_given hr
  obtain ⟨values, hv, hvalues⟩ := hitems files (some .form) items hc "content-type"
  refine ⟨hc, r, hr, ?_, ?_, haccept, ?_, values, hv, ?_⟩
  · rw [hgiven "content-type" (by simp [htype]), htype]
  · rw [hgiven "Authorization" (by simp [hauth]), hauth]
  · by_contra hne
    exact huser.1 hne hagent
  · rw [← hvalues, htype]

/-- A suppressed header is sent all the same exactly if the body or the credentials call for it. -/
theorem build_suppressed (hc : ofItems files explicit items = .ok c)
    (hb : build method url c auth = .ok r) (haccept : sameName "accept" name = false)
    (hs : Suppressed name items) :
    r.headers.values name ≠ [] ↔
      sameName "authorization" name = true ∧ (HoldsCredentials url ∨ auth.isSome = true) ∨
      sameName "content-type" name = true ∧ (effective explicit items = .multipart ∨
        effective explicit items = .form ∧ ∃ item ∈ items, item.separator.isData = true) ∨
      sameName "content-length" name = true ∧ (effective explicit items = .multipart ∨
        effective explicit items = .form ∧ HasUploads items) := by
  obtain ⟨u, described, custom, hb⟩ := exists_built hb
  obtain ⟨-, hr⟩ := ofItems_eq_ok_iff.1 hc
  -- Known to the items, so no default comes in; without a value, so nothing is overridden.
  have hnone := hr.getAll_suppressed hs
  have hsup : c.headers.Suppresses name := by simp [Headers.Suppresses, Headers.given, hnone]
  rw [hb.values_suppressed haccept hsup, valuesOf_inherent_ne_nil hb.encoded,
    hr.sends_iff, hr.sendsParts_iff, hb.holdsCredentials_iff]

theorem build_suppressed_authorization :
    let files : Files := ⟨fun _ => .error .notFound, fun _ => false, "", fun _ => none⟩
    let items : List Item := [⟨"X-Note", "1", .header, "X-Note:1"⟩, ⟨"a", "1", .field, "a=1"⟩,
      ⟨"Authorization", "", .header, "Authorization:"⟩, ⟨"x-note", "", .header, "x-note:"⟩]
    let c : Content := {
      headers := ⟨[("Authorization", none), ("X-Note", none)]⟩
      data := .form ⟨[("a", "1")]⟩
      uploads := .empty
      query := .empty
      encoding := .form }
    ofItems files (some .form) items = .ok c ∧ Suppressed "X-Note" items ∧
      Suppressed "authorization" items ∧
      ∃ r, build none "http://u:p@[::1]/" c none = .ok r ∧
        ¬ r.headers.values "X-Note" ≠ [] ∧ r.headers.values "authorization" ≠ [] := by
  intro files items c
  have hc : ofItems files (some .form) items = .ok c := rfl
  have hnote : Suppressed "X-Note" items :=
    ⟨⟨"x-note", "", .header, "x-note:"⟩, by decide, rfl, rfl⟩
  have hauth : Suppressed "authorization" items :=
    ⟨⟨"Authorization", "", .header, "Authorization:"⟩, by decide, rfl, rfl⟩
  obtain ⟨r, hr⟩ : ∃ r, build none "http://u:p@[::1]/" c none = .ok r :=
    Except.isOk_iff.1 (by decide +kernel)
  have hu : HoldsCredentials "http://u:p@[::1]/" := Except.any_toOption.1 (by decide +kernel)
  refine ⟨hc, hnote, hauth, r, hr, ?_, ?_⟩
  · rw [build_suppressed hc hr (by decide) hnote]
    have ha : sameName "authorization" "X-Note" = false := by decide
    have ht : sameName "content-type" "X-Note" = false := by decide
    have hl : sameName "content-length" "X-Note" = false := by decide
    simp [ha, ht, hl]
  · exact (build_suppressed hc hr (by decide) hauth).2 (.inl ⟨by decide, .inl hu⟩)

/-- The header of a form body is sent although the items suppress it. -/
theorem build_sends_suppressed :
    let files : Files := ⟨fun _ => .error .notFound, fun _ => false, "", fun _ => none⟩
    let items : List Item := [⟨"a", "1", .field, "a=1"⟩,
      ⟨"Content-Type", "", .header, "Content-Type:"⟩]
    ∃ c r, ofItems files (some .form) items = .ok c ∧ build none "http://[::1]/" c none = .ok r ∧
      sameName "accept" "Content-Type" = false ∧ Suppressed "Content-Type" items ∧
      r.headers.values "Content-Type" = [formContentType] := by
  intro files items
  let c : Content := ⟨⟨[("Content-Type", none)]⟩, .form ⟨[("a", "1")]⟩, .empty, .empty, .form⟩
  have hc : ofItems files (some .form) items = .ok c := rfl
  have hs : Suppressed "Content-Type" items :=
    ⟨⟨"Content-Type", "", .header, "Content-Type:"⟩, by decide, rfl, rfl⟩
  obtain ⟨r, hr, hv⟩ : ∃ r, build none "http://[::1]/" c none = .ok r ∧
      decide (r.headers.values "Content-Type" = [formContentType]) = true :=
    Except.any_toOption.1 (by decide +kernel)
  exact ⟨c, r, hc, hr, by decide, hs, of_decide_eq_true hv⟩

end Http

end Courier
