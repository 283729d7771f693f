import Courier.Proofs.Http.Sent
import Courier.Proofs.Url.Visible

/-! The head of a request as it is shown, read back line by line. Nothing that a line is made of has
a line break in it, and no name a colon; so a line ends where it was ended, and is cut where its
parts were joined. -/

namespace Courier

namespace Http

open Content

def headLines (text : String) : List (List Char) :=
  (splitOn '\n' text.toList).takeWhile fun line => !line.isEmpty

/-- The name stands in front of the first colon with a blank behind it, the value behind both. -/
def readField? (line : List Char) : Option (String × String) :=
  (splitOnce? ": ".toList line).map fun (name, value) => (String.ofList name, String.ofList value)

theorem headLines_ofList {lines : List (List Char)} (h : ∀ l ∈ lines, l ≠ [] ∧ '\n' ∉ l)
    {rest : List Char} (hr : rest = [] ∨ rest.head? = some '\n') :
    headLines (String.ofList (lines.flatMap (· ++ ['\n']) ++ rest)) = lines := by
  have hfull : ∀ l ∈ lines, (!l.isEmpty) = true := by
    intro l hl
    simpa using (h l hl).1
  have hstop : (splitOn '\n' rest).takeWhile (fun line => !line.isEmpty) = [] := by
    rcases hr with rfl | hr
    · rfl
    · obtain ⟨body, rfl⟩ := List.head?_eq_some_iff.1 hr
      have hsplit := splitOn_append_cons '\n' [] body
      rw [List.nil_append] at hsplit
      rw [hsplit]
      rfl
  rw [headLines, String.toList_ofList, splitOn_flatMap_concat fun l hl => (h l hl).2,
    List.takeWhile_append_of_pos hfull, hstop, List.append_nil]

def fieldLine (e : String × String) : List Char := e.1.toList ++ ": ".toList ++ e.2.toList

theorem readField?_fieldLine {e : String × String} (h : ':' ∉ e.1.toList) :
    readField? (fieldLine e) = some e := by
  have hs := splitOnce?_append_of_notMem h [' '] e.2.toList
  have hl : splitOnce? ": ".toList (fieldLine e) = some (e.1.toList, e.2.toList) := hs
  rw [readField?, hl]
  simp

/-- The URL's own `Host` header. -/
def hostField (u : Url) : Option (String × String) :=
  u.host.map fun h => ("Host", h.spell ++ u.portText)

def shownFields (r : Request) : List (String × String) :=
  (hostField r.url).toList ++ r.headers.toList

def firstLine (r : Request) : List Char :=
  r.method.toList ++ ' ' :: (r.url.target.toList ++ ' ' :: "HTTP/1.1".toList)

theorem head_eq_lines (r : Request) :
    head r = (firstLine r :: (shownFields r).map fieldLine).flatMap (· ++ ['\n']) := by
  have hfirst : requestLine r = firstLine r ++ ['\n'] := by simp [requestLine, firstLine]
  have hhost : hostLine r.url = ((hostField r.url).toList.map fieldLine).flatMap (· ++ ['\n']) := by
    rw [hostLine, hostField]
    cases r.url.host with
    | none => rfl
    | some h => simp [fieldLine]
  have hheaders : r.headers.toList.flatMap headerLine =
      (r.headers.toList.map fieldLine).flatMap (· ++ ['\n']) := by
    rw [List.flatMap_map]
    rfl
  rw [head, hfirst, hhost, hheaders, List.flatMap_cons, shownFields, List.map_append,
    List.flatMap_append, List.append_assoc]

theorem bodyText_starts (b : Body) : bodyText b = [] ∨ (bodyText b).head? = some '\n' := by
  cases b with
  | none => exact .inl rfl
  | text s => exact .inr rfl
  | parts ps => exact .inr rfl

/-- A header with a name of name characters, and a value without control characters. -/
structure Sendable (e : String × String) : Prop where
  name : isMethod e.1 = true
  value : isHeaderValue e.2 = true

theorem isNameChar_visible {c : Char} (h : isNameChar c = true) : IsVisible c ∧ c ≠ ':' := by
  have hmarks : AllVisible ['!', '#', '$', '%', '&', '\x27', '*', '+', '-', '.', '^', '_', '\x60',
    '|', '~'] := by decide
  constructor
  · rw [isNameChar, Bool.or_eq_true] at h
    rcases h with h | h
    · exact isVisible_of_isAlphanum h
    · exact hmarks c (List.contains_iff_mem.1 h)
  · rintro rfl
    revert h
    decide

theorem isMethod_visible {s : String} (h : isMethod s = true) :
    s.toList ≠ [] ∧ AllVisible s.toList ∧ ':' ∉ s.toList := by
  simp only [isMethod, Bool.and_eq_true, Bool.not_eq_true', List.all_eq_true] at h
  obtain ⟨hne, hall⟩ := h
  refine ⟨?_, fun c hc => (isNameChar_visible (hall c hc)).1,
    fun hc => (isNameChar_visible (hall _ hc)).2 rfl⟩
  intro hnil
  rw [String.toList_eq_nil_iff] at hnil
  simp [hnil] at hne

theorem isNameChar_toLower {c : Char} (h : isNameChar c = true) : isNameChar c.toLower = true := by
  have hc : c.toNat < 0x80 := (isNameChar_visible h).1.ascii
  have hall : ∀ n < 0x80, isNameChar (Char.ofNat n) = true →
      isNameChar (Char.ofNat n).toLower = true := by decide
  have hn := hall c.toNat hc
  rw [Char.ofNat_toNat] at hn
  exact hn h

theorem isMethod_lower {s : String} (h : isMethod s = true) : isMethod (lower s) = true := by
  simp only [isMethod, Bool.and_eq_true, Bool.not_eq_true', List.all_eq_true] at h ⊢
  constructor
  · simpa [lower] using h.1
  · intro c hc
    rw [lower, String.toList_ofList] at hc
    obtain ⟨d, hd, rfl⟩ := List.mem_map.1 hc
    exact isNameChar_toLower (h.2 d hd)

theorem isHeaderValue_of_allVisible {s : String} (h : AllVisible s.toList) :
    isHeaderValue s = true := by
  refine List.all_eq_true.2 fun c hc => ?_
  have hv := h c hc
  unfold IsVisible at hv
  have hlow : 0x20 ≤ c.toNat := by omega
  have hdel : c.toNat ≠ 0x7F := by omega
  simp [isValueChar, hlow, hdel]

theorem notMem_of_isHeaderValue {s : String} (h : isHeaderValue s = true) : '\n' ∉ s.toList := by
  intro hc
  have hv := List.all_eq_true.1 h '\n' hc
  revert hv
  decide

theorem sendable_authorization (user : String) (password : Option String) :
    Sendable ("authorization", basicAuth user password) where
  name := (by decide : isMethod "authorization" = true)
  value := by
    have hv := isHeaderValue_of_allVisible (s := String.ofList (Base64.encode
      (Utf8.encode (user.toList ++ ':' :: (password.getD "").toList))))
      (by simpa using Base64.allVisible_encode _)
    have hb : isHeaderValue "Basic " = true := by decide
    simp only [isHeaderValue, basicAuth, String.toList_append, List.all_append] at hv hb ⊢
    rw [hb, hv]
    rfl

variable {method : Option String} {url : String} {c : Content} {auth : Option String}
  {u : Url} {described custom headers : List (String × String)} {body : Body} {r : Request}
  {files : Files} {explicit : Option Encoding} {items : List Item}

theorem allVisible_toString (n : Nat) : AllVisible (toString n).toList := by
  have hd : (toString n).toList = Nat.toDigits 10 n := by simp
  rw [hd]
  exact allVisible_toDigits (by decide) (by decide) n

theorem sendable_described (h : encodeBody c = .ok (body, described)) :
    ∀ e ∈ described, Sendable e := by
  have hform : Sendable ("content-type", formContentType) := ⟨by decide, by decide⟩
  have hparts : Sendable ("content-type", multipartContentType) := ⟨by decide, by decide⟩
  have hname : isMethod "content-length" = true := by decide
  have hlength : ∀ n : Nat, Sendable ("content-length", toString n) := fun n =>
    ⟨hname, isHeaderValue_of_allVisible (allVisible_toString n)⟩
  cases hd : c.data with
  | json fields =>
    simp only [encodeBody, hd] at h
    cases h
    simp
  | form fields =>
    simp only [encodeBody, hd] at h
    split at h
    · split at h
      · cases h
      · cases h
        exact List.forall_mem_cons.2 ⟨hparts, List.forall_mem_singleton.2 (hlength _)⟩
    · split at h
      · cases h
        simp
      · cases h
        simp [hform]

theorem sendable_checkHeaders (h : checkHeaders headers = .ok custom) :
    ∀ e ∈ custom, Sendable e := by
  induction headers generalizing custom with
  | nil =>
    cases h
    simp
  | cons e rest ih =>
    rw [checkHeaders] at h
    split at h
    · cases h
    · next sent hs =>
      split at h
      · next hv =>
        obtain ⟨others, ho, rfl⟩ := Except.map_eq_ok.1 h
        have hn : isMethod e.1 = true := by
          rw [headerName?] at hs
          split at hs
          · next hm => exact (Bool.and_eq_true_iff.1 hm).1
          · cases hs
        have hsent : isMethod sent = true := by
          rw [headerName?_eq_some hs]
          exact isMethod_lower hn
        exact List.forall_mem_cons.2 ⟨⟨hsent, hv⟩, ih ho⟩
      · cases h

theorem sendable_inherent (h : encodeBody c = .ok (body, described))
    (inUrl : Option (String × Option String)) (auth : Option String) :
    ∀ e ∈ inherent inUrl described auth, Sendable e := by
  intro e he
  simp only [inherent, List.mem_append, List.mem_map, Option.mem_toList, Option.map_eq_some_iff]
    at he
  rcases he with (⟨v, ⟨p, -, rfl⟩, rfl⟩ | he) | ⟨v, ⟨a, -, rfl⟩, rfl⟩
  · exact sendable_authorization _ _
  · exact sendable_described h e he
  · exact sendable_authorization _ _

theorem Built.sendable (hb : Built method url c auth u described custom r) :
    ∀ e ∈ r.headers.toList, Sendable e := by
  intro e he
  have haccept : Sendable ("accept", anyAccept) := ⟨by decide, by decide⟩
  have hown : ∀ h : HeaderMap, e ∈ (withAccept h).toList →
      e = ("accept", anyAccept) ∨ e ∈ h.toList := by
    intro h he
    rw [withAccept] at he
    split at he
    · exact .inr he
    · exact HeaderMap.mem_toList_append he
  rw [hb.headers] at he
  rcases hown _ he with rfl | he
  · exact haccept
  rcases HeaderMap.mem_toList_override he with he | he
  · exact sendable_checkHeaders hb.checked e (HeaderMap.mem_toList_ofList he)
  · exact sendable_inherent hb.encoded _ _ e (HeaderMap.mem_toList_ofList he)

theorem visible_addQuery (h : u.Visible) (pairs : List (String × String)) :
    (u.addQuery pairs).Visible := by
  rw [Url.addQuery]
  split
  · exact h
  · refine ⟨h.path, fun q hq => ?_, h.host⟩
    obtain rfl := Option.some.inj hq
    rw [String.toList_ofList]
    refine Urlencoded.allVisible_append_pairs ?_ pairs
    cases hu : u.query with
    | none => exact allVisible_nil
    | some q => exact h.query q hu

theorem takeCredentials_parts (u : Url) : (takeCredentials u).1.host = u.host ∧
    (takeCredentials u).1.port = u.port ∧ (takeCredentials u).1.path = u.path ∧
    (takeCredentials u).1.query = u.query := by
  simp only [takeCredentials]
  split
  · exact ⟨rfl, rfl, rfl, rfl⟩
  · split
    · exact ⟨rfl, rfl, rfl, rfl⟩
    · split <;> exact ⟨rfl, rfl, rfl, rfl⟩

theorem addQuery_host_port (u : Url) (pairs : List (String × String)) :
    (u.addQuery pairs).host = u.host ∧ (u.addQuery pairs).port = u.port := by
  rw [Url.addQuery]
  split <;> exact ⟨rfl, rfl⟩

theorem Built.hostField (hb : Built method url c auth u described custom r) :
    hostField r.url = hostField u ∧ r.url.host.isSome = true := by
  obtain ⟨hhost, hport, -, -⟩ := takeCredentials_parts (u.addQuery c.query.entries)
  obtain ⟨hh, hp⟩ := addQuery_host_port u c.query.entries
  rw [← hb.url] at hhost hport
  constructor
  · simp only [Http.hostField, Url.portText, hhost, hport, hh, hp]
  · rw [hhost]
    exact hb.hasHost

theorem Built.visible (hb : Built method url c auth u described custom r) : r.url.Visible := by
  have hh : u.host.isSome = true := by
    rw [← (addQuery_host_port u c.query.entries).1]
    exact hb.hasHost
  have hv := visible_addQuery (Url.visible_of_parse hb.parsed hh) c.query.entries
  obtain ⟨hhost, -, hpath, hquery⟩ := takeCredentials_parts (u.addQuery c.query.entries)
  rw [hb.url]
  exact ⟨hpath ▸ hv.path, hquery ▸ hv.query, hhost ▸ hv.host⟩

theorem allVisible_target (h : u.Visible) : AllVisible u.target.toList := by
  have hq := h.query
  rw [Url.target, String.toList_append]
  refine allVisible_append.2 ⟨h.path, ?_⟩
  cases hu : u.query with
  | none => exact allVisible_nil
  | some q =>
    rw [hu] at hq
    rw [String.toList_append]
    exact allVisible_append.2 ⟨by decide, hq q rfl⟩

theorem allVisible_portText (u : Url) : AllVisible u.portText.toList := by
  rw [Url.portText]
  split
  · rw [String.toList_append]
    exact allVisible_append.2 ⟨by decide, allVisible_toString _⟩
  · exact allVisible_nil

theorem sendable_hostField (h : u.Visible) : ∀ e ∈ hostField u, Sendable e := by
  intro e he
  obtain ⟨host, hh, rfl⟩ := Option.map_eq_some_iff.1 he
  have hname : isMethod "Host" = true := by decide
  refine ⟨hname, isHeaderValue_of_allVisible ?_⟩
  rw [String.toList_append]
  exact allVisible_append.2 ⟨h.host host hh, allVisible_portText u⟩

theorem Built.sendable_shownFields (hb : Built method url c auth u described custom r) :
    ∀ e ∈ shownFields r, Sendable e := by
  intro e he
  rw [shownFields, List.mem_append, Option.mem_toList] at he
  rcases he with he | he
  · exact sendable_hostField hb.visible e he
  · exact hb.sendable e he

theorem Built.splitOn_firstLine (hb : Built method url c auth u described custom r) :
    splitOn ' ' (firstLine r) = [r.method.toList, r.url.target.toList, "HTTP/1.1".toList] := by
  have hblank : ¬ IsVisible ' ' := by decide
  have hm : ' ' ∉ r.method.toList := by
    rw [hb.method]
    exact (isMethod_visible hb.isMethod).2.1.notMem hblank
  have ht : ' ' ∉ r.url.target.toList := (allVisible_target hb.visible).notMem hblank
  rw [firstLine, splitOn_append_cons, splitOn_append_cons, splitOn_of_notMem hm,
    splitOn_of_notMem ht]
  rfl

theorem Built.headLines (hb : Built method url c auth u described custom r) :
    headLines r.display = firstLine r :: (shownFields r).map fieldLine := by
  have hbreak : ¬ IsVisible '\n' := by decide
  have hfirst : firstLine r ≠ [] ∧ '\n' ∉ firstLine r := by
    have hm : '\n' ∉ r.method.toList := by
      rw [hb.method]
      exact (isMethod_visible hb.isMethod).2.1.notMem hbreak
    have ht : '\n' ∉ r.url.target.toList := (allVisible_target hb.visible).notMem hbreak
    constructor
    · simp [firstLine]
    · simp [firstLine, hm, ht]
  have hfields : ∀ l ∈ (shownFields r).map fieldLine, l ≠ [] ∧ '\n' ∉ l := by
    intro l hl
    obtain ⟨e, he, rfl⟩ := List.mem_map.1 hl
    have hs := hb.sendable_shownFields e he
    have hn : '\n' ∉ e.1.toList := (isMethod_visible hs.name).2.1.notMem hbreak
    have hv : '\n' ∉ e.2.toList := notMem_of_isHeaderValue hs.value
    constructor
    · simp [fieldLine]
    · simp [fieldLine, hn, hv]
  rw [Request.display, head_eq_lines]
  exact headLines_ofList (List.forall_mem_cons.2 ⟨hfirst, hfields⟩) (bodyText_starts r.body)

theorem Built.readFields (hb : Built method url c auth u described custom r) :
    ((shownFields r).map fieldLine).map readField? = (shownFields r).map some := by
  rw [List.map_map]
  refine List.map_congr_left fun e he => ?_
  exact readField?_fieldLine (isMethod_visible (hb.sendable_shownFields e he).name).2.2

/-- The lines of a head are those of the request and no others: method and target, the host of the
URL if it has one, and each header with its value. Behind them there is the body, if any. -/
theorem build_shows_head (h : build method url c auth = .ok r) :
    ∃ first fields, headLines r.display = first :: fields ∧
      splitOn ' ' first = [r.method.toList, r.url.target.toList, "HTTP/1.1".toList] ∧
      fields.map readField? = ((hostField r.url).toList ++ r.headers.toList).map some ∧
      r.display.toList = (first :: fields).flatMap (· ++ ['\n']) ++ bodyText r.body := by
  obtain ⟨u, described, custom, hb⟩ := exists_built h
  refine ⟨firstLine r, (shownFields r).map fieldLine, hb.headLines, hb.splitOn_firstLine,
    hb.readFields, ?_⟩
  rw [Request.display, String.toList_ofList, head_eq_lines]

theorem build_shows_head_breaks :
    let c : Content := {
      headers := ⟨[("X-A", some ": b: c"), ("Host", some "x"), ("x-a", some "")]⟩
      data := .form ⟨[("a", "\n\nGET / HTTP/1.1")]⟩
      uploads := .empty
      query := ⟨[("a b\n", "&")]⟩
      encoding := .form }
    ∃ r first fields, build (some "PUT") "http://u@[::1]:8080/a b\n?q" c (some "x:\nY: z") = .ok r ∧
      headLines r.display = first :: fields ∧
      splitOn ' ' first = ["PUT".toList, "/a%20b?q&a+b%0A=%26".toList, "HTTP/1.1".toList] ∧
      fields.map readField? = [some ("Host", "[::1]:8080"), some ("authorization", "Basic dTo="),
        some ("authorization", "Basic eDoKWTogeg=="), some ("content-type", formContentType),
        some ("x-a", ": b: c"), some ("x-a", ""), some ("host", "x"), some ("accept", anyAccept),
        some ("user-agent", userAgent)] := by
  intro c
  obtain ⟨r, hr, hp⟩ : ∃ r, build (some "PUT") "http://u@[::1]:8080/a b\n?q" c (some "x:\nY: z") =
      .ok r ∧ decide (r.method = "PUT" ∧ r.url.target = "/a%20b?q&a+b%0A=%26" ∧
        (hostField r.url).toList ++ r.headers.toList = [("Host", "[::1]:8080"),
          ("authorization", "Basic dTo="), ("authorization", "Basic eDoKWTogeg=="),
          ("content-type", formContentType), ("x-a", ": b: c"), ("x-a", ""), ("host", "x"),
          ("accept", anyAccept), ("user-agent", userAgent)]) = true :=
    Except.any_toOption.1 (by decide +kernel)
  obtain ⟨hm, ht, hf⟩ := of_decide_eq_true hp
  obtain ⟨first, fields, hlines, hfirst, hfields, -⟩ := build_shows_head hr
  refine ⟨r, first, fields, hr, hlines, ?_, ?_⟩
  · rw [hfirst, hm, ht]
  · rw [hfields, hf]
    rfl

theorem given_withDefaults_host : (withDefaults c).given "Host" = c.headers.given "Host" := by
  rw [Headers.given, getAll_withDefaults_of_ne (by decide) (by decide) (by decide), Headers.given]

theorem Built.values_host (hb : Built method url c auth u described custom r) :
    r.headers.values "Host" = c.headers.given "Host" := by
  have haccept : sameName "accept" "Host" = false := by decide
  have hauth : sameName "authorization" "Host" = false := by decide
  have htype : sameName "content-type" "Host" = false := by decide
  have hlength : sameName "content-length" "Host" = false := by decide
  have hown : valuesOf "Host" (inherent (takeCredentials (u.addQuery c.query.entries)).2
      described auth) = [] := by
    simpa [hauth, htype, hlength] using not_congr (valuesOf_inherent_ne_nil hb.encoded
      (takeCredentials (u.addQuery c.query.entries)).2 auth "Host")
  rw [hb.values, hown, haccept, given_withDefaults_host]
  by_cases hg : c.headers.given "Host" = [] <;> simp [hg]

theorem Built.filterMap_readField? (hb : Built method url c auth u described custom r) :
    (Http.headLines r.display).tail.filterMap readField? = shownFields r := by
  have hr := congrArg (List.filterMap id) hb.readFields
  rw [hb.headLines, List.tail_cons]
  simpa [List.filterMap_map, Function.comp_def] using hr

/-- A head names the host of the URL, with its port if there is one to name; and then each host that
the items give. -/
theorem build_shows_hosts (hc : ofItems files explicit items = .ok c)
    (hb : build method url c auth = .ok r) :
    ∃ u host values, Url.parse url = .ok u ∧ u.host = some host ∧
      List.Forall₂ (Item.HasHeader files) (forHeader "Host" items) values ∧
      valuesOf "Host" ((headLines r.display).tail.filterMap readField?) =
        (host.spell ++ u.portText) :: (values.rtakeWhile Option.isSome).reduceOption := by
  obtain ⟨u, described, custom, hb⟩ := exists_built hb
  obtain ⟨values, hv, hg⟩ := (ofItems_eq_ok_iff.1 hc).2.getAll_headers "Host"
  obtain ⟨hfield, hsome⟩ := hb.hostField
  have hh : u.host.isSome = true := by
    rw [← (addQuery_host_port u c.query.entries).1]
    exact hb.hasHost
  obtain ⟨host, hhost⟩ := Option.isSome_iff_exists.1 hh
  refine ⟨u, host, values, hb.parsed, hhost, hv, ?_⟩
  have hgiven : r.headers.values "Host" = (values.rtakeWhile Option.isSome).reduceOption := by
    rw [hb.values_host, Headers.given, hg, Headers.reduceOption_foldl_join]
  have hs : sameName "Host" "Host" = true := by decide
  rw [hb.filterMap_readField?, shownFields, valuesOf_append, ← HeaderMap.values, hgiven, hfield,
    Http.hostField, hhost]
  simp [valuesOf, hs]

theorem build_shows_hosts_given :
    let files : Files := ⟨fun _ => .error .notFound, fun _ => false, "", fun _ => none⟩
    let items : List Item := [⟨"HOST", "w", .header, "HOST:w"⟩, ⟨"host", "", .header, "host:"⟩,
      ⟨"Host", "x", .header, "Host:x"⟩]
    ∃ c r, ofItems files none items = .ok c ∧ build none "http://[::1]:8080/" c none = .ok r ∧
      valuesOf "Host" ((headLines r.display).tail.filterMap readField?) = ["[::1]:8080", "x"] := by
  intro files items
  let c : Content := ⟨⟨[("HOST", some "x")]⟩, .json [], .empty, .empty, .json⟩
  have hc : ofItems files none items = .ok c := by
    subst files items c
    rfl
  obtain ⟨r, hr⟩ : ∃ r, build none "http://[::1]:8080/" c none = .ok r :=
    Except.isOk_iff.1 (by decide +kernel)
  obtain ⟨v, hv, hvp⟩ : ∃ v, Url.parse "http://[::1]:8080/" = .ok v ∧
      decide (v.host.map (·.spell ++ v.portText) = some "[::1]:8080") = true :=
    Except.any_toOption.1 (by decide +kernel)
  obtain ⟨u, host, values, hu, hhost, hvalues, hshown⟩ := build_shows_hosts hc hr
  obtain rfl : v = u := Except.ok.inj (hv.symm.trans hu)
  have hh : host.spell ++ v.portText = "[::1]:8080" := by
    have hm := of_decide_eq_true hvp
    rw [hhost] at hm
    exact Option.some.inj hm
  have hall : forHeader "Host" items = items := by
    subst files items c
    rfl
  have hitems : values = [some "w", none, some "x"] := by
    rw [hall] at hvalues
    simpa [items, Item.HasHeader, Item.decode, List.forall₂_cons_left_iff] using hvalues
  refine ⟨c, r, hc, hr, ?_⟩
  rw [hshown, hh, hitems]
  rfl

/-- The host of the URL is shown although the items give another one. -/
theorem build_shows_two_hosts :
    let files : Files := ⟨fun _ => .error .notFound, fun _ => false, "", fun _ => none⟩
    ∃ c r, ofItems files none [⟨"Host", "x", .header, "Host:x"⟩] = .ok c ∧
      build none "http://[::1]/" c none = .ok r ∧ r.headers.values "Host" = ["x"] ∧
      valuesOf "Host" ((headLines r.display).tail.filterMap readField?) = ["[::1]", "x"] := by
  intro files
  let c : Content := ⟨⟨[("Host", some "x")]⟩, .json [], .empty, .empty, .json⟩
  have hc : ofItems files none [⟨"Host", "x", .header, "Host:x"⟩] = .ok c := rfl
  obtain ⟨r, hr, hv⟩ : ∃ r, build none "http://[::1]/" c none = .ok r ∧
      decide (r.headers.values "Host" = ["x"] ∧
        valuesOf "Host" ((headLines r.display).tail.filterMap readField?) = ["[::1]", "x"]) = true :=
    Except.any_toOption.1 (by decide +kernel)
  obtain ⟨hsent, hshown⟩ := of_decide_eq_true hv
  exact ⟨c, r, hc, hr, hsent, hshown⟩

end Http

end Courier
