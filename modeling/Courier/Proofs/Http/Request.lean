import Courier.Http.Request
import Courier.Proofs.Headers

/-! What a request that was built is made of, and which headers it has. Its own headers describe the
body and carry credentials; the headers of the items, and the defaults among them, take the place of
its own name by name. -/

namespace Courier

namespace Content

def sendsParts (c : Content) : Bool :=
  match c.data with
  | .json _ => false
  | .form _ => c.encoding = .multipart || !c.uploads.isEmpty

def sendsFields (c : Content) : Bool :=
  match c.data with
  | .json _ => false
  | .form fields => !fields.isEmpty

end Content

namespace Http

/-- Credentials of the URL, headers of the body, and explicit credentials. -/
def inherent (inUrl : Option (String × Option String)) (described : List (String × String))
    (auth : Option String) : List (String × String) :=
  let credentials := (inUrl.map fun (user, password) => basicAuth user password).toList
  let explicit := (auth.map fun a =>
    let (user, password) := splitCredentials a
    basicAuth user password).toList
  credentials.map ("authorization", ·) ++ described ++ explicit.map ("authorization", ·)

def withAccept (h : HeaderMap) : HeaderMap :=
  if h.contains "accept" then h else h.append "accept" anyAccept

/-- A request, and what it was built from. -/
structure Built (method : Option String) (url : String) (c : Content) (auth : Option String)
    (u : Url) (described custom : List (String × String)) (r : Request) : Prop where
  isMethod : isMethod (c.method method) = true
  parsed : Url.parse url = .ok u
  encoded : encodeBody c = .ok (r.body, described)
  hasHost : (u.addQuery c.query.entries).host.isSome = true
  checked : checkHeaders (withDefaults c).sent = .ok custom
  method : r.method = c.method method
  url : r.url = (takeCredentials (u.addQuery c.query.entries)).1
  headers : r.headers = withAccept ((HeaderMap.ofList
    (inherent (takeCredentials (u.addQuery c.query.entries)).2 described auth)).override
      (.ofList custom))

variable {method : Option String} {url : String} {c : Content} {auth : Option String}
  {u : Url} {described custom headers : List (String × String)} {body : Body} {r : Request}

theorem exists_built (h : build method url c auth = .ok r) :
    ∃ u described custom, Built method url c auth u described custom r := by
  simp only [build] at h
  split at h
  · cases h
  · next hm =>
    split at h
    · cases h
    · next u hu =>
      split at h
      · cases h
      · next body described hb =>
        split at h
        · cases h
        · next hh =>
          split at h
          · cases h
          · next custom hc =>
            cases h
            exact ⟨u, described, custom, by simpa using hm, hu, hb,
              by simpa [Option.isNone_iff_eq_none, Option.isSome_iff_ne_none] using hh,
              hc, rfl, rfl, rfl⟩

theorem names_described (h : encodeBody c = .ok (body, described)) :
    described.map Prod.fst =
      if c.sendsParts then ["content-type", "content-length"]
      else if c.sendsFields then ["content-type"] else [] := by
  cases hd : c.data with
  | json fields =>
    simp only [encodeBody, hd] at h
    cases h
    simp [Content.sendsParts, Content.sendsFields, hd]
  | form fields =>
    simp only [encodeBody, hd] at h
    simp only [Content.sendsParts, Content.sendsFields, hd]
    split at h
    · next hm =>
      rw [if_pos hm]
      split at h
      · cases h
      · cases h
        rfl
    · next hm =>
      rw [if_neg hm]
      split at h <;> cases h <;> simp [*]

theorem lowered_described (h : encodeBody c = .ok (body, described)) :
    ∀ e ∈ described, lower e.1 = e.1 := by
  intro e he
  have hn : e.1 ∈ described.map Prod.fst := List.mem_map_of_mem he
  have ht : lower "content-type" = "content-type" := by decide
  have hl : lower "content-length" = "content-length" := by decide
  rw [names_described h] at hn
  split at hn
  · simp only [List.mem_cons, List.not_mem_nil, or_false] at hn
    rcases hn with hn | hn <;> rwa [hn]
  · split at hn
    · rwa [List.mem_singleton.1 hn]
    · cases hn

theorem lowered_inherent (h : encodeBody c = .ok (body, described))
    (inUrl : Option (String × Option String)) (auth : Option String) :
    ∀ e ∈ inherent inUrl described auth, lower e.1 = e.1 := by
  intro e he
  have ha : lower "authorization" = "authorization" := by decide
  simp only [inherent, List.mem_append, List.mem_map] at he
  rcases he with (⟨v, -, rfl⟩ | he) | ⟨v, -, rfl⟩
  · exact ha
  · exact lowered_described h e he
  · exact ha

theorem headerName?_eq_some {name sent : String} (h : headerName? name = some sent) :
    sent = lower name := by
  rw [headerName?] at h
  split at h
  · exact (Option.some.inj h).symm
  · cases h

theorem checkHeaders_eq_ok (h : checkHeaders headers = .ok custom) :
    custom = headers.map fun e => (lower e.1, e.2) := by
  induction headers generalizing custom with
  | nil =>
    cases h
    rfl
  | cons e rest ih =>
    rw [checkHeaders] at h
    split at h
    · cases h
    · next sent hs =>
      split at h
      · obtain ⟨others, ho, rfl⟩ := Except.map_eq_ok.1 h
        rw [ih ho, headerName?_eq_some hs, List.map_cons]
      · cases h

theorem valuesOf_map_lower (name : String) :
    valuesOf name (headers.map fun e => (lower e.1, e.2)) = valuesOf name headers := by
  have hs : ∀ a, sameName (lower a) name = sameName a name := by
    intro a
    rw [Bool.eq_iff_iff, sameName_iff, sameName_iff, lower_lower]
  simp [valuesOf, List.filter_map, Function.comp_def, hs]

theorem getAll_withDefaults {name : String} (hne : c.headers.getAll name ≠ []) :
    (withDefaults c).getAll name = c.headers.getAll name := by
  have hd : ∀ key value : String, ∀ h : Headers, h.getAll name = c.headers.getAll name →
      (h.setDefault key value).getAll name = c.headers.getAll name := by
    intro key value h hh
    rw [Headers.getAll_setDefault_of_ne_nil (hh ▸ hne), hh]
  simp only [withDefaults]
  split
  · split
    · exact hd _ _ _ (hd _ _ _ rfl)
    · exact hd _ _ _ (hd _ _ _ (hd _ _ _ rfl))
  · exact hd _ _ _ (hd _ _ _ rfl)

theorem given_withDefaults {name : String} (hne : c.headers.getAll name ≠ []) :
    (withDefaults c).given name = c.headers.given name := by
  rw [Headers.given, getAll_withDefaults hne, Headers.given]

theorem getAll_withDefaults_of_ne {name : String} (ha : sameName "accept" name = false)
    (hu : sameName "user-agent" name = false) (ht : sameName "content-type" name = false) :
    (withDefaults c).getAll name = c.headers.getAll name := by
  simp only [withDefaults]
  split
  · split <;> simp [Headers.getAll_setDefault, ha, hu, ht]
  · simp [Headers.getAll_setDefault, ha, hu]

theorem getAll_withDefaults_userAgent (hnil : c.headers.getAll "user-agent" = []) :
    (withDefaults c).getAll "user-agent" = [some userAgent] := by
  have ha : sameName "accept" "user-agent" = false := by decide
  have hc : sameName "content-type" "user-agent" = false := by decide
  have hu : sameName "user-agent" "user-agent" = true := by decide
  simp only [withDefaults]
  split
  · split <;> simp [Headers.getAll_setDefault, ha, hc, hu, hnil]
  · simp [Headers.getAll_setDefault, ha, hu, hnil]

theorem tidy_withAccept {h : HeaderMap} (ht : h.Tidy) :
    (withAccept h).Tidy ∧ ∀ name, (withAccept h).values name =
      if sameName "accept" name = true ∧ h.values name = [] then [anyAccept]
      else h.values name := by
  have hl : lower "accept" = "accept" := by decide
  have hs : ∀ name, sameName "accept" name = true → h.values name = h.values "accept" := by
    intro name hn
    rw [HeaderMap.values_eq_find? ht, HeaderMap.values_eq_find? ht, sameName_iff.1 hn]
  rw [withAccept]
  split
  · next hc =>
    rw [ht.contains_iff hl] at hc
    refine ⟨ht, fun name => ?_⟩
    have hno : ¬ (sameName "accept" name = true ∧ h.values name = []) := by
      rintro ⟨hn, hv⟩
      exact hc (hs name hn ▸ hv)
    rw [if_neg hno]
  · next hc =>
    rw [ht.contains_iff hl, not_not] at hc
    refine ⟨ht.append hl anyAccept, fun name => ?_⟩
    rw [ht.values_append hl]
    by_cases hn : sameName "accept" name = true
    · simp [hn, hs name hn, hc]
    · simp [hn]

/-- Each name has the values that the items give it, or else those of the request itself. -/
theorem Built.values (hb : Built method url c auth u described custom r) (name : String) :
    let given := (withDefaults c).given name
    let own := valuesOf name
      (inherent (takeCredentials (u.addQuery c.query.entries)).2 described auth)
    r.headers.values name =
      if given ≠ [] then given
      else if sameName "accept" name = true ∧ own = [] then [anyAccept] else own := by
  intro given own
  have hc := checkHeaders_eq_ok hb.checked
  have hl : ∀ e ∈ custom, lower e.1 = e.1 := by
    rw [hc]
    intro e he
    obtain ⟨f, -, rfl⟩ := List.mem_map.1 he
    exact lower_lower f.1
  have hgiven : valuesOf name custom = given := by
    rw [hc, valuesOf_map_lower, Headers.valuesOf_sent]
  have hown := lowered_inherent hb.encoded
    (takeCredentials (u.addQuery c.query.entries)).2 auth
  obtain ⟨ht, hv⟩ := (HeaderMap.tidy_ofList hown).override (HeaderMap.tidy_ofList hl)
  rw [hb.headers, (tidy_withAccept ht).2, hv, HeaderMap.values_ofList hl,
    HeaderMap.values_ofList hown, hgiven]
  by_cases hg : given = [] <;> simp [hg, own]

end Http

end Courier
