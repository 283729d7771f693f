import Courier.Proofs.Http.Sent
import Courier.Proofs.Text.Base64
import Courier.Proofs.Text.Utf8

/-! Credentials. Those in the URL and those that are given beside it do not know of each other: each
has a header of its own. -/

namespace Courier

namespace Http

open Content

variable {method : Option String} {url : String} {c : Content} {u : Url}
  {described custom : List (String × String)} {body : Body} {r : Request} {files : Files}
  {explicit : Option Encoding} {items : List Item} {credentials : String}

/-- User name and password with a colon between them, or behind a user name that stands alone. -/
def pairText (credentials : String) : List Char :=
  if ':' ∈ credentials.toList then credentials.toList else credentials.toList ++ [':']

def credentialDigits (credentials : String) : List Char :=
  Base64.encode (Utf8.encode (pairText credentials))

theorem read_credentialDigits (credentials : String) :
    (Base64.decode? (credentialDigits credentials)).bind Utf8.decode? =
      some (pairText credentials) := by
  rw [credentialDigits, Base64.decode?_encode, Option.bind_some, Utf8.decode?_encode]

theorem basicAuth_splitCredentials (credentials : String) :
    basicAuth (splitCredentials credentials).1 (splitCredentials credentials).2 =
      "Basic " ++ String.ofList (credentialDigits credentials) := by
  have hin : ':' ∈ credentials.toList ↔ [':'] <:+: credentials.toList :=
    (List.singleton_infix_iff _ _).symm
  rw [splitCredentials, credentialDigits, pairText]
  cases hs : splitOnce? [':'] credentials.toList with
  | none =>
    rw [splitOnce?_eq_none, ← hin] at hs
    simp [basicAuth, hs]
  | some p =>
    have hc := splitOnce?_eq_some hs
    simp [basicAuth, hc]

theorem valuesOf_inherent_authorization (h : encodeBody c = .ok (body, described))
    (inUrl : Option (String × Option String)) (credentials : String) :
    valuesOf "authorization" (inherent inUrl described (some credentials)) =
      inUrl.toList.map (fun (user, password) => basicAuth user password) ++
        ["Basic " ++ String.ofList (credentialDigits credentials)] := by
  have ha : sameName "authorization" "authorization" = true := by decide
  have ht : sameName "content-type" "authorization" = false := by decide
  have hl : sameName "content-length" "authorization" = false := by decide
  have hd : valuesOf "authorization" described = [] := by
    rw [valuesOf_eq_nil]
    intro e he
    rcases (mem_names_described h).1 (List.mem_map_of_mem he) with ⟨hn, -⟩ | ⟨hn, -⟩ <;>
      simp [hn, ht, hl]
  simp only [inherent, valuesOf_append, valuesOf_map_prodMk, ha, if_true, hd, List.append_nil]
  rw [← basicAuth_splitCredentials]
  cases inUrl <;> rfl

theorem Built.values_authorization
    (hb : Built method url c (some credentials) u described custom r)
    (hnil : c.headers.getAll "authorization" = []) :
    r.headers.values "authorization" =
      (takeCredentials u).2.toList.map (fun (user, password) => basicAuth user password) ++
        ["Basic " ++ String.ofList (credentialDigits credentials)] := by
  have haccept : sameName "accept" "authorization" = false := by decide
  have hgiven : (withDefaults c).given "authorization" = [] := by
    rw [Headers.given, getAll_withDefaults_of_ne haccept (by decide) (by decide), hnil]
    rfl
  rw [hb.values, hgiven, haccept, valuesOf_inherent_authorization hb.encoded,
    takeCredentials_addQuery]
  simp

/-- Without an `authorization` header among the items, a request for given credentials has first the
header of the credentials in its URL, if there are any, and then that of the given ones, which reads
back as user name, colon and password. So it has exactly one if and only if its URL has none. -/
theorem build_authorizes (hc : ofItems files explicit items = .ok c)
    (hb : build method url c (some credentials) = .ok r)
    (hn : forHeader "authorization" items = []) :
    let given := "Basic " ++ String.ofList (credentialDigits credentials)
    (Base64.decode? (credentialDigits credentials)).bind Utf8.decode? =
        some (pairText credentials) ∧
      ∃ u, Url.parse url = .ok u ∧
        r.headers.values "authorization" =
          (takeCredentials u).2.toList.map (fun (user, password) => basicAuth user password) ++
            [given] ∧
        (r.headers.values "authorization" = [given] ↔ ¬ HoldsCredentials url) := by
  intro given
  obtain ⟨u, described, custom, hb⟩ := exists_built hb
  have hnil := (ofItems_eq_ok_iff.1 hc).2.getAll_of_forHeader_eq_nil hn
  have hv := hb.values_authorization hnil
  refine ⟨read_credentialDigits credentials, u, hb.parsed, hv, ?_⟩
  rw [hv, hb.holdsCredentials_iff, takeCredentials_addQuery]
  cases (takeCredentials u).2 <;> simp [given]

theorem build_authorizes_colons :
    let files : Files := ⟨fun _ => .error .notFound, fun _ => false, "", fun _ => none⟩
    let items : List Item := [⟨"Accept", "", .header, "Accept:"⟩, ⟨"a", "1", .field, "a=1"⟩]
    forHeader "authorization" items = [] ∧
      ∃ c r, ofItems files (some .form) items = .ok c ∧
        build none "http://[::1]/?x=u:p@" c (some ":é:") = .ok r ∧
        pairText ":é:" = [':', 'é', ':'] ∧
        (Base64.decode? "OsOpOg==".toList).bind Utf8.decode? = some (pairText ":é:") ∧
        r.headers.values "authorization" = ["Basic OsOpOg=="] ∧
        ¬ HoldsCredentials "http://[::1]/?x=u:p@" := by
  intro files items
  have hn : forHeader "authorization" items = [] := rfl
  let c : Content := ⟨⟨[("Accept", none)]⟩, .form ⟨[("a", "1")]⟩, .empty, .empty, .form⟩
  have hc : ofItems files (some .form) items = .ok c := rfl
  obtain ⟨r, hr⟩ : ∃ r, build none "http://[::1]/?x=u:p@" c (some ":é:") = .ok r :=
    Except.isOk_iff.1 (by decide +kernel)
  obtain ⟨v, hv, hnone⟩ : ∃ v, Url.parse "http://[::1]/?x=u:p@" = .ok v ∧
      decide ((takeCredentials v).2 = none) = true :=
    Except.any_toOption.1 (by decide +kernel)
  have hdigits : credentialDigits ":é:" = "OsOpOg==".toList := by decide +kernel
  obtain ⟨hread, u, hu, hvalues, hone⟩ := build_authorizes hc hr hn
  obtain rfl : v = u := Except.ok.inj (hv.symm.trans hu)
  have hshown : r.headers.values "authorization" = ["Basic OsOpOg=="] := by
    rw [hvalues, of_decide_eq_true hnone, hdigits]
    rfl
  refine ⟨hn, c, r, hc, hr, by decide +kernel, hdigits ▸ hread, hshown, hone.1 ?_⟩
  rw [hshown, hdigits]
  rfl

/-- The credentials of the URL are sent although others are given. -/
theorem build_authorizes_twice :
    let files : Files := ⟨fun _ => .error .notFound, fun _ => false, "", fun _ => none⟩
    ∃ c r, ofItems files none [] = .ok c ∧
      build none "http://user:pass@[::1]/" c (some "o:p") = .ok r ∧
      forHeader "authorization" [] = [] ∧
      r.headers.values "authorization" = ["Basic dXNlcjpwYXNz", "Basic bzpw"] := by
  intro files
  let c : Content := ⟨.empty, .json [], .empty, .empty, .json⟩
  have hc : ofItems files none [] = .ok c := rfl
  obtain ⟨r, hr, hv⟩ : ∃ r, build none "http://user:pass@[::1]/" c (some "o:p") = .ok r ∧
      decide (r.headers.values "authorization" = ["Basic dXNlcjpwYXNz", "Basic bzpw"]) = true :=
    Except.any_toOption.1 (by decide +kernel)
  exact ⟨c, r, hc, hr, rfl, of_decide_eq_true hv⟩

end Http

end Courier
