import Courier.Proofs.Http.Sent
import Courier.Proofs.Text.Urlencoded

/-! Pairs that a request carries: those of its query, and those of a form. Both are read back as the
items give them, and what the URL had in its query stays in front. -/

namespace Courier

def Url.pairs (u : Url) : List (String × String) := Urlencoded.decode (u.query.getD "").toList

theorem Url.pairs_addQuery (u : Url) (pairs : List (String × String)) :
    (u.addQuery pairs).pairs = u.pairs ++ pairs := by
  rw [addQuery]
  split
  · next hp => simp [List.isEmpty_iff.1 hp]
  · simp [Url.pairs, Urlencoded.decode_append]

namespace Http

open Content

variable {method : Option String} {url : String} {c : Content} {auth : Option String}
  {u : Url} {described custom : List (String × String)} {body : Body} {r : Request}
  {files : Files} {explicit : Option Encoding} {items : List Item}

theorem pairs_takeCredentials (u : Url) : (takeCredentials u).1.pairs = u.pairs := by
  simp only [takeCredentials]
  split
  · rfl
  · split
    · rfl
    · split <;> rfl

theorem Built.pairs (hb : Built method url c auth u described custom r) :
    r.url.pairs = u.pairs ++ c.query.entries := by
  rw [hb.url, pairs_takeCredentials, Url.pairs_addQuery]

theorem encodeBody_form {fields : MultiMap String} (hd : c.data = .form fields)
    (hs : c.sendsParts = false) (hf : c.sendsFields = true)
    (h : encodeBody c = .ok (body, described)) :
    body = .text (Urlencoded.encode fields.entries) := by
  simp only [Content.sendsParts, Content.sendsFields, hd] at hs hf
  simp only [encodeBody, hd, hs, Bool.false_eq_true, if_false] at h
  rw [if_neg (by simpa using hf)] at h
  cases h
  rfl

/-- The query holds what the URL had there, and behind it the parameters of the items; a form holds
the fields of the items. Both are in the order of the items, and whole. -/
theorem build_carries_pairs (hc : ofItems files explicit items = .ok c)
    (hb : build method url c auth = .ok r) :
    (∃ u parameters, Url.parse url = .ok u ∧
      Entries (Item.HasText files) (forPurpose .query items) parameters ∧
      r.url.pairs = u.pairs ++ parameters) ∧
    (effective explicit items = .form → ¬ HasUploads items → forPurpose .data items ≠ [] →
      ∃ fields line, Entries (Item.HasField files) (forPurpose .data items) fields ∧
        r.body = .text line ∧ Urlencoded.decode line = fields) := by
  obtain ⟨u, described, custom, hb⟩ := exists_built hb
  obtain ⟨-, hr⟩ := ofItems_eq_ok_iff.1 hc
  refine ⟨⟨u, c.query.entries, hb.parsed, hr.query, hb.pairs⟩, fun he hu hne => ?_⟩
  obtain ⟨fields, hf, hd⟩ := hr.form (by simp [he])
  have hs : c.sendsParts = false := by
    rw [Bool.eq_false_iff, Ne, hr.sendsParts_iff]
    simp [he, hu]
  have hsf : c.sendsFields = true := hr.sendsFields_iff.2 ⟨by simp [he], hne⟩
  exact ⟨fields.entries, _, hf, encodeBody_form hd hs hsf hb.encoded, Urlencoded.decode_encode _⟩

theorem build_carries_pairs_separators :
    let files : Files := ⟨fun _ => .error .notFound, fun _ => false, "", fun _ => none⟩
    let items : List Item := [⟨"a&b", "c=é %41+", .query, "a&b==c=é %41+"⟩,
      ⟨"n", "[true]", .field, "n=[true]"⟩, ⟨"", "", .query, "=="⟩, ⟨"", "&\n", .field, "=&\n"⟩]
    let c : Content := {
      headers := .empty
      data := .form ⟨[("n", "[true]"), ("", "&\n")]⟩
      uploads := .empty
      query := ⟨[("a&b", "c=é %41+"), ("", "")]⟩
      encoding := .form }
    ofItems files (some .form) items = .ok c ∧
      ∃ r line, build none "http://[::1]/?x=%26+y&#top" c none = .ok r ∧
        r.url.pairs = [("x", "& y"), ("a&b", "c=é %41+"), ("", "")] ∧
        r.body = .text line ∧ Urlencoded.decode line = [("n", "[true]"), ("", "&\n")] := by
  intro files items c
  have hc : ofItems files (some .form) items = .ok c := rfl
  obtain ⟨r, hr⟩ : ∃ r, build none "http://[::1]/?x=%26+y&#top" c none = .ok r :=
    Except.isOk_iff.1 (by decide +kernel)
  obtain ⟨v, hv, hvp⟩ : ∃ v, Url.parse "http://[::1]/?x=%26+y&#top" = .ok v ∧
      decide (v.pairs = [("x", "& y")]) = true := Except.any_toOption.1 (by decide +kernel)
  obtain ⟨⟨u, parameters, hu, hp, hpairs⟩, hform⟩ := build_carries_pairs hc hr
  obtain ⟨fields, line, hf, hb, hl⟩ := hform rfl (by decide) (by decide)
  obtain rfl : v = u := Except.ok.inj (hv.symm.trans hu)
  have hparameters : parameters = [("a&b", "c=é %41+"), ("", "")] := by
    simpa [Entries, forPurpose, items, Item.purpose, Separator.purpose, Item.HasText, Item.decode,
      List.forall₂_cons_left_iff] using hp
  have hfields : fields = [("n", "[true]"), ("", "&\n")] := by
    simpa [Entries, forPurpose, items, Item.purpose, Separator.purpose, Item.HasField, Item.decode,
      List.forall₂_cons_left_iff] using hf
  refine ⟨hc, r, line, hr, ?_, hb, ?_⟩
  · rw [hpairs, of_decide_eq_true hvp, hparameters]
    rfl
  · rw [hl, hfields]

end Http

end Courier
