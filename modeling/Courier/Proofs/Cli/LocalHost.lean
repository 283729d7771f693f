import Courier.Proofs.Cli.Address

/-! Addresses that leave out the local host. Digits in front are its port, and whatever comes behind
them is put behind the host as it is: where this is no path, query or fragment, it becomes a part of
the authority, which then is another one. -/

namespace Courier

namespace Cli

/-- Where the authority of an address ends: at a path, a query or a fragment. -/
def endsAuthority (c : Char) : Bool := c = '/' || c = '?' || c = '#'

/-- What stands behind the default scheme, up to path, query or fragment. -/
def authority (address : List Char) : List Char :=
  (address.drop defaultScheme.length).takeWhile fun c => !endsAuthority c

/-- The local host, alone or with digits as its port. -/
def IsLocal (authority : List Char) : Prop :=
  authority = "localhost".toList ∨
    ∃ port, authority = "localhost:".toList ++ port ∧ ∀ c ∈ port, c.isDigit = true

def portText (port : List Char) : List Char := if port.isEmpty then [] else ':' :: port

variable {s port rest : List Char} {url : String}

theorem exists_localPart? (h : ¬ NamesHost s) :
    ∃ t, s = ':' :: t ∧ localPart? s = some t ∧ t.head? ≠ some ':' := by
  rw [NamesHost, not_or, not_not] at h
  obtain ⟨hhead, hcolons⟩ := h
  obtain ⟨t, rfl⟩ := List.head?_eq_some_iff.1 hhead
  have hne : t.head? ≠ some ':' := by
    intro ht
    obtain ⟨u, rfl⟩ := List.head?_eq_some_iff.1 ht
    exact hcolons ⟨u, rfl⟩
  refine ⟨t, rfl, ?_, hne⟩
  unfold localPart?
  split
  · next heq =>
    cases heq
    exact absurd rfl hne
  · next heq => rw [(List.cons.inj heq).2]
  · next hall => exact absurd rfl (hall t)

theorem not_endsAuthority_of_isDigit {c : Char} (h : c.isDigit = true) :
    endsAuthority c = false := by
  rw [Bool.eq_false_iff]
  intro hc
  simp only [endsAuthority, Bool.or_eq_true, decide_eq_true_eq] at hc
  rcases hc with (rfl | rfl) | rfl <;> cases h

theorem not_endsAuthority_of_mem (hport : ∀ c ∈ port, c.isDigit = true) :
    ∀ c ∈ "localhost".toList ++ portText port, (!endsAuthority c) = true := by
  have hname : ∀ c ∈ "localhost".toList, (!endsAuthority c) = true :=
    List.all_eq_true.1 (by decide)
  refine List.forall_mem_append.2 ⟨hname, fun c hc => ?_⟩
  rw [portText] at hc
  split at hc
  · cases hc
  · rcases List.mem_cons.1 hc with rfl | hc
    · rfl
    · rw [not_endsAuthority_of_isDigit (hport c hc), Bool.not_false]

theorem authority_local (hport : ∀ c ∈ port, c.isDigit = true) (rest : List Char) :
    authority (defaultScheme ++ "localhost".toList ++ portText port ++ rest) =
      "localhost".toList ++ portText port ++ rest.takeWhile fun c => !endsAuthority c := by
  rw [authority, List.append_assoc, List.append_assoc, List.drop_left, ← List.append_assoc,
    List.takeWhile_append_of_pos (not_endsAuthority_of_mem hport)]

/-- Text that is neither a port nor digits that go on makes the host another one. -/
theorem isLocal_append_iff (hport : ∀ c ∈ port, c.isDigit = true)
    (hrest : ∀ c ∈ rest.head?, c.isDigit = false) (hcolon : port = [] → ':' ∉ rest.head?) :
    IsLocal ("localhost".toList ++ portText port ++ rest) ↔ rest = [] := by
  constructor
  · intro h
    cases port with
    | nil =>
      rw [portText, List.isEmpty_nil, if_pos rfl, List.append_nil] at h
      rcases h with h | ⟨digits, h, -⟩
      · simpa using h
      · have h : rest = ':' :: digits := (List.append_right_inj "localhost".toList).1 h
        exact absurd (by rw [h]; rfl) (hcolon rfl)
    | cons d port =>
      have hport : portText (d :: port) = ':' :: d :: port := rfl
      rw [hport, List.append_assoc] at h
      rcases h with h | ⟨digits, h, hdigits⟩
      · cases List.append_right_eq_self.1 h
      · have h : d :: port ++ rest = digits :=
          (List.cons.inj ((List.append_right_inj "localhost".toList).1 h)).2
        cases rest with
        | nil => rfl
        | cons c rest =>
          have hc := hdigits c (by rw [← h]; simp)
          rw [hrest c rfl] at hc
          cases hc
  · rintro rfl
    rw [List.append_nil, portText]
    split
    · exact .inl (List.append_nil _)
    · exact .inr ⟨port, rfl, hport⟩

/-- A URL that leaves out the local host gets it, with the digits in front as its port, and the rest
of the text behind. The authority is that of the local host exactly if the rest is empty or begins
with a path, a query or a fragment; otherwise the rest goes on with it. -/
theorem completeUrl_authority (h : ¬ NamesHost url.toList) :
    ∃ port rest, url.toList = ':' :: port ++ rest ∧ (∀ c ∈ port, c.isDigit = true) ∧
      (∀ c ∈ rest.head?, c.isDigit = false) ∧
      (completeUrl url).toList = "http://localhost".toList ++ portText port ++ rest ∧
      authority (completeUrl url).toList =
        "localhost".toList ++ portText port ++ rest.takeWhile (fun c => !endsAuthority c) ∧
      (IsLocal (authority (completeUrl url).toList) ↔ ∀ c ∈ rest.head?, endsAuthority c = true) := by
  obtain ⟨t, hs, hlocal, hne⟩ := exists_localPart? h
  have hport : ∀ c ∈ t.takeWhile Char.isDigit, c.isDigit = true := fun c hc =>
    List.mem_takeWhile_imp hc
  have hrest : ∀ c ∈ (t.dropWhile Char.isDigit).head?, c.isDigit = false := by
    intro c hc
    have hfirst := List.head?_dropWhile_not Char.isDigit t
    rw [Option.mem_def.1 hc] at hfirst
    exact hfirst
  have htext : (completeUrl url).toList = defaultScheme ++ "localhost".toList ++
      portText (t.takeWhile Char.isDigit) ++ t.dropWhile Char.isDigit := by
    rw [completeUrl, completeAddress, hlocal, String.toList_ofList]
    rfl
  have hauthority := authority_local hport (t.dropWhile Char.isDigit)
  rw [← htext] at hauthority
  have hfirst : ∀ c ∈ ((t.dropWhile Char.isDigit).takeWhile fun c => !endsAuthority c).head?,
      c ∈ (t.dropWhile Char.isDigit).head? := by
    intro c hc
    rw [List.head?_takeWhile] at hc
    exact (Option.filter_eq_some_iff.1 hc).1
  have hcolon : t.takeWhile Char.isDigit = [] → ':' ∉ (t.dropWhile Char.isDigit).head? := by
    intro hnil hc
    rw [← List.takeWhile_append_dropWhile (p := Char.isDigit) (l := t), hnil] at hne
    exact hne hc
  refine ⟨t.takeWhile Char.isDigit, t.dropWhile Char.isDigit, ?_, hport, hrest, htext,
    hauthority, ?_⟩
  · rw [hs, List.cons_append, List.takeWhile_append_dropWhile]
  · rw [hauthority, isLocal_append_iff hport (fun c hc => hrest c (hfirst c hc))
      fun hnil hc => hcolon hnil (hfirst _ hc)]
    cases t.dropWhile Char.isDigit with
    | nil => simp
    | cons c rest => cases hc : endsAuthority c <;> simp [hc]

theorem completeUrl_authority_glued :
    ¬ NamesHost ":80.x/a".toList ∧ completeUrl ":80.x/a" = "http://localhost:80.x/a" ∧
      ∃ port rest, ":80.x/a".toList = ':' :: port ++ rest ∧ (∀ c ∈ port, c.isDigit = true) ∧
        (∀ c ∈ rest.head?, c.isDigit = false) ∧
        (completeUrl ":80.x/a").toList = "http://localhost".toList ++ portText port ++ rest ∧
        authority (completeUrl ":80.x/a").toList =
          "localhost".toList ++ portText port ++ rest.takeWhile (fun c => !endsAuthority c) ∧
        (IsLocal (authority (completeUrl ":80.x/a").toList) ↔
          ∀ c ∈ rest.head?, endsAuthority c = true) := by
  have h : ¬ NamesHost ":80.x/a".toList := by
    rw [NamesHost]
    decide
  exact ⟨h, by cbv, completeUrl_authority h⟩

/-- Text behind the colon names another host, here through a mark of credentials. -/
theorem completeUrl_names_other_host :
    ¬ NamesHost ":@[::2]/a".toList ∧
      authority (completeUrl ":@[::2]/a").toList = "localhost@[::2]".toList ∧
      ¬ IsLocal (authority (completeUrl ":@[::2]/a").toList) ∧
      (Url.parse (completeUrl ":@[::2]/a")).toOption.bind Url.host =
        some (.ipv6 [0, 0, 0, 0, 0, 0, 0, 2]) := by
  have hauthority : authority (completeUrl ":@[::2]/a").toList = "localhost@[::2]".toList := by cbv
  refine ⟨?_, hauthority, ?_, by decide +kernel⟩
  · rw [NamesHost]
    decide
  · rw [hauthority]
    rintro (h | ⟨port, h, -⟩)
    · cases h
    · cases h

end Cli

end Courier
