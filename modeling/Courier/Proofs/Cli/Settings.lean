import Courier.Cli.Options
import Courier.Proofs.Cli.Reading

/-! What settings come to: each may be given once, and none depends on another. -/

namespace Courier

namespace Cli

namespace Setting

def flag? : Setting → Option Flag
  | flag f => some f
  | parameter .. => none

def timeout? : Setting → Option Extended
  | parameter .timeout value => Decimal.read? value.toList
  | _ => none

def auth? : Setting → Option String
  | parameter .auth value => some value
  | _ => none

theorem mem_filterMap_flag? {given : List Setting} {f : Flag} :
    f ∈ given.filterMap flag? ↔ flag f ∈ given := by
  rw [List.mem_filterMap]
  constructor
  · rintro ⟨x, hx, hf⟩
    cases x with
    | flag g =>
      cases hf
      exact hx
    | parameter => cases hf
  · exact fun h => ⟨_, h, rfl⟩

theorem switch_of_isSome_timeout? {x : Setting} (h : x.timeout?.isSome) :
    x.switch = .parameter .timeout := by
  rcases x with f | ⟨_ | _, value⟩
  · cases h
  · rfl
  · cases h

theorem switch_of_isSome_auth? {x : Setting} (h : x.auth?.isSome) :
    x.switch = .parameter .auth := by
  rcases x with f | ⟨_ | _, value⟩
  · cases h
  · cases h
  · rfl

def Readable (x : Setting) : Prop := x.switch = .parameter .timeout → x.timeout?.isSome

theorem readable_of_ne {x : Setting} (h : x.switch ≠ .parameter .timeout) : x.Readable :=
  fun hswitch => absurd hswitch h

end Setting

namespace Arguments

variable {a b : Arguments} {given : List Setting} {x : Setting} {s : Switch}

def Has (a : Arguments) : Switch → Prop
  | .flag f => f ∈ a.flags
  | .parameter .timeout => a.timeout.isSome
  | .parameter .auth => a.auth.isSome
  | _ => False

/-- With the settings that are not there yet. -/
def withAll (a : Arguments) (given : List Setting) : Arguments :=
  { a with
    flags := a.flags ++ given.filterMap Setting.flag?
    timeout := a.timeout.or (given.findSome? Setting.timeout?)
    auth := a.auth.or (given.findSome? Setting.auth?) }

theorem withAll_nil (a : Arguments) : a.withAll [] = a := by
  simp [withAll]

theorem withAll_append (a : Arguments) (given others : List Setting) :
    a.withAll (given ++ others) = (a.withAll given).withAll others := by
  simp [withAll, Option.or_assoc]

theorem withAll_flag (a : Arguments) (f : Flag) :
    a.withAll [.flag f] = { a with flags := a.flags ++ [f] } := by
  simp [withAll, Setting.flag?, Setting.timeout?, Setting.auth?]

theorem withAll_timeout (a : Arguments) (value : String) :
    a.withAll [.parameter .timeout value] =
      { a with timeout := a.timeout.or (Decimal.read? value.toList) } := by
  simp [withAll, List.filterMap_cons, Setting.flag?, Setting.timeout?, Setting.auth?]

theorem withAll_auth (a : Arguments) (value : String) :
    a.withAll [.parameter .auth value] = { a with auth := a.auth.or (some value) } := by
  simp [withAll, List.filterMap_cons, Setting.flag?, Setting.timeout?, Setting.auth?]

theorem has_withAll_singleton (hread : x.Readable) :
    (a.withAll [x]).Has s ↔ a.Has s ∨ s = x.switch := by
  rcases x with f | ⟨_ | _, value⟩
  · rw [withAll_flag]
    rcases s with g | ⟨_ | _⟩ | _ | _ <;> simp [Has, Setting.switch]
  · have hvalue : (Decimal.read? value.toList).isSome := hread rfl
    rw [withAll_timeout]
    rcases s with g | ⟨_ | _⟩ | _ | _ <;> simp [Has, Setting.switch, hvalue]
  · rw [withAll_auth]
    rcases s with g | ⟨_ | _⟩ | _ | _ <;> simp [Has, Setting.switch]

theorem give_eq_ok_iff :
    a.give x = .ok b ↔ ¬a.Has x.switch ∧ x.Readable ∧ b = a.withAll [x] := by
  rcases x with f | ⟨_ | _, value⟩
  · have hread : (Setting.flag f).Readable := Setting.readable_of_ne (by simp [Setting.switch])
    rw [withAll_flag]
    by_cases hf : f ∈ a.flags
    · simp [give, setFlag, Has, Setting.switch, hf]
    · simp [give, setFlag, Has, Setting.switch, hf, hread, eq_comm]
  · rw [withAll_timeout, give, setParameter]
    cases ht : a.timeout with
    | some t => simp [Has, Setting.switch, ht]
    | none =>
      rw [if_neg (by simp)]
      cases hv : Decimal.read? value.toList with
      | none => simp [Setting.Readable, Setting.switch, Setting.timeout?, hv]
      | some t =>
        simp [Has, Setting.Readable, Setting.switch, Setting.timeout?, ht, hv, eq_comm]
  · have hread : (Setting.parameter .auth value).Readable :=
      Setting.readable_of_ne (by simp [Setting.switch])
    rw [withAll_auth]
    cases ha : a.auth <;> simp [give, setParameter, Has, Setting.switch, hread, ha, eq_comm]

theorem giveAll_eq_ok_iff : a.giveAll given = .ok b ↔
    (given.map Setting.switch).Nodup ∧ (∀ x ∈ given, ¬a.Has x.switch ∧ x.Readable) ∧
      b = a.withAll given := by
  induction given generalizing a with
  | nil => simp [giveAll, withAll_nil, eq_comm]
  | cons x given ih =>
    have hcons : a.withAll (x :: given) = (a.withAll [x]).withAll given :=
      withAll_append a [x] given
    simp only [giveAll, Except.bind_eq_ok, give_eq_ok_iff, ih, List.map_cons, List.nodup_cons,
      List.forall_mem_cons, hcons]
    constructor
    · rintro ⟨_, ⟨hx, hread, rfl⟩, hnodup, hgiven, rfl⟩
      simp only [has_withAll_singleton hread, not_or] at hgiven
      refine ⟨⟨?_, hnodup⟩, ⟨⟨hx, hread⟩, fun y hy => ?_⟩, rfl⟩
      · rw [List.mem_map]
        rintro ⟨y, hy, hswitch⟩
        exact (hgiven y hy).1.2 hswitch
      · exact ⟨(hgiven y hy).1.1, (hgiven y hy).2⟩
    · rintro ⟨⟨hfresh, hnodup⟩, ⟨⟨hx, hread⟩, hgiven⟩, rfl⟩
      refine ⟨_, ⟨hx, hread, rfl⟩, hnodup, fun y hy => ?_, rfl⟩
      rw [has_withAll_singleton hread, not_or]
      refine ⟨⟨(hgiven y hy).1, fun hswitch => hfresh ?_⟩, (hgiven y hy).2⟩
      exact hswitch ▸ List.mem_map_of_mem hy

theorem giveAll_start_eq_ok_iff : start.giveAll given = .ok b ↔
    (given.map Setting.switch).Nodup ∧ (∀ x ∈ given, x.Readable) ∧ b = start.withAll given := by
  have hstart : ∀ s, ¬start.Has s := by
    rintro (f | ⟨_ | _⟩ | _ | _) <;> simp [start, Has]
  simp only [giveAll_eq_ok_iff, hstart, not_false_eq_true, true_and]

def ofSettings (given : List Setting) (words : List String) : Arguments where
  flags := given.filterMap Setting.flag?
  timeout := given.findSome? Setting.timeout?
  auth := given.findSome? Setting.auth?
  pending := .nothing
  onlyWords := false
  words

theorem around_withAll_start (given : List Setting) (words : List String) :
    (start.withAll given).around .nothing false words = ofSettings given words := by
  simp [withAll, around, start, ofSettings]

end Arguments

namespace Options

open Arguments (start)

variable {o : Options} {arguments words : List String} {given : List Setting}

theorem parse_of_reads (h : Reads none arguments given words) :
    parse arguments =
      (start.giveAll given).bind fun a => ofArguments (a.around .nothing false words) := by
  obtain ⟨e, he⟩ := Arguments.ofList_of_reads h
  rw [parse, he]
  cases start.giveAll given <;> rfl

theorem parse_eq_ok_iff (h : Reads none arguments given words) :
    parse arguments = .ok o ↔ (given.map Setting.switch).Nodup ∧ (∀ x ∈ given, x.Readable) ∧
      ofArguments (.ofSettings given words) = .ok o := by
  simp only [parse_of_reads h, Except.bind_eq_ok, Arguments.giveAll_start_eq_ok_iff]
  constructor
  · rintro ⟨_, ⟨hnodup, hread, rfl⟩, ho⟩
    exact ⟨hnodup, hread, Arguments.around_withAll_start given words ▸ ho⟩
  · rintro ⟨hnodup, hread, ho⟩
    exact ⟨_, ⟨hnodup, hread, rfl⟩, (Arguments.around_withAll_start given words).symm ▸ ho⟩

theorem exists_reads_of_parse (h : parse arguments = .ok o) :
    ∃ given words, Reads none arguments given words := by
  rw [parse] at h
  split at h
  · cases h
  · next a ha => exact Arguments.exists_reads_of_ofList ha

theorem ofArguments_eq_ok_iff {a : Arguments} : ofArguments a = .ok o ↔
    ¬(.json ∈ a.flags ∧ .form ∈ a.flags) ∧ ∃ method url items timeout,
      splitWords a.words = some (method, url, items) ∧
        (a.timeout.map readTimeout).getD (.ok none) = .ok timeout ∧
        o = {
          method
          url := completeUrl url
          items
          encoding := encodingOf a.flags
          offline := .offline ∈ a.flags
          verbose := .verbose ∈ a.flags
          checkStatus := .checkStatus ∈ a.flags
          timeout
          auth := a.auth } := by
  by_cases hboth : .json ∈ a.flags ∧ .form ∈ a.flags
  · simp [ofArguments, hboth]
  · cases hwords : splitWords a.words with
    | none => simp [ofArguments, hboth, hwords]
    | some cut =>
      obtain ⟨method, url, items⟩ := cut
      cases htimeout : (a.timeout.map readTimeout).getD (.ok none) <;>
        simp [ofArguments, hboth, hwords, htimeout, eq_comm]

end Options

end Cli

end Courier
