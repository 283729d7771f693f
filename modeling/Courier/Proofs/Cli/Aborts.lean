import Courier.Proofs.Cli.Duration
import Courier.Proofs.Cli.Settings
import Courier.Proofs.Path.Caret

/-! When reading a command line aborts. The steps that are not defined everywhere (a cut behind so
many bytes, a word taken off by its place, a duration of so many seconds) are written out as what
they are. All of them are defined where they are taken, but for a timeout that no duration can
hold. -/

namespace Courier

namespace Extended

/-- More seconds than a duration can hold. -/
def IsEndless (t : Extended) : Prop :=
  t = .infinite false ∨ ∃ x, t = .finite x ∧ x.negative = false ∧ 2 ^ 64 ≤ x.magnitude

/-- Above zero. What is not a number is not. -/
def isPositive : Extended → Bool
  | .finite x => !(x.negative || x.isZero)
  | .infinite negative => !negative
  | .nan => false

/-- A duration of so many seconds. Negative ones have none, nor have those that are endless. -/
def duration? : Extended → Option Duration
  | .finite x => if x.negative && !x.isZero then none else Duration.ofSeconds? x
  | _ => none

end Extended

namespace Cli

/-- Cuts a text behind so many bytes. There is no cut within a character or behind the end. -/
def cutAt? (n : Nat) (s : List Char) : Option (List Char × List Char) :=
  (Path.charCount? n s).map s.splitAt

/-- Takes the first word off. There has to be one. -/
def takeFirst? : List String → Option (String × List String)
  | [] => none
  | word :: rest => some (word, rest)

/-- The address, with the port cut off behind as many bytes as it has digits. -/
def completeUrlAt? (url : String) : Option String :=
  match localPart? url.toList with
  | none => some (completeUrl url)
  | some s =>
    (cutAt? (s.takeWhile Char.isDigit).length s).map fun (port, path) =>
      String.ofList (defaultScheme ++ "localhost".toList ++
        (if port.isEmpty then [] else ':' :: port) ++ path)

namespace Options

/-- Method, URL and items, with words looked at and taken off by their place. -/
def splitWordsAt? (words : List String) : Option (Option String × String × List String) := do
  let hasMethod ← if 1 < words.length then words[0]?.map isMethodWord else some false
  let (method, words) ←
    if hasMethod then (takeFirst? words).map fun (word, rest) => (some word, rest)
    else some (none, words)
  let (url, items) ← if words.isEmpty then some ("", []) else takeFirst? words
  return (method, url, items)

/-- The duration of a timeout that is above zero. -/
def timeoutAt? (t : Option Extended) : Option (Option Duration) :=
  match t.filter Extended.isPositive with
  | none => some none
  | some t => t.duration?.map some

/-- What arguments come to, none where a step is not defined. -/
def ofArgumentsAt? (a : Arguments) : Option (Except Stop Options) :=
  if .json ∈ a.flags ∧ .form ∈ a.flags then some (.error (.wrong .exclusive))
  else if a.words.isEmpty then some (.error (.wrong .noUrl))
  else do
    let (method, url, items) ← splitWordsAt? a.words
    let url ← completeUrlAt? url
    let timeout ← timeoutAt? a.timeout
    return .ok {
      method
      url
      items
      encoding := encodingOf a.flags
      offline := .offline ∈ a.flags
      verbose := .verbose ∈ a.flags
      checkStatus := .checkStatus ∈ a.flags
      timeout
      auth := a.auth }

def parseAt? (arguments : List String) : Option (Except Stop Options) :=
  match Arguments.ofList arguments with
  | .error e => some (.error e)
  | .ok a => ofArgumentsAt? a

end Options

theorem cutAt?_append (before after : List Char) :
    cutAt? (String.ofList before).utf8ByteSize (before ++ after) = some (before, after) := by
  rw [cutAt?, Path.charCount?_append, Option.map_some, List.splitAt_eq, List.take_left,
    List.drop_left]

theorem utf8ByteSize_of_digits {ds : List Char} (h : ∀ c ∈ ds, c.isDigit = true) :
    (String.ofList ds).utf8ByteSize = ds.length := by
  induction ds with
  | nil => rfl
  | cons d ds ih =>
    obtain ⟨hd, hds⟩ := List.forall_mem_cons.1 h
    have hone : d.utf8Size = 1 := by
      rw [Char.utf8Size_eq_one_iff]
      simp only [Char.isDigit, Bool.and_eq_true, decide_eq_true_eq] at hd
      exact UInt32.le_trans hd.2 (by decide)
    rw [Path.utf8ByteSize_ofList_cons, hone, ih hds, List.length_cons, Nat.add_comm]

theorem cutAt?_digits (s : List Char) :
    cutAt? (s.takeWhile Char.isDigit).length s =
      some (s.takeWhile Char.isDigit, s.dropWhile Char.isDigit) := by
  have hcut := cutAt?_append (s.takeWhile Char.isDigit) (s.dropWhile Char.isDigit)
  rwa [utf8ByteSize_of_digits fun c hc => List.mem_takeWhile_imp hc,
    List.takeWhile_append_dropWhile] at hcut

theorem completeUrlAt?_eq (url : String) : completeUrlAt? url = some (completeUrl url) := by
  rw [completeUrlAt?, completeUrl, completeAddress]
  cases localPart? url.toList with
  | none => rfl
  | some s =>
    simp only [cutAt?_digits]
    rfl

namespace Options

theorem splitWordsAt?_eq (words : List String) :
    splitWordsAt? words = some ((splitWords words).getD (none, "", [])) := by
  rcases words with _ | ⟨first, _ | ⟨second, rest⟩⟩
  · rfl
  · rfl
  · cases hm : isMethodWord first <;> simp [splitWordsAt?, splitWords, takeFirst?, hm]

variable {t : Extended} {a : Arguments} {e : Stop}

theorem readTimeout_eq_error : readTimeout t = .error e ↔ e = .endlessTimeout ∧ t.IsEndless := by
  cases t with
  | nan => simp [readTimeout, Extended.IsEndless]
  | infinite negative =>
    cases negative with
    | true => simp [readTimeout, Extended.IsEndless]
    | false =>
      constructor
      · intro h
        exact ⟨(Except.error.inj h).symm, .inl rfl⟩
      · rintro ⟨rfl, -⟩
        rfl
  | finite x =>
    have hzero : x.isZero = true → ¬ (2 : ℚ) ^ 64 ≤ x.magnitude := by
      intro hz
      have hz : x.significand = 0 := by simpa [Binary64.isZero] using hz
      rw [Binary64.magnitude, hz, Nat.cast_zero, zero_mul, not_le]
      positivity
    have hend : Extended.IsEndless (.finite x) ↔ x.negative = false ∧ 2 ^ 64 ≤ x.magnitude := by
      simp [Extended.IsEndless]
    rw [readTimeout, hend, ← Duration.ofSeconds?_eq_none]
    rw [← Duration.ofSeconds?_eq_none] at hzero
    cases hn : x.negative with
    | true => simp
    | false =>
      cases hz : x.isZero with
      | true => simp [hzero hz]
      | false => cases hd : Duration.ofSeconds? x <;> simp [eq_comm]

/-- What passes the filter has a duration unless it is endless. -/
theorem timeoutAt?_eq (t : Option Extended) :
    timeoutAt? t = ((t.map readTimeout).getD (.ok none)).toOption := by
  cases t with
  | none => rfl
  | some t =>
    cases t with
    | nan => rfl
    | infinite negative => cases negative <;> rfl
    | finite x =>
      cases hn : x.negative with
      | true =>
        simp [timeoutAt?, Option.filter_some, Extended.isPositive, readTimeout, hn,
          Except.toOption]
      | false =>
        cases hz : x.isZero with
        | true =>
          simp [timeoutAt?, Option.filter_some, Extended.isPositive, readTimeout, hn, hz,
            Except.toOption]
        | false =>
          cases hd : Duration.ofSeconds? x <;>
            simp [timeoutAt?, Option.filter_some, Extended.isPositive, Extended.duration?,
              readTimeout, hn, hz, hd, Except.toOption]

theorem splitWords_eq_none {words : List String} : splitWords words = none ↔ words = [] := by
  rcases words with _ | ⟨first, _ | ⟨second, rest⟩⟩
  · simp [splitWords]
  · simp [splitWords]
  · cases hm : isMethodWord first <;> simp [splitWords, hm]

/-- Only the timeout is left to look at once there is a URL. -/
theorem ofArguments_eq_endless : ofArguments a = .error .endlessTimeout ↔
    ¬(.json ∈ a.flags ∧ .form ∈ a.flags) ∧ a.words ≠ [] ∧
      ∃ t, a.timeout = some t ∧ t.IsEndless := by
  by_cases hboth : .json ∈ a.flags ∧ .form ∈ a.flags
  · simp [ofArguments, hboth]
  cases hsplit : splitWords a.words with
  | none => simp [ofArguments, hboth, hsplit, ← splitWords_eq_none]
  | some cut =>
    obtain ⟨method, url, items⟩ := cut
    cases ht : a.timeout with
    | none => simp [ofArguments, hboth, hsplit, ht]
    | some t =>
      have hend : readTimeout t = .error .endlessTimeout ↔ t.IsEndless := by
        simp [readTimeout_eq_error]
      cases hr : readTimeout t with
      | error e =>
        obtain ⟨rfl, -⟩ := readTimeout_eq_error.1 hr
        simp [ofArguments, hboth, hsplit, ht, hr, ← splitWords_eq_none, ← hend]
      | ok limit => simp [ofArguments, hboth, hsplit, ht, hr, ← hend]

/-- The steps are defined, and come to what the arguments come to, unless the timeout is endless. -/
theorem ofArgumentsAt?_eq (a : Arguments) :
    ofArgumentsAt? a = none ∧ ofArguments a = .error .endlessTimeout ∨
      ofArgumentsAt? a = some (ofArguments a) ∧ ofArguments a ≠ .error .endlessTimeout := by
  by_cases hboth : .json ∈ a.flags ∧ .form ∈ a.flags
  · simp [ofArgumentsAt?, ofArguments, hboth]
  cases hsplit : splitWords a.words with
  | none =>
    have hempty : a.words.isEmpty = true := List.isEmpty_iff.2 (splitWords_eq_none.1 hsplit)
    simp [ofArgumentsAt?, ofArguments, hboth, hsplit, hempty]
  | some cut =>
    have hempty : a.words.isEmpty = false := by
      rw [← Bool.not_eq_true, List.isEmpty_iff, ← splitWords_eq_none, hsplit]
      simp
    obtain ⟨method, url, items⟩ := cut
    cases hr : (a.timeout.map readTimeout).getD (.ok none) with
    | error e =>
      obtain rfl : e = .endlessTimeout := by
        cases ht : a.timeout with
        | none => simp [ht] at hr
        | some t =>
          rw [ht] at hr
          exact (readTimeout_eq_error.1 hr).1
      simp [ofArgumentsAt?, ofArguments, hboth, hempty, hsplit, hr, splitWordsAt?_eq,
        completeUrlAt?_eq, timeoutAt?_eq, Except.toOption]
    | ok limit =>
      simp [ofArgumentsAt?, ofArguments, hboth, hempty, hsplit, hr, splitWordsAt?_eq,
        completeUrlAt?_eq, timeoutAt?_eq, Except.toOption]

end Options

-- Reading the arguments one by one does not look at how long a timeout is.
namespace Arguments

variable {a : Arguments}

theorem setFlag_ne_endless (a : Arguments) (f : Flag) : a.setFlag f ≠ .error .endlessTimeout := by
  rw [setFlag]
  split <;> simp

theorem setParameter_ne_endless (a : Arguments) (value : String) (p : Parameter) :
    a.setParameter value p ≠ .error .endlessTimeout := by
  cases p with
  | timeout =>
    rw [setParameter]
    split
    · simp
    · split <;> simp
  | auth =>
    rw [setParameter]
    split <;> simp

theorem settle_ne_endless (a : Arguments) : a.settle ≠ .error .endlessTimeout := by
  rw [settle]
  split
  · simp
  · simp
  · exact setParameter_ne_endless _ _ _

theorem switchOn_ne_endless (a : Arguments) (s : Switch) :
    a.switchOn s ≠ .error .endlessTimeout := by
  rw [switchOn]
  split
  · next e he => exact fun h => settle_ne_endless a (he.trans h)
  · split
    · exact setFlag_ne_endless _ _
    all_goals simp

theorem attach_ne_endless (a : Arguments) (p : Parameter) (value : List Char) :
    a.attach p value ≠ .error .endlessTimeout := by
  rw [attach]
  split
  · next e he => exact fun h => settle_ne_endless a (he.trans h)
  · exact setParameter_ne_endless _ _ _

theorem addLong_ne_endless (a : Arguments) (s : List Char) :
    a.addLong s ≠ .error .endlessTimeout := by
  rw [addLong]
  split
  · simp
  · exact switchOn_ne_endless _ _
  · exact attach_ne_endless _ _ _
  · simp

theorem addLetters_ne_endless (a : Arguments) (cs : List Char) :
    a.addLetters cs ≠ .error .endlessTimeout := by
  induction cs generalizing a with
  | nil => simp [addLetters]
  | cons c cs ih =>
    rw [addLetters.eq_def]
    dsimp only
    split
    · simp
    · exact switchOn_ne_endless _ _
    · exact attach_ne_endless _ _ _
    · exact attach_ne_endless _ _ _
    · split
      · next e he => exact fun h => switchOn_ne_endless a _ (he.trans h)
      · exact ih _

theorem addWord_ne_endless (a : Arguments) (word : String) :
    a.addWord word ≠ .error .endlessTimeout := by
  rw [addWord]
  split
  · next e he => exact fun h => settle_ne_endless a (he.trans h)
  · simp

theorem add_ne_endless (a : Arguments) (argument : String) :
    a.add argument ≠ .error .endlessTimeout := by
  rw [add]
  split
  · exact addWord_ne_endless _ _
  · split
    · simp
    · exact addLong_ne_endless _ _
    · exact addLetters_ne_endless _ _
    · rw [addBare]
      split
      · simp
      · exact addWord_ne_endless _ _

theorem addAll_ne_endless (a : Arguments) (arguments : List String) :
    a.addAll arguments ≠ .error .endlessTimeout := by
  induction arguments generalizing a with
  | nil => simp [addAll]
  | cons argument rest ih =>
    rw [addAll]
    split
    · next e he => exact fun h => add_ne_endless a argument (he.trans h)
    · exact ih _

theorem giveAll_ne_endless (a : Arguments) (given : List Setting) :
    a.giveAll given ≠ .error .endlessTimeout := by
  induction given generalizing a with
  | nil => simp [giveAll]
  | cons x rest ih =>
    have hx : a.give x ≠ .error .endlessTimeout := by
      cases x with
      | flag f => exact setFlag_ne_endless a f
      | parameter p value => exact setParameter_ne_endless a value p
    rw [giveAll]
    cases hg : a.give x with
    | error e => exact fun h => hx (hg.trans h)
    | ok b => exact ih b

theorem ofList_ne_endless (arguments : List String) :
    ofList arguments ≠ .error .endlessTimeout := by
  rw [ofList]
  split
  · next e he => exact fun h => addAll_ne_endless start arguments (he.trans h)
  · exact settle_ne_endless _

end Arguments

namespace Options

variable {o : Options} {d : Duration} {arguments words : List String} {given : List Setting}

theorem parse_eq_endless (h : Reads none arguments given words) :
    parse arguments = .error .endlessTimeout ↔
      (given.map Setting.switch).Nodup ∧ (∀ x ∈ given, x.Readable) ∧
        ofArguments (.ofSettings given words) = .error .endlessTimeout := by
  rw [parse_of_reads h]
  cases hg : Arguments.start.giveAll given with
  | error e =>
    refine iff_of_false (fun he => ?_) ?_
    · obtain rfl := Except.error.inj he
      exact Arguments.giveAll_ne_endless _ given hg
    rintro ⟨hnodup, hread, -⟩
    rw [Arguments.giveAll_start_eq_ok_iff.2 ⟨hnodup, hread, rfl⟩] at hg
    cases hg
  | ok b =>
    obtain ⟨hnodup, hread, rfl⟩ := Arguments.giveAll_start_eq_ok_iff.1 hg
    simp only [Except.bind, Arguments.around_withAll_start, hnodup, true_and]
    exact ⟨fun he => ⟨hread, he⟩, fun he => he.2⟩

theorem exists_reads_of_endless (h : parse arguments = .error .endlessTimeout) :
    ∃ given words, Reads none arguments given words := by
  rw [parse] at h
  split at h
  · next e he =>
    obtain rfl := Except.error.inj h
    exact absurd he (Arguments.ofList_ne_endless arguments)
  · next a ha => exact Arguments.exists_reads_of_ofList ha

theorem fits_of_readTimeout {s : List Char} {t : Extended} (ht : Decimal.read? s = some t)
    (h : readTimeout t = .ok (some d)) : d.Fits := by
  cases t with
  | nan => cases h
  | infinite negative => cases negative <;> cases h
  | finite x =>
    rw [readTimeout] at h
    split at h
    · cases h
    · split at h
      · next hx =>
        cases h
        have hlt := Decimal.significand_of_read? ht
        exact Duration.fits_of_ofSeconds? (hlt.trans (by decide)) hx
      · cases h

theorem fits_of_parse (h : parse arguments = .ok o) (hd : o.timeout = some d) : d.Fits := by
  obtain ⟨given, words, hreads⟩ := exists_reads_of_parse h
  obtain ⟨-, -, hof⟩ := (parse_eq_ok_iff hreads).1 h
  obtain ⟨-, method, url, items, limit, -, hlimit, rfl⟩ := ofArguments_eq_ok_iff.1 hof
  obtain rfl : limit = some d := hd
  cases ht : given.findSome? Setting.timeout? with
  | none => simp [Arguments.ofSettings, ht] at hlimit
  | some t =>
    have hlimit : readTimeout t = .ok (some d) := by simpa [Arguments.ofSettings, ht] using hlimit
    obtain ⟨x, -, hx⟩ := List.exists_of_findSome?_eq_some ht
    rcases x with f | ⟨_ | _, value⟩
    · cases hx
    · exact fits_of_readTimeout hx hlimit
    · cases hx

/-- Either the steps come to what the arguments come to, or the timeout is endless. -/
theorem parseAt?_eq (arguments : List String) :
    parseAt? arguments = none ∧ parse arguments = .error .endlessTimeout ∨
      parseAt? arguments = some (parse arguments) ∧ parse arguments ≠ .error .endlessTimeout := by
  cases hl : Arguments.ofList arguments with
  | error e =>
    have he : e ≠ .endlessTimeout := by
      rintro rfl
      exact Arguments.ofList_ne_endless arguments hl
    simp [parseAt?, parse, hl, he]
  | ok a =>
    rw [parseAt?, parse, hl]
    exact ofArgumentsAt?_eq a

/-- What arguments come to is options or a refusal, and the steps that get there are defined, except
where nothing else is wrong with the arguments and they give an endless timeout. The timeout of
options is one that a duration can hold. -/
theorem parse_aborts (arguments : List String) :
    parse arguments = (parseAt? arguments).getD (.error .endlessTimeout) ∧
    parseAt? arguments ≠ some (.error .endlessTimeout) ∧
    (parseAt? arguments = none ↔ ∃ given words t, Reads none arguments given words ∧
      (given.map Setting.switch).Nodup ∧ (∀ x ∈ given, x.Readable) ∧
      ¬(.flag .json ∈ given ∧ .flag .form ∈ given) ∧ words ≠ [] ∧
      given.findSome? Setting.timeout? = some t ∧ t.IsEndless) ∧
    ∀ o d, parse arguments = .ok o → o.timeout = some d → d.Fits := by
  have hnone : parseAt? arguments = none ↔ parse arguments = .error .endlessTimeout := by
    rcases parseAt?_eq arguments with ⟨hat, hp⟩ | ⟨hat, hp⟩ <;> simp [hat, hp]
  have hof : ∀ given words, ofArguments (.ofSettings given words) = .error .endlessTimeout ↔
      ¬(.flag .json ∈ given ∧ .flag .form ∈ given) ∧ words ≠ [] ∧
        ∃ t, given.findSome? Setting.timeout? = some t ∧ t.IsEndless := by
    intro given words
    rw [ofArguments_eq_endless]
    simp only [Arguments.ofSettings, Setting.mem_filterMap_flag?]
  refine ⟨?_, ?_, ?_, fun o d ho hd => fits_of_parse ho hd⟩
  · rcases parseAt?_eq arguments with ⟨hat, hp⟩ | ⟨hat, hp⟩ <;> simp [hat, hp]
  · rcases parseAt?_eq arguments with ⟨hat, -⟩ | ⟨hat, hp⟩
    · simp [hat]
    · rw [hat]
      exact fun h => hp (Option.some.inj h)
  · rw [hnone]
    constructor
    · intro h
      obtain ⟨given, words, hreads⟩ := exists_reads_of_endless h
      obtain ⟨hnodup, hread, he⟩ := (parse_eq_endless hreads).1 h
      obtain ⟨hboth, hwords, t, ht, hend⟩ := (hof given words).1 he
      exact ⟨given, words, t, hreads, hnodup, hread, hboth, hwords, ht, hend⟩
    · rintro ⟨given, words, t, hreads, hnodup, hread, hboth, hwords, ht, hend⟩
      exact (parse_eq_endless hreads).2
        ⟨hnodup, hread, (hof given words).2 ⟨hboth, hwords, t, ht, hend⟩⟩

/-- A timeout just below `2 ^ 64` seconds is rounded to them, the number before fits. -/
theorem parse_aborts_at_limit :
    parseAt? ["--timeout", "18446744073709551615", "x.org"] = none ∧
      ∃ o, parse ["--timeout", "18446744073709549568", "x.org"] = .ok o ∧
        o.timeout = some ⟨18446744073709549568, 0⟩ ∧
        Duration.Fits ⟨18446744073709549568, 0⟩ := by
  constructor
  · have hreads : Reads none ["--timeout", "18446744073709551615", "x.org"]
        [.parameter .timeout "18446744073709551615"] ["x.org"] :=
      .switches (.awaited .timeout) (.value (by decide) (.word (by decide) .nil))
    have ht : Setting.timeout? (.parameter .timeout "18446744073709551615") =
        some (.finite ⟨false, 2 ^ 52, 12⟩) := by
      decide +kernel
    have hend : Extended.IsEndless (.finite ⟨false, 2 ^ 52, 12⟩) :=
      .inr ⟨_, rfl, rfl, by norm_num [Binary64.magnitude]⟩
    refine (parse_aborts _).2.2.1.2
      ⟨_, _, _, hreads, by simp, ?_, by simp, by simp, by simp [ht], hend⟩
    intro x hx _
    rw [List.mem_singleton.1 hx, ht]
    rfl
  · obtain ⟨o, ho, hd⟩ : ∃ o, parse ["--timeout", "18446744073709549568", "x.org"] = .ok o ∧
        decide (o.timeout = some ⟨18446744073709549568, 0⟩) = true :=
      Except.any_toOption.1 (by decide +kernel)
    have hd := of_decide_eq_true hd
    exact ⟨o, ho, hd, (parse_aborts _).2.2.2 o _ ho hd⟩

/-- An infinite timeout passes the filter, and has no duration. -/
theorem parse_aborts_infinite :
    parseAt? ["--timeout", "inf", "x.org"] = none ∧
      parse ["--timeout", "inf", "x.org"] = .error .endlessTimeout := by
  constructor <;> rfl

end Options

end Cli

end Courier
