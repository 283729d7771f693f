import Courier.Cli.Arguments
import Courier.Proofs.Basic

/-! What arguments say: settings, in their order, and words. An argument that gives options is taken
exactly if it says something, and then what it says is given. -/

namespace Courier

namespace Cli

inductive Setting where
  | flag (f : Flag)
  | parameter (p : Parameter) (value : String)
  deriving DecidableEq

def Setting.switch : Setting → Switch
  | flag f => .flag f
  | parameter p _ => .parameter p

/-- A word or a value: no more than one hyphen starts it, and then it ends there. -/
def IsBare (argument : String) : Prop :=
  argument.toList.head? ≠ some '-' ∨ argument.toList = ['-']

instance (argument : String) : Decidable (IsBare argument) :=
  inferInstanceAs (Decidable (_ ∨ _))

/-- Letters of flags. At the end an option may have the rest for its value, or wait for one. -/
inductive Letters : List Char → List Setting → Option Parameter → Prop
  | nil : Letters [] [] none
  | flag {f : Flag} {c : Char} {cs : List Char} {given : List Setting} {p : Option Parameter}
    (hc : (Switch.flag f).letter? = some c) (rest : Letters cs given p) :
    Letters (c :: cs) (.flag f :: given) p
  | awaited {p : Parameter} {c : Char} (hc : (Switch.parameter p).letter? = some c) :
    Letters [c] [] (some p)
  | behindEquals {p : Parameter} {c : Char} (hc : (Switch.parameter p).letter? = some c)
    (value : List Char) : Letters (c :: '=' :: value) [.parameter p (String.ofList value)] none
  | joined {p : Parameter} {c d : Char} (hc : (Switch.parameter p).letter? = some c)
    (hd : d ≠ '=') (value : List Char) :
    Letters (c :: d :: value) [.parameter p (String.ofList (d :: value))] none

/-- An argument that gives options, all of them with their values but perhaps the last. -/
inductive Switches : String → List Setting → Option Parameter → Prop
  | flag (f : Flag) : Switches ("--" ++ f.name) [.flag f] none
  | awaited (p : Parameter) : Switches ("--" ++ p.name) [] (some p)
  | behindEquals (p : Parameter) (value : String) :
    Switches ("--" ++ p.name ++ "=" ++ value) [.parameter p value] none
  | letters {cs : List Char} {given : List Setting} {p : Option Parameter} (hne : cs ≠ [])
    (h : Letters cs given p) : Switches (String.ofList ('-' :: cs)) given p

/-- The settings and words of arguments, in front of which an option may wait for its value. -/
inductive Reads : Option Parameter → List String → List Setting → List String → Prop
  | nil : Reads none [] [] []
  | onlyWords (words : List String) : Reads none ("--" :: words) [] words
  | word {w : String} {arguments words : List String} {given : List Setting} (hw : IsBare w)
    (rest : Reads none arguments given words) : Reads none (w :: arguments) given (w :: words)
  | value {p : Parameter} {v : String} {arguments words : List String} {given : List Setting}
    (hv : IsBare v) (rest : Reads none arguments given words) :
    Reads (some p) (v :: arguments) (.parameter p v :: given) words
  | switches {argument : String} {arguments words : List String} {given others : List Setting}
    {p : Option Parameter} (h : Switches argument given p) (rest : Reads p arguments others words) :
    Reads none (argument :: arguments) (given ++ others) words

namespace Switch

theorem mem_all (s : Switch) : s ∈ all := by
  rcases s with f | p | _ | _
  · cases f <;> decide
  · cases p <;> decide
  · decide
  · decide

theorem ofName?_name (s : Switch) : ofName? s.name = some s := by
  have hall : ∀ s ∈ all, ofName? s.name = some s := by decide
  exact hall s s.mem_all

theorem name_of_ofName? {s : Switch} {name : String} (h : ofName? name = some s) :
    s.name = name := by
  simpa using List.find?_some h

theorem name_ne_nil (s : Switch) : s.name.toList ≠ [] := by
  have hall : ∀ s ∈ all, s.name.toList ≠ [] := by decide
  exact hall s s.mem_all

theorem bne_of_mem_name (s : Switch) : ∀ c ∈ s.name.toList, (c != '=') = true := by
  have hall : ∀ s ∈ all, '=' ∉ s.name.toList := by decide
  exact fun c hc => bne_iff_ne.2 (ne_of_mem_of_not_mem hc (hall s s.mem_all))

theorem ofLetter?_eq_some {s : Switch} {c : Char} :
    ofLetter? c = some s ↔ s.letter? = some c := by
  constructor
  · intro h
    simpa using List.find?_some h
  · intro h
    have hall : ∀ s ∈ all, s.letter?.all fun c => ofLetter? c = some s := by decide
    simpa [h] using hall s s.mem_all

theorem ne_hyphen_of_letter? {s : Switch} {c : Char} (h : s.letter? = some c) : c ≠ '-' := by
  rintro rfl
  have hall : ∀ s ∈ all, s.letter? ≠ some '-' := by decide
  exact hall s s.mem_all h

end Switch

theorem Letters.ne_hyphen {c : Char} {cs : List Char} {given : List Setting} {p : Option Parameter}
    (h : Letters (c :: cs) given p) : c ≠ '-' := by
  cases h with
  | flag hc => exact Switch.ne_hyphen_of_letter? hc
  | awaited hc => exact Switch.ne_hyphen_of_letter? hc
  | behindEquals hc => exact Switch.ne_hyphen_of_letter? hc
  | joined hc => exact Switch.ne_hyphen_of_letter? hc

namespace Arguments

variable {a b : Arguments} {argument : String} {arguments words : List String} {cs : List Char}
  {given : List Setting} {p : Option Parameter}

def give (a : Arguments) : Setting → Except Stop Arguments
  | .flag f => a.setFlag f
  | .parameter p value => a.setParameter value p

def giveAll (a : Arguments) : List Setting → Except Stop Arguments
  | [] => .ok a
  | x :: rest => (a.give x).bind fun b => b.giveAll rest

theorem giveAll_append (a : Arguments) (given others : List Setting) :
    a.giveAll (given ++ others) = (a.giveAll given).bind fun b => b.giveAll others := by
  induction given generalizing a with
  | nil => rfl
  | cons x rest ih =>
    simp only [List.cons_append, giveAll]
    cases a.give x with
    | error e => rfl
    | ok b => exact ih b

theorem giveAll_singleton (a : Arguments) (x : Setting) : a.giveAll [x] = a.give x := by
  rw [giveAll]
  cases a.give x <;> rfl

/-- The same settings with other words, and with another value to look at. -/
def around (a : Arguments) (pending : Pending) (onlyWords : Bool) (words : List String) :
    Arguments :=
  { a with pending, onlyWords, words }

theorem give_around (a : Arguments) (x : Setting) (pending : Pending) (e : Bool)
    (words : List String) :
    (a.around pending e words).give x = (a.give x).map fun b => b.around pending e words := by
  cases x with
  | flag f => by_cases hf : f ∈ a.flags <;> simp [give, setFlag, around, hf, Except.map]
  | parameter q value =>
    cases q with
    | timeout =>
      by_cases ht : a.timeout.isSome
      · simp [give, setParameter, around, ht, Except.map]
      · cases hv : Decimal.read? value.toList <;>
          simp [give, setParameter, around, ht, hv, Except.map]
    | auth => by_cases ha : a.auth.isSome <;> simp [give, setParameter, around, ha, Except.map]

theorem giveAll_around (a : Arguments) (given : List Setting) (pending : Pending) (e : Bool)
    (words : List String) :
    (a.around pending e words).giveAll given =
      (a.giveAll given).map fun b => b.around pending e words := by
  induction given generalizing a with
  | nil => rfl
  | cons x rest ih =>
    simp only [giveAll, give_around]
    cases a.give x with
    | error e => rfl
    | ok b => exact ih b

theorem around_of_giveAll (h : a.giveAll given = .ok b) :
    b = b.around a.pending a.onlyWords a.words := by
  have hself : (a.around a.pending a.onlyWords a.words).giveAll given = .ok b := h
  rw [giveAll_around, h] at hself
  exact (Except.ok.inj hself).symm

theorem pending_of_give {x : Setting} (h : a.give x = .ok b) : b.pending = a.pending := by
  rw [← giveAll_singleton] at h
  rw [around_of_giveAll h]
  rfl

-- A value that is pending is looked at before anything else.
theorem settle_of_nothing (h : a.pending = .nothing) : a.settle = .ok a := by
  simp [settle, h]

theorem settle_of_unread {q : Parameter} {value : String} (h : a.pending = .unread q value) :
    a.settle = (a.around .nothing a.onlyWords a.words).give (.parameter q value) := by
  simp [settle, h, around, give]

theorem pending_of_settle (h : a.settle = .ok b) : b.pending = .nothing := by
  cases hp : a.pending with
  | nothing =>
    rw [settle_of_nothing hp] at h
    cases h
    exact hp
  | awaited q => simp [settle, hp] at h
  | unread q value =>
    rw [settle_of_unread hp] at h
    exact pending_of_give h

theorem switchOn_flag (a : Arguments) (f : Flag) :
    a.switchOn (.flag f) = a.settle.bind fun b => b.give (.flag f) := by
  rw [switchOn]
  cases a.settle <;> rfl

def wait (a : Arguments) : Option Parameter → Arguments
  | none => a
  | some q => a.around (.awaited q) a.onlyWords a.words

@[simp] theorem onlyWords_wait (a : Arguments) (p : Option Parameter) :
    (a.wait p).onlyWords = a.onlyWords := by
  cases p <;> rfl

@[simp] theorem words_wait (a : Arguments) (p : Option Parameter) : (a.wait p).words = a.words := by
  cases p <;> rfl

theorem switchOn_parameter (a : Arguments) (q : Parameter) :
    a.switchOn (.parameter q) = a.settle.map fun b => b.wait (some q) := by
  rw [switchOn]
  cases a.settle <;> rfl

theorem attach_eq (a : Arguments) (q : Parameter) (value : List Char) :
    a.attach q value = a.settle.bind fun b => b.give (.parameter q (String.ofList value)) := by
  rw [attach]
  cases a.settle <;> rfl

theorem addLetters_flag {f : Flag} {c : Char} (hc : (Switch.flag f).letter? = some c)
    (cs : List Char) :
    a.addLetters (c :: cs) = (a.switchOn (.flag f)).bind fun b => b.addLetters cs := by
  rw [addLetters.eq_def]
  simp only [Switch.ofLetter?_eq_some.2 hc]
  cases a.switchOn (.flag f) <;> rfl

theorem addLetters_awaited {q : Parameter} {c : Char}
    (hc : (Switch.parameter q).letter? = some c) :
    a.addLetters [c] = a.switchOn (.parameter q) :=
  addLetters.eq_3 a c q (Switch.ofLetter?_eq_some.2 hc)

theorem addLetters_behindEquals {q : Parameter} {c : Char}
    (hc : (Switch.parameter q).letter? = some c) (value : List Char) :
    a.addLetters (c :: '=' :: value) = a.attach q value :=
  addLetters.eq_4 a c q value (Switch.ofLetter?_eq_some.2 hc)

theorem addLetters_joined {q : Parameter} {c d : Char}
    (hc : (Switch.parameter q).letter? = some c) (hd : d ≠ '=') (value : List Char) :
    a.addLetters (c :: d :: value) = a.attach q (d :: value) := by
  rw [addLetters.eq_def]
  simp [Switch.ofLetter?_eq_some.2 hc, hd]

theorem bind_giveAll_singleton (a : Arguments) (x : Setting) :
    (a.settle.bind fun b => b.give x) =
      a.settle.bind fun b => (b.giveAll [x]).map fun b => b.wait none := by
  congr 1
  funext b
  rw [giveAll_singleton]
  cases b.give x <;> rfl

theorem addLetters_of_letters (h : Letters cs given p) (hne : cs ≠ []) :
    a.addLetters cs = a.settle.bind fun b => (b.giveAll given).map fun b => b.wait p := by
  induction h generalizing a with
  | nil => cases hne rfl
  | @flag f c cs given p hc rest ih =>
    rw [addLetters_flag hc, switchOn_flag]
    cases hs : a.settle with
    | error e => rfl
    | ok b =>
      simp only [Except.bind, giveAll]
      cases hx : b.give (.flag f) with
      | error e => rfl
      | ok t =>
        have ht := settle_of_nothing ((pending_of_give hx).trans (pending_of_settle hs))
        cases rest with
        | nil => rfl
        | _ =>
          refine (ih (List.cons_ne_nil _ _)).trans ?_
          rw [ht]
          rfl
  | awaited hc =>
    rw [addLetters_awaited hc, switchOn_parameter]
    cases a.settle <;> rfl
  | behindEquals hc value =>
    rw [addLetters_behindEquals hc, attach_eq, bind_giveAll_singleton]
  | joined hc hd value =>
    rw [addLetters_joined hc hd, attach_eq, bind_giveAll_singleton]

theorem addLong_name (a : Arguments) (s : Switch) : a.addLong s.name.toList = a.switchOn s := by
  rw [addLong, List.takeWhile_eq_self_iff.2 s.bne_of_mem_name,
    List.dropWhile_eq_nil_iff.2 s.bne_of_mem_name, String.ofList_toList, s.ofName?_name]

theorem addLong_behindEquals (a : Arguments) (q : Parameter) (value : List Char) :
    a.addLong (q.name.toList ++ '=' :: value) = a.attach q value := by
  have hall := (Switch.parameter q).bne_of_mem_name
  have htake : (q.name.toList ++ '=' :: value).takeWhile (· != '=') = q.name.toList := by
    refine (List.takeWhile_append_of_pos hall).trans ?_
    simp [Switch.name]
  have hdrop : (q.name.toList ++ '=' :: value).dropWhile (· != '=') = '=' :: value := by
    refine (List.dropWhile_append_of_pos hall).trans ?_
    simp
  have hname : Switch.ofName? q.name = some (.parameter q) := (Switch.parameter q).ofName?_name
  rw [addLong, htake, hdrop, String.ofList_toList, hname]

theorem add_long (ho : a.onlyWords = false) (ht : argument.toList = '-' :: '-' :: cs)
    (hne : cs ≠ []) : a.add argument = a.addLong cs := by
  obtain ⟨c, cs, rfl⟩ := List.exists_cons_of_ne_nil hne
  simp [add, ho, ht]

theorem add_letters {c : Char} (ho : a.onlyWords = false)
    (ht : argument.toList = '-' :: c :: cs) (hc : c ≠ '-') :
    a.add argument = a.addLetters (c :: cs) := by
  simp [add, ho, ht, hc]

theorem add_bare (ho : a.onlyWords = false) (hb : IsBare argument) :
    a.add argument = a.addBare argument := by
  rcases ht : argument.toList with _ | ⟨c, cs⟩
  · simp [add, ho, ht]
  · rcases hb with h | h
    · have hc : c ≠ '-' := by simpa [ht] using h
      simp [add, ho, ht, hc]
    · simp [add, ho, h]

theorem add_switches (h : Switches argument given p) (ho : a.onlyWords = false) :
    a.add argument = a.settle.bind fun b => (b.giveAll given).map fun b => b.wait p := by
  cases h with
  | flag f =>
    have hne : f.name.toList ≠ [] := (Switch.flag f).name_ne_nil
    have hname : a.addLong f.name.toList = a.switchOn (.flag f) := a.addLong_name (.flag f)
    rw [add_long ho (by simp) hne, hname, switchOn_flag, bind_giveAll_singleton]
  | awaited q =>
    have hne : q.name.toList ≠ [] := (Switch.parameter q).name_ne_nil
    have hname : a.addLong q.name.toList = a.switchOn (.parameter q) :=
      a.addLong_name (.parameter q)
    rw [add_long ho (by simp) hne, hname, switchOn_parameter]
    cases a.settle <;> rfl
  | behindEquals q value =>
    have ht : ("--" ++ q.name ++ "=" ++ value).toList =
        '-' :: '-' :: (q.name.toList ++ '=' :: value.toList) := by simp
    rw [add_long ho ht (by simp), addLong_behindEquals, attach_eq, bind_giveAll_singleton,
      String.ofList_toList]
  | @letters cs given p hne h =>
    obtain ⟨c, cs, rfl⟩ := List.exists_cons_of_ne_nil hne
    rw [add_letters ho String.toList_ofList h.ne_hyphen, addLetters_of_letters h hne]

theorem switchOn_ne_ok {x : Switch} (hx : x = .help ∨ x = .version) : a.switchOn x ≠ .ok b := by
  rw [switchOn]
  rcases hx with rfl | rfl <;> cases a.settle <;> exact nofun

theorem exists_letters (h : a.addLetters cs = .ok b) : ∃ given p, Letters cs given p := by
  induction cs generalizing a with
  | nil => exact ⟨[], none, .nil⟩
  | cons c cs ih =>
    rcases hx : Switch.ofLetter? c with _ | (f | q | _ | _)
    · rw [addLetters.eq_def] at h
      simp [hx] at h
    · have hc := Switch.ofLetter?_eq_some.1 hx
      rw [addLetters_flag hc] at h
      obtain ⟨t, -, hrest⟩ := Except.bind_eq_ok.1 h
      obtain ⟨given, p, hletters⟩ := ih hrest
      exact ⟨_, p, .flag hc hletters⟩
    · have hc := Switch.ofLetter?_eq_some.1 hx
      match cs with
      | [] => exact ⟨[], some q, .awaited hc⟩
      | d :: value =>
        by_cases hd : d = '='
        · subst hd
          exact ⟨_, none, .behindEquals hc value⟩
        · exact ⟨_, none, .joined hc hd value⟩
    all_goals
      rw [addLetters.eq_def] at h
      simp only [hx] at h
      split at h
      · cases h
      · next hs => exact absurd hs (switchOn_ne_ok (by simp))

theorem exists_switches_of_addLong (ht : argument.toList = '-' :: '-' :: cs)
    (h : a.addLong cs = .ok b) : ∃ given p, Switches argument given p := by
  have hcut := List.takeWhile_append_dropWhile (p := (· != '=')) (l := cs)
  rw [addLong] at h
  split at h
  · cases h
  · next x hx hrest =>
    have hname : x.name.toList = cs := by
      rw [Switch.name_of_ofName? hx, String.toList_ofList]
      simpa [hrest] using hcut
    rcases x with f | q | _ | _
    · obtain rfl : argument = "--" ++ f.name :=
        String.toList_inj.1 (by simp [ht, ← hname, Switch.name])
      exact ⟨_, none, .flag f⟩
    · obtain rfl : argument = "--" ++ q.name :=
        String.toList_inj.1 (by simp [ht, ← hname, Switch.name])
      exact ⟨_, some q, .awaited q⟩
    · exact absurd h (switchOn_ne_ok (.inl rfl))
    · exact absurd h (switchOn_ne_ok (.inr rfl))
  · next q d value hx hrest =>
    have hd : d = '=' := by
      have hhead := List.head?_dropWhile_not (· != '=') cs
      simpa [hrest] using hhead
    have hname : q.name.toList ++ '=' :: value = cs := by
      have hq : q.name = _ := Switch.name_of_ofName? hx
      rw [hrest, hd] at hcut
      rw [hq, String.toList_ofList]
      exact hcut
    obtain rfl : argument = "--" ++ q.name ++ "=" ++ String.ofList value :=
      String.toList_inj.1 (by simp [ht, ← hname])
    exact ⟨_, none, .behindEquals q _⟩
  · cases h

theorem exists_switches (ho : a.onlyWords = false) (hb : ¬IsBare argument)
    (he : argument ≠ "--") (h : a.add argument = .ok b) : ∃ given p, Switches argument given p := by
  obtain ⟨hhead, hhyphen⟩ := not_or.1 hb
  rcases ht : argument.toList with _ | ⟨c, cs⟩
  · simp [ht] at hhead
  · obtain rfl : c = '-' := by simpa [ht] using hhead
    rcases cs with _ | ⟨c, cs⟩
    · exact absurd ht hhyphen
    · by_cases hc : c = '-'
      · subst hc
        have hne : cs ≠ [] := by
          rintro rfl
          exact he (String.toList_inj.1 ht)
        exact exists_switches_of_addLong ht (add_long ho ht hne ▸ h)
      · rw [add_letters ho ht hc] at h
        obtain ⟨given, p, hletters⟩ := exists_letters h
        obtain rfl : argument = String.ofList ('-' :: c :: cs) := String.toList_inj.1 (by simp [ht])
        exact ⟨given, p, .letters (List.cons_ne_nil _ _) hletters⟩

end Arguments

end Cli

end Courier
