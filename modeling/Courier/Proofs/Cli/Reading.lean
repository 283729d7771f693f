import Courier.Proofs.Cli.Grammar

/-! Reading arguments makes of them what they say, whether that is accepted or not. A value that is
not looked at yet counts as given, so nothing depends on when that happens. -/

namespace Courier

namespace Cli

namespace Arguments

variable {a b : Arguments} {argument : String} {arguments words : List String}
  {given : List Setting} {p : Option Parameter} {q : Parameter}

theorem settle_around (a : Arguments) (e : Bool) (words : List String) :
    (a.around a.pending e words).settle = a.settle.map fun b => b.around .nothing e words := by
  cases hp : a.pending with
  | nothing =>
    rw [settle_of_nothing hp, settle_of_nothing rfl]
    rfl
  | awaited q => simp [settle, hp, around, Except.map]
  | unread q value =>
    have hleft := give_around a (.parameter q value) .nothing e words
    have hright := give_around a (.parameter q value) .nothing a.onlyWords a.words
    rw [settle_of_unread hp, settle_of_unread rfl, hright]
    refine hleft.trans ?_
    cases a.give (.parameter q value) <;> rfl

theorem around_of_settle (h : a.settle = .ok b) : b = b.around .nothing a.onlyWords a.words := by
  have hself := settle_around a a.onlyWords a.words
  rw [show a.around a.pending a.onlyWords a.words = a from rfl, h] at hself
  exact Except.ok.inj hself

theorem around_of_settle_giveAll {t : Arguments} (hs : a.settle = .ok b)
    (hg : b.giveAll given = .ok t) : t = t.around .nothing a.onlyWords a.words := by
  rw [around_of_giveAll hg, around_of_settle hs]
  rfl

theorem addWord_eq (a : Arguments) (w : String) :
    a.addWord w = a.settle.map fun b => b.around .nothing a.onlyWords (a.words ++ [w]) := by
  rw [addWord]
  cases hs : a.settle with
  | error e => rfl
  | ok b =>
    rw [around_of_settle hs]
    rfl

/-- The argument to come is the value of that option, or of none. -/
def Awaits (a : Arguments) : Option Parameter → Prop
  | none => ∀ q, a.pending ≠ .awaited q
  | some q => a.pending = .awaited q

def resolve (a : Arguments) : Option Parameter → Except Stop Arguments
  | none => a.settle
  | some _ => .ok (a.around .nothing a.onlyWords a.words)

theorem awaits_of_nothing (h : a.pending = .nothing) : a.Awaits none := by
  intro q hq
  cases h.symm.trans hq

theorem awaits_unread (a : Arguments) (q : Parameter) (v : String) :
    (a.around (.unread q v) a.onlyWords a.words).Awaits none := by
  intro r hr
  cases hr

theorem awaits_wait (h : a.pending = .nothing) (p : Option Parameter) : (a.wait p).Awaits p := by
  cases p with
  | none => exact awaits_of_nothing h
  | some q => rfl

theorem resolve_wait (h : a.pending = .nothing) (p : Option Parameter) :
    (a.wait p).resolve p = .ok a := by
  cases p with
  | none => exact settle_of_nothing h
  | some q => rw [resolve, wait, around, around, ← h]

theorem settle_of_awaits (ha : a.Awaits (some q)) :
    a.settle = .error (.wrong (.noValue q.name)) := by
  rw [settle, show a.pending = .awaited q from ha]

theorem add_end (ho : a.onlyWords = false) :
    a.add "--" = .ok (a.around a.pending true a.words) := by
  simp [add, ho, around]

theorem add_word (ho : a.onlyWords = false) (ha : a.Awaits none) (hw : IsBare argument) :
    a.add argument =
      a.settle.map fun b => b.around .nothing a.onlyWords (a.words ++ [argument]) := by
  rw [add_bare ho hw, addBare]
  split
  · next q hq => exact absurd hq (ha q)
  · exact addWord_eq a argument

theorem add_value (ho : a.onlyWords = false) (ha : a.Awaits (some q)) (hv : IsBare argument) :
    a.add argument = .ok (a.around (.unread q argument) a.onlyWords a.words) := by
  rw [add_bare ho hv, addBare, show a.pending = .awaited q from ha]
  rfl

theorem resolve_unread (a : Arguments) (q : Parameter) (v : String) :
    (a.around (.unread q v) a.onlyWords a.words).resolve none =
      (a.resolve (some q)).bind fun b => b.give (.parameter q v) :=
  settle_of_unread (a := a.around (.unread q v) a.onlyWords a.words) rfl

theorem addAll_cons (a : Arguments) (argument : String) (arguments : List String) :
    (a.addAll (argument :: arguments)).bind settle =
      (a.add argument).bind fun b => (b.addAll arguments).bind settle := by
  rw [addAll]
  cases a.add argument <;> rfl

theorem addAll_onlyWords (words : List String) (ho : a.onlyWords = true) :
    (a.addAll words).bind settle =
      a.settle.map fun b => b.around .nothing true (a.words ++ words) := by
  induction words generalizing a with
  | nil =>
    rw [List.append_nil, ← ho]
    exact settle_around a a.onlyWords a.words
  | cons w words ih =>
    rw [addAll_cons, add, if_pos ho, addWord_eq]
    cases hs : a.settle with
    | error e => rfl
    | ok b =>
      have hrest := ih (a := b.around .nothing a.onlyWords (a.words ++ [w])) ho
      rw [settle_of_nothing rfl] at hrest
      simpa [around, Except.bind, Except.map] using hrest

/-- A run whose arguments say something gives it, in its order, and adds the words. Where that is
refused, the run is, with the same error. -/
theorem addAll_of_reads (h : Reads p arguments given words) (ho : a.onlyWords = false)
    (ha : a.Awaits p) : ∃ e, (a.addAll arguments).bind settle =
      (a.resolve p).bind fun b => (b.giveAll given).map fun t =>
        t.around .nothing e (a.words ++ words) := by
  -- What the state still holds back is in `resolve`, so that every step gives its own settings only.
  induction h generalizing a with
  | nil =>
    refine ⟨a.onlyWords, ?_⟩
    rw [List.append_nil]
    exact settle_around a a.onlyWords a.words
  | onlyWords words =>
    refine ⟨true, ?_⟩
    have hwords := addAll_onlyWords words (a := a.around a.pending true a.words) rfl
    rw [settle_around] at hwords
    rw [addAll_cons, add_end ho]
    refine hwords.trans ?_
    rw [resolve]
    cases a.settle <;> rfl
  | @word w arguments words given hw rest ih =>
    rw [addAll_cons, add_word ho ha hw, resolve]
    cases hs : a.settle with
    | error e => exact ⟨false, rfl⟩
    | ok b =>
      obtain ⟨e, he⟩ := ih (a := b.around .nothing a.onlyWords (a.words ++ [w])) ho
        (awaits_of_nothing rfl)
      refine ⟨e, he.trans ?_⟩
      rw [resolve, settle_of_nothing rfl]
      simp only [Except.bind, giveAll_around]
      cases b.giveAll given with
      | error e => rfl
      | ok t => simp [Except.map, around]
  | @value q v arguments words given hv rest ih =>
    rw [addAll_cons, add_value ho ha hv]
    obtain ⟨e, he⟩ := ih (a := a.around (.unread q v) a.onlyWords a.words) ho (awaits_unread a q v)
    refine ⟨e, he.trans ?_⟩
    rw [resolve_unread]
    simp only [resolve, Except.bind, giveAll]
    cases (a.around .nothing a.onlyWords a.words).give (.parameter q v) <;> rfl
  | @switches argument arguments words given others q h rest ih =>
    rw [addAll_cons, add_switches h ho, resolve]
    cases hs : a.settle with
    | error e => exact ⟨false, rfl⟩
    | ok b =>
      simp only [Except.bind, giveAll_append]
      cases hg : b.giveAll given with
      | error e => exact ⟨false, rfl⟩
      | ok t =>
        have ht := around_of_settle_giveAll hs hg
        have hnothing : t.pending = .nothing := congrArg pending ht
        have hwords : t.words = a.words := congrArg (fun b => b.words) ht
        have honly : t.onlyWords = false := (congrArg onlyWords ht).trans ho
        obtain ⟨e, he⟩ := ih ((onlyWords_wait t q).trans honly) (awaits_wait hnothing q)
        refine ⟨e, he.trans ?_⟩
        rw [resolve_wait hnothing, words_wait, hwords]
        rfl

theorem exists_reads (h : (a.addAll arguments).bind settle = .ok b) (ho : a.onlyWords = false)
    (ha : a.Awaits p) : ∃ given words, Reads p arguments given words := by
  induction arguments generalizing a p with
  | nil =>
    cases p with
    | none => exact ⟨[], [], .nil⟩
    | some q => cases (settle_of_awaits ha).symm.trans h
  | cons argument arguments ih =>
    rw [addAll_cons] at h
    obtain ⟨t, hadd, hrest⟩ := Except.bind_eq_ok.1 h
    by_cases hend : argument = "--"
    · subst hend
      obtain rfl := Except.ok.inj ((add_end ho).symm.trans hadd)
      cases p with
      | none => exact ⟨[], arguments, .onlyWords arguments⟩
      | some q =>
        -- The words behind the two hyphens do not serve as the value.
        rw [addAll_onlyWords arguments rfl, settle_around, settle_of_awaits ha] at hrest
        cases hrest
    by_cases hb : IsBare argument
    · cases p with
      | none =>
        rw [add_word ho ha hb] at hadd
        obtain ⟨b, -, rfl⟩ := Except.map_eq_ok.1 hadd
        obtain ⟨given, words, hreads⟩ := ih hrest ho (awaits_of_nothing rfl)
        exact ⟨_, _, .word hb hreads⟩
      | some q =>
        obtain rfl := Except.ok.inj ((add_value ho ha hb).symm.trans hadd)
        obtain ⟨given, words, hreads⟩ := ih hrest ho (awaits_unread a q argument)
        exact ⟨_, _, .value hb hreads⟩
    obtain ⟨given, q, hswitches⟩ := exists_switches ho hb hend hadd
    rw [add_switches hswitches ho] at hadd
    obtain ⟨b, hs, hmap⟩ := Except.bind_eq_ok.1 hadd
    obtain ⟨t, hg, rfl⟩ := Except.map_eq_ok.1 hmap
    cases p with
    | none =>
      have ht := around_of_settle_giveAll hs hg
      have honly : t.onlyWords = false := (congrArg onlyWords ht).trans ho
      obtain ⟨others, words, hreads⟩ :=
        ih hrest ((onlyWords_wait t q).trans honly) (awaits_wait (congrArg pending ht) q)
      exact ⟨_, words, .switches hswitches hreads⟩
    | some r => cases (settle_of_awaits ha).symm.trans hs

theorem ofList_eq (arguments : List String) :
    ofList arguments = (start.addAll arguments).bind settle := by
  rw [ofList]
  cases start.addAll arguments <;> rfl

/-- Reading arguments gives what they say, one setting after the other. -/
theorem ofList_of_reads (h : Reads none arguments given words) :
    ∃ e, ofList arguments = (start.giveAll given).map fun a => a.around .nothing e words := by
  obtain ⟨e, he⟩ := addAll_of_reads h (a := start) rfl (awaits_of_nothing rfl)
  exact ⟨e, (ofList_eq arguments).trans he⟩

theorem exists_reads_of_ofList (h : ofList arguments = .ok a) :
    ∃ given words, Reads none arguments given words :=
  exists_reads ((ofList_eq arguments).symm.trans h) rfl (awaits_of_nothing rfl)

end Arguments

end Cli

end Courier
