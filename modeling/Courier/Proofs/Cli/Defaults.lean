import Courier.Config
import Courier.Proofs.Cli.Settings

/-! Options that come in front of all arguments only add settings. -/

namespace Courier

namespace Cli

/-- Arguments that are options with their values, and nothing else. -/
inductive Complete : List String → List Setting → Prop
  | nil : Complete [] []
  | switches {argument : String} {arguments : List String} {given others : List Setting}
    (h : Switches argument given none) (rest : Complete arguments others) :
    Complete (argument :: arguments) (given ++ others)
  | value {argument v : String} {p : Parameter} {arguments : List String}
    {given others : List Setting} (h : Switches argument given (some p)) (hv : IsBare v)
    (rest : Complete arguments others) :
    Complete (argument :: v :: arguments) (given ++ .parameter p v :: others)

namespace Setting

/-- A timeout is a number of seconds that a duration can hold. -/
def Valid (x : Setting) : Prop :=
  x.switch = .parameter .timeout →
    ∃ t, x.timeout? = some t ∧ ∃ limit, Options.readTimeout t = .ok limit

theorem Valid.readable {x : Setting} (h : x.Valid) : x.Readable := by
  intro hswitch
  obtain ⟨t, ht, -⟩ := h hswitch
  simp [ht]

end Setting

def limitOf (given : List Setting) : Option Duration :=
  (given.findSome? Setting.timeout?).bind fun t => (Options.readTimeout t).toOption.join

/-- Each setting as it is, or else as the defaults give it. -/
def Options.withDefaults (o : Options) (defaults : List Setting) : Options :=
  { o with
    encoding := o.encoding.or (encodingOf (defaults.filterMap Setting.flag?))
    offline := o.offline || .flag .offline ∈ defaults
    verbose := o.verbose || .flag .verbose ∈ defaults
    checkStatus := o.checkStatus || .flag .checkStatus ∈ defaults
    timeout := o.timeout.or (limitOf defaults)
    auth := o.auth.or (defaults.findSome? Setting.auth?) }

variable {arguments more words : List String} {defaults given : List Setting} {o : Options}

theorem Complete.reads_append (hmore : Complete more defaults)
    (h : Reads none arguments given words) :
    Reads none (more ++ arguments) (defaults ++ given) words := by
  induction hmore with
  | nil => exact h
  | switches hs _ ih =>
    rw [List.cons_append, List.append_assoc]
    exact .switches hs ih
  | value hs hv _ ih =>
    rw [List.cons_append, List.cons_append, List.append_assoc, List.cons_append]
    exact .switches hs (.value hv ih)

theorem findSome?_eq_none_or {β : Type} {f : Setting → Option β} {s : Switch}
    (hf : ∀ x, (f x).isSome → x.switch = s)
    (hnodup : ((defaults ++ given).map Setting.switch).Nodup) :
    defaults.findSome? f = none ∨ given.findSome? f = none := by
  rw [List.map_append, List.nodup_append] at hnodup
  by_contra hboth
  simp only [not_or, ← Option.isSome_iff_ne_none, List.findSome?_isSome_iff] at hboth
  obtain ⟨⟨x, hx, hfx⟩, y, hy, hfy⟩ := hboth
  exact hnodup.2.2 _ (List.mem_map_of_mem hx) _ (List.mem_map_of_mem hy)
    ((hf x hfx).trans (hf y hfy).symm)

theorem Options.encodingOf_append {others flags : List Flag}
    (hone : ¬(.json ∈ others ++ flags ∧ .form ∈ others ++ flags)) :
    encodingOf (others ++ flags) = (encodingOf flags).or (encodingOf others) := by
  by_cases hform : .form ∈ others ++ flags
  · have hjson : .json ∉ flags := fun h => hone ⟨List.mem_append_right _ h, hform⟩
    rw [encodingOf, if_pos hform]
    by_cases hflags : .form ∈ flags
    · simp [encodingOf, hflags]
    · have hothers : .form ∈ others := (List.mem_append.1 hform).resolve_right hflags
      simp [encodingOf, hflags, hjson, hothers]
  · rw [List.mem_append, not_or] at hform
    by_cases hjson : .json ∈ flags <;> simp [encodingOf, hform.1, hform.2, hjson]

theorem readTimeout_of_valid {t : Extended} (hvalid : ∀ x ∈ defaults, x.Valid)
    (ht : defaults.findSome? Setting.timeout? = some t) :
    Options.readTimeout t = .ok (limitOf defaults) := by
  obtain ⟨x, hx, hxt⟩ := List.exists_of_findSome?_eq_some ht
  have hswitch := Setting.switch_of_isSome_timeout? (Option.isSome_of_eq_some hxt)
  obtain ⟨t', ht', limit, hlimit⟩ := hvalid x hx hswitch
  obtain rfl : t = t' := Option.some.inj (hxt.symm.trans ht')
  rw [limitOf, ht, Option.bind_some, hlimit]
  rfl

theorem limit_append {limit : Option Duration} (hvalid : ∀ x ∈ defaults, x.Valid)
    (hnodup : ((defaults ++ given).map Setting.switch).Nodup)
    (h : ((given.findSome? Setting.timeout?).map Options.readTimeout).getD (.ok none) =
      .ok limit) :
    (((defaults ++ given).findSome? Setting.timeout?).map Options.readTimeout).getD (.ok none) =
      .ok (limit.or (limitOf defaults)) := by
  rw [List.findSome?_append]
  cases hd : defaults.findSome? Setting.timeout? with
  | none => simpa [limitOf, hd] using h
  | some t =>
    have hnone := findSome?_eq_none_or (fun _ => Setting.switch_of_isSome_timeout?) hnodup
    rw [hnone.resolve_left (by simp [hd])] at h
    cases h
    simpa using readTimeout_of_valid hvalid hd

theorem auth_append (hnodup : ((defaults ++ given).map Setting.switch).Nodup) :
    (defaults ++ given).findSome? Setting.auth? =
      (given.findSome? Setting.auth?).or (defaults.findSome? Setting.auth?) := by
  rw [List.findSome?_append]
  have hnone := findSome?_eq_none_or (fun _ => Setting.switch_of_isSome_auth?) hnodup
  rcases hnone with h | h <;> simp [h]

/-- Arguments that are accepted are accepted behind the options of a configuration as well, unless
these and the arguments give an option twice or both encodings. They mean the same then, where the
options of the configuration are what is not given. -/
theorem Options.parse_defaults {config : Config}
    (hdefaults : Complete config.defaultOptions defaults) (hvalid : ∀ x ∈ defaults, x.Valid)
    (ho : parse arguments = .ok o) :
    (∃ given words, Reads none arguments given words) ∧
      ∀ given words, Reads none arguments given words →
        ((defaults ++ given).map Setting.switch).Nodup →
        ¬(.flag .json ∈ defaults ++ given ∧ .flag .form ∈ defaults ++ given) →
        parse (config.defaultOptions ++ arguments) = .ok (o.withDefaults defaults) := by
  refine ⟨exists_reads_of_parse ho, fun given words hreads hnodup hone => ?_⟩
  obtain ⟨-, hread, hof⟩ := (parse_eq_ok_iff hreads).1 ho
  obtain ⟨-, method, url, items, limit, hwords, hlimit, rfl⟩ := ofArguments_eq_ok_iff.1 hof
  have hreadable : ∀ x ∈ defaults ++ given, x.Readable :=
    List.forall_mem_append.2 ⟨fun x hx => (hvalid x hx).readable, hread⟩
  have hflags : ¬(.json ∈ (defaults ++ given).filterMap Setting.flag? ∧
      .form ∈ (defaults ++ given).filterMap Setting.flag?) := by
    simpa only [Setting.mem_filterMap_flag?] using hone
  refine (parse_eq_ok_iff (hdefaults.reads_append hreads)).2 ⟨hnodup, hreadable, ?_⟩
  refine ofArguments_eq_ok_iff.2 ⟨hflags, method, url, items, limit.or (limitOf defaults), hwords,
    limit_append hvalid hnodup hlimit, ?_⟩
  rw [List.filterMap_append] at hflags
  simp [withDefaults, Arguments.ofSettings, encodingOf_append hflags, auth_append hnodup,
    Setting.mem_filterMap_flag?, Bool.or_comm, -List.mem_filterMap]

theorem Options.parse_defaults_cluster :
    Options.parse (["-va=user:pass", "--timeout", "2.5"] ++
        ["-j", "POST", "--check-status", ":8080/x", "--", "-a=1"]) =
      .ok ⟨some "POST", "http://localhost:8080/x", ["-a=1"], some .json, false, true, true,
        some ⟨2, 500000000⟩, some "user:pass"⟩ := by
  have hdefaults : Complete (Config.mk ["-va=user:pass", "--timeout", "2.5"]).defaultOptions
      [.flag .verbose, .parameter .auth "user:pass", .parameter .timeout "2.5"] :=
    .switches (.letters (List.cons_ne_nil _ _) (.flag rfl (.behindEquals rfl "user:pass".toList)))
      (.value (.awaited .timeout) (by decide) .nil)
  have hvalid : ∀ x ∈ [Setting.flag .verbose, .parameter .auth "user:pass",
      .parameter .timeout "2.5"], x.Valid := by
    simp only [List.forall_mem_cons]
    exact ⟨nofun, nofun, fun _ => ⟨_, rfl, _, rfl⟩, nofun⟩
  have hreads : Reads none ["-j", "POST", "--check-status", ":8080/x", "--", "-a=1"]
      [.flag .json, .flag .checkStatus] ["POST", ":8080/x", "-a=1"] :=
    .switches (.letters (List.cons_ne_nil _ _) (.flag rfl .nil)) (.word (by decide)
      (.switches (.flag .checkStatus) (.word (by decide) (.onlyWords _))))
  exact (Options.parse_defaults hdefaults hvalid rfl).2 _ _ hreads (by decide) (by decide)

end Cli

end Courier
