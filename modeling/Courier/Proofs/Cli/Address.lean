import Courier.Cli.Options
import Courier.Url.Parser
import Mathlib

/-! Addresses as they are completed. Where `://` stands, wherever this is, a scheme is taken to be
there; so an address without one is left incomplete if the mark follows later. -/

namespace Courier

namespace Cli

/-- A letter and further characters of a scheme stand in front of the mark `://`. -/
def HasScheme (s : List Char) : Prop :=
  ∃ c more rest, s = c :: more ++ "://".toList ++ rest ∧ c.isAlpha = true ∧
    ∀ d ∈ more, Url.isSchemeChar d = true

/-- The text does not leave out the local host. -/
def NamesHost (s : List Char) : Prop := s.head? ≠ some ':' ∨ "::".toList <+: s

variable {s : List Char}

theorem hasScheme_iff :
    HasScheme s ↔ s.head?.any Char.isAlpha = true ∧
      "://".toList <+: s.dropWhile Url.isSchemeChar := by
  constructor
  · rintro ⟨c, more, rest, rfl, hc, hmore⟩
    have hfirst : Url.isSchemeChar c = true := by simp [Url.isSchemeChar, Char.isAlphanum, hc]
    have hall : ∀ d ∈ c :: more, Url.isSchemeChar d = true := List.forall_mem_cons.2 ⟨hfirst, hmore⟩
    refine ⟨hc, rest, ?_⟩
    rw [List.append_assoc, List.dropWhile_append_of_pos hall]
    rfl
  · rintro ⟨hhead, rest, hrest⟩
    obtain ⟨c, hhead, hc⟩ := (Option.any_eq_true _ _).1 hhead
    obtain ⟨t, rfl⟩ := List.head?_eq_some_iff.1 hhead
    have hfirst : Url.isSchemeChar c = true := by simp [Url.isSchemeChar, Char.isAlphanum, hc]
    refine ⟨c, t.takeWhile Url.isSchemeChar, rest, ?_, hc, fun d hd => List.mem_takeWhile_imp hd⟩
    rw [List.dropWhile_cons_of_pos hfirst] at hrest
    rw [List.cons_append, List.cons_append, List.append_assoc, hrest,
      List.takeWhile_append_dropWhile]

theorem HasScheme.marked (h : HasScheme s) : "://".toList <:+: s := by
  obtain ⟨c, more, rest, rfl, -⟩ := h
  exact List.infix_append _ _ _

theorem localPart?_eq_none (h : NamesHost s) : localPart? s = none := by
  unfold localPart?
  split
  · rfl
  · next rest hne =>
    rcases h with h | ⟨t, ht⟩
    · exact absurd rfl h
    · exact absurd ht.symm (by simpa using hne t)
  · rfl

theorem completeAddress_of_namesHost (h : NamesHost s) :
    completeAddress s = if "://".toList <:+: s then s else defaultScheme ++ s := by
  have hs : (splitOnce? "://".toList s).isSome = true ↔ "://".toList <:+: s := by
    rw [Option.isSome_iff_ne_none, Ne, splitOnce?_eq_none, not_not]
  rw [completeAddress, localPart?_eq_none h]
  exact if_congr hs rfl rfl

theorem completeUrl_of_namesHost {url : String} (h : NamesHost url.toList) :
    completeUrl url = if "://".toList <:+: url.toList then url else "http://" ++ url := by
  rw [completeUrl, completeAddress_of_namesHost h]
  split
  · exact String.ofList_toList
  · show String.ofList ("http://".toList ++ url.toList) = "http://" ++ url
    rw [String.ofList_append, String.ofList_toList, String.ofList_toList]

theorem default_append_ne (url : String) : "http://" ++ url ≠ url := by
  intro h
  have hlength := congrArg String.length h
  rw [String.length_append] at hlength
  have hmark : "http://".length = 7 := by decide
  omega

/-- A URL that names its host stays as it is if it begins with a scheme. One that does not gets the
default scheme exactly if the mark of a scheme occurs nowhere in it, and otherwise it stays without.
-/
theorem completeUrl_adds_scheme {url : String} (h : NamesHost url.toList) :
    (HasScheme url.toList → completeUrl url = url) ∧
    (¬ HasScheme url.toList →
      (completeUrl url = "http://" ++ url ↔ ¬ "://".toList <:+: url.toList) ∧
      (completeUrl url = url ↔ "://".toList <:+: url.toList)) := by
  rw [completeUrl_of_namesHost h]
  refine ⟨fun hs => if_pos hs.marked, fun _ => ?_⟩
  split
  · next hm => exact ⟨iff_of_false (default_append_ne url).symm (not_not.2 hm), iff_of_true rfl hm⟩
  · next hm => exact ⟨iff_of_true rfl hm, iff_of_false (default_append_ne url) hm⟩

theorem completeUrl_adds_scheme_two_colons :
    NamesHost "::1/a".toList ∧ ¬ HasScheme "::1/a".toList ∧ completeUrl "::1/a" = "http://::1/a" ∧
      NamesHost "web+x.y://h".toList ∧ HasScheme "web+x.y://h".toList ∧
      completeUrl "web+x.y://h" = "web+x.y://h" := by
  have hcolons : NamesHost "::1/a".toList := .inr (by decide)
  have hplain : NamesHost "web+x.y://h".toList := .inl (by decide)
  have hnone : ¬ HasScheme "::1/a".toList := by
    rw [hasScheme_iff]
    decide
  have hscheme : HasScheme "web+x.y://h".toList := by
    rw [hasScheme_iff]
    decide
  refine ⟨hcolons, hnone, ?_, hplain, hscheme, ?_⟩
  · exact ((completeUrl_adds_scheme hcolons).2 hnone).1.2 (by decide)
  · exact (completeUrl_adds_scheme hplain).1 hscheme

/-- A mark in the query passes for a scheme. -/
theorem completeUrl_leaves_query :
    NamesHost "x.org/?u=http://y".toList ∧ ¬ HasScheme "x.org/?u=http://y".toList ∧
      completeUrl "x.org/?u=http://y" = "x.org/?u=http://y" ∧
      completeUrl "x.org/?u=http://y" ≠ "http://" ++ "x.org/?u=http://y" := by
  have hc : completeUrl "x.org/?u=http://y" = "x.org/?u=http://y" := by cbv
  refine ⟨.inl (by decide), ?_, hc, ?_⟩
  · rw [hasScheme_iff]
    decide
  · rw [hc]
    exact (default_append_ne _).symm

end Cli

end Courier
