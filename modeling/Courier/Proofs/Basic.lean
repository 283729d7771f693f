import Courier.Json.Basic
import Mathlib

/-! What a result, a success or an error, says about the steps it was made of, and what look-up and
distinct keys make of the order of fields. -/

namespace Courier

namespace Except

variable {ε δ α β : Type}

theorem isOk_iff {x : Except ε α} : x.isOk = true ↔ ∃ a, x = .ok a := by
  cases x <;> simp [Except.isOk, Except.toBool]

theorem toOption_eq_some {x : Except ε α} {a : α} : x.toOption = some a ↔ x = .ok a := by
  cases x <;> simp [Except.toOption]

theorem any_toOption {x : Except ε α} {p : α → Bool} :
    x.toOption.any p = true ↔ ∃ a, x = .ok a ∧ p a = true := by
  cases x <;> simp [Except.toOption]

theorem map_eq_ok {x : Except ε α} {f : α → β} {b : β} :
    x.map f = .ok b ↔ ∃ a, x = .ok a ∧ f a = b := by
  cases x <;> simp [Except.map]

theorem bind_eq_ok {x : Except ε α} {f : α → Except ε β} {b : β} :
    x.bind f = .ok b ↔ ∃ a, x = .ok a ∧ f a = .ok b := by
  cases x <;> simp [Except.bind]

theorem map_eq_error {x : Except ε α} {f : α → β} {e : ε} :
    x.map f = .error e ↔ x = .error e := by
  cases x <;> simp [Except.map]

theorem mapError_eq_error {x : Except ε α} {f : ε → δ} {d : δ} :
    x.mapError f = .error d ↔ ∃ e, x = .error e ∧ f e = d := by
  cases x <;> simp [Except.mapError]

theorem mapError_eq_ok {x : Except ε α} {f : ε → δ} {a : α} :
    x.mapError f = .ok a ↔ x = .ok a := by
  cases x <;> simp [Except.mapError]

end Except

namespace Fields

variable {α : Type} {key : String} {fields : List (String × α)}

theorem nodup_insert (h : (fields.map Prod.fst).Nodup) (key : String) (value : α) :
    ((insert key value fields).map Prod.fst).Nodup := by
  rw [map_fst_insert]
  split
  · exact h
  · next hk => exact List.Nodup.append h (List.nodup_singleton key) (by simpa using hk)

theorem mem_insert {value : α} {f : String × α} (h : f ∈ insert key value fields) :
    f = (key, value) ∨ f ∈ fields := by
  induction fields with
  | nil => exact .inl (List.mem_singleton.1 h)
  | cons g rest ih =>
    by_cases hg : g.1 = key
    · simp only [insert, hg, if_true, List.mem_cons] at h
      exact h.imp_right (List.mem_cons_of_mem g)
    · simp only [insert, hg, if_false, List.mem_cons] at h
      rcases h with rfl | h
      · exact .inr (by simp)
      · exact (ih h).imp_right (List.mem_cons_of_mem g)

theorem find?_of_perm {others : List (String × α)} (h : fields.Perm others)
    (hn : (fields.map Prod.fst).Nodup) : find? key others = find? key fields := by
  have hp := h.map Prod.fst
  by_cases hk : key ∈ fields.map Prod.fst
  · obtain ⟨f, hf, rfl⟩ := List.mem_map.1 hk
    rw [find?_of_mem hn hf, find?_of_mem (hp.nodup hn) (h.mem_iff.1 hf)]
  · rw [find?_of_notMem hk, find?_of_notMem fun hm => hk (hp.mem_iff.2 hm)]

theorem find?_filter_ne (other : String) (fields : List (String × α)) :
    find? key (fields.filter fun f => f.1 ≠ other) =
      if key = other then none else find? key fields := by
  induction fields with
  | nil => simp [find?]
  | cons f rest ih =>
    by_cases hf : f.1 = other
    · by_cases hk : key = other <;> simp_all [find?, eq_comm]
    · by_cases hk : f.1 = key <;> simp_all [find?]

theorem find?_append (key : String) (fields others : List (String × α)) :
    find? key (fields ++ others) = (find? key fields).or (find? key others) := by
  induction fields with
  | nil => rfl
  | cons f rest ih => by_cases hf : f.1 = key <;> simp [find?, hf, ih]

end Fields

end Courier
