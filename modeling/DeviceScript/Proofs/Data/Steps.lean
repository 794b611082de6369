/-! Computations in steps, of which each may fail or leave something behind. -/

namespace DeviceScript

variable {ε α β : Type}

/-- What succeeds in two steps succeeds in each of them. -/
theorem exists_of_bind_eq_ok {first : Except ε α} {second : α → Except ε β} {result : β}
    (h : first >>= second = .ok result)
    : ∃ value, first = .ok value ∧ second value = .ok result := by
  cases first with
  | error error => exact absurd h nofun
  | ok value => exact ⟨value, rfl, h⟩

/-- What fails in two steps fails in one of them. -/
theorem error_of_bind {first : Except ε α} {second : α → Except ε β} {error : ε}
    (h : first >>= second = .error error)
    : first = .error error ∨ ∃ value, second value = .error error := by
  cases first with
  | error _ => exact .inl (congrArg Except.error (Except.error.inj h))
  | ok value => exact .inr ⟨value, h⟩

/-- What succeeds for each member of a list succeeds for the list, by induction over it. -/
theorem exists_mapM {action : α → Except ε β} {list : List α}
    (h : ∀ value ∈ list, ∃ result, action value = .ok result)
    : ∃ results, list.mapM action = .ok results := by
  induction list with
  | nil => exact ⟨[], rfl⟩
  | cons value list ih =>
      obtain ⟨result, hresult⟩ := h value List.mem_cons_self
      obtain ⟨results, hresults⟩ := ih fun inner hm => h inner (List.mem_cons_of_mem value hm)
      refine ⟨result :: results, ?_⟩
      rw [List.mapM_cons, hresult, hresults]
      rfl

namespace StateM

variable {σ : Type}

/-- An action that only yields a value leaves all as it is. -/
theorem run_pure (value : α) (state : σ) : (pure value : StateM σ α).run state = (value, state) :=
  rfl

/-- One action after another, the second one on what the first one leaves. -/
theorem run_bind (action : StateM σ α) (next : α → StateM σ β) (state : σ)
    : (action >>= next).run state = (next (action.run state).1).run (action.run state).2 :=
  rfl

/-- A change of the value leaves behind what the action does. -/
theorem run_map (change : α → β) (action : StateM σ α) (state : σ)
    : (change <$> action).run state = (change (action.run state).1, (action.run state).2) :=
  rfl

end StateM

end DeviceScript
