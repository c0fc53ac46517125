import Mathlib.Tactic

/-!
# Steps that leave alone what is seen

A part of a state can be looked at without being changed, while the rest of the state does what it
likes.  `Observes seen step answer` says so of a step: from every state that is seen it leads to another
one that is, and what it returns satisfies `answer`.  Sequences of such steps are put together with
`Observes.bind`.

Two programs that differ only in what they keep beside their states go side by side:
`Mirrors R step step'` says that from related states they return the same and get to related states.
-/

namespace SampleForge.Machine

variable {σ τ α β : Type} {seen : σ → Prop}

/-- The step keeps to the states that are seen and returns an answer. -/
def Observes (seen : σ → Prop) (step : StateM σ α) (answer : α → Prop) : Prop :=
  ∀ state, seen state → answer (step.run state).1 ∧ seen (step.run state).2

namespace Observes

variable {step : StateM σ α} {next : α → StateM σ β} {answer answer' : α → Prop} {result : β → Prop}

theorem pure {value : α} (h : answer value) : Observes seen (pure value : StateM σ α) answer :=
  fun _ hseen => ⟨h, hseen⟩

theorem bind (h : Observes seen step answer)
    (h' : ∀ value, answer value → Observes seen (next value) result) :
    Observes seen (step >>= next) result := by
  intro state hseen
  obtain ⟨hvalue, hnext⟩ := h state hseen
  exact h' _ hvalue _ hnext

theorem mono (h : Observes seen step answer) (h' : ∀ value, answer value → answer' value) :
    Observes seen step answer' :=
  fun state hseen => ⟨h' _ (h state hseen).1, (h state hseen).2⟩

/-- If there is only one answer, the run returns it. -/
theorem run_eq {value : α} (h : Observes seen step (· = value)) {state : σ} (hseen : seen state) :
    ∃ after, seen after ∧ step.run state = (value, after) := by
  obtain ⟨hvalue, hafter⟩ := h state hseen
  exact ⟨(step.run state).2, hafter, Prod.ext hvalue rfl⟩

end Observes

/-- From related states both steps return the same and lead to related states. -/
def Mirrors (R : σ → τ → Prop) (step : StateM σ α) (step' : StateM τ α) : Prop :=
  ∀ s t, R s t → (step.run s).1 = (step'.run t).1 ∧ R (step.run s).2 (step'.run t).2

namespace Mirrors

variable {R : σ → τ → Prop} {step : StateM σ α} {step' : StateM τ α} {next : α → StateM σ β}
  {next' : α → StateM τ β}

theorem pure (value : α) : Mirrors R (pure value : StateM σ α) (pure value : StateM τ α) :=
  fun _ _ hrelated => ⟨rfl, hrelated⟩

theorem bind (h : Mirrors R step step') (h' : ∀ value, Mirrors R (next value) (next' value)) :
    Mirrors R (step >>= next) (step' >>= next') := by
  intro s t hrelated
  obtain ⟨hvalue, hafter⟩ := h s t hrelated
  have hnext := h' (step.run s).1 _ _ hafter
  rw [StateT.run_bind, StateT.run_bind]
  -- Both go on with the same value.
  change ((next (step.run s).1).run (step.run s).2).1 =
      ((next' (step'.run t).1).run (step'.run t).2).1 ∧
    R ((next (step.run s).1).run (step.run s).2).2 ((next' (step'.run t).1).run (step'.run t).2).2
  rwa [← hvalue]

theorem exists_run (h : Mirrors R step step') {s : σ} {t : τ} (hrelated : R s t) :
    ∃ value after after', step.run s = (value, after) ∧ step'.run t = (value, after') ∧
      R after after' := by
  obtain ⟨hvalue, hafter⟩ := h s t hrelated
  exact ⟨_, _, _, rfl, Prod.ext hvalue.symm rfl, hafter⟩

end Mirrors
end SampleForge.Machine
