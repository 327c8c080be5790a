import Mathlib.Data.List.Basic

set_option autoImplicit false

namespace Transition

variable {S T E F : Type}

inductive Reach (step : S → E → Option S) (guard : S → E → Prop) (start : S) : S → Prop where
  | start : Reach step guard start start
  | next {s t : S} {e : E} :
      Reach step guard start s → guard s e → step s e = some t → Reach step guard start t

abbrev anyStep (_ : S) (_ : E) : Prop := True

abbrev Reachable (step : S → E → Option S) (start : S) : S → Prop :=
  Reach step anyStep start

def run (step : S → E → Option S) (guard : S → E → Prop) [∀ s e, Decidable (guard s e)] :
    S → List E → Option S
  | s, [] => some s
  | s, e :: rest =>
    if guard s e then (step s e).bind fun t => run step guard t rest else none

variable {step : S → E → Option S} {guard : S → E → Prop} {start s t : S}

theorem Reach.single {e : E} (met : guard s e) (taken : step s e = some t) :
    Reach step guard s t :=
  .next .start met taken

theorem Reach.trans {u : S} (first : Reach step guard s t) (second : Reach step guard t u) :
    Reach step guard s u := by
  induction second with
  | start => exact first
  | next _ met taken ih => exact .next ih met taken

theorem Reach.weaken {weaker : S → E → Prop} (implied : ∀ s e, guard s e → weaker s e)
    (reached : Reach step guard start s) : Reach step weaker start s := by
  induction reached with
  | start => exact .start
  | next _ met taken ih => exact .next ih (implied _ _ met) taken

theorem Reach.reachable (reached : Reach step guard start s) : Reachable step start s :=
  reached.weaken fun _ _ _ => trivial

theorem Reach.invariant (inv : S → Prop) (initial : inv start)
    (kept : ∀ s e t, Reach step guard start s → inv s → guard s e → step s e = some t → inv t)
    (reached : Reach step guard start s) : inv s := by
  induction reached with
  | start => exact initial
  | next before met taken ih => exact kept _ _ _ before ih met taken

-- A view of the state whose steps are runs of another system carries runs to runs.
theorem Reach.project {stepT : T → F → Option T} {guardT : T → F → Prop} (view : S → T)
    (simulated : ∀ s e t, guard s e → step s e = some t → Reach stepT guardT (view s) (view t))
    (reached : Reach step guard start s) : Reach stepT guardT (view start) (view s) := by
  induction reached with
  | start => exact .start
  | next _ met taken ih => exact ih.trans (simulated _ _ _ met taken)

theorem run_reach [∀ s e, Decidable (guard s e)] {events : List E}
    (ran : run step guard s events = some t) : Reach step guard s t := by
  induction events generalizing s with
  | nil =>
    obtain rfl := Option.some.inj ran
    exact .start
  | cons e rest ih =>
    simp only [run, Option.ite_none_right_eq_some, Option.bind_eq_some_iff] at ran
    obtain ⟨met, middle, taken, continued⟩ := ran
    exact (Reach.single met taken).trans (ih continued)

theorem run_reaches [∀ s e, Decidable (guard s e)] {P : S → Prop} [DecidablePred P]
    (events : List E) (ran : (run step guard s events).any (fun t => decide (P t)) = true) :
    ∃ t, Reach step guard s t ∧ P t := by
  obtain ⟨t, final, holds⟩ := Option.any_eq_true _ _ |>.mp ran
  exact ⟨t, run_reach final, of_decide_eq_true holds⟩

-- A goal is reached from everywhere if some step comes closer to it from wherever it is not met.
theorem Reach.approaches {inv goal : S → Prop} {closer : S → S → Prop}
    (founded : WellFounded closer)
    (progress : ∀ s, inv s → ¬ goal s →
      ∃ e t, guard s e ∧ step s e = some t ∧ inv t ∧ closer t s) (initial : inv s) :
    ∃ t, Reach step guard s t ∧ inv t ∧ goal t := by
  induction s using founded.induction with
  | _ s ih =>
    by_cases met : goal s
    · exact ⟨s, .start, initial, met⟩
    · obtain ⟨e, t, allowed, taken, kept, nearer⟩ := progress s initial met
      obtain ⟨u, later, final⟩ := ih t nearer kept
      exact ⟨u, (Reach.single allowed taken).trans later, final⟩

end Transition
