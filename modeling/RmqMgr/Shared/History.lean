import RmqMgr.Shared.Transition

set_option autoImplicit false

namespace Transition

variable {S E H : Type}

structure Traced (S H : Type) where
  now : S
  past : H

def traced (step : S → E → Option S) (note : S → E → S → H → H) (t : Traced S H) (e : E) :
    Option (Traced S H) :=
  (step t.now e).map fun s => ⟨s, note t.now e s t.past⟩

variable {step : S → E → Option S} {note : S → E → S → H → H} {guard : Traced S H → E → Prop}

theorem traced_step {t u : Traced S H} {e : E} (taken : traced step note t e = some u) :
    step t.now e = some u.now ∧ u.past = note t.now e u.now t.past := by
  obtain ⟨s, stepped, rfl⟩ := Option.map_eq_some_iff.mp taken
  exact ⟨stepped, rfl⟩

theorem Reach.untraced {start t : Traced S H} (reached : Reach (traced step note) guard start t) :
    Reachable step start.now t.now := by
  induction reached with
  | start => exact .start
  | next _ _ taken ih => exact .next ih trivial (traced_step taken).1

-- The record leaves out no run.
theorem Reach.recorded {s t : S} (reached : Reachable step s t) (past : H) :
    ∃ past', Reachable (traced step note) ⟨s, past⟩ ⟨t, past'⟩ := by
  induction reached with
  | start => exact ⟨past, .start⟩
  | @next u v e _ _ taken ih =>
    obtain ⟨past', before⟩ := ih
    have recorded : traced step note ⟨u, past'⟩ e = some ⟨v, note u e v past'⟩ := by
      simp [traced, taken]
    exact ⟨_, .next before trivial recorded⟩

end Transition
