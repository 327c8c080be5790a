import Mathlib.Logic.Function.Iterate

set_option autoImplicit false

namespace Loop

variable {S : Type} {body : S → S} {inv : S → Prop}

theorem invariant (kept : ∀ s, inv s → inv (body s)) {s : S} (initial : inv s) (n : Nat) :
    inv (body^[n] s) := by
  induction n with
  | zero => exact initial
  | succ n ih =>
    rw [Function.iterate_succ_apply']
    exact kept _ ih

theorem terminates (finished : S → Prop) (measure : S → Nat) (kept : ∀ s, inv s → inv (body s))
    (falls : ∀ s, inv s → ¬ finished s → measure (body s) < measure s) {s : S} (initial : inv s) :
    ∃ n, finished (body^[n] s) ∧ inv (body^[n] s) := by
  induction bound : measure s using Nat.strongRecOn generalizing s with
  | ind m ih =>
    by_cases done : finished s
    next => exact ⟨0, done, initial⟩
    next =>
      have less := falls s initial done
      rw [bound] at less
      obtain ⟨n, final⟩ := ih _ less (kept s initial) rfl
      exact ⟨n + 1, final⟩

theorem diverges (finished : S → Prop) (fixed : ∀ s, finished s → body s = s)
    (kept : ∀ s, inv s → inv (body s)) (goesOn : ∀ s, inv s → ¬ finished s) {s : S} {m : Nat}
    (met : inv (body^[m] s)) (n : Nat) : ¬ finished (body^[n] s) := by
  intro done
  have later : body^[m + n] s = body^[n] s := by
    rw [Function.iterate_add_apply, Function.iterate_fixed (fixed _ done)]
  have spins : inv (body^[n + m] s) := by
    rw [Function.iterate_add_apply]
    exact invariant kept met n
  rw [Nat.add_comm, later] at spins
  exact goesOn _ spins done

end Loop
