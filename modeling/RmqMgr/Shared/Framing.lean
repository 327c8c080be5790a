import Mathlib.Algebra.BigOperators.Group.List.Basic
import Mathlib.Algebra.GroupWithZero.Nat
import Mathlib.Data.List.Basic

set_option autoImplicit false

namespace Framing

theorem take_initial {A : Type} {part whole : List A} (initial : part <+: whole) (n : Nat) :
    part.take n <+: whole.take n := by
  obtain ⟨rest, rfl⟩ := initial
  rw [List.take_append]
  exact List.prefix_append _ _

theorem drop_initial {A : Type} {part whole : List A} (initial : part <+: whole) (n : Nat) :
    part.drop n <+: whole.drop n := by
  obtain ⟨rest, rfl⟩ := initial
  rw [List.drop_append]
  exact List.prefix_append _ _

variable {F : Type} (size : F → Nat)

def total (blocks : List F) : Nat :=
  (blocks.map size).sum

-- The blocks that lie wholly within the first `received` positions of the stream.
def complete : List F → Nat → List F
  | [], _ => []
  | block :: rest, received =>
    if size block ≤ received then block :: complete rest (received - size block) else []

@[simp] theorem total_append (first second : List F) :
    total size (first ++ second) = total size first + total size second := by
  simp [total]

@[simp] theorem total_cons (block : F) (rest : List F) :
    total size (block :: rest) = size block + total size rest := by
  simp [total]

@[simp] theorem total_nil : total size [] = 0 := rfl

theorem complete_initial (blocks : List F) (received : Nat) :
    complete size blocks received <+: blocks := by
  induction blocks generalizing received with
  | nil => exact List.prefix_rfl
  | cons block rest ih =>
    by_cases fits : size block ≤ received
    next =>
      simp only [complete, fits, if_true]
      exact (List.prefix_cons_inj block).mpr (ih _)
    next =>
      simp only [complete, fits, if_false]
      exact List.nil_prefix

theorem complete_eq (done rest : List F) (received : Nat) (fits : total size done ≤ received)
    (cut : ∀ block more, rest = block :: more → received < total size done + size block) :
    complete size (done ++ rest) received = done := by
  induction done generalizing received with
  | nil =>
    cases rest with
    | nil => rfl
    | cons block more =>
      have short := cut block more rfl
      rw [total_nil] at short
      have beyond : ¬ size block ≤ received := by omega
      simp [complete, beyond]
  | cons block done ih =>
    rw [total_cons] at fits
    have here : size block ≤ received := by omega
    have later := ih (received - size block) (by omega) (by
      intro next more same
      have short := cut next more same
      rw [total_cons] at short
      omega)
    simp [complete, here, later]

theorem complete_mono (blocks : List F) {received more : Nat} (grown : received ≤ more) :
    complete size blocks received <+: complete size blocks more := by
  induction blocks generalizing received more with
  | nil => exact List.prefix_rfl
  | cons block rest ih =>
    by_cases fits : size block ≤ received
    next =>
      have fits' : size block ≤ more := by omega
      simp only [complete, fits, fits', if_true]
      exact (List.prefix_cons_inj block).mpr (ih (by omega))
    next =>
      simp only [complete, fits, if_false]
      exact List.nil_prefix

theorem mem_complete (done rest : List F) (block : F) {received : Nat}
    (fits : total size done + size block ≤ received) :
    block ∈ complete size (done ++ block :: rest) received := by
  induction done generalizing received with
  | nil =>
    have here : size block ≤ received := by simpa using fits
    simp [complete, here]
  | cons first done ih =>
    rw [total_cons] at fits
    have here : size first ≤ received := by omega
    simp only [List.cons_append, complete, here, if_true]
    exact List.mem_cons_of_mem _ (ih (by omega))

end Framing
