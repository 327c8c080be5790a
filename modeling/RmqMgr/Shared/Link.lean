import RmqMgr.Shared.Transition

set_option autoImplicit false

open Transition

structure Link (A : Type) where
  accepted : List A := []
  carried : List A := []
  broken : Bool := false
  deriving DecidableEq, Repr

namespace Link

variable {A : Type}

inductive Op (A : Type) where
  | accept (a : A)
  | carry
  | fail
  deriving DecidableEq, Repr

def next (l : Link A) : Option A :=
  l.accepted[l.carried.length]?

def step (l : Link A) : Op A → Option (Link A)
  | .accept a => some { l with accepted := l.accepted ++ [a] }
  | .carry =>
    match l.next with
    | some a => if l.broken then none else some { l with carried := l.carried ++ [a] }
    | none => none
  | .fail => if l.broken then none else some { l with broken := true }

-- What simulates the link takes one step of it at a time, or none.
def Moves (l : Link A) : Option (Op A) → Link A → Prop
  | none, m => m = l
  | some op, m => l.step op = some m

theorem Moves.reachable {l m : Link A} {op : Option (Op A)} (moved : l.Moves op m) :
    Reachable step l m := by
  cases op with
  | none =>
    obtain rfl : m = l := moved
    exact .start
  | some op => exact .single trivial moved

def InOrder (l : Link A) : Prop :=
  l.carried <+: l.accepted

theorem carry_step {l m : Link A} (taken : l.step .carry = some m) :
    ∃ a, l.next = some a ∧ l.broken = false ∧ m = { l with carried := l.carried ++ [a] } := by
  cases following : l.next with
  | none => simp [step, following] at taken
  | some a =>
    cases broken : l.broken with
    | true => simp [step, following, broken] at taken
    | false =>
      simp only [step, following, broken, Bool.false_eq_true, if_false, Option.some.injEq] at taken
      exact ⟨a, rfl, rfl, taken.symm⟩

theorem fail_step {l m : Link A} (taken : l.step .fail = some m) :
    l.broken = false ∧ m = { l with broken := true } := by
  cases broken : l.broken with
  | true => simp [step, broken] at taken
  | false =>
    simp only [step, broken, Bool.false_eq_true, if_false, Option.some.injEq] at taken
    exact ⟨rfl, taken.symm⟩

theorem inOrder_step {l m : Link A} {op : Op A} (ordered : l.InOrder)
    (taken : l.step op = some m) : m.InOrder := by
  cases op with
  | accept a =>
    obtain rfl := Option.some.inj taken
    exact ordered.trans (List.prefix_append _ _)
  | carry =>
    obtain ⟨a, following, _, rfl⟩ := carry_step taken
    obtain ⟨rest, whole⟩ := ordered
    rw [next, ← whole, List.getElem?_append_right (Nat.le_refl _), Nat.sub_self] at following
    cases rest with
    | nil => cases following
    | cons head more =>
      obtain rfl := Option.some.inj following
      exact ⟨more, by rw [← whole]; simp⟩
  | fail =>
    obtain ⟨_, rfl⟩ := fail_step taken
    exact ordered

theorem broken_step {l m : Link A} {op : Op A} (broken : l.broken = true)
    (taken : l.step op = some m) :
    m.broken = true ∧ m.carried = l.carried ∧ ∃ a, op = .accept a := by
  cases op with
  | accept a =>
    obtain rfl := Option.some.inj taken
    exact ⟨broken, rfl, a, rfl⟩
  | carry =>
    obtain ⟨_, _, whole, _⟩ := carry_step taken
    rw [broken] at whole
    cases whole
  | fail =>
    obtain ⟨whole, _⟩ := fail_step taken
    rw [broken] at whole
    cases whole

theorem reachable_inOrder {l : Link A} (reached : Reachable step {} l) : l.InOrder := by
  apply reached.invariant InOrder
  · exact List.nil_prefix
  · intro l op m _ ordered _ taken
    exact inOrder_step ordered taken

theorem broken_final {l m : Link A} (broken : l.broken = true) (later : Reachable step l m) :
    m.broken = true ∧ m.carried = l.carried := by
  apply later.invariant (fun m => m.broken = true ∧ m.carried = l.carried) ⟨broken, rfl⟩
  intro m op n _ kept _ taken
  obtain ⟨broken, same, _⟩ := broken_step kept.1 taken
  exact ⟨broken, same.trans kept.2⟩

end Link
