import RmqMgr.Shared.Transition

set_option autoImplicit false

-- An entry starts at once when the list was empty, and leaves it when its operation succeeds. So
-- after a failure the list no longer tells whether something is under way.

namespace HeadQueue

open Transition

variable {A : Type}

structure Queue (A : Type) where
  pending : List A
  active : Bool

inductive Op (A : Type) where
  | push (a : A)
  | finish
  | fail

namespace Queue

def push (q : Queue A) (a : A) : Queue A :=
  ⟨q.pending ++ [a], q.active || q.pending.isEmpty⟩

def finish (q : Queue A) : Queue A :=
  ⟨q.pending.tail, !q.pending.tail.isEmpty⟩

def fail (q : Queue A) : Queue A :=
  { q with active := false }

def step (q : Queue A) : Op A → Option (Queue A)
  | .push a => some (q.push a)
  | .finish => if q.active then some q.finish else none
  | .fail => if q.active then some q.fail else none

def Valid (q : Queue A) : Prop := q.active → q.pending ≠ []

def Stuck (q : Queue A) : Prop := q.pending ≠ [] ∧ q.active = false

instance (q : Queue A) : Decidable q.Stuck :=
  decidable_of_iff (q.pending.isEmpty = false ∧ q.active = false) (by simp [Stuck])

theorem valid_of_step {q r : Queue A} {op : Op A} (taken : q.step op = some r) : r.Valid := by
  cases op with
  | push a =>
    obtain rfl := Option.some.inj taken
    simp [Valid, push]
  | finish =>
    simp only [step, Option.ite_none_right_eq_some, Option.some.injEq] at taken
    obtain ⟨_, rfl⟩ := taken
    simp [Valid, finish]
  | fail =>
    simp only [step, Option.ite_none_right_eq_some, Option.some.injEq] at taken
    obtain ⟨_, rfl⟩ := taken
    simp [Valid, fail]

theorem stuck_step {q r : Queue A} {op : Op A} (stuck : q.Stuck) (taken : q.step op = some r) :
    r.Stuck ∧ q.pending <+: r.pending := by
  obtain ⟨left, inactive⟩ := stuck
  cases op with
  | push a =>
    obtain rfl := Option.some.inj taken
    exact ⟨⟨by simp [push], by simp [push, inactive, left]⟩, List.prefix_append _ _⟩
  | finish => simp [step, inactive] at taken
  | fail => simp [step, inactive] at taken

theorem stuck_of_step {q r : Queue A} {op : Op A} (taken : q.step op = some r)
    (free : ¬ q.Stuck) (stuck : r.Stuck) : op = .fail := by
  cases op with
  | push a =>
    obtain rfl := Option.some.inj taken
    have still := stuck.2
    simp only [push, Bool.or_eq_false_iff, List.isEmpty_eq_false_iff] at still
    exact absurd ⟨still.2, still.1⟩ free
  | finish =>
    simp only [step, Option.ite_none_right_eq_some, Option.some.injEq] at taken
    obtain ⟨_, rfl⟩ := taken
    exact absurd stuck.2 (by simpa [finish] using stuck.1)
  | fail => rfl

theorem stuck_of_fail {q r : Queue A} (valid : q.Valid) (taken : q.step .fail = some r) :
    r.Stuck := by
  simp only [step, Option.ite_none_right_eq_some, Option.some.injEq] at taken
  obtain ⟨active, rfl⟩ := taken
  exact ⟨valid active, rfl⟩

theorem Stuck.only_pushed {q r : Queue A} {op : Op A} (stuck : q.Stuck)
    (taken : q.step op = some r) : ∃ a, op = .push a := by
  cases op with
  | push a => exact ⟨a, rfl⟩
  | finish | fail => simp [step, stuck.2] at taken

def counted (pending : List A) (n : Nat) : Queue A :=
  ⟨pending, decide (0 < n)⟩

theorem counted_push {pending : List A} {n m : Nat} (a : A) (one : n ≤ 1)
    (valid : (counted pending n).Valid) (count : m = n + if pending.isEmpty then 1 else 0) :
    m ≤ 1 ∧ (counted pending n).push a = counted (pending ++ [a]) m := by
  cases empty : pending with
  | nil =>
    have quiet : n = 0 := by
      by_contra busy
      exact valid (by simpa [counted] using Nat.pos_of_ne_zero busy) empty
    simp [count, empty, quiet, counted, push]
  | cons head rest => simp [count, empty, one, counted, push]

theorem counted_finish {pending : List A} {n m : Nat} (before : n = 1)
    (count : m = if pending.tail.isEmpty then 0 else 1) :
    m ≤ 1 ∧ (counted pending n).active = true ∧
      (counted pending n).finish = counted pending.tail m := by
  cases empty : pending.tail.isEmpty <;> simp [count, empty, before, counted, finish]

theorem counted_fail (pending : List A) {n m : Nat} (before : n = 1) (after : m = 0) :
    m ≤ 1 ∧ (counted pending n).active = true ∧
      (counted pending n).fail = counted pending m := by
  simp [before, after, counted, fail]

end Queue

/-- With the entries it was given, those whose operation it started, and those whose operation
succeeded, each in order. -/
structure Ledger (A : Type) extends Queue A where
  pushed : List A
  started : List A
  finished : List A

namespace Ledger

def push (l : Ledger A) (a : A) : Ledger A where
  toQueue := l.toQueue.push a
  pushed := l.pushed ++ [a]
  started := if l.pending.isEmpty then l.started ++ [a] else l.started
  finished := l.finished

def finish (l : Ledger A) : Ledger A where
  toQueue := l.toQueue.finish
  pushed := l.pushed
  started := l.started ++ l.pending.tail.take 1
  finished := l.finished ++ l.pending.take 1

def fail (l : Ledger A) : Ledger A :=
  { l with toQueue := l.toQueue.fail }

def step (l : Ledger A) : Op A → Option (Ledger A)
  | .push a => some (l.push a)
  | .finish => if l.active then some l.finish else none
  | .fail => if l.active then some l.fail else none

theorem toQueue_step {l m : Ledger A} {op : Op A} (taken : l.step op = some m) :
    l.toQueue.step op = some m.toQueue := by
  cases op with
  | push a =>
    obtain rfl := Option.some.inj taken
    rfl
  | finish =>
    simp only [step, Option.ite_none_right_eq_some, Option.some.injEq] at taken
    obtain ⟨active, rfl⟩ := taken
    simp [Queue.step, active, finish]
  | fail =>
    simp only [step, Option.ite_none_right_eq_some, Option.some.injEq] at taken
    obtain ⟨active, rfl⟩ := taken
    simp [Queue.step, active, fail]

structure InOrder (l : Ledger A) : Prop where
  pushed : l.pushed = l.finished ++ l.pending
  started : l.started = l.finished ++ l.pending.take 1

theorem inOrder_step {l m : Ledger A} {op : Op A} (valid : l.Valid) (ordered : l.InOrder)
    (taken : l.step op = some m) : m.InOrder := by
  obtain ⟨pushed, started⟩ := ordered
  cases op with
  | push a =>
    obtain rfl := Option.some.inj taken
    constructor
    · simp [push, Queue.push, pushed]
    · cases waiting : l.pending <;> simp [push, Queue.push, started, waiting]
  | finish =>
    simp only [step, Option.ite_none_right_eq_some, Option.some.injEq] at taken
    obtain ⟨active, rfl⟩ := taken
    obtain ⟨head, rest, waiting⟩ := List.exists_cons_of_ne_nil (valid active)
    constructor
    · simp [finish, Queue.finish, pushed, waiting]
    · simp [finish, Queue.finish, started, waiting]
  | fail =>
    simp only [step, Option.ite_none_right_eq_some, Option.some.injEq] at taken
    obtain ⟨_, rfl⟩ := taken
    exact ⟨pushed, started⟩

theorem InOrder.started_fifo {l : Ledger A} (ordered : l.InOrder) : l.started <+: l.pushed := by
  rw [ordered.started, ordered.pushed]
  exact (List.prefix_append_right_inj _).mpr (List.take_prefix _ _)

theorem InOrder.drained {l : Ledger A} (ordered : l.InOrder) (free : ¬ l.Stuck)
    (inactive : l.active = false) :
    l.pending = [] ∧ l.started = l.pushed ∧ l.finished = l.pushed := by
  have empty : l.pending = [] := by
    by_contra waiting
    exact free ⟨waiting, inactive⟩
  refine ⟨empty, ?_, ?_⟩
  · rw [ordered.started, ordered.pushed, empty]
    simp
  · rw [ordered.pushed, empty]
    simp

end Ledger

end HeadQueue
