import RmqMgr.Shared.History
import RmqMgr.Tcp.Took

set_option autoImplicit false

-- Every error of a read or a write starts a connect, a connect that fails starts the next one,
-- and only an `OnConnect` that succeeds starts none.

namespace RmqMgr.Tcp

open Transition

def Handler.isConnect : Handler → Bool
  | .onConnect _ => true
  | _ => false

-- The connects that were started and whose `OnConnect` has not run.
def connecting (s : TcpMgr) : Nat :=
  s.connects + s.strand.countP Handler.isConnect

def Handler.failed : Handler → Bool
  | .handleRecv (some _) _ => true
  | .handleWrite (some _) => true
  | _ => false

def handlesFailure (s : TcpMgr) (e : Event) : Prop :=
  e.isRun = true ∧ s.strand.head?.any Handler.failed = true

instance (s : TcpMgr) (e : Event) : Decidable (handlesFailure s e) :=
  inferInstanceAs (Decidable (_ ∧ _))

def noteFailure (s : TcpMgr) (e : Event) (_ : TcpMgr) (failures : Nat) : Nat :=
  if handlesFailure s e then failures + 1 else failures

theorem aborted_connects (s : TcpMgr) : (aborted s).countP Handler.isConnect = s.connects := by
  simp [aborted, List.countP_append, Handler.isConnect, List.countP_replicate]

theorem connecting_step {s t : TcpMgr} {e : Event} (taken : step s e = some t) :
    connecting t + t.generation =
      connecting s + s.generation + if handlesFailure s e then 1 else 0 := by
  cases step_took taken with
  | closed waiting idle live abort =>
    have all := abort.countP_eq Handler.isConnect
    simp [connecting, handlesFailure, Event.isRun, waiting, all, aborted_connects,
      Handler.isConnect, Handler.failed]
    omega
  | connectDone outstanding =>
    simp [connecting, handlesFailure, Event.isRun, Handler.isConnect]
    omega
  | _ =>
    simp [connecting, handlesFailure, Event.isRun, Handler.isConnect, Handler.failed,
      List.countP_cons, *] <;> omega

theorem connecting_counts {t : Traced TcpMgr Nat}
    (reached : Reachable (traced step noteFailure) ⟨.started, 0⟩ t) :
    connecting t.now + t.now.generation = 1 + t.past := by
  apply reached.invariant fun t => connecting t.now + t.now.generation = 1 + t.past
  · rfl
  · intro t e u _ counts _ taken
    obtain ⟨stepped, past⟩ := traced_step taken
    rw [connecting_step stepped, past, noteFailure]
    split <;> omega

theorem one_connect_iff {t : Traced TcpMgr Nat}
    (reached : Reachable (traced step noteFailure) ⟨.started, 0⟩ t) :
    connecting t.now ≤ 1 ↔ t.past ≤ t.now.generation := by
  have counts := connecting_counts reached
  omega

def readsAndWrites : List Event :=
  [.connectDone none, .runNext [], .onData .posted ⟨1, [7]⟩, .created, .runNext [], .runNext []]

theorem one_failure_one_connect :
    ∃ t, (Reachable (traced step noteFailure) ⟨.started, 0⟩ t ∧ t.past = 1) ∧
      (connecting t.now ≤ 1 ↔ t.past ≤ t.now.generation) := by
  have ran : ∃ t, Reach (traced step noteFailure) anyStep ⟨.started, 0⟩ t ∧ t.past = 1 :=
    run_reaches (readsAndWrites ++
      [.readDone (.readSome 4096) (some "Connection reset by peer") [], .runNext []])
      (by decide +kernel)
  obtain ⟨t, reached, failed⟩ := ran
  exact ⟨t, ⟨reached, failed⟩, one_connect_iff reached⟩

theorem two_failures_two_connects :
    ∃ t, Reachable (traced step noteFailure) ⟨.started, 0⟩ t ∧ t.now.generation = 1 ∧
      ¬ connecting t.now ≤ 1 :=
  run_reaches (readsAndWrites ++
    [.readDone (.readSome 4096) (some "Connection reset by peer") [],
      .writeDone ⟨1, ⟨1, [7]⟩⟩ (some "Connection reset by peer"), .runNext [], .runNext []])
    (by decide +kernel)

end RmqMgr.Tcp
