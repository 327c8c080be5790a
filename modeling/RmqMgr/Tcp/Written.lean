import RmqMgr.Tcp.QueueSafety
import RmqMgr.Tcp.SendOrder

set_option autoImplicit false

-- A message leaves `m_pending_sends` when the handler of its successful write runs, so what has
-- been written is what left the list and the front whose handler waits.

namespace RmqMgr.Tcp

open Transition

def Handler.wrote : Handler → Bool
  | .handleWrite none => true
  | _ => false

def landed (s : TcpMgr) : Nat :=
  s.strand.countP Handler.wrote

theorem reachable_fronts {s : TcpMgr} (reached : Reachable step .started s) : Fronts s := by
  refine reached.invariant Fronts ?_ fun _ _ _ before fronts _ taken =>
    fronts_step (reachable_inFlight before) fronts taken
  constructor <;> intro op outstanding <;> cases outstanding

theorem landed_le (s : TcpMgr) : landed s ≤ s.strand.countP Handler.isWrite := by
  refine List.countP_mono_left fun h _ wrote => ?_
  cases h with
  | handleWrite err => rfl
  | _ => cases wrote

theorem landed_one {s : TcpMgr} (flight : InFlight s) : landed s ≤ 1 := by
  have waiting := landed_le s
  have bound := flight.oneWrite
  unfold writesInFlight at bound
  omega

theorem landed_pending {s : TcpMgr} (flight : InFlight s) : landed s ≤ s.pendingSends.length := by
  by_cases quiet : landed s = 0
  · omega
  · have waiting := landed_le s
    have pending := flight.sends_pending (by unfold writesInFlight; omega)
    have some := List.length_pos_of_ne_nil pending
    have one := landed_one flight
    omega

theorem landed_writing {s : TcpMgr} (flight : InFlight s) (outstanding : s.writes ≠ []) :
    landed s = 0 := by
  have waiting := landed_le s
  have some := List.length_pos_of_ne_nil outstanding
  have one := flight.oneWrite
  unfold writesInFlight at one
  omega

theorem aborted_landed (s : TcpMgr) : (aborted s).countP Handler.wrote = 0 := by
  simp [aborted, operationAborted, Handler.wrote, List.countP_append, List.countP_replicate]

def WrittenFront (s : TcpMgr) : Prop :=
  s.written = s.finished ++ s.pendingSends.take (landed s)

theorem writtenFront_step {s t : TcpMgr} {e : Event} (flight : InFlight s) (fronts : Fronts s)
    (written : WrittenFront s) (taken : step s e = some t) : WrittenFront t := by
  have pending := landed_pending flight
  have one := landed_one flight
  unfold WrittenFront at *
  cases step_took taken with
  | @sendStarted _ rest _ waiting _ empty =>
    have none : landed s = 0 := by simpa [empty] using pending
    have rest : rest.countP Handler.wrote = 0 := by
      simpa [landed, waiting, List.countP_cons, Handler.wrote] using none
    simp only [landed, rest]
    rw [written, none, List.take_zero]
    rfl
  | sendQueued waiting =>
    simp only [landed, waiting, List.countP_cons, Handler.wrote, Bool.false_eq_true, if_false,
      Nat.add_zero] at written pending ⊢
    rw [List.take_append_of_le_length pending]
    exact written
  | sendFinished waiting _ last | sendNext waiting _ last =>
    simp only [landed, waiting, List.countP_cons, Handler.wrote, if_true] at written one ⊢
    have none : List.countP Handler.wrote _ = 0 := Nat.le_zero.mp (Nat.le_of_succ_le_succ one)
    rw [none] at written ⊢
    simpa using written
  | closed waiting _ _ abort =>
    have none := (abort.countP_eq Handler.wrote).trans (aborted_landed s)
    simp only [landed, waiting, List.countP_cons, List.countP_append, none, Handler.wrote,
      Bool.false_eq_true, if_false] at written ⊢
    exact written
  | @writeDone op err outstanding =>
    cases err with
    | some message =>
      simp only [landed, List.countP_append] at written ⊢
      exact written
    | none =>
      have quiet : landed s = 0 := landed_writing flight (List.ne_nil_of_mem outstanding)
      obtain ⟨rest, front⟩ := List.head?_eq_some_iff.mp (fronts.writes op outstanding)
      have now : List.countP Handler.wrote (s.strand ++ [.handleWrite none]) = 1 := by
        rw [List.countP_append]
        exact congrArg (· + 1) quiet
      simp only [if_true, landed, now, front]
      rw [written, quiet]
      simp
  | _ => simp_all [landed, Handler.wrote]

theorem reachable_writtenFront {s : TcpMgr} (reached : Reachable step .started s) :
    WrittenFront s :=
  reached.invariant WrittenFront (by rfl) fun _ _ _ before written _ taken =>
    writtenFront_step (reachable_inFlight before) (reachable_fronts before) written taken

theorem written_length {s : TcpMgr} (reached : Reachable step .started s) :
    s.written.length = s.finished.length + landed s := by
  have pending := landed_pending (reachable_inFlight reached)
  rw [reachable_writtenFront reached, List.length_append, List.length_take, Nat.min_eq_left pending]

theorem written_posted {s : TcpMgr} (reached : Reachable step .started s) :
    s.written <+: s.posted := by
  have accepted : s.accepted = s.finished ++ s.pendingSends :=
    (reachable_inFlight reached).ordered.pushed
  rw [reachable_writtenFront reached, reachable_posted reached, accepted, List.append_assoc]
  refine (List.prefix_append_right_inj _).mpr ?_
  exact (List.take_prefix _ _).trans (List.prefix_append _ _)

theorem written_iff {s : TcpMgr} {msgs : List Message} (reached : Reachable step .started s)
    (posted : msgs <+: s.posted) :
    msgs <+: s.written ↔ msgs.length ≤ s.finished.length + landed s := by
  rw [← written_length reached]
  exact ⟨List.IsPrefix.length_le, List.prefix_of_prefix_length_le posted (written_posted reached)⟩

theorem stopped_kept {s t : TcpMgr} {e : Event} (taken : step s e = some t)
    (stopped : s.stopped = true) :
    t.finished = s.finished ∧ t.socketStarted = s.socketStarted := by
  have waits : e.isRun ≠ true := by
    intro run
    rw [run_unstopped taken run] at stopped
    cases stopped
  cases step_took taken with
  | stopped | created | parsedLast | parsedNext | connectDone | readDone | writeDone | posted
  | ready | closePosted | postFailed | errorReported | closeReported => exact ⟨rfl, rfl⟩
  | _ => exact absurd rfl waits

theorem posted_of_step {s t : TcpMgr} {e : Event} (taken : step s e = some t) :
    t.posted = s.posted ++ match e with
      | .onData .posted msg => [msg]
      | _ => [] := by
  cases step_took taken with
  | posted => rfl
  | @postFailed posting msg _ failed => cases posting <;> simp at failed ⊢
  | _ => simp

/-- Where every message is, in the order of the posts: finished, in the list, or on the way to it.
At most the front of the list was passed to the socket without being finished. -/
structure Accounted (s : TcpMgr) : Prop where
  posted : s.posted = s.finished ++ s.pendingSends ++ queued s
  passed : s.passed.map WriteOp.msg = s.finished ++ s.pendingSends.take 1
  written : s.written = s.finished ++ s.pendingSends.take (landed s)
  waiting : landed s ≤ 1

theorem messages_accounted {s : TcpMgr} (reached : Reachable step .started s) : Accounted s := by
  have flight := reachable_inFlight reached
  have accepted : s.accepted = s.finished ++ s.pendingSends := flight.ordered.pushed
  exact {
    posted := by rw [reachable_posted reached, accepted]
    passed := flight.ordered.started
    written := reachable_writtenFront reached
    waiting := landed_one flight }

theorem failed_write_accounted :
    ∃ s, (Reachable step .started s ∧ s.finished = [] ∧
        s.pendingSends = [⟨1, [1]⟩, ⟨1, [2]⟩] ∧ queued s = [⟨1, [3]⟩]) ∧ Accounted s := by
  have ran : ∃ s, Reach step anyStep .started s ∧ s.finished = [] ∧
      s.pendingSends = [⟨1, [1]⟩, ⟨1, [2]⟩] ∧ queued s = [⟨1, [3]⟩] :=
    run_reaches [.connectDone none, .runNext [], .onData .posted ⟨1, [1]⟩,
      .onData .posted ⟨1, [2]⟩, .created, .runNext [], .runNext [],
      .writeDone ⟨1, ⟨1, [1]⟩⟩ (some "Broken pipe"), .runNext [], .runNext [],
      .onData .posted ⟨1, [3]⟩] (by decide +kernel)
  obtain ⟨s, reached, located⟩ := ran
  exact ⟨s, ⟨reached, located⟩, messages_accounted reached⟩

end RmqMgr.Tcp
