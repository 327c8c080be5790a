import RmqMgr.Shared.Link
import RmqMgr.Tcp.Lifetime
import RmqMgr.Tcp.Written

set_option autoImplicit false

-- The strand, the socket, the list and the reconnects together are a link that carries messages
-- in order and breaks at most once.

namespace RmqMgr.Tcp

open HeadQueue Transition

-- The link breaks when a write fails, before its `HandleWrite` runs.
def broken (s : TcpMgr) : Bool :=
  s.strand.any Handler.writeFailed || decide (Blocked s)

def link (s : TcpMgr) : Link Message where
  accepted := s.posted
  carried := s.written
  broken := broken s

-- A close fails the write that is outstanding.
def linkOp (s : TcpMgr) : Event → Option (Link.Op Message)
  | .onData .posted msg => some (.accept msg)
  | .writeDone _ none => some .carry
  | .writeDone _ (some _) => some .fail
  | .runNext _ =>
    if s.strand.head? = some .startCloseSocket ∧ s.socketStarted = true ∧ s.writes ≠ [] then
      some .fail
    else none
  | _ => none

theorem blocked_same {s t : TcpMgr} {e : Event} (flight : InFlight s) (taken : step s e = some t)
    (kept : sendOp s e ≠ some .fail) : Blocked t ↔ Blocked s := by
  constructor
  · intro blocked
    by_contra free
    exact kept ((send_step flight.oneWrite flight.sendHead taken).stuck free blocked)
  · intro blocked
    exact (blocked_stays flight taken blocked).1

theorem unbroken_writing {s : TcpMgr} (flight : InFlight s) (outstanding : s.writes ≠ []) :
    broken s = false := by
  have some := List.length_pos_of_ne_nil outstanding
  have one := flight.oneWrite
  unfold writesInFlight at one
  have none : s.strand.countP Handler.isWrite = 0 := by omega
  have busy : 0 < writesInFlight s := by
    unfold writesInFlight
    omega
  have free : ¬ Blocked s := by
    intro blocked
    have inactive := blocked.2
    simp [sendLedger, Queue.counted] at inactive
    omega
  simp only [broken, free, decide_false, Bool.or_false, List.any_eq_false]
  intro h waiting failed
  have write := List.countP_eq_zero.mp none h waiting
  cases h with
  | handleWrite err => exact write rfl
  | _ => cases failed

theorem broken_same {s t : TcpMgr}
    (failing : t.strand.any Handler.writeFailed = s.strand.any Handler.writeFailed)
    (blocked : Blocked t ↔ Blocked s) : broken t = broken s := by
  simp only [broken, failing, blocked]

theorem link_same {s t : TcpMgr} (posted : t.posted = s.posted) (written : t.written = s.written)
    (same : broken t = broken s) : link t = link s := by
  simp only [link, posted, written, same]

theorem aborted_failing (s : TcpMgr) :
    (aborted s).any Handler.writeFailed = !s.writes.isEmpty := by
  cases outstanding : s.writes with
  | nil => simp [aborted, outstanding, Handler.writeFailed]
  | cons op rest => simp [aborted, outstanding, Handler.writeFailed, operationAborted]

theorem next_written {s : TcpMgr} {op : WriteOp} (reached : Reachable step .started s)
    (outstanding : op ∈ s.writes) : (link s).next = some op.msg := by
  have flight := reachable_inFlight reached
  have accounted := messages_accounted reached
  have quiet : landed s = 0 := landed_writing flight (List.ne_nil_of_mem outstanding)
  obtain ⟨rest, front⟩ := List.head?_eq_some_iff.mp ((reachable_fronts reached).writes op outstanding)
  have written : s.written = s.finished := by
    rw [accounted.written, quiet, List.take_zero, List.append_nil]
  simp only [Link.next, link, written, accounted.posted, front]
  simp

theorem link_step {s t : TcpMgr} {e : Event} (reached : Reachable step .started s)
    (taken : step s e = some t) : (link s).Moves (linkOp s e) (link t) := by
  have flight := reachable_inFlight reached
  have blocked := blocked_same flight taken
  have quiet (silent : linkOp s e = none) (kept : sendOp s e ≠ some .fail)
      (failing : t.strand.any Handler.writeFailed = s.strand.any Handler.writeFailed)
      (posted : t.posted = s.posted) (written : t.written = s.written) :
      (link s).Moves (linkOp s e) (link t) := by
    rw [silent]
    exact link_same posted written (broken_same failing (blocked kept))
  cases step_took taken with
  | posted =>
    have same := broken_same (by simp [Handler.writeFailed]) (blocked (by simp [sendOp]))
    simp only [Link.Moves, linkOp, Link.step, link, same]
  | @writeDone op err outstanding =>
    have whole := unbroken_writing flight (List.ne_nil_of_mem outstanding)
    cases err with
    | none =>
      have same := broken_same (by simp [Handler.writeFailed]) (blocked (by simp [sendOp]))
      have unbroken : (link s).broken = false := whole
      have carried : (link s).step .carry = some { link s with carried := s.written ++ [op.msg] } := by
        simp only [Link.step, next_written reached outstanding, unbroken, Bool.false_eq_true,
          if_false]
        rfl
      simp only [Link.Moves, linkOp, carried, Option.some.injEq]
      exact congrArg (Link.mk s.posted (s.written ++ [op.msg])) same.symm
    | some message =>
      simp only [Link.Moves, linkOp, Link.step, link, whole]
      simp [broken, Handler.writeFailed]
  | @closed order rest waiting idle live abort =>
    have failing : order.any Handler.writeFailed = !s.writes.isEmpty := by
      rw [← aborted_failing]
      exact abort.any_eq
    by_cases outstanding : s.writes = []
    · exact quiet (by simp [linkOp, outstanding]) (by simp [sendOp, waiting])
        (by simp [waiting, failing, outstanding, Handler.writeFailed]) rfl rfl
    · have fails : linkOp s (.runNext order) = some .fail := by
        simp [linkOp, waiting, live, outstanding]
      have whole := unbroken_writing flight outstanding
      rw [fails]
      simp only [Link.Moves, Link.step, link, whole]
      simp [broken, failing, outstanding]
  | @sendFailed order rest message msgs waiting =>
    have before : broken s = true := by simp [broken, waiting, Handler.writeFailed]
    have failed : handlesWriteFailure s (.runNext order) :=
      ⟨rfl, by simp [waiting, Handler.writeFailed]⟩
    have after := stuck_of_writeFailure flight failed taken
    have silent : linkOp s (.runNext order) = none := by simp [linkOp, waiting]
    rw [silent]
    exact link_same rfl rfl (by rw [before]; simp [broken, after])
  | _ =>
    exact quiet (by simp [linkOp, *]) (by simp [sendOp, *]) (by simp [Handler.writeFailed, *])
      rfl rfl

theorem link_run {s t : TcpMgr} (reached : Reachable step .started s)
    (later : Reachable step s t) : Reachable Link.step (link s) (link t) := by
  induction later with
  | start => exact .start
  | next before _ taken ih => exact ih.trans (link_step (reached.trans before) taken).reachable

structure Carries (s : TcpMgr) : Prop where
  refines : Reachable Link.step {} (link s)
  moves : ∀ e t, step s e = some t → (link s).Moves (linkOp s e) (link t)
  ordered : s.written <+: s.posted
  broken : broken s = true → ∀ t, Reachable step s t → broken t = true ∧ t.written = s.written

theorem transport_carries {s : TcpMgr} (reached : Reachable step .started s) : Carries s where
  refines := link_run .start reached
  moves _ _ taken := link_step reached taken
  ordered := Link.reachable_inOrder (link_run .start reached)
  broken failed _ later := Link.broken_final failed (link_run reached later)

theorem second_write_carries :
    ∃ s, (Reachable step .started s ∧ s.written = [⟨1, [7]⟩] ∧ broken s = true ∧
        s.strand = [.handleWrite (some "Broken pipe")]) ∧ Carries s := by
  have ran : ∃ s, Reach step anyStep .started s ∧ s.written = [⟨1, [7]⟩] ∧ broken s = true ∧
      s.strand = [.handleWrite (some "Broken pipe")] :=
    run_reaches (connectAndRead ++ [.onData .posted ⟨1, [7]⟩, .runNext [],
      .writeDone ⟨1, ⟨1, [7]⟩⟩ none, .runNext [], .onData .posted ⟨1, [8]⟩, .runNext [],
      .writeDone ⟨1, ⟨1, [8]⟩⟩ (some "Broken pipe")]) (by decide +kernel)
  obtain ⟨s, reached, wrote⟩ := ran
  exact ⟨s, ⟨reached, wrote⟩, transport_carries reached⟩

end RmqMgr.Tcp
