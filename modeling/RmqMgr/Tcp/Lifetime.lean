import RmqMgr.Tcp.Isolation
import RmqMgr.Tcp.Reconnects

set_option autoImplicit false

-- The entry of the failed operation stays at the head of its list, and no later entry is started
-- before it.

namespace RmqMgr.Tcp

open HeadQueue Transition

def Handler.readFailed : Handler → Bool
  | .handleRecv (some _) _ => true
  | _ => false

def Handler.writeFailed : Handler → Bool
  | .handleWrite (some _) => true
  | _ => false

def handlesReadFailure (s : TcpMgr) (e : Event) : Prop :=
  e.isRun = true ∧ s.strand.head?.any Handler.readFailed = true

def handlesWriteFailure (s : TcpMgr) (e : Event) : Prop :=
  e.isRun = true ∧ s.strand.head?.any Handler.writeFailed = true

instance (s : TcpMgr) (e : Event) : Decidable (handlesReadFailure s e) :=
  inferInstanceAs (Decidable (_ ∧ _))

instance (s : TcpMgr) (e : Event) : Decidable (handlesWriteFailure s e) :=
  inferInstanceAs (Decidable (_ ∧ _))

theorem handlesReadFailure.op {s : TcpMgr} {e : Event} (failed : handlesReadFailure s e) :
    recvOp s e = some .fail := by
  obtain ⟨run, failed⟩ := failed
  cases e with
  | runNext order =>
    cases waiting : s.strand with
    | nil => simp [waiting] at failed
    | cons h rest =>
      simp only [waiting, List.head?_cons, Option.any_some] at failed
      cases h with
      | handleRecv err bytes =>
        cases err with
        | none => cases failed
        | some message => simp [recvOp, waiting]
      | _ => cases failed
  | _ => cases run

theorem handlesWriteFailure.op {s : TcpMgr} {e : Event} (failed : handlesWriteFailure s e) :
    sendOp s e = some .fail := by
  obtain ⟨run, failed⟩ := failed
  cases e with
  | runNext order =>
    cases waiting : s.strand with
    | nil => simp [waiting] at failed
    | cons h rest =>
      simp only [waiting, List.head?_cons, Option.any_some] at failed
      cases h with
      | handleWrite err =>
        cases err with
        | none => cases failed
        | some message => simp [sendOp, waiting]
      | _ => cases failed
  | _ => cases run

structure Deaf (s : TcpMgr) : Prop where
  reads : s.reads = []
  handlers : ∀ err bytes, Handler.handleRecv err bytes ∉ s.strand
  parsing : s.phase ≠ .parsing

structure Mute (s : TcpMgr) : Prop where
  writes : s.writes = []
  handlers : ∀ err, Handler.handleWrite err ∉ s.strand

theorem deaf_of_stuck {s : TcpMgr} (stuck : (recvQueue s).Stuck) : Deaf s := by
  have none : readsInFlight s = 0 := by
    simpa [recvQueue, Queue.counted] using stuck.2
  unfold readsInFlight at none
  refine ⟨List.length_eq_zero_iff.mp (by omega), ?_, ?_⟩
  · intro err bytes waiting
    have counted : 0 < s.strand.countP Handler.isRecv :=
      List.countP_pos_iff.mpr ⟨_, waiting, rfl⟩
    omega
  · intro parsing
    simp only [parsing, Phase.recvs] at none
    omega

theorem mute_of_stuck {s : TcpMgr} (stuck : Blocked s) : Mute s := by
  have none : writesInFlight s = 0 := by
    simpa [sendLedger, Queue.counted] using stuck.2
  unfold writesInFlight at none
  refine ⟨List.length_eq_zero_iff.mp (by omega), ?_⟩
  intro err waiting
  have counted : 0 < s.strand.countP Handler.isWrite :=
    List.countP_pos_iff.mpr ⟨_, waiting, rfl⟩
  omega

theorem stuck_of_readFailure {s t : TcpMgr} {e : Event} (flight : InFlight s)
    (failed : handlesReadFailure s e) (taken : step s e = some t) : (recvQueue t).Stuck := by
  have queue := (recv_step flight.oneRead flight.recvHead taken).queue
  rw [failed.op] at queue
  exact Queue.stuck_of_fail flight.recvHead queue

theorem stuck_of_writeFailure {s t : TcpMgr} {e : Event} (flight : InFlight s)
    (failed : handlesWriteFailure s e) (taken : step s e = some t) : Blocked t := by
  have ledger := (send_step flight.oneWrite flight.sendHead taken).ledger
  rw [failed.op] at ledger
  exact Queue.stuck_of_fail flight.sendHead (Ledger.toQueue_step ledger)

structure ReceivedSame (s t : TcpMgr) : Prop where
  parseBuf : t.parseBuf = s.parseBuf
  isReady : t.isReady = s.isReady

structure WrittenSame (s t : TcpMgr) : Prop where
  passed : t.passed = s.passed
  written : t.written = s.written
  finished : t.finished = s.finished

theorem deaf_step {s t : TcpMgr} {e : Event} (deaf : Deaf s) (taken : step s e = some t) :
    ReceivedSame s t := by
  cases step_took taken with
  | received waiting =>
    have absent := deaf.handlers none
    rw [waiting] at absent
    exact absurd (List.mem_cons_self ..) (absent _)
  | parsedLast parsing | parsedNext parsing | ready parsing => exact absurd parsing deaf.parsing
  | _ => exact ⟨rfl, rfl⟩

theorem mute_step {s t : TcpMgr} {e : Event} (flight : InFlight s) (blocked : Blocked s)
    (taken : step s e = some t) : WrittenSame s t := by
  have mute := mute_of_stuck blocked
  have passed := (blocked_stays flight taken blocked).2
  cases step_took taken with
  | sendFinished waiting | sendNext waiting =>
    have absent := mute.handlers none
    rw [waiting] at absent
    exact absurd (List.mem_cons_self ..) absent
  | writeDone outstanding => simp [mute.writes] at outstanding
  | _ => exact ⟨passed, rfl, rfl⟩

theorem readFailure_same {s t : TcpMgr} {e : Event} (failed : handlesReadFailure s e)
    (taken : step s e = some t) : ReceivedSame s t := by
  obtain ⟨_, failed⟩ := failed
  cases step_took taken with
  | received waiting => simp [waiting, Handler.readFailed] at failed
  | parsedLast | parsedNext | ready => contradiction
  | _ => exact ⟨rfl, rfl⟩

theorem read_failure_final {s t u : TcpMgr} {e : Event} (reached : Reachable step .started s)
    (failed : handlesReadFailure s e) (taken : step s e = some t) (later : Reachable step t u) :
    Deaf u ∧ ReceivedSame s u := by
  have flight := reachable_inFlight reached
  have stuck := stuck_of_readFailure flight failed taken
  have kept := later.invariant
    (fun u => InFlight u ∧ (recvQueue u).Stuck ∧ ReceivedSame s u)
    ⟨inFlight_step flight taken, stuck, readFailure_same failed taken⟩ ?_
  · exact ⟨deaf_of_stuck kept.2.1, kept.2.2⟩
  · intro u f v _ ⟨flight, stuck, same⟩ _ taken
    have next := deaf_step (deaf_of_stuck stuck) taken
    exact ⟨inFlight_step flight taken, stuck_stays flight taken stuck,
      next.parseBuf.trans same.parseBuf, next.isReady.trans same.isReady⟩

theorem reconnected_deaf :
    ∃ s t u, (Reachable step .started s ∧ handlesReadFailure s (.runNext []) ∧
        step s (.runNext []) = some t ∧ Reachable step t u ∧ Quiet u ∧ u.generation = 2) ∧
      Deaf u ∧ ReceivedSame s u := by
  let more := [.runNext [.onConnect operationAborted], .runNext []] ++ connectAndRead
  have ran : ∃ s, Reach step anyStep .started s ∧ handlesReadFailure s (.runNext []) ∧
      (step s (.runNext [])).any (fun t => (run step anyStep t more).any fun u =>
        decide (Quiet u ∧ u.generation = 2)) = true :=
    run_reaches (connectAndRead ++
      [.readDone (.readSome 4096) (some "Connection reset by peer") []]) (by decide +kernel)
  obtain ⟨s, reached, failed, later⟩ := ran
  obtain ⟨t, taken, later⟩ := (Option.any_eq_true _ _).mp later
  obtain ⟨u, later, quiet, second⟩ := run_reaches more later
  exact ⟨s, t, u, ⟨reached, failed, taken, later, quiet, second⟩,
    read_failure_final reached failed taken later⟩

theorem write_failure_final {s t u : TcpMgr} {e : Event} (reached : Reachable step .started s)
    (failed : handlesWriteFailure s e) (taken : step s e = some t) (later : Reachable step t u) :
    Mute u ∧ WrittenSame s u := by
  have flight := reachable_inFlight reached
  have stuck := stuck_of_writeFailure flight failed taken
  have first : WrittenSame s t := by
    obtain ⟨run, failed⟩ := failed
    cases step_took taken with
    | sendStarted waiting | sendFinished waiting | sendNext waiting =>
      simp [waiting, Handler.writeFailed] at failed
    | writeDone => cases run
    | _ => exact ⟨rfl, rfl, rfl⟩
  have kept := later.invariant
    (fun u => InFlight u ∧ Blocked u ∧ WrittenSame s u)
    ⟨inFlight_step flight taken, stuck, first⟩ ?_
  · exact ⟨mute_of_stuck kept.2.1, kept.2.2⟩
  · intro u f v _ ⟨flight, stuck, same⟩ _ taken
    have next := mute_step flight stuck taken
    exact ⟨inFlight_step flight taken, (blocked_stays flight taken stuck).1,
      next.passed.trans same.passed, next.written.trans same.written,
      next.finished.trans same.finished⟩

theorem reconnected_mute :
    ∃ s t u, (Reachable step .started s ∧ handlesWriteFailure s (.runNext []) ∧
        step s (.runNext []) = some t ∧ Reachable step t u ∧ Quiet u ∧ u.generation = 2 ∧
        u.pendingSends = [⟨1, [7]⟩, ⟨2, [8]⟩]) ∧ Mute u ∧ WrittenSame s u := by
  let more := [.runNext [.handleRecv operationAborted 0, .onConnect operationAborted],
    .runNext [], .runNext [], .runNext []] ++ connectAndRead ++
      [.onData .posted ⟨2, [8]⟩, .runNext []]
  have ran : ∃ s, Reach step anyStep .started s ∧ handlesWriteFailure s (.runNext []) ∧
      (step s (.runNext [])).any (fun t => (run step anyStep t more).any fun u =>
        decide (Quiet u ∧ u.generation = 2 ∧ u.pendingSends = [⟨1, [7]⟩, ⟨2, [8]⟩])) = true :=
    run_reaches (connectAndRead ++ [.onData .posted ⟨1, [7]⟩, .runNext [],
      .writeDone ⟨1, ⟨1, [7]⟩⟩ (some "Broken pipe")]) (by decide +kernel)
  obtain ⟨s, reached, failed, later⟩ := ran
  obtain ⟨t, taken, later⟩ := (Option.any_eq_true _ _).mp later
  obtain ⟨u, later, quiet, second, left⟩ := run_reaches more later
  exact ⟨s, t, u, ⟨reached, failed, taken, later, quiet, second, left⟩,
    write_failure_final reached failed taken later⟩

structure FailureCounts where
  reads : Nat := 0
  writes : Nat := 0
  deriving DecidableEq, Repr

def noteFailures (s : TcpMgr) (e : Event) (_ : TcpMgr) (h : FailureCounts) : FailureCounts where
  reads := h.reads + if handlesReadFailure s e then 1 else 0
  writes := h.writes + if handlesWriteFailure s e then 1 else 0

theorem failures_split (s : TcpMgr) (e : Event) :
    (if handlesFailure s e then 1 else 0) =
      (if handlesReadFailure s e then 1 else 0) + if handlesWriteFailure s e then 1 else 0 := by
  cases waiting : s.strand.head? with
  | none => simp [handlesFailure, handlesReadFailure, handlesWriteFailure, waiting]
  | some h =>
    simp only [handlesFailure, handlesReadFailure, handlesWriteFailure, waiting, Option.any_some]
    cases h with
    | handleRecv err | handleWrite err =>
      cases err <;> simp [Handler.failed, Handler.readFailed, Handler.writeFailed]
    | _ => simp [Handler.failed, Handler.readFailed, Handler.writeFailed]

def Handler.isDispatch : Handler → Bool
  | .dispatchRecv _ => true
  | _ => false

def Phase.requests : Phase → Nat
  | .constructing => 1
  | _ => 0

-- The entries of `m_pending_recvs`, with those that `RecvData` posted or is about to post.
def requests (s : TcpMgr) : Nat :=
  s.pendingRecvs.length + s.strand.countP Handler.isDispatch + s.phase.requests

theorem aborted_dispatches (s : TcpMgr) : (aborted s).countP Handler.isDispatch = 0 := by
  simp [aborted, Handler.isDispatch, List.countP_append, List.countP_replicate]

theorem requests_step {s t : TcpMgr} {e : Event} (flight : InFlight s)
    (few : requests s ≤ s.generation) (taken : step s e = some t) :
    requests t ≤ t.generation := by
  unfold requests at *
  cases step_took taken with
  | connected waiting idle =>
    simp only [waiting, idle, List.countP_cons, Handler.isDispatch, Phase.requests] at few ⊢
    simp only [Bool.false_eq_true, if_false] at few
    omega
  | recvStarted waiting idle empty =>
    simp only [waiting, empty, List.countP_cons, Handler.isDispatch, if_true, List.length_nil,
      List.length_singleton] at few ⊢
    omega
  | recvQueued waiting =>
    simp only [waiting, List.countP_cons, Handler.isDispatch, if_true, List.length_append,
      List.length_singleton] at few ⊢
    omega
  | closed waiting idle live abort =>
    have none := (abort.countP_eq Handler.isDispatch).trans (aborted_dispatches s)
    simp only [waiting, List.countP_cons, List.countP_append, none, Handler.isDispatch,
      Bool.false_eq_true, if_false] at few ⊢
    exact few
  | created constructing =>
    simp only [constructing, Phase.requests, List.countP_append, List.countP_singleton,
      Handler.isDispatch, if_true] at few ⊢
    omega
  | parsedLast parsing last =>
    have busy : 0 < readsInFlight s := by simp [readsInFlight, parsing, Phase.recvs]
    have some := List.length_pos_of_ne_nil (flight.recvs_pending busy)
    simp only [parsing, Phase.requests, List.countP_append, List.countP_singleton,
      Handler.isDispatch, if_true, List.length_nil] at few ⊢
    omega
  | parsedNext parsing next =>
    have shorter := congrArg List.length next
    rw [List.length_tail] at shorter
    simp only [parsing, Phase.requests] at few ⊢
    omega
  | _ => simp_all [Handler.isDispatch, Phase.requests]

structure Spent (s : TcpMgr) (h : FailureCounts) : Prop where
  connects : connecting s + s.generation = 1 + h.reads + h.writes
  reads : h.reads = 0 ∨ h.reads = 1 ∧ (recvQueue s).Stuck
  writes : h.writes = 0 ∨ h.writes = 1 ∧ Blocked s
  requests : requests s ≤ s.generation

theorem stuck_no_readFailure {s t : TcpMgr} {e : Event} (flight : InFlight s)
    (stuck : (recvQueue s).Stuck) (taken : step s e = some t) : ¬ handlesReadFailure s e := by
  intro failed
  have queue := (recv_step flight.oneRead flight.recvHead taken).queue
  rw [failed.op] at queue
  obtain ⟨_, pushed⟩ := stuck.only_pushed queue
  cases pushed

theorem stuck_no_writeFailure {s t : TcpMgr} {e : Event} (flight : InFlight s)
    (stuck : Blocked s) (taken : step s e = some t) : ¬ handlesWriteFailure s e := by
  intro failed
  have ledger := (send_step flight.oneWrite flight.sendHead taken).ledger
  rw [failed.op] at ledger
  obtain ⟨_, pushed⟩ := stuck.only_pushed (Ledger.toQueue_step ledger)
  cases pushed

theorem spent_step {s t : TcpMgr} {e : Event} {h : FailureCounts} (flight : InFlight s)
    (spent : Spent s h) (taken : step s e = some t) : Spent t (noteFailures s e t h) := by
  refine ⟨?_, ?_, ?_, requests_step flight spent.requests taken⟩
  · have counts := connecting_step taken
    rw [failures_split, spent.connects] at counts
    simp only [noteFailures]
    omega
  · rcases spent.reads with fresh | ⟨once, stuck⟩
    · by_cases failed : handlesReadFailure s e
      · have stuck := stuck_of_readFailure flight failed taken
        exact .inr ⟨by simp [noteFailures, failed, fresh], stuck⟩
      · exact .inl (by simp [noteFailures, failed, fresh])
    · have fine := stuck_no_readFailure flight stuck taken
      exact .inr ⟨by simp [noteFailures, fine, once], stuck_stays flight taken stuck⟩
  · rcases spent.writes with fresh | ⟨once, stuck⟩
    · by_cases failed : handlesWriteFailure s e
      · have stuck := stuck_of_writeFailure flight failed taken
        exact .inr ⟨by simp [noteFailures, failed, fresh], stuck⟩
      · exact .inl (by simp [noteFailures, failed, fresh])
    · have fine := stuck_no_writeFailure flight stuck taken
      exact .inr ⟨by simp [noteFailures, fine, once], (blocked_stays flight taken stuck).1⟩

/-- What one `TcpMgr` gets in its life: one failed read, one failed write, and with them three
connects that succeed. Each adds one request to `m_pending_recvs` at most. -/
structure Bounded (t : Traced TcpMgr FailureCounts) : Prop where
  reads : t.past.reads ≤ 1
  writes : t.past.writes ≤ 1
  connections : t.now.generation ≤ 1 + t.past.reads + t.past.writes
  connects : connecting t.now + t.now.generation ≤ 3
  requests : t.now.pendingRecvs.length ≤ t.now.generation

theorem lifetime_bounded {t : Traced TcpMgr FailureCounts}
    (reached : Reachable (traced step noteFailures) ⟨.started, {}⟩ t) : Bounded t := by
  have spent : Spent t.now t.past := by
    apply reached.invariant fun t => Spent t.now t.past
    · exact ⟨rfl, .inl rfl, .inl rfl, Nat.le_refl 0⟩
    · intro t e u before spent _ taken
      obtain ⟨stepped, past⟩ := traced_step taken
      rw [past]
      exact spent_step (reachable_inFlight before.untraced) spent stepped
  obtain ⟨connects, reads, writes, few⟩ := spent
  unfold requests at few
  constructor <;> omega

def failsBothWays : List Event :=
  connectAndRead ++ readFailsAndReconnects ++ connectAndRead ++
    [.onData .posted ⟨2, [7]⟩, .runNext [],
      .writeDone ⟨2, ⟨2, [7]⟩⟩ (some "Broken pipe"), .runNext [],
      .runNext [.onConnect operationAborted], .runNext []] ++ connectAndRead

theorem three_connections :
    ∃ t, (Reachable (traced step noteFailures) ⟨.started, {}⟩ t ∧ t.now.generation = 3) ∧
      Bounded t := by
  have ran : ∃ t, Reach (traced step noteFailures) anyStep ⟨.started, {}⟩ t ∧
      t.now.generation = 3 := run_reaches failsBothWays (by decide +kernel)
  obtain ⟨t, reached, third⟩ := ran
  exact ⟨t, ⟨reached, third⟩, lifetime_bounded reached⟩

end RmqMgr.Tcp
