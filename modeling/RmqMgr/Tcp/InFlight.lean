import RmqMgr.Shared.HeadQueue
import RmqMgr.Tcp.Took

set_option autoImplicit false

-- Both lists of the source are work queues whose head is the operation under way. A read is in
-- flight while it is outstanding, while its handler waits on the strand, and while `HandleRecv`
-- parses; a write is in flight while it is outstanding or its handler waits.

namespace RmqMgr.Tcp

open HeadQueue Transition

def Handler.isRecv : Handler → Bool
  | .handleRecv _ _ => true
  | _ => false

def Handler.isWrite : Handler → Bool
  | .handleWrite _ => true
  | _ => false

def Phase.recvs : Phase → Nat
  | .parsing => 1
  | _ => 0

def readsInFlight (s : TcpMgr) : Nat :=
  s.reads.length + s.strand.countP Handler.isRecv + s.phase.recvs

def writesInFlight (s : TcpMgr) : Nat :=
  s.writes.length + s.strand.countP Handler.isWrite

def recvQueue (s : TcpMgr) : Queue Int :=
  .counted s.pendingRecvs (readsInFlight s)

def sendLedger (s : TcpMgr) : Ledger Message where
  toQueue := .counted s.pendingSends (writesInFlight s)
  pushed := s.accepted
  started := s.passed.map WriteOp.msg
  finished := s.finished

theorem aborted_recvs (s : TcpMgr) : (aborted s).countP Handler.isRecv = s.reads.length := by
  simp [aborted, List.countP_append, Handler.isRecv, List.countP_replicate]

theorem aborted_writes (s : TcpMgr) : (aborted s).countP Handler.isWrite = s.writes.length := by
  simp [aborted, List.countP_append, Handler.isWrite, List.countP_replicate]

def recvOp (s : TcpMgr) : Event → Option (Op Int)
  | .runNext _ =>
    match s.strand with
    | .dispatchRecv totalBytes :: _ => some (.push totalBytes)
    | .handleRecv (some _) _ :: _ => some .fail
    | _ => none
  | .parsed _ => some .finish
  | _ => none

def sendOp (s : TcpMgr) : Event → Option (Op Message)
  | .runNext _ =>
    match s.strand with
    | .sendMsg pmsg :: _ => some (.push pmsg)
    | .handleWrite none :: _ => some .finish
    | .handleWrite (some _) :: _ => some .fail
    | _ => none
  | _ => none

structure RecvStep (s t : TcpMgr) (op : Option (Op Int)) : Prop where
  one : readsInFlight t ≤ 1
  queue : match op with
    | none => recvQueue t = recvQueue s
    | some op => (recvQueue s).step op = some (recvQueue t)

namespace RecvStep

variable {s t : TcpMgr}

theorem same (one : readsInFlight s ≤ 1) (flight : readsInFlight t = readsInFlight s)
    (pending : t.pendingRecvs = s.pendingRecvs) : RecvStep s t none where
  one := flight ▸ one
  queue := by simp only [recvQueue, flight, pending]

theorem pushed {totalBytes : Int} (one : readsInFlight s ≤ 1) (valid : (recvQueue s).Valid)
    (flight : readsInFlight t = readsInFlight s + if s.pendingRecvs.isEmpty then 1 else 0)
    (pending : t.pendingRecvs = s.pendingRecvs ++ [totalBytes]) :
    RecvStep s t (some (.push totalBytes)) := by
  obtain ⟨one, pushed⟩ := Queue.counted_push totalBytes one valid flight
  exact ⟨one, by simp only [recvQueue, Queue.step, pushed, pending]⟩

theorem finished (before : readsInFlight s = 1)
    (flight : readsInFlight t = if s.pendingRecvs.tail.isEmpty then 0 else 1)
    (pending : t.pendingRecvs = s.pendingRecvs.tail) : RecvStep s t (some .finish) := by
  obtain ⟨one, active, finished⟩ := Queue.counted_finish before flight
  exact ⟨one, by simp only [recvQueue, Queue.step, active, if_true, finished, pending]⟩

theorem failed (before : readsInFlight s = 1) (after : readsInFlight t = 0)
    (pending : t.pendingRecvs = s.pendingRecvs) : RecvStep s t (some .fail) := by
  obtain ⟨one, active, failed⟩ := Queue.counted_fail s.pendingRecvs before after
  exact ⟨one, by simp only [recvQueue, Queue.step, active, if_true, failed, pending]⟩

theorem keeps {op : Option (Op Int)} (stepped : RecvStep s t op) (P : Queue Int → Prop)
    (kept : ∀ op r, (recvQueue s).step op = some r → P r) (holds : P (recvQueue s)) :
    P (recvQueue t) := by
  obtain ⟨_, queue⟩ := stepped
  cases op with
  | none => exact queue ▸ holds
  | some op => exact kept op _ queue

theorem stuck {op : Option (Op Int)} (stepped : RecvStep s t op) (free : ¬ (recvQueue s).Stuck)
    (left : (recvQueue t).Stuck) : op = some .fail := by
  obtain ⟨_, queue⟩ := stepped
  cases op with
  | none => exact absurd (queue ▸ left) free
  | some op => rw [Queue.stuck_of_step queue free left]

end RecvStep

theorem recv_step {s t : TcpMgr} {e : Event} (one : readsInFlight s ≤ 1)
    (valid : (recvQueue s).Valid) (taken : step s e = some t) : RecvStep s t (recvOp s e) := by
  cases step_took taken with
  | recvStarted waiting idle empty =>
    simp only [recvOp, waiting]
    refine RecvStep.pushed one valid ?_ (by simp [empty])
    simp [readsInFlight, waiting, empty, Handler.isRecv]
    omega
  | recvQueued waiting idle nonempty =>
    simp only [recvOp, waiting]
    refine RecvStep.pushed one valid ?_ rfl
    simp [readsInFlight, waiting, nonempty, Handler.isRecv]
  | received waiting idle =>
    simp only [recvOp, waiting]
    refine RecvStep.same one ?_ rfl
    simp [readsInFlight, waiting, idle, Handler.isRecv, Phase.recvs, List.countP_cons]
    omega
  | recvFailed waiting idle =>
    simp only [readsInFlight, waiting, idle, Handler.isRecv, Phase.recvs, List.countP_cons,
      if_true] at one
    simp only [recvOp, waiting]
    refine RecvStep.failed ?_ ?_ rfl
    · simp only [readsInFlight, waiting, idle, Handler.isRecv, Phase.recvs, List.countP_cons,
        if_true]
      omega
    · simp only [readsInFlight, idle, Handler.isRecv, Phase.recvs, List.countP_append,
        List.countP_singleton, Bool.false_eq_true, if_false]
      omega
  | parsedLast parsing last =>
    simp only [readsInFlight, parsing, Phase.recvs] at one
    refine RecvStep.finished ?_ ?_ last.symm
    · simp only [readsInFlight, parsing, Phase.recvs]
      omega
    · simp only [last, readsInFlight, Handler.isRecv, Phase.recvs, List.countP_append,
        List.countP_singleton, Bool.false_eq_true, if_false, List.isEmpty_nil, if_true]
      omega
  | parsedNext parsing next =>
    simp only [readsInFlight, parsing, Phase.recvs] at one
    refine RecvStep.finished ?_ ?_ next.symm
    · simp only [readsInFlight, parsing, Phase.recvs]
      omega
    · simp only [next, readsInFlight, Phase.recvs, List.length_append, List.length_singleton,
        List.isEmpty_cons, Bool.false_eq_true, if_false]
      omega
  | readDone outstanding delivers fits =>
    have counted := List.length_erase_of_mem outstanding
    have positive := List.length_pos_of_mem outstanding
    refine RecvStep.same one ?_ rfl
    simp [readsInFlight, counted, Handler.isRecv]
    omega
  | closed waiting idle live abort =>
    have all := abort.countP_eq Handler.isRecv
    simp only [recvOp, waiting]
    refine RecvStep.same one ?_ rfl
    simp [readsInFlight, waiting, all, aborted_recvs, Handler.isRecv]
    omega
  | _ =>
    simp only [recvOp, *]
    exact RecvStep.same one (by simp [readsInFlight, Handler.isRecv, Phase.recvs, *]) rfl

structure SendStep (s t : TcpMgr) (op : Option (Op Message)) : Prop where
  one : writesInFlight t ≤ 1
  ledger : match op with
    | none => sendLedger t = sendLedger s
    | some op => (sendLedger s).step op = some (sendLedger t)

namespace SendStep

variable {s t : TcpMgr}

theorem same (one : writesInFlight s ≤ 1) (flight : writesInFlight t = writesInFlight s)
    (pending : t.pendingSends = s.pendingSends) (accepted : t.accepted = s.accepted)
    (passed : t.passed = s.passed) (finished : t.finished = s.finished) : SendStep s t none where
  one := flight ▸ one
  ledger := by simp only [sendLedger, flight, pending, accepted, passed, finished]

theorem pushed {pmsg : Message} (one : writesInFlight s ≤ 1) (valid : (sendLedger s).Valid)
    (flight : writesInFlight t = writesInFlight s + if s.pendingSends.isEmpty then 1 else 0)
    (pending : t.pendingSends = s.pendingSends ++ [pmsg])
    (accepted : t.accepted = s.accepted ++ [pmsg])
    (passed : t.passed.map WriteOp.msg = if s.pendingSends.isEmpty then
      s.passed.map WriteOp.msg ++ [pmsg] else s.passed.map WriteOp.msg)
    (finished : t.finished = s.finished) : SendStep s t (some (.push pmsg)) := by
  obtain ⟨one, pushed⟩ := Queue.counted_push pmsg one valid flight
  refine ⟨one, ?_⟩
  simp only [sendLedger, Ledger.step, Ledger.push, pushed, pending, accepted, passed, finished]
  rfl

theorem popped (before : writesInFlight s = 1)
    (flight : writesInFlight t = if s.pendingSends.tail.isEmpty then 0 else 1)
    (pending : t.pendingSends = s.pendingSends.tail) (accepted : t.accepted = s.accepted)
    (passed : t.passed.map WriteOp.msg =
      s.passed.map WriteOp.msg ++ s.pendingSends.tail.take 1)
    (finished : t.finished = s.finished ++ s.pendingSends.take 1) :
    SendStep s t (some .finish) := by
  obtain ⟨one, active, popped⟩ := Queue.counted_finish before flight
  refine ⟨one, ?_⟩
  simp only [sendLedger, Ledger.step, Ledger.finish, active, if_true, popped, pending, accepted,
    passed, finished]
  rfl

theorem failed (before : writesInFlight s = 1) (after : writesInFlight t = 0)
    (pending : t.pendingSends = s.pendingSends) (accepted : t.accepted = s.accepted)
    (passed : t.passed = s.passed) (finished : t.finished = s.finished) :
    SendStep s t (some .fail) := by
  obtain ⟨one, active, failed⟩ := Queue.counted_fail s.pendingSends before after
  refine ⟨one, ?_⟩
  simp only [sendLedger, Ledger.step, Ledger.fail, active, if_true, failed, pending, accepted,
    passed, finished]

theorem keeps {op : Option (Op Message)} (stepped : SendStep s t op) (P : Ledger Message → Prop)
    (kept : ∀ op m, (sendLedger s).step op = some m → P m) (holds : P (sendLedger s)) :
    P (sendLedger t) := by
  obtain ⟨_, ledger⟩ := stepped
  cases op with
  | none => exact ledger ▸ holds
  | some op => exact kept op _ ledger

theorem stuck {op : Option (Op Message)} (stepped : SendStep s t op)
    (free : ¬ (sendLedger s).Stuck) (left : (sendLedger t).Stuck) : op = some .fail := by
  obtain ⟨_, ledger⟩ := stepped
  cases op with
  | none => exact absurd (ledger ▸ left) free
  | some op => rw [Queue.stuck_of_step (Ledger.toQueue_step ledger) free left]

end SendStep

theorem send_step {s t : TcpMgr} {e : Event} (one : writesInFlight s ≤ 1)
    (valid : (sendLedger s).Valid) (taken : step s e = some t) : SendStep s t (sendOp s e) := by
  cases step_took taken with
  | sendStarted waiting idle empty =>
    simp only [sendOp, waiting]
    refine SendStep.pushed one valid ?_ (by simp [empty]) rfl (by simp [empty]) rfl
    simp [writesInFlight, waiting, empty, Handler.isWrite]
    omega
  | sendQueued waiting idle nonempty =>
    simp only [sendOp, waiting]
    refine SendStep.pushed one valid ?_ rfl rfl (by simp [nonempty]) rfl
    simp [writesInFlight, waiting, nonempty, Handler.isWrite]
  | sendFinished waiting idle last =>
    simp only [writesInFlight, waiting, List.countP_cons, Handler.isWrite, if_true] at one
    simp only [sendOp, waiting]
    refine SendStep.popped ?_ ?_ last.symm rfl (by simp [last]) rfl
    · simp only [writesInFlight, waiting, List.countP_cons, Handler.isWrite, if_true]
      omega
    · simp only [last, writesInFlight, List.isEmpty_nil, if_true]
      omega
  | sendNext waiting idle next =>
    simp only [writesInFlight, waiting, List.countP_cons, Handler.isWrite, if_true] at one
    simp only [sendOp, waiting]
    refine SendStep.popped ?_ ?_ next.symm rfl (by simp [next]) rfl
    · simp only [writesInFlight, waiting, List.countP_cons, Handler.isWrite, if_true]
      omega
    · simp only [next, writesInFlight, List.length_append, List.length_singleton,
        List.isEmpty_cons, Bool.false_eq_true, if_false]
      omega
  | sendFailed waiting idle =>
    simp only [writesInFlight, waiting, List.countP_cons, Handler.isWrite, if_true] at one
    simp only [sendOp, waiting]
    refine SendStep.failed ?_ ?_ rfl rfl rfl rfl
    · simp only [writesInFlight, waiting, List.countP_cons, Handler.isWrite, if_true]
      omega
    · simp only [writesInFlight, Handler.isWrite, List.countP_append, List.countP_singleton,
        Bool.false_eq_true, if_false]
      omega
  | writeDone outstanding =>
    have counted := List.length_erase_of_mem outstanding
    have positive := List.length_pos_of_mem outstanding
    refine SendStep.same one ?_ rfl rfl rfl rfl
    simp [writesInFlight, counted, Handler.isWrite]
    omega
  | closed waiting idle live abort =>
    have all := abort.countP_eq Handler.isWrite
    simp only [sendOp, waiting]
    refine SendStep.same one ?_ rfl rfl rfl rfl
    simp [writesInFlight, waiting, all, aborted_writes, Handler.isWrite]
    omega
  | _ =>
    simp only [sendOp, *]
    exact SendStep.same one (by simp [writesInFlight, Handler.isWrite, *]) rfl rfl rfl rfl

structure InFlight (s : TcpMgr) : Prop where
  oneRead : readsInFlight s ≤ 1
  recvHead : (recvQueue s).Valid
  oneWrite : writesInFlight s ≤ 1
  sendHead : (sendLedger s).Valid
  ordered : (sendLedger s).InOrder

theorem InFlight.recvs_pending {s : TcpMgr} (flight : InFlight s) (busy : 0 < readsInFlight s) :
    s.pendingRecvs ≠ [] :=
  flight.recvHead (decide_eq_true busy)

theorem InFlight.sends_pending {s : TcpMgr} (flight : InFlight s) (busy : 0 < writesInFlight s) :
    s.pendingSends ≠ [] :=
  flight.sendHead (decide_eq_true busy)

theorem inFlight_step {s t : TcpMgr} {e : Event} (flight : InFlight s)
    (taken : step s e = some t) : InFlight t := by
  have recv := recv_step flight.oneRead flight.recvHead taken
  have send := send_step flight.oneWrite flight.sendHead taken
  refine ⟨recv.one, ?_, send.one, ?_, ?_⟩
  · exact recv.keeps Queue.Valid (fun _ _ stepped => Queue.valid_of_step stepped) flight.recvHead
  · exact send.keeps (fun l => l.Valid)
      (fun _ _ stepped => Queue.valid_of_step (Ledger.toQueue_step stepped)) flight.sendHead
  · exact send.keeps Ledger.InOrder
      (fun _ _ stepped => Ledger.inOrder_step flight.sendHead flight.ordered stepped) flight.ordered

theorem started_inFlight : InFlight .started := by
  refine ⟨by decide, ?_, by decide, ?_, ⟨rfl, rfl⟩⟩
  · intro active
    exact absurd active (by decide)
  · intro active
    exact absurd active (by decide)

theorem reachable_inFlight {s : TcpMgr} (reached : Reachable step .started s) : InFlight s :=
  reached.invariant InFlight started_inFlight fun _ _ _ _ flight _ taken => inFlight_step flight taken

end RmqMgr.Tcp
