import RmqMgr.Tcp.Step

set_option autoImplicit false

namespace RmqMgr.Tcp

-- What one step can do, each branch as one update of the state; the invariants below are
-- proved from it and do not unfold the handlers again.
inductive Took (s : TcpMgr) : Event → TcpMgr → Prop where
  | connected {order rest : List Handler} :
      s.strand = .onConnect none :: rest → s.phase = .idle → s.sockOpen = true →
      Took s (.runNext order) { s with
        strand := rest, socketStarted := true, phase := .constructing
        generation := s.generation + 1, up := true }
  | connectFailed {order rest : List Handler} {err : ErrorCode} {msgs : List String} :
      s.strand = .onConnect err :: rest → s.phase = .idle → ¬ (err = none ∧ s.sockOpen = true) →
      Took s (.runNext order) { s with
        strand := rest, socketStarted := false, up := false, sockOpen := true
        connects := s.connects + 1, errMsgs := msgs }
  | recvStarted {order rest : List Handler} {totalBytes : Int} {op : ReadOp} {buffer : Bytes} :
      s.strand = .dispatchRecv totalBytes :: rest → s.phase = .idle → s.pendingRecvs = [] →
      Took s (.runNext order) { s with
        strand := rest, pendingRecvs := [totalBytes], recvBuffer := buffer
        reads := s.reads ++ [op] }
  | recvQueued {order rest : List Handler} {totalBytes : Int} :
      s.strand = .dispatchRecv totalBytes :: rest → s.phase = .idle → s.pendingRecvs ≠ [] →
      Took s (.runNext order) { s with
        strand := rest, pendingRecvs := s.pendingRecvs ++ [totalBytes] }
  | received {order rest : List Handler} {bytes : Nat} :
      s.strand = .handleRecv none bytes :: rest → s.phase = .idle →
      Took s (.runNext order) { s with
        strand := rest, recvBuffer := resize s.recvBuffer bytes
        parseBuf := s.parseBuf ++ resize s.recvBuffer bytes, phase := .parsing }
  | recvFailed {order rest : List Handler} {message : String} {bytes : Nat} {msgs : List String} :
      s.strand = .handleRecv (some message) bytes :: rest → s.phase = .idle →
      Took s (.runNext order) { s with
        strand := rest ++ [.startCloseSocket], sockOpen := true
        connects := s.connects + 1, errMsgs := msgs }
  | sendStarted {order rest : List Handler} {pmsg : Message} :
      s.strand = .sendMsg pmsg :: rest → s.phase = .idle → s.pendingSends = [] →
      Took s (.runNext order) { s with
        strand := rest, pendingSends := [pmsg], accepted := s.accepted ++ [pmsg]
        writes := s.writes ++ [⟨s.generation, pmsg⟩]
        passed := s.passed ++ [⟨s.generation, pmsg⟩] }
  | sendQueued {order rest : List Handler} {pmsg : Message} :
      s.strand = .sendMsg pmsg :: rest → s.phase = .idle → s.pendingSends ≠ [] →
      Took s (.runNext order) { s with
        strand := rest, pendingSends := s.pendingSends ++ [pmsg]
        accepted := s.accepted ++ [pmsg] }
  | sendFinished {order rest : List Handler} :
      s.strand = .handleWrite none :: rest → s.phase = .idle → s.pendingSends.tail = [] →
      Took s (.runNext order) { s with
        strand := rest, pendingSends := []
        finished := s.finished ++ s.pendingSends.take 1 }
  | sendNext {order rest : List Handler} {pmsg : Message} {more : List Message} :
      s.strand = .handleWrite none :: rest → s.phase = .idle → s.pendingSends.tail = pmsg :: more →
      Took s (.runNext order) { s with
        strand := rest, pendingSends := pmsg :: more
        finished := s.finished ++ s.pendingSends.take 1
        writes := s.writes ++ [⟨s.generation, pmsg⟩]
        passed := s.passed ++ [⟨s.generation, pmsg⟩] }
  | sendFailed {order rest : List Handler} {message : String} {msgs : List String} :
      s.strand = .handleWrite (some message) :: rest → s.phase = .idle →
      Took s (.runNext order) { s with
        strand := rest ++ [.startCloseSocket], sockOpen := true
        connects := s.connects + 1, errMsgs := msgs }
  | closed {order rest : List Handler} :
      s.strand = .startCloseSocket :: rest → s.phase = .idle → s.socketStarted = true →
      order.Perm (aborted s) →
      Took s (.runNext order) { s with
        strand := rest ++ order, sockOpen := false, reads := [], writes := [], connects := 0
        socketStarted := false, up := false }
  | closeSkipped {order rest : List Handler} :
      s.strand = .startCloseSocket :: rest → s.phase = .idle → s.socketStarted = false →
      Took s (.runNext order) { s with strand := rest }
  | connectDone {err : ErrorCode} :
      0 < s.connects →
      Took s (.connectDone err) { s with
        strand := s.strand ++ [.onConnect err], connects := s.connects - 1 }
  | readDone {op : ReadOp} {err : ErrorCode} {data : Bytes} :
      op ∈ s.reads → op.delivers err data = true → data.length ≤ s.recvBuffer.length →
      Took s (.readDone op err data) { s with
        strand := s.strand ++ [.handleRecv err data.length], reads := s.reads.erase op
        recvBuffer := data ++ s.recvBuffer.drop data.length, up := s.up && err.isNone }
  | writeDone {op : WriteOp} {err : ErrorCode} :
      op ∈ s.writes →
      Took s (.writeDone op err) { s with
        strand := s.strand ++ [.handleWrite err], writes := s.writes.erase op
        up := s.up && err.isNone
        written := if err = none then s.written ++ [op.msg] else s.written }
  | created :
      s.phase = .constructing →
      Took s .created { s with
        strand := s.strand ++ [.dispatchRecv 0], pConnect := some s.generation, phase := .idle }
  | parsedLast {result : ParseEnd} {buffer : Bytes} {msgs : List String} :
      s.phase = .parsing → s.pendingRecvs.tail = [] →
      Took s (.parsed result) { s with
        parseBuf := buffer, errMsgs := msgs, pendingRecvs := [], phase := .idle
        strand := s.strand ++ [.dispatchRecv 0] }
  | parsedNext {result : ParseEnd} {buffer recvBuffer : Bytes} {msgs : List String}
      {totalBytes : Int} {more : List Int} {op : ReadOp} :
      s.phase = .parsing → s.pendingRecvs.tail = totalBytes :: more →
      Took s (.parsed result) { s with
        parseBuf := buffer, errMsgs := msgs, pendingRecvs := totalBytes :: more, phase := .idle
        recvBuffer := recvBuffer, reads := s.reads ++ [op] }
  | posted {msg : Message} :
      Took s (.onData .posted msg) { s with
        strand := s.strand ++ [.sendMsg msg], posted := s.posted ++ [msg] }
  | ready :
      s.phase = .parsing → Took s .onReady { s with isReady := true }
  | closePosted {msgs : List String} :
      Took s .finitClose { s with strand := s.strand ++ [.startCloseSocket], errMsgs := msgs }
  | stopped : Took s .finitStop { s with stopped := true }
  | postFailed {posting : Posting} {msg : Message} {msgs : List String} :
      posting ≠ .posted → Took s (.onData posting msg) { s with errMsgs := msgs }
  | errorReported {message : String} {msgs : List String} :
      Took s (.onError message) { s with errMsgs := msgs }
  | closeReported {msgs : List String} : Took s .onClosed { s with errMsgs := msgs }

theorem runHandler_took {s : TcpMgr} {order rest : List Handler} {h : Handler}
    (waiting : s.strand = h :: rest) (idle : s.phase = .idle)
    (abort : order.Perm (abortedBy h s)) :
    Took s (.runNext order) (runHandler order h { s with strand := rest }) := by
  cases h with
  | onConnect err =>
    simp only [runHandler, onConnect]
    split
    next ok =>
      obtain ⟨rfl, opened⟩ := ok
      exact .connected waiting idle opened
    next failed => exact .connectFailed waiting idle failed
  | dispatchRecv totalBytes =>
    simp only [runHandler, dispatchRecv]
    cases pending : s.pendingRecvs with
    | nil =>
      obtain ⟨op, buffer, started⟩ :=
        startRecv_spec totalBytes { s with strand := rest, pendingRecvs := [totalBytes] }
      simp only [List.isEmpty_nil, if_true, List.nil_append, started]
      exact .recvStarted waiting idle pending
    | cons head more =>
      simp only [List.isEmpty_cons, Bool.false_eq_true, if_false]
      rw [← pending]
      exact .recvQueued waiting idle (by simp [pending])
  | handleRecv err bytes =>
    cases err with
    | none => exact .received waiting idle
    | some message => exact .recvFailed waiting idle
  | sendMsg pmsg =>
    simp only [runHandler, sendMsg]
    cases pending : s.pendingSends with
    | nil => exact .sendStarted waiting idle pending
    | cons head more =>
      simp only [List.isEmpty_cons, Bool.false_eq_true, if_false]
      rw [← pending]
      exact .sendQueued waiting idle (by simp [pending])
  | handleWrite err =>
    cases err with
    | none =>
      simp only [runHandler, handleWrite, startSend]
      cases pending : s.pendingSends.tail with
      | nil => exact .sendFinished waiting idle pending
      | cons pmsg more => exact .sendNext waiting idle pending
    | some message => exact .sendFailed waiting idle
  | startCloseSocket =>
    simp only [runHandler, startCloseSocket]
    by_cases live : s.socketStarted = true
    · simp only [abortedBy, live, and_self, if_true] at abort
      rw [if_pos live]
      exact .closed waiting idle live abort
    · rw [if_neg live]
      exact .closeSkipped waiting idle (Bool.eq_false_iff.mpr live)

theorem handleRecvParsed_took {s : TcpMgr} {result : ParseEnd} (parsing : s.phase = .parsing) :
    Took s (.parsed result) (handleRecvParsed result s) := by
  have buffers : ∃ buffer msgs, parseAmqpDataEnd result s =
      { s with parseBuf := buffer, errMsgs := msgs } := by
    cases result <;> exact ⟨_, _, rfl⟩
  obtain ⟨buffer, msgs, ended⟩ := buffers
  simp only [handleRecvParsed, ended]
  cases pending : s.pendingRecvs.tail with
  | nil => exact .parsedLast parsing pending
  | cons totalBytes more =>
    obtain ⟨op, recvBuffer, started⟩ := startRecv_spec totalBytes { s with
      parseBuf := buffer, errMsgs := msgs, pendingRecvs := totalBytes :: more, phase := .idle }
    simp only [started]
    exact .parsedNext parsing pending

theorem run_step {s t : TcpMgr} {order : List Handler} (taken : step s (.runNext order) = some t) :
    ∃ h rest, s.strand = h :: rest ∧ s.phase = .idle ∧ s.stopped = false ∧
      order.Perm (abortedBy h s) ∧ t = runHandler order h { s with strand := rest } := by
  cases waiting : s.strand with
  | nil => simp [step, waiting] at taken
  | cons h rest =>
    simp only [step, waiting, Option.ite_none_right_eq_some, Option.some.injEq] at taken
    obtain ⟨⟨idle, unstopped, abort⟩, rfl⟩ := taken
    exact ⟨h, rest, rfl, idle, unstopped, abort, rfl⟩

theorem step_took {s t : TcpMgr} {e : Event} (taken : step s e = some t) : Took s e t := by
  cases e with
  | runNext order =>
    obtain ⟨h, rest, waiting, idle, _, abort, rfl⟩ := run_step taken
    exact runHandler_took waiting idle abort
  | connectDone err =>
    simp only [step, Option.ite_none_right_eq_some, Option.some.injEq] at taken
    obtain ⟨outstanding, rfl⟩ := taken
    exact .connectDone outstanding
  | readDone op err data =>
    simp only [step, Option.ite_none_right_eq_some, Option.some.injEq] at taken
    obtain ⟨⟨outstanding, delivers, fits, _⟩, rfl⟩ := taken
    exact .readDone outstanding delivers fits
  | writeDone op err =>
    simp only [step, Option.ite_none_right_eq_some, Option.some.injEq] at taken
    obtain ⟨⟨outstanding, _⟩, rfl⟩ := taken
    exact .writeDone outstanding
  | created =>
    simp only [step, Option.ite_none_right_eq_some, Option.some.injEq] at taken
    obtain ⟨constructing, rfl⟩ := taken
    exact .created constructing
  | parsed result =>
    simp only [step, Option.ite_none_right_eq_some, Option.some.injEq] at taken
    obtain ⟨⟨parsing, _⟩, rfl⟩ := taken
    exact handleRecvParsed_took parsing
  | onData posting msg =>
    obtain rfl := Option.some.inj taken
    cases posting with
    | posted => exact .posted
    | postThrew what => exact .postFailed (by simp)
    | copyThrew what => exact .postFailed (by simp)
  | onReady =>
    simp only [step, Option.ite_none_right_eq_some, Option.some.injEq] at taken
    obtain ⟨parsing, rfl⟩ := taken
    exact .ready parsing
  | onError message =>
    simp only [step, Option.ite_none_right_eq_some, Option.some.injEq] at taken
    obtain ⟨_, rfl⟩ := taken
    exact .errorReported
  | onClosed =>
    simp only [step, Option.ite_none_right_eq_some, Option.some.injEq] at taken
    obtain ⟨_, rfl⟩ := taken
    exact .closeReported
  | finitClose =>
    obtain rfl := Option.some.inj taken
    exact .closePosted
  | finitStop =>
    obtain rfl := Option.some.inj taken
    exact .stopped

def Event.isRun : Event → Bool
  | .runNext _ => true
  | _ => false

theorem run_unstopped {s t : TcpMgr} {e : Event} (taken : step s e = some t)
    (run : e.isRun = true) : s.stopped = false := by
  cases e with
  | runNext order =>
    obtain ⟨_, _, _, _, unstopped, _⟩ := run_step taken
    exact unstopped
  | _ => cases run

theorem stopped_step {s t : TcpMgr} {e : Event} (taken : step s e = some t)
    (stopped : s.stopped = true) : t.stopped = true ∧ (s.phase = .idle → t.phase = .idle) := by
  have waits : e.isRun ≠ true := by
    intro run
    rw [run_unstopped taken run] at stopped
    cases stopped
  cases step_took taken with
  | stopped => exact ⟨rfl, id⟩
  | created | parsedLast | parsedNext => exact ⟨stopped, fun _ => rfl⟩
  | connectDone | readDone | writeDone | posted | ready | closePosted | postFailed | errorReported
  | closeReported => exact ⟨stopped, id⟩
  | _ => exact absurd rfl waits

def Runs (s : TcpMgr) (e : Event) (h : Handler) : Prop :=
  e.isRun = true ∧ s.strand.head? = some h

instance (s : TcpMgr) (e : Event) (h : Handler) : Decidable (Runs s e h) :=
  inferInstanceAs (Decidable (_ ∧ _))

theorem Runs.of_strand {s : TcpMgr} {order rest : List Handler} {h : Handler}
    (waiting : s.strand = h :: rest) : Runs s (.runNext order) h :=
  ⟨rfl, by rw [waiting]; rfl⟩

theorem Runs.head {s : TcpMgr} {e : Event} {h first : Handler} {rest : List Handler}
    (runs : Runs s e h) (waiting : s.strand = first :: rest) : first = h := by
  have head := runs.2
  rw [waiting] at head
  exact Option.some.inj head

theorem Runs.same {s : TcpMgr} {e : Event} {h other : Handler} (runs : Runs s e h)
    (runsToo : Runs s e other) : h = other :=
  Option.some.inj (runs.2.symm.trans runsToo.2)

theorem strand_step {s t : TcpMgr} {e : Event} {h : Handler} (taken : step s e = some t)
    (posted : h ∈ s.strand) : h ∈ t.strand ∨ Runs s e h := by
  cases step_took taken with
  | connectDone | readDone | writeDone | created | parsedLast | posted | closePosted =>
    exact .inl (List.mem_append_left _ posted)
  | parsedNext | ready | stopped | postFailed | errorReported | closeReported =>
    exact .inl posted
  | _ waiting =>
    rw [waiting] at posted
    rcases List.mem_cons.mp posted with rfl | later
    · exact .inr (.of_strand waiting)
    · exact .inl (by simp [later])

end RmqMgr.Tcp
