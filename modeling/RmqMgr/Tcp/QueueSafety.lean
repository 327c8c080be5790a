import RmqMgr.Tcp.InFlight

set_option autoImplicit false

namespace RmqMgr.Tcp

open HeadQueue Transition

-- `RecvData` takes any number of bytes, although the source only ever asks for 0.
inductive Request where
  | event (e : Event)
  | recvData (totalBytes : Int)
  deriving DecidableEq, Repr

def serve (s : TcpMgr) : Request → Option TcpMgr
  | .event e => step s e
  | .recvData totalBytes => some (recvData totalBytes s)

def readOf (totalBytes : Int) : ReadOp :=
  if 0 < totalBytes then .read totalBytes.toNat else .readSome kReceiveBufferSize

theorem startRecv_reads (totalBytes : Int) (s : TcpMgr) :
    (startRecv totalBytes s).reads = s.reads ++ [readOf totalBytes] := by
  unfold startRecv readOf
  split <;> rfl

structure QueuesSafe (s : TcpMgr) : Prop where
  oneRead : readsInFlight s ≤ 1
  oneWrite : writesInFlight s ≤ 1
  readFront : ∀ op ∈ s.reads, ∃ totalBytes, s.pendingRecvs.head? = some totalBytes ∧
    op = readOf totalBytes
  writeFront : ∀ op ∈ s.writes, s.pendingSends.head? = some op.msg
  recvPops : s.phase = .parsing → s.pendingRecvs ≠ []
  sendPops : Handler.handleWrite none ∈ s.strand → s.pendingSends ≠ []

/-- A step while a read is outstanding neither starts one nor resizes its buffer. A list grows at
its end, and loses its front only to the handler that found the operation of it successful. -/
structure PopsOwn (s : TcpMgr) (r : Request) (t : TcpMgr) : Prop where
  buffer : s.reads ≠ [] → t.reads.length ≤ s.reads.length ∧
    t.recvBuffer.length = s.recvBuffer.length
  recvs : s.pendingRecvs <+: t.pendingRecvs ∨
    (∃ result, r = .event (.parsed result)) ∧ s.phase = .parsing ∧
      ∃ totalBytes, s.pendingRecvs = totalBytes :: t.pendingRecvs
  sends : s.pendingSends <+: t.pendingSends ∨
    (∃ order, r = .event (.runNext order)) ∧ s.strand.head? = some (.handleWrite none) ∧
      ∃ pmsg, s.pendingSends = pmsg :: t.pendingSends

theorem head_kept {A : Type} {before after : List A} {a : A} (grown : before <+: after)
    (front : before.head? = some a) : after.head? = some a := by
  obtain ⟨rest, rfl⟩ := grown
  rw [List.head?_append, front]
  rfl

theorem reads_exclusive {s : TcpMgr} (flight : InFlight s) (outstanding : s.reads ≠ []) :
    s.reads.length = 1 ∧ s.strand.countP Handler.isRecv = 0 ∧ s.phase ≠ .parsing := by
  have some := List.length_pos_of_ne_nil outstanding
  have one := flight.oneRead
  unfold readsInFlight at one
  refine ⟨by omega, by omega, ?_⟩
  intro parsing
  rw [parsing] at one
  simp only [Phase.recvs] at one
  omega

theorem recvs_step {s t : TcpMgr} {e : Event} (flight : InFlight s) (taken : step s e = some t) :
    s.pendingRecvs <+: t.pendingRecvs ∨ (∃ result, e = .parsed result) ∧ s.phase = .parsing ∧
      ∃ totalBytes, s.pendingRecvs = totalBytes :: t.pendingRecvs := by
  have popped (parsing : s.phase = .parsing) : s.pendingRecvs ≠ [] := by
    apply flight.recvs_pending
    simp [readsInFlight, parsing, Phase.recvs]
  cases step_took taken with
  | recvStarted _ _ empty => exact .inl (by simp [empty])
  | recvQueued => exact .inl (List.prefix_append _ _)
  | parsedLast parsing last | parsedNext parsing last =>
    obtain ⟨totalBytes, rest, same⟩ := List.exists_cons_of_ne_nil (popped parsing)
    rw [same, List.tail_cons] at last
    exact .inr ⟨⟨_, rfl⟩, parsing, totalBytes, by rw [same, last]⟩
  | _ => exact .inl List.prefix_rfl

theorem sends_step {s t : TcpMgr} {e : Event} (flight : InFlight s) (taken : step s e = some t) :
    s.pendingSends <+: t.pendingSends ∨ (∃ order, e = .runNext order) ∧
      s.strand.head? = some (.handleWrite none) ∧
      ∃ pmsg, s.pendingSends = pmsg :: t.pendingSends := by
  have popped {rest : List Handler} (waiting : s.strand = .handleWrite none :: rest) :
      s.pendingSends ≠ [] := by
    apply flight.sends_pending
    simp only [writesInFlight, waiting, Handler.isWrite, List.countP_cons, if_true]
    omega
  cases step_took taken with
  | sendStarted _ _ empty => exact .inl (by simp [empty])
  | sendQueued => exact .inl (List.prefix_append _ _)
  | sendFinished waiting _ last | sendNext waiting _ last =>
    obtain ⟨pmsg, rest, same⟩ := List.exists_cons_of_ne_nil (popped waiting)
    rw [same, List.tail_cons] at last
    exact .inr ⟨⟨_, rfl⟩, by rw [waiting]; rfl, pmsg, by rw [same, last]⟩
  | _ => exact .inl List.prefix_rfl

theorem reads_step {s t : TcpMgr} {e : Event} (taken : step s e = some t) {op : ReadOp}
    (outstanding : op ∈ t.reads) :
    op ∈ s.reads ∨ ∃ totalBytes, t.pendingRecvs.head? = some totalBytes ∧
      op = readOf totalBytes := by
  cases step_took taken with
  | @recvStarted order rest totalBytes _ _ waiting idle empty =>
    simp only [step, waiting, runHandler, dispatchRecv, empty, List.isEmpty_nil, if_true,
      Option.ite_none_right_eq_some, Option.some.injEq] at taken
    have reads := congrArg TcpMgr.reads taken.2
    rw [startRecv_reads] at reads
    simp only at reads outstanding
    rw [← reads] at outstanding
    rcases List.mem_append.mp outstanding with earlier | last
    · exact .inl earlier
    · exact .inr ⟨totalBytes, rfl, List.mem_singleton.mp last⟩
  | @parsedNext result _ _ _ totalBytes more _ parsing next =>
    have pending : (parseAmqpDataEnd result s).pendingRecvs = s.pendingRecvs ∧
        (parseAmqpDataEnd result s).reads = s.reads := by
      cases result <;> exact ⟨rfl, rfl⟩
    simp only [step, handleRecvParsed, pending.1, next, Option.ite_none_right_eq_some,
      Option.some.injEq] at taken
    have reads := congrArg TcpMgr.reads taken.2
    rw [startRecv_reads] at reads
    simp only [pending.2] at reads outstanding
    rw [← reads] at outstanding
    rcases List.mem_append.mp outstanding with earlier | last
    · exact .inl earlier
    · exact .inr ⟨totalBytes, rfl, List.mem_singleton.mp last⟩
  | readDone => exact .inl (List.mem_of_mem_erase outstanding)
  | closed => cases outstanding
  | _ => exact .inl outstanding

theorem writes_step {s t : TcpMgr} {e : Event} (taken : step s e = some t) {op : WriteOp}
    (outstanding : op ∈ t.writes) :
    op ∈ s.writes ∨ t.pendingSends.head? = some op.msg := by
  cases step_took taken with
  | sendStarted | sendNext =>
    rcases List.mem_append.mp outstanding with earlier | last
    · exact .inl earlier
    · rw [List.mem_singleton.mp last]
      exact .inr rfl
  | writeDone => exact .inl (List.mem_of_mem_erase outstanding)
  | closed => cases outstanding
  | _ => exact .inl outstanding

theorem buffer_step {s t : TcpMgr} {e : Event} (flight : InFlight s) (taken : step s e = some t)
    (outstanding : s.reads ≠ []) :
    t.reads.length ≤ s.reads.length ∧ t.recvBuffer.length = s.recvBuffer.length := by
  obtain ⟨_, unhandled, unparsed⟩ := reads_exclusive flight outstanding
  have pending : s.pendingRecvs ≠ [] := by
    apply flight.recvs_pending
    have some := List.length_pos_of_ne_nil outstanding
    unfold readsInFlight
    omega
  cases step_took taken with
  | recvStarted _ _ empty => exact absurd empty pending
  | received waiting => simp [waiting, Handler.isRecv] at unhandled
  | parsedLast parsing | parsedNext parsing => exact absurd parsing unparsed
  | readDone _ _ fits =>
    refine ⟨(List.erase_sublist ..).length_le, ?_⟩
    rw [List.length_append, List.length_drop]
    omega
  | closed => exact ⟨Nat.zero_le _, rfl⟩
  | _ => exact ⟨Nat.le_refl _, rfl⟩

theorem recvData_inFlight {s : TcpMgr} (flight : InFlight s) (totalBytes : Int) :
    InFlight (recvData totalBytes s) := by
  have reads : readsInFlight (recvData totalBytes s) = readsInFlight s := by
    simp [readsInFlight, recvData, post, Handler.isRecv]
  have writes : writesInFlight (recvData totalBytes s) = writesInFlight s := by
    simp [writesInFlight, recvData, post, Handler.isWrite]
  have recvs : recvQueue (recvData totalBytes s) = recvQueue s := by
    rw [recvQueue, reads]
    rfl
  have sends : sendLedger (recvData totalBytes s) = sendLedger s := by
    rw [sendLedger, writes]
    rfl
  exact ⟨reads ▸ flight.oneRead, recvs ▸ flight.recvHead, writes ▸ flight.oneWrite,
    sends ▸ flight.sendHead, sends ▸ flight.ordered⟩

theorem serve_inFlight {s t : TcpMgr} {r : Request} (flight : InFlight s)
    (taken : serve s r = some t) : InFlight t := by
  cases r with
  | event e => exact inFlight_step flight taken
  | recvData totalBytes =>
    obtain rfl := Option.some.inj taken
    exact recvData_inFlight flight totalBytes

theorem served_inFlight {s : TcpMgr} (reached : Reachable serve .started s) : InFlight s :=
  reached.invariant InFlight started_inFlight fun _ _ _ _ flight _ taken =>
    serve_inFlight flight taken

structure Fronts (s : TcpMgr) : Prop where
  reads : ∀ op ∈ s.reads, ∃ totalBytes, s.pendingRecvs.head? = some totalBytes ∧
    op = readOf totalBytes
  writes : ∀ op ∈ s.writes, s.pendingSends.head? = some op.msg

theorem fronts_step {s t : TcpMgr} {e : Event} (flight : InFlight s) (fronts : Fronts s)
    (taken : step s e = some t) : Fronts t := by
  constructor
  · intro op outstanding
    rcases reads_step taken outstanding with earlier | started
    · obtain ⟨totalBytes, front, same⟩ := fronts.reads op earlier
      refine ⟨totalBytes, ?_, same⟩
      rcases recvs_step flight taken with grown | ⟨_, parsing, _⟩
      · exact head_kept grown front
      · exact absurd parsing (reads_exclusive flight (List.ne_nil_of_mem earlier)).2.2
    · exact started
  · intro op outstanding
    rcases writes_step taken outstanding with earlier | started
    · rcases sends_step flight taken with grown | ⟨_, waiting, _⟩
      · exact head_kept grown (fronts.writes op earlier)
      · -- The write and the handler of an earlier one would both be in flight.
        have one := flight.oneWrite
        have some := List.length_pos_of_mem earlier
        have handled : 0 < s.strand.countP Handler.isWrite :=
          List.countP_pos_iff.mpr ⟨_, List.mem_of_head? waiting, rfl⟩
        unfold writesInFlight at one
        omega
    · exact started

theorem served_fronts {s : TcpMgr} (reached : Reachable serve .started s) : Fronts s := by
  apply reached.invariant Fronts
  · constructor <;> intro op outstanding <;> cases outstanding
  · intro s r t before fronts _ taken
    cases r with
    | event e => exact fronts_step (served_inFlight before) fronts taken
    | recvData totalBytes =>
      obtain rfl := Option.some.inj taken
      exact ⟨fronts.reads, fronts.writes⟩

theorem queues_safe {s : TcpMgr} (reached : Reachable serve .started s) :
    QueuesSafe s ∧ ∀ r t, serve s r = some t → PopsOwn s r t := by
  have flight := served_inFlight reached
  have fronts := served_fronts reached
  constructor
  · refine ⟨flight.oneRead, flight.oneWrite, fronts.reads, fronts.writes, ?_, ?_⟩
    · intro parsing
      apply flight.recvs_pending
      simp [readsInFlight, parsing, Phase.recvs]
    · intro posted
      have handled : 0 < s.strand.countP Handler.isWrite :=
        List.countP_pos_iff.mpr ⟨_, posted, rfl⟩
      apply flight.sends_pending
      unfold writesInFlight
      omega
  · intro r t taken
    cases r with
    | recvData totalBytes =>
      obtain rfl := Option.some.inj taken
      exact ⟨fun _ => ⟨Nat.le_refl _, rfl⟩, .inl List.prefix_rfl, .inl List.prefix_rfl⟩
    | event e =>
      refine ⟨buffer_step flight taken, ?_, ?_⟩
      · rcases recvs_step flight taken with grown | ⟨⟨result, rfl⟩, popped⟩
        · exact .inl grown
        · exact .inr ⟨⟨result, rfl⟩, popped⟩
      · rcases sends_step flight taken with grown | ⟨⟨order, rfl⟩, popped⟩
        · exact .inl grown
        · exact .inr ⟨⟨order, rfl⟩, popped⟩

def writesAndReads : List Request :=
  [.event (.connectDone none), .event (.runNext []), .event (.onData .posted ⟨1, [7]⟩),
    .event .created, .event (.runNext []), .event (.runNext []), .recvData 100,
    .event (.runNext []), .event (.readDone (.readSome 4096) none [1]), .event (.runNext []),
    .event (.parsed (.parsed 1))]

theorem second_entry_read :
    ∃ s, (Reachable serve .started s ∧ s.reads = [.read 100] ∧ s.writes = [⟨1, ⟨1, [7]⟩⟩]) ∧
      QueuesSafe s ∧ ∀ r t, serve s r = some t → PopsOwn s r t := by
  have ran : ∃ s, Reach serve anyStep .started s ∧ s.reads = [.read 100] ∧
      s.writes = [⟨1, ⟨1, [7]⟩⟩] :=
    run_reaches writesAndReads (by decide +kernel)
  obtain ⟨s, reached, outstanding⟩ := ran
  exact ⟨s, ⟨reached, outstanding⟩, queues_safe reached⟩

end RmqMgr.Tcp
