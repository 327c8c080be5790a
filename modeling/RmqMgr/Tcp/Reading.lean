import RmqMgr.Shared.History
import RmqMgr.Tcp.Liveness
import RmqMgr.Tcp.QueueSafety

set_option autoImplicit false

-- A read fills `m_recv_buffer`, its handler appends that to `m_parseBuf`, and `ParseAmqpData`
-- erases from there what its loop has got through.

namespace RmqMgr.Tcp

open Transition

structure Received where
  delivered : Bytes := []
  erased : Bytes := []
  deriving DecidableEq, Repr

def noteReceived (s : TcpMgr) (e : Event) (_ : TcpMgr) (h : Received) : Received :=
  match e with
  | .readDone _ none data => { h with delivered := h.delivered ++ data }
  | .parsed (.parsed bytes) => { h with erased := h.erased ++ s.parseBuf.take bytes }
  | _ => h

def ReadOp.size : ReadOp → Nat
  | .read total => total
  | .readSome max => max

def Handler.received (buffer : Bytes) : Handler → Bytes
  | .handleRecv none bytes => buffer.take bytes
  | _ => []

def unhandled (s : TcpMgr) : Bytes :=
  s.strand.flatMap (Handler.received s.recvBuffer)

theorem received_other {buffer : Bytes} {h : Handler} (other : h.isRecv = false) :
    h.received buffer = [] := by
  cases h with
  | handleRecv => cases other
  | _ => rfl

theorem received_none {strand : List Handler} (buffer : Bytes)
    (none : strand.countP Handler.isRecv = 0) : strand.flatMap (Handler.received buffer) = [] := by
  rw [List.flatMap_eq_nil_iff]
  intro h member
  exact received_other (Bool.eq_false_iff.mpr (List.countP_eq_zero.mp none h member))

theorem received_aborted {s : TcpMgr} {order : List Handler} (buffer : Bytes)
    (abort : order.Perm (aborted s)) : order.flatMap (Handler.received buffer) = [] := by
  rw [List.flatMap_eq_nil_iff]
  intro h member
  have among := abort.mem_iff.mp member
  simp only [aborted, List.mem_append, List.mem_map, List.mem_replicate] at among
  rcases among with (⟨_, _, rfl⟩ | ⟨_, _, rfl⟩) | ⟨_, rfl⟩ <;> rfl

theorem length_resize (buffer : Bytes) (size : Nat) : (resize buffer size).length = size := by
  rw [resize, List.length_append, List.length_take, List.length_replicate]
  omega

theorem resize_inside {buffer : Bytes} {size : Nat} (inside : size ≤ buffer.length) :
    resize buffer size = buffer.take size := by
  rw [resize, Nat.sub_eq_zero_of_le inside, List.replicate_zero, List.append_nil]

theorem startRecv_room (totalBytes : Int) (s : TcpMgr) :
    (startRecv totalBytes s).recvBuffer.length = (readOf totalBytes).size := by
  unfold startRecv readOf
  split <;> exact length_resize _ _

theorem parsed_step {s t : TcpMgr} {result : ParseEnd} (taken : step s (.parsed result) = some t) :
    s.phase = .parsing ∧ result.fits s.parseBuf = true ∧ t = handleRecvParsed result s := by
  simp only [step, Option.ite_none_right_eq_some, Option.some.injEq] at taken
  exact ⟨taken.1.1, taken.1.2, taken.2.symm⟩

def Room (s : TcpMgr) : Prop :=
  ∀ op ∈ s.reads, s.recvBuffer.length = op.size

theorem startRecv_keepsRoom {s : TcpMgr} (none : s.reads = []) (totalBytes : Int) :
    Room (startRecv totalBytes s) := by
  intro op outstanding
  rw [startRecv_reads, none, List.nil_append, List.mem_singleton] at outstanding
  rw [outstanding]
  exact startRecv_room totalBytes s

theorem room_step {s t : TcpMgr} {e : Event} (flight : InFlight s) (room : Room s)
    (taken : step s e = some t) : Room t := by
  have idleReads (none : s.pendingRecvs = []) : s.reads = [] := by
    by_contra outstanding
    have some := List.length_pos_of_ne_nil outstanding
    exact flight.recvs_pending (by unfold readsInFlight; omega) none
  cases step_took taken with
  | recvStarted waiting idle empty =>
    simp only [step, waiting, runHandler, dispatchRecv, empty, List.isEmpty_nil, if_true,
      Option.ite_none_right_eq_some, Option.some.injEq] at taken
    rw [← taken.2]
    apply startRecv_keepsRoom
    exact idleReads empty
  | @parsedNext result _ _ _ totalBytes more _ parsing next =>
    obtain ⟨_, _, same⟩ := parsed_step taken
    have pending : (parseAmqpDataEnd result s).pendingRecvs = s.pendingRecvs ∧
        (parseAmqpDataEnd result s).reads = s.reads := by
      cases result <;> exact ⟨rfl, rfl⟩
    have none : s.reads = [] := by
      by_contra outstanding
      exact (reads_exclusive flight outstanding).2.2 parsing
    simp only [handleRecvParsed, pending.1, next] at same
    rw [same]
    apply startRecv_keepsRoom
    exact pending.2.trans none
  | received waiting =>
    have none : s.reads = [] := by
      by_contra outstanding
      have unhandled := (reads_exclusive flight outstanding).2.1
      simp [waiting, Handler.isRecv] at unhandled
    intro op outstanding
    rw [show s.reads = [] from none] at outstanding
    cases outstanding
  | @readDone read err data member _ fits =>
    intro op outstanding
    have before := room op (List.mem_of_mem_erase outstanding)
    rw [List.length_append, List.length_drop, ← before]
    omega
  | closed =>
    intro op outstanding
    cases outstanding
  | _ => exact room

theorem parsed_erases {s t : TcpMgr} {result : ParseEnd} {past : Received}
    (taken : step s (.parsed result) = some t) :
    (noteReceived s (.parsed result) t past).erased ++ t.parseBuf =
      past.erased ++ s.parseBuf := by
  obtain ⟨_, _, rfl⟩ := parsed_step taken
  rw [(handleRecvParsed_keeps result s).1]
  cases result with
  | parsed bytes =>
    simp only [noteReceived, parseAmqpDataEnd, List.append_assoc, List.take_append_drop]
  | threw what => rfl

-- One read at most is in flight, so while there is another one no handler of a read waits.
theorem unqueued {s : TcpMgr} (flight : InFlight s)
    (other : s.pendingRecvs = [] ∨ s.reads ≠ [] ∨ s.phase = .parsing) :
    s.strand.countP Handler.isRecv = 0 := by
  have one := flight.oneRead
  rcases other with empty | outstanding | parsing
  · by_contra waiting
    exact flight.recvs_pending (by unfold readsInFlight; omega) empty
  · exact (reads_exclusive flight outstanding).2.1
  · rw [readsInFlight, parsing, Phase.recvs] at one
    omega

theorem unqueued_rest {s : TcpMgr} {rest : List Handler} {err : ErrorCode} {bytes : Nat}
    (flight : InFlight s) (waiting : s.strand = .handleRecv err bytes :: rest) :
    rest.countP Handler.isRecv = 0 := by
  have one := flight.oneRead
  simp only [readsInFlight, waiting, List.countP_cons, Handler.isRecv, if_true] at one
  omega

def Inside (buffer : Bytes) (strand : List Handler) : Prop :=
  ∀ bytes, Handler.handleRecv none bytes ∈ strand → bytes ≤ buffer.length

theorem inside_none {strand : List Handler} (buffer : Bytes)
    (none : strand.countP Handler.isRecv = 0) : Inside buffer strand := by
  intro bytes member
  exact absurd rfl (List.countP_eq_zero.mp none _ member)

theorem inside_step {s t : TcpMgr} {e : Event} (flight : InFlight s)
    (inside : Inside s.recvBuffer s.strand) (taken : step s e = some t) :
    Inside t.recvBuffer t.strand := by
  cases step_took taken with
  | recvStarted waiting _ empty =>
    have none := unqueued flight (.inl empty)
    rw [waiting, List.countP_cons] at none
    exact inside_none _ (Nat.eq_zero_of_add_eq_zero_right none)
  | received waiting => exact inside_none _ (unqueued_rest flight waiting)
  | parsedNext parsing =>
    have none := unqueued flight (.inr (.inr parsing))
    exact inside_none _ none
  | @readDone op err data member =>
    have none := unqueued flight (.inr (.inl (List.ne_nil_of_mem member)))
    intro bytes queued
    rcases List.mem_append.mp queued with earlier | last
    · exact inside_none _ none bytes earlier
    · obtain ⟨_, rfl⟩ := Handler.handleRecv.inj (List.mem_singleton.mp last)
      rw [List.length_append]
      exact Nat.le_add_right _ _
  | closed waiting _ _ abort =>
    intro bytes queued
    rcases List.mem_append.mp queued with earlier | last
    · exact inside bytes (by rw [waiting]; exact List.mem_cons_of_mem _ earlier)
    · have among := abort.mem_iff.mp last
      simp [aborted, operationAborted] at among
  | _ =>
    intro bytes queued
    apply inside
    simp_all

theorem reachable_inside {s : TcpMgr} (reached : Reachable step .started s) :
    Inside s.recvBuffer s.strand := by
  apply reached.invariant fun s => Inside s.recvBuffer s.strand
  · intro bytes queued
    cases queued
  · intro s e t before inside _ taken
    exact inside_step (reachable_inFlight before) inside taken

theorem parsed_unhandled {s t : TcpMgr} {result : ParseEnd} (flight : InFlight s)
    (taken : step s (.parsed result) = some t) : unhandled s = [] ∧ unhandled t = [] := by
  have none := unqueued flight (.inr (.inr (parsed_step taken).1))
  refine ⟨received_none _ none, ?_⟩
  cases step_took taken with
  | parsedLast =>
    rw [unhandled, List.flatMap_append, received_none _ none]
    rfl
  | parsedNext => exact received_none _ none

theorem delivered_step {s t : TcpMgr} {e : Event} {past : Received} (flight : InFlight s)
    (inside : Inside s.recvBuffer s.strand)
    (delivered : past.delivered = past.erased ++ s.parseBuf ++ unhandled s)
    (taken : step s e = some t) :
    (noteReceived s e t past).delivered =
      (noteReceived s e t past).erased ++ t.parseBuf ++ unhandled t := by
  cases step_took taken with
  | @parsedLast result | @parsedNext result =>
    obtain ⟨before, after⟩ := parsed_unhandled flight taken
    rw [after, parsed_erases taken, ← before, ← delivered]
    cases result <;> rfl
  | recvStarted waiting _ empty =>
    have none := unqueued flight (.inl empty)
    unfold unhandled at delivered ⊢
    rw [received_none _ none] at delivered
    rw [waiting, List.countP_cons] at none
    rw [received_none _ (Nat.eq_zero_of_add_eq_zero_right none)]
    exact delivered
  | @received order rest bytes waiting =>
    have none := unqueued_rest flight waiting
    have fits := inside bytes (by rw [waiting]; exact List.mem_cons_self ..)
    unfold unhandled at delivered ⊢
    rw [waiting, List.flatMap_cons, received_none _ none, List.append_nil] at delivered
    rw [received_none _ none, List.append_nil, resize_inside fits, ← List.append_assoc]
    exact delivered
  | @readDone op err data member =>
    have none := unqueued flight (.inr (.inl (List.ne_nil_of_mem member)))
    unfold unhandled at delivered ⊢
    rw [received_none _ none, List.append_nil] at delivered
    rw [List.flatMap_append, received_none _ none, List.nil_append]
    cases err with
    | none => simp [noteReceived, delivered, Handler.received]
    | some message => simpa [noteReceived, Handler.received] using delivered
  | closed waiting _ _ abort =>
    unfold unhandled at delivered ⊢
    rw [waiting] at delivered
    rw [List.flatMap_append, received_aborted _ abort, List.append_nil]
    exact delivered
  | _ => simp_all [noteReceived, unhandled, Handler.received]

/-- Every byte the socket delivered was erased from `m_parseBuf`, is in there, or is in
`m_recv_buffer` for a handler on the strand, in the order of the stream. The buffer of a read is of
its size until its handler runs. -/
structure BytesAccounted (t : Traced TcpMgr Received) : Prop where
  delivered : t.past.delivered = t.past.erased ++ t.now.parseBuf ++ unhandled t.now
  room : Room t.now
  inside : Inside t.now.recvBuffer t.now.strand

theorem bytes_accounted {t : Traced TcpMgr Received}
    (reached : Reachable (traced step noteReceived) ⟨.started, {}⟩ t) : BytesAccounted t := by
  refine reached.invariant BytesAccounted ⟨rfl, ?_, ?_⟩ ?_
  · intro op outstanding
    cases outstanding
  · intro bytes queued
    cases queued
  · intro t e u before held _ taken
    obtain ⟨stepped, past⟩ := traced_step taken
    have flight := reachable_inFlight before.untraced
    refine ⟨?_, room_step flight held.room stepped, inside_step flight held.inside stepped⟩
    rw [past]
    exact delivered_step flight held.inside held.delivered stepped

theorem second_read_accounted :
    ∃ t, (Reachable (traced step noteReceived) ⟨.started, {}⟩ t ∧
        t.past = ⟨[1, 2, 3, 4], [1, 2]⟩ ∧ t.now.parseBuf = [3] ∧ unhandled t.now = [4]) ∧
      BytesAccounted t := by
  have ran : ∃ t, Reach (traced step noteReceived) anyStep ⟨.started, {}⟩ t ∧
      t.past = ⟨[1, 2, 3, 4], [1, 2]⟩ ∧ t.now.parseBuf = [3] ∧ unhandled t.now = [4] :=
    run_reaches (connectAndRead ++ [.readDone (.readSome 4096) none [1, 2, 3], .runNext [],
      .parsed (.parsed 2), .runNext [], .readDone (.readSome 4096) none [4]]) (by decide +kernel)
  obtain ⟨t, reached, located⟩ := ran
  exact ⟨t, ⟨reached, located⟩, bytes_accounted reached⟩

end RmqMgr.Tcp
