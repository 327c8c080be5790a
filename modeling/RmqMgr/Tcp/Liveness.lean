import RmqMgr.Tcp.InFlight

set_option autoImplicit false

namespace RmqMgr.Tcp

open HeadQueue Transition

-- The latest `OnConnect` succeeded, its socket has neither failed nor been closed since, and
-- the worker has nothing to run.
structure Quiet (s : TcpMgr) : Prop where
  up : s.up = true
  strand : s.strand = []
  idle : s.phase = .idle

structure Flowing (s : TcpMgr) : Prop where
  reads : s.reads ≠ []
  writes : s.pendingSends ≠ [] → s.writes ≠ []

instance (s : TcpMgr) : Decidable (Quiet s) :=
  decidable_of_iff (s.up = true ∧ s.strand = [] ∧ s.phase = .idle)
    ⟨fun ⟨up, strand, idle⟩ => ⟨up, strand, idle⟩, fun ⟨up, strand, idle⟩ => ⟨up, strand, idle⟩⟩

instance (s : TcpMgr) : Decidable (Flowing s) :=
  decidable_of_iff (s.reads ≠ [] ∧ (s.pendingSends ≠ [] → s.writes ≠ []))
    ⟨fun ⟨reads, writes⟩ => ⟨reads, writes⟩, fun ⟨reads, writes⟩ => ⟨reads, writes⟩⟩

def Connects (s : TcpMgr) (e : Event) : Prop :=
  Runs s e (.onConnect none) ∧ s.sockOpen = true

instance (s : TcpMgr) (e : Event) : Decidable (Connects s e) :=
  inferInstanceAs (Decidable (_ ∧ _))

-- An entry of one of the lists has nothing under way: it was left there by a failure.
def StaleEntry (s : TcpMgr) : Prop :=
  (recvQueue s).Stuck ∨ (sendLedger s).Stuck

instance (s : TcpMgr) : Decidable (StaleEntry s) :=
  inferInstanceAs (Decidable (_ ∨ _))

def connectsClean (s : TcpMgr) (e : Event) : Prop :=
  Connects s e → ¬ StaleEntry s

instance (s : TcpMgr) (e : Event) : Decidable (connectsClean s e) :=
  inferInstanceAs (Decidable (_ → _))

/-- Why a connected socket reads: something was asked for, or will be before the strand rests. A
stale entry on it comes from a failure whose close is still to run. -/
structure Serving (s : TcpMgr) : Prop where
  started : s.up = true → s.socketStarted = true
  asked : s.up = true → s.pendingRecvs ≠ [] ∨ Handler.dispatchRecv 0 ∈ s.strand ∨
    s.phase = .constructing
  closing : s.up = true → StaleEntry s → Handler.startCloseSocket ∈ s.strand

theorem stale_step {s t : TcpMgr} {e : Event} (flight : InFlight s) (taken : step s e = some t)
    (stale : StaleEntry t) : StaleEntry s ∨ recvOp s e = some .fail ∨ sendOp s e = some .fail := by
  have recv := recv_step flight.oneRead flight.recvHead taken
  have send := send_step flight.oneWrite flight.sendHead taken
  rcases stale with stuck | stuck
  · by_cases before : (recvQueue s).Stuck
    · exact .inl (.inl before)
    · exact .inr (.inl (recv.stuck before stuck))
  · by_cases before : (sendLedger s).Stuck
    · exact .inl (.inr before)
    · exact .inr (.inr (send.stuck before stuck))

theorem up_step {s t : TcpMgr} {e : Event} (taken : step s e = some t) (up : t.up = true) :
    s.up = true ∨ Connects s e := by
  cases step_took taken with
  | connected waiting idle opened => exact .inr ⟨.of_strand waiting, opened⟩
  | connectFailed | closed => cases up
  | readDone | writeDone =>
    rw [Bool.and_eq_true] at up
    exact .inl up.1
  | _ => exact .inl up

theorem fail_closes {s t : TcpMgr} {e : Event} (taken : step s e = some t)
    (failed : recvOp s e = some .fail ∨ sendOp s e = some .fail) :
    Handler.startCloseSocket ∈ t.strand := by
  cases step_took taken with
  | recvFailed | sendFailed => exact List.mem_append_right _ (List.mem_singleton.mpr rfl)
  | _ => simp [recvOp, sendOp, *] at failed

theorem close_runs {s t : TcpMgr} {e : Event} (taken : step s e = some t)
    (runs : Runs s e .startCloseSocket) (started : s.socketStarted = true) : t.up = false := by
  cases step_took taken with
  | closed | connectFailed => rfl
  | closeSkipped waiting idle skipped =>
    rw [started] at skipped
    cases skipped
  | connectDone | readDone | writeDone | created | parsedLast | parsedNext | posted | ready
  | closePosted | stopped | postFailed | errorReported | closeReported => cases runs.1
  | connected waiting | recvStarted waiting | recvQueued waiting
  | received waiting | recvFailed waiting | sendStarted waiting | sendQueued waiting
  | sendFinished waiting | sendNext waiting | sendFailed waiting =>
    cases runs.head waiting

theorem started_step {s t : TcpMgr} {e : Event} (started : s.up = true → s.socketStarted = true)
    (taken : step s e = some t) (up : t.up = true) : t.socketStarted = true := by
  have before := up_step taken up
  cases step_took taken with
  | connected => rfl
  | connectFailed | closed => cases up
  | readDone | writeDone =>
    rw [Bool.and_eq_true] at up
    exact started up.1
  | _ => exact started up

theorem asked_step {s t : TcpMgr} {e : Event}
    (asked : s.up = true → s.pendingRecvs ≠ [] ∨ Handler.dispatchRecv 0 ∈ s.strand ∨
      s.phase = .constructing)
    (taken : step s e = some t) (up : t.up = true) :
    t.pendingRecvs ≠ [] ∨ Handler.dispatchRecv 0 ∈ t.strand ∨ t.phase = .constructing := by
  cases step_took taken with
  | connected => exact .inr (.inr rfl)
  | connectFailed | closed => cases up
  | recvStarted | recvQueued | parsedNext => exact .inl (by simp)
  | created | parsedLast => exact .inr (.inl (by simp))
  | connectDone | posted | ready | closePosted | stopped | postFailed | errorReported
  | closeReported =>
    rcases asked up with pending | posted | constructing
    · exact .inl pending
    · exact .inr (.inl (by simp [posted]))
    · exact .inr (.inr constructing)
  | readDone | writeDone =>
    rw [Bool.and_eq_true] at up
    rcases asked up.1 with pending | posted | constructing
    · exact .inl pending
    · exact .inr (.inl (by simp [posted]))
    · exact .inr (.inr constructing)
  | received waiting idle | recvFailed waiting idle | sendStarted waiting idle
  | sendQueued waiting idle | sendFinished waiting idle | sendNext waiting idle
  | sendFailed waiting idle | closeSkipped waiting idle =>
    rcases asked up with pending | posted | constructing
    · exact .inl pending
    · rw [waiting] at posted
      exact .inr (.inl (by simpa using posted))
    · rw [idle] at constructing
      cases constructing

theorem serving_step {s t : TcpMgr} {e : Event} (flight : InFlight s) (serving : Serving s)
    (clean : connectsClean s e) (taken : step s e = some t) : Serving t := by
  obtain ⟨started, asked, closing⟩ := serving
  refine ⟨started_step started taken, asked_step asked taken, ?_⟩
  intro up stale
  rcases stale_step flight taken stale with stale | failed
  · rcases up_step taken up with up' | connected
    · rcases strand_step taken (closing up' stale) with later | runs
      · exact later
      · rw [close_runs taken runs (started up')] at up
        cases up
    · exact absurd stale (clean connected)
  · exact fail_closes taken failed

theorem serving_quiet {s : TcpMgr} (serving : Serving s) (quiet : Quiet s) : Flowing s := by
  obtain ⟨up, empty, idle⟩ := quiet
  have fresh : ¬ StaleEntry s := by
    intro stale
    have posted := serving.closing up stale
    rw [empty] at posted
    cases posted
  constructor
  · have pending : s.pendingRecvs ≠ [] := by
      rcases serving.asked up with pending | posted | constructing
      · exact pending
      · rw [empty] at posted
        cases posted
      · rw [idle] at constructing
        cases constructing
    intro quiet
    refine fresh (.inl ⟨pending, ?_⟩)
    simp [recvQueue, Queue.counted, readsInFlight, quiet, empty, idle, Phase.recvs]
  · intro pending quiet
    refine fresh (.inr ⟨pending, ?_⟩)
    simp [sendLedger, Queue.counted, writesInFlight, quiet, empty]

theorem guarded_serving {s : TcpMgr} (reached : Reach step connectsClean .started s) :
    Serving s := by
  refine reached.invariant Serving ?_ fun _ _ _ before serving clean taken =>
    serving_step (reachable_inFlight before.reachable) serving clean taken
  constructor <;> intro up <;> cases up

theorem stuck_stays {s t : TcpMgr} {e : Event} (flight : InFlight s) (taken : step s e = some t)
    (stuck : (recvQueue s).Stuck) : (recvQueue t).Stuck := by
  have recv := recv_step flight.oneRead flight.recvHead taken
  exact recv.keeps Queue.Stuck (fun _ _ stepped => (Queue.stuck_step stuck stepped).1) stuck

theorem stale_stays {s t : TcpMgr} {e : Event} (flight : InFlight s) (taken : step s e = some t)
    (stale : StaleEntry s) : StaleEntry t := by
  have send := send_step flight.oneWrite flight.sendHead taken
  rcases stale with stuck | stuck
  · exact .inl (stuck_stays flight taken stuck)
  · exact .inr (send.keeps (fun l => l.Stuck)
      (fun _ _ stepped => (Queue.stuck_step stuck (Ledger.toQueue_step stepped)).1) stuck)

theorem stale_stalls {s : TcpMgr} (quiet : Quiet s) (stale : StaleEntry s) : ¬ Flowing s := by
  obtain ⟨_, empty, idle⟩ := quiet
  intro flowing
  rcases stale with ⟨_, inactive⟩ | ⟨pending, inactive⟩
  · have none : s.reads = [] := by
      simpa [recvQueue, Queue.counted, readsInFlight, empty, idle, Phase.recvs] using inactive
    exact flowing.reads none
  · have none : s.writes = [] := by
      simpa [sendLedger, Queue.counted, writesInFlight, empty] using inactive
    exact flowing.writes pending none

theorem stale_entry_stalls {s t : TcpMgr} (before : Reachable step .started s)
    (stale : StaleEntry s) (later : Reachable step s t) (quiet : Quiet t) : ¬ Flowing t := by
  have kept := later.invariant (fun u => InFlight u ∧ StaleEntry u)
    ⟨reachable_inFlight before, stale⟩ fun _ _ _ _ ⟨flight, left⟩ _ taken =>
      ⟨inFlight_step flight taken, stale_stays flight taken left⟩
  exact stale_stalls quiet kept.2

theorem reconnected_flows {s : TcpMgr} (reached : Reach step connectsClean .started s)
    (quiet : Quiet s) : Flowing s :=
  serving_quiet (guarded_serving reached) quiet

def connectAndRead : List Event :=
  [.connectDone none, .runNext [], .created, .runNext []]

def readFailsAndReconnects : List Event :=
  [.readDone (.readSome 4096) (some "Connection reset by peer") [], .runNext [],
    .runNext [.onConnect operationAborted], .runNext []]

theorem first_connection_flows :
    ∃ s, (Reach step connectsClean .started s ∧ Quiet s) ∧ Flowing s := by
  have ran : ∃ s, Reach step connectsClean .started s ∧ Quiet s :=
    run_reaches connectAndRead (by decide +kernel)
  obtain ⟨s, reached, quiet⟩ := ran
  exact ⟨s, ⟨reached, quiet⟩, reconnected_flows reached quiet⟩

theorem stale_read_stalls :
    ∃ s, Reachable step .started s ∧ Quiet s ∧ ¬ Flowing s :=
  run_reaches (connectAndRead ++ readFailsAndReconnects ++ connectAndRead) (by decide +kernel)

end RmqMgr.Tcp
