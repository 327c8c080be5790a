import RmqMgr.Parse.Termination
import RmqMgr.Tcp.Persistence
import RmqMgr.Tcp.Reading
import RmqMgr.Tcp.SocketFlag

set_option autoImplicit false

namespace RmqMgr.Tcp

open Parse (Library Answers ClosedAtEnd LoopEnds loop_returns)
open Transition

variable {C : Type} {parser : Library C} {closed : C → Bool} {conn : C}

-- The socket is connected: a connect has succeeded on it, and no close has come since.
def noteConnected (_ : TcpMgr) (e : Event) (t : TcpMgr) (connected : Bool) : Bool :=
  e = .connectDone none || connected && t.sockOpen

abbrev connectTraced : Traced TcpMgr Bool → Event → Option (Traced TcpMgr Bool) :=
  traced step noteConnected

-- A connect on a connected socket fails.
def refuses (t : Traced TcpMgr Bool) (e : Event) : Prop :=
  e = .connectDone none → t.past = false

instance (t : Traced TcpMgr Bool) (e : Event) : Decidable (refuses t e) :=
  inferInstanceAs (Decidable (_ → _))

def unfinished (t : Traced TcpMgr Bool) (e : Event) : Prop :=
  withoutFinit t.now e ∧ refuses t e

instance (t : Traced TcpMgr Bool) (e : Event) : Decidable (unfinished t e) :=
  inferInstanceAs (Decidable (_ ∧ _))

-- Whether the strand, with the socket connected, comes to a close of it or ends with the flag set.
def recovers : Bool → List Handler → Bool
  | started, [] => started
  | started, h :: rest =>
    match h with
    | .onConnect err => recovers err.isNone rest
    | .startCloseSocket => started || recovers false rest
    | _ => recovers started rest

def Stranded (t : Traced TcpMgr Bool) : Prop :=
  t.past = true ∧ recovers t.now.socketStarted t.now.strand = false

instance (t : Traced TcpMgr Bool) : Decidable (Stranded t) :=
  inferInstanceAs (Decidable (_ ∧ _))

theorem recovers_other {h : Handler} {rest : List Handler} (started : Bool)
    (connects : h.isConnect = false) (closes : h.isClose = false) :
    recovers started (h :: rest) = recovers started rest := by
  cases h with
  | onConnect => cases connects
  | startCloseSocket => cases closes
  | _ => rfl

theorem recovers_append {h : Handler} {strand : List Handler} (started : Bool)
    (connects : h.isConnect = false) :
    recovers started (strand ++ [h]) = recovers started strand := by
  induction strand generalizing started with
  | nil =>
    cases h with
    | onConnect => cases connects
    | startCloseSocket => exact Bool.or_false started
    | _ => rfl
  | cons first rest ih => cases first <;> simp only [List.cons_append, recovers, ih]

theorem recovers_failure {message : String} {strand : List Handler} (started : Bool)
    (stranded : recovers started strand = false) :
    recovers started (strand ++ [.onConnect (some message)]) = false := by
  induction strand generalizing started with
  | nil => rfl
  | cons first rest ih =>
    cases first with
    | onConnect err => exact ih _ stranded
    | startCloseSocket =>
      obtain ⟨down, later⟩ := Bool.or_eq_false_iff.mp stranded
      exact Bool.or_eq_false_iff.mpr ⟨down, ih _ later⟩
    | _ => exact ih _ stranded

structure Linked (s : TcpMgr) (connected : Bool) : Prop where
  started : s.socketStarted = true → connected = true
  opened : connected = true → s.sockOpen = true
  pending : 0 < s.connects → s.sockOpen = true
  fresh : Handler.onConnect none ∈ s.strand → connected = true ∧ s.socketStarted = false
  once : s.strand.count (.onConnect none) ≤ 1

theorem Linked.kept {s t : TcpMgr} {connected : Bool} (linked : Linked s connected)
    (started : t.socketStarted = true → s.socketStarted = true)
    (opened : s.sockOpen = true → t.sockOpen = true)
    (pending : 0 < t.connects → t.sockOpen = true)
    (fewer : t.strand.count (.onConnect none) ≤ s.strand.count (.onConnect none)) :
    Linked t (connected && t.sockOpen) := by
  have past : (connected && t.sockOpen) = connected := by
    cases known : connected with
    | false => rfl
    | true => rw [Bool.true_and, opened (linked.opened known)]
  rw [past]
  refine ⟨fun up => linked.started (started up), fun known => opened (linked.opened known), pending,
    fun waits => ?_, Nat.le_trans fewer linked.once⟩
  have before : Handler.onConnect none ∈ s.strand :=
    List.count_pos_iff.mp (Nat.lt_of_lt_of_le (List.count_pos_iff.mpr waits) fewer)
  obtain ⟨known, down⟩ := linked.fresh before
  refine ⟨known, Bool.eq_false_iff.mpr fun up => ?_⟩
  rw [started up] at down
  cases down

theorem Linked.absent {s : TcpMgr} {connected : Bool} (linked : Linked s connected)
    (other : connected = false ∨ s.socketStarted = true) : Handler.onConnect none ∉ s.strand := by
  intro waits
  obtain ⟨known, down⟩ := linked.fresh waits
  rcases other with unconnected | started
  · rw [known] at unconnected
    cases unconnected
  · rw [down] at started
    cases started

theorem aborted_absent {s : TcpMgr} {order : List Handler} (abort : order.Perm (aborted s)) :
    Handler.onConnect none ∉ order := by
  rw [abort.mem_iff]
  simp [aborted, operationAborted]

theorem linked_step {s t : TcpMgr} {e : Event} {connected : Bool} (linked : Linked s connected)
    (refused : e = .connectDone none → connected = false) (taken : step s e = some t) :
    Linked t (noteConnected s e t connected) := by
  have noted (other : e ≠ .connectDone none) :
      noteConnected s e t connected = (connected && t.sockOpen) := by
    simp [noteConnected, other]
  cases step_took taken with
  | @connected order rest waiting idle isOpen =>
    rw [noted (by simp)]
    have waits : Handler.onConnect none ∈ s.strand := by simp [waiting]
    obtain ⟨known, down⟩ := linked.fresh waits
    have once := linked.once
    rw [waiting, List.count_cons_self] at once
    refine ⟨fun _ => by simp [known, isOpen], fun _ => isOpen, linked.pending, fun later => ?_, ?_⟩
    · have some := List.count_pos_iff.mpr later
      simp only at some
      omega
    · simp only
      omega
  | closed waiting idle live abort =>
    rw [noted (by simp)]
    have absent := linked.absent (.inr live)
    have none := aborted_absent abort
    rw [waiting, List.mem_cons, not_or] at absent
    refine ⟨fun up => (by cases up), fun known => ?_, fun some => (by cases some), fun waits => ?_, ?_⟩
    · simp at known
    · rcases List.mem_append.mp waits with earlier | last
      · exact absurd earlier absent.2
      · exact absurd last none
    · rw [List.count_append, List.count_eq_zero_of_not_mem absent.2,
        List.count_eq_zero_of_not_mem none]
      exact Nat.zero_le 1
  | @connectDone err outstanding =>
    cases err with
    | none =>
      have unconnected := refused rfl
      have absent := linked.absent (.inl unconnected)
      have down : s.socketStarted = false := by
        rw [Bool.eq_false_iff]
        intro up
        rw [linked.started up] at unconnected
        cases unconnected
      have isOpen := linked.pending outstanding
      simp only [noteConnected, decide_true, Bool.true_or]
      refine ⟨fun _ => rfl, fun _ => isOpen, fun _ => isOpen, fun _ => ⟨rfl, down⟩, ?_⟩
      rw [List.count_append, List.count_eq_zero_of_not_mem absent, List.count_singleton_self]
    | some message =>
      rw [noted (by simp)]
      refine linked.kept id id (fun _ => linked.pending outstanding) ?_
      simp
  | connectFailed waiting =>
    rw [noted (by simp)]
    refine linked.kept (fun up => (by cases up)) (fun _ => rfl) (fun _ => rfl) ?_
    simp only [waiting]
    exact List.count_le_count_cons
  | recvFailed waiting | sendFailed waiting =>
    rw [noted (by simp)]
    refine linked.kept id (fun _ => rfl) (fun _ => rfl) ?_
    simp [waiting]
  | readDone | writeDone | created | parsedLast | posted | closePosted =>
    rw [noted (by simp)]
    refine linked.kept id id linked.pending ?_
    simp
  | parsedNext | ready | stopped | postFailed | errorReported | closeReported =>
    rw [noted (by simp)]
    exact linked.kept id id linked.pending (Nat.le_refl _)
  | _ waiting =>
    rw [noted (by simp)]
    refine linked.kept id id linked.pending ?_
    simp [waiting]

def LossPending (s : TcpMgr) : Prop :=
  s.socketStarted = true → s.up = true ∨ s.strand.any Handler.failed = true ∨
    Handler.startCloseSocket ∈ s.strand

theorem lossPending_step {s t : TcpMgr} {e : Event} (pending : LossPending s)
    (taken : step s e = some t) : LossPending t := by
  intro started
  cases step_took taken with
  | connected => exact .inl rfl
  | connectFailed | closed => cases started
  | closeSkipped _ _ skipped =>
    rw [skipped] at started
    cases started
  | recvFailed | sendFailed => exact .inr (.inr (List.mem_append_right _ (List.mem_singleton.mpr rfl)))
  | @readDone op err data | @writeDone op err =>
    cases err with
    | none =>
      simpa [List.any_append, Handler.failed] using pending started
    | some message => exact .inr (.inl (by simp [Handler.failed]))
  | connectDone | created | parsedLast | posted | closePosted =>
    rcases pending started with up | failed | closing
    · exact .inl up
    · exact .inr (.inl (by rw [List.any_append, failed]; rfl))
    · exact .inr (.inr (List.mem_append_left _ closing))
  | parsedNext | ready | stopped | postFailed | errorReported | closeReported =>
    exact pending started
  | recvStarted waiting | recvQueued waiting | received waiting | sendStarted waiting
  | sendQueued waiting | sendFinished waiting | sendNext waiting =>
    simpa [waiting, Handler.failed] using pending started

theorem recovers_step {s t : TcpMgr} {e : Event} (opened : s.sockOpen = true)
    (refused : e ≠ .connectDone none) (taken : step s e = some t) (stays : t.sockOpen = true) :
    recovers t.socketStarted t.strand = recovers s.socketStarted s.strand ∨
      ∃ message, e = .connectDone (some message) ∧ t.socketStarted = s.socketStarted ∧
        t.strand = s.strand ++ [.onConnect (some message)] := by
  cases step_took taken with
  | @connectDone err =>
    cases err with
    | none => exact absurd rfl refused
    | some message => exact .inr ⟨message, rfl, rfl, rfl⟩
  | connected waiting =>
    rw [waiting]
    exact .inl rfl
  | @connectFailed _ _ err _ waiting idle failed =>
    have some : err.isNone = false := by
      cases err with
      | none => exact absurd ⟨rfl, opened⟩ failed
      | some message => rfl
    rw [waiting, recovers, some]
    exact .inl rfl
  | closed => cases stays
  | closeSkipped waiting _ skipped =>
    rw [waiting, skipped, recovers, Bool.false_or]
    exact .inl rfl
  | recvFailed waiting | sendFailed waiting =>
    rw [waiting, recovers_append _ rfl, recovers_other _ rfl rfl]
    exact .inl rfl
  | readDone | writeDone | created | parsedLast | posted | closePosted =>
    exact .inl (recovers_append _ rfl)
  | parsedNext | ready | stopped | postFailed | errorReported | closeReported => exact .inl rfl
  | _ waiting =>
    rw [waiting, recovers_other _ rfl rfl]
    exact .inl rfl

theorem stranded_open {t : Traced TcpMgr Bool} {s : TcpMgr} {e : Event}
    (linked : Linked t.now t.past) (stranded : Stranded t) (taken : step t.now e = some s) :
    s.sockOpen = true := by
  have opened := linked.opened stranded.1
  cases step_took taken with
  | closed waiting _ live =>
    have down := stranded.2
    rw [waiting, live, recovers, Bool.true_or] at down
    cases down
  | connectFailed | recvFailed | sendFailed => rfl
  | _ => exact opened

theorem stranded_step {t u : Traced TcpMgr Bool} {e : Event} (linked : Linked t.now t.past)
    (stranded : Stranded t) (refused : refuses t e) (taken : connectTraced t e = some u) :
    Stranded u := by
  obtain ⟨stepped, noted⟩ := traced_step taken
  have stays := stranded_open linked stranded stepped
  have fails : e ≠ .connectDone none := by
    intro succeeds
    have unconnected := refused succeeds
    rw [stranded.1] at unconnected
    cases unconnected
  refine ⟨by simp [noted, noteConnected, stranded.1, stays], ?_⟩
  rcases recovers_step (linked.opened stranded.1) fails stepped stays with
    same | ⟨message, _, flag, strand⟩
  · exact same.trans stranded.2
  · rw [flag, strand]
    exact recovers_failure _ stranded.2

theorem unstranded_step {t u : Traced TcpMgr Bool} {e : Event} (linked : Linked t.now t.past)
    (free : ¬ Stranded t) (worker : e.worker = true) (taken : connectTraced t e = some u) :
    ¬ Stranded u := by
  obtain ⟨stepped, noted⟩ := traced_step taken
  have own : e ≠ .connectDone none := by
    rintro rfl
    cases worker
  rintro ⟨connected, down⟩
  have kept : t.past = true ∧ u.now.sockOpen = true := by
    simpa [noted, noteConnected, own] using connected
  rcases recovers_step (linked.opened kept.1) own stepped kept.2 with same | ⟨message, rfl, _⟩
  · exact free ⟨kept.1, same.symm.trans down⟩
  · cases worker

def Handler.parses : Handler → Bool
  | .handleRecv none _ => true
  | _ => false

def LoopAhead (s : TcpMgr) : Prop :=
  s.phase = .parsing ∨ s.strand.any Handler.parses = true

instance (s : TcpMgr) : Decidable (LoopAhead s) :=
  inferInstanceAs (Decidable (_ ∨ _))

def received (s : TcpMgr) : Bytes :=
  s.parseBuf ++ unhandled s

theorem unparsed {strand : List Handler} (none : strand.countP Handler.isRecv = 0) :
    strand.any Handler.parses = false := by
  rw [List.any_eq_false]
  intro h member parses
  have other := List.countP_eq_zero.mp none h member
  cases h with
  | handleRecv => exact other rfl
  | _ => cases parses

theorem aborted_unparsed {s : TcpMgr} {order : List Handler} (abort : order.Perm (aborted s)) :
    order.any Handler.parses = false := by
  rw [List.any_eq_false]
  intro h member
  have among := abort.mem_iff.mp member
  simp only [aborted, List.mem_append, List.mem_map, List.mem_replicate] at among
  rcases among with (⟨_, _, rfl⟩ | ⟨_, _, rfl⟩) | ⟨_, rfl⟩ <;> exact Bool.false_ne_true

-- One read at most is in flight, so the worker enters one loop at most by itself.
theorem loop_step {s t : TcpMgr} {e : Event} (flight : InFlight s)
    (inside : Inside s.recvBuffer s.strand) (worker : e.worker = true)
    (taken : step s e = some t) (ahead : LoopAhead t) : LoopAhead s ∧ received t = received s := by
  have same (other : ∀ result, e ≠ .parsed result) : received t = received s := by
    have moved := @delivered_step s t e ⟨received s, []⟩ flight inside
      (by simp [received]) taken
    have noted : noteReceived s e t ⟨received s, []⟩ = ⟨received s, []⟩ := by
      cases e with
      | readDone => cases worker
      | parsed result => exact absurd rfl (other result)
      | _ => rfl
    rw [noted] at moved
    simpa [received] using moved.symm
  cases step_took taken with
  | parsedLast parsing | parsedNext parsing =>
    have none := unparsed (unqueued flight (.inr (.inr parsing)))
    simp [LoopAhead, none, Handler.parses] at ahead
  | received waiting =>
    refine ⟨.inr (by rw [waiting]; rfl), same fun result => (by simp)⟩
  | closed waiting idle live abort =>
    refine ⟨?_, same fun result => (by simp)⟩
    simpa [LoopAhead, idle, waiting, Handler.parses, aborted_unparsed abort] using ahead
  | created phase =>
    refine ⟨.inr ?_, same fun result => (by simp)⟩
    simpa [LoopAhead, Handler.parses] using ahead
  | connectDone | readDone | writeDone | posted | ready | closePosted | stopped | postFailed
  | errorReported | closeReported => cases worker
  | _ waiting idle =>
    refine ⟨?_, same fun result => (by simp)⟩
    simpa [LoopAhead, idle, waiting, Handler.parses] using ahead

-- The loop of `ParseAmqpData`, entered with `conn`, ends as the library makes it end.
def returning (parser : Library C) (conn : C) (t : Traced TcpMgr Bool) (e : Event) : Prop :=
  unfinished t e ∧ ∀ result, e = .parsed result → LoopEnds parser conn t.now.parseBuf result

theorem linked_traced {t u : Traced TcpMgr Bool} {e : Event} (linked : Linked t.now t.past)
    (refused : refuses t e) (taken : connectTraced t e = some u) : Linked u.now u.past := by
  obtain ⟨stepped, noted⟩ := traced_step taken
  rw [noted]
  exact linked_step linked refused stepped

theorem unfinished_linked {t : Traced TcpMgr Bool}
    (reached : Reach connectTraced unfinished ⟨.started, false⟩ t) : Linked t.now t.past := by
  apply reached.invariant fun t => Linked t.now t.past
  · exact ⟨fun up => (by cases up), fun known => (by cases known), fun _ => rfl,
      fun waits => (by cases waits), Nat.zero_le 1⟩
  · exact fun t e u _ linked free taken => linked_traced linked free.2 taken

theorem unfinished_persists {t : Traced TcpMgr Bool}
    (reached : Reach connectTraced unfinished ⟨.started, false⟩ t) : Persists t.now := by
  refine guarded_persists (reached.project Traced.now fun t e u free taken => ?_)
  exact .single free.1 (traced_step taken).1

theorem reachable_flag {s : TcpMgr} (reached : Reachable step .started s) :
    (s.up = true → s.socketStarted = true) ∧ LossPending s := by
  apply reached.invariant fun s => (s.up = true → s.socketStarted = true) ∧ LossPending s
  · exact ⟨fun up => (by cases up), fun started => (by cases started)⟩
  · intro s e t _ held _ taken
    exact ⟨started_step held.1 taken, lossPending_step held.2 taken⟩

theorem stranded_not_quiet {t : Traced TcpMgr Bool} (reached : Reachable step .started t.now)
    (stranded : Stranded t) : ¬ Quiet t.now := by
  intro quiet
  have down := stranded.2
  rw [quiet.strand, recovers, (reachable_flag reached).1 quiet.up] at down
  cases down

theorem stranded_forever {t u : Traced TcpMgr Bool}
    (reached : Reach connectTraced unfinished ⟨.started, false⟩ t) (stranded : Stranded t)
    (later : Reach connectTraced refuses t u) : Stranded u := by
  have kept : Linked u.now u.past ∧ Stranded u := by
    apply later.invariant fun u => Linked u.now u.past ∧ Stranded u
    · exact ⟨unfinished_linked reached, stranded⟩
    · intro v e w _ held refused taken
      exact ⟨linked_traced held.1 refused taken, stranded_step held.1 held.2 refused taken⟩
  exact kept.2

structure Draining (t u : Traced TcpMgr Bool) : Prop where
  reached : Reach connectTraced unfinished ⟨.started, false⟩ u
  free : ¬ Stranded u
  loop : LoopAhead u.now → LoopAhead t.now ∧ received u.now = received t.now

theorem drains {t : Traced TcpMgr Bool} (answers : Answers parser closed)
    (reached : Reach connectTraced unfinished ⟨.started, false⟩ t) (free : ¬ Stranded t)
    (loop : LoopAhead t.now → ClosedAtEnd parser closed (received t.now) conn) :
    ∃ u, Reach connectTraced (returning parser conn) t u ∧ Draining t u ∧ Drained u.now := by
  have founded : WellFounded fun u v : Traced TcpMgr Bool => Nearer (left u.now) (left v.now) :=
    InvImage.wf (fun u : Traced TcpMgr Bool => left u.now)
      (WellFounded.prod_lex Nat.lt_wfRel.wf Nat.lt_wfRel.wf)
  have initial : Draining t t := ⟨reached, free, fun ahead => ⟨ahead, rfl⟩⟩
  refine Reach.approaches founded (fun u draining busy => ?_) initial
  have flight := reachable_inFlight draining.reached.untraced
  have inside := reachable_inside draining.reached.untraced
  have returns : u.now.phase = .parsing → ∃ result, result.fits u.now.parseBuf = true ∧
      LoopEnds parser conn u.now.parseBuf result := by
    intro parsing
    obtain ⟨ahead, same⟩ := draining.loop (.inl parsing)
    have none : unhandled u.now = [] := received_none _ (unqueued flight (.inr (.inr parsing)))
    rw [received, none, List.append_nil] at same
    rw [same]
    exact loop_returns answers (loop ahead)
  obtain ⟨e, s, worker, ended, stepped⟩ :=
    worker_progress (unfinished_persists draining.reached).running returns busy
  have taken : connectTraced u e = some ⟨s, noteConnected u.now e s u.past⟩ := by
    simp [traced, stepped]
  have own : unfinished u e := ⟨worker_free u.now worker, fun succeeds => by
    rw [succeeds] at worker
    cases worker⟩
  refine ⟨e, _, ⟨own, ended⟩, taken, ⟨.next draining.reached own taken, ?_, fun ahead => ?_⟩,
    worker_step worker stepped⟩
  · exact unstranded_step (unfinished_linked draining.reached) draining.free worker taken
  · obtain ⟨before, kept⟩ := loop_step flight inside worker stepped ahead
    obtain ⟨first, same⟩ := draining.loop before
    exact ⟨first, kept.trans same⟩

theorem quiet_iff (s : TcpMgr) : Quiet s ↔ s.up = true ∧ s.strand = [] ∧ s.phase = .idle := by
  constructor
  · intro quiet
    exact ⟨quiet.up, quiet.strand, quiet.idle⟩
  · rintro ⟨up, strand, idle⟩
    exact ⟨up, strand, idle⟩

theorem connects_drained {t : Traced TcpMgr Bool} (drained : Drained t.now)
    (unconnected : t.past = false) (outstanding : 0 < t.now.connects)
    (opened : t.now.sockOpen = true) (running : t.now.stopped = false) :
    ∃ u, Reach connectTraced (returning parser conn) t u ∧ Quiet u.now := by
  obtain ⟨empty, idle⟩ := drained
  have ran : (run connectTraced (fun t e => unfinished t e ∧ e ∈ connectAndRead) t
      connectAndRead).any (fun u => decide (Quiet u.now)) = true := by
    cases pending : t.now.pendingRecvs with
    | nil =>
      simp [connectAndRead, run, traced, unfinished, refuses, withoutFinit, step, connectDone, post,
        runHandler, onConnect, onConnectCreated, recvData, dispatchRecv, startRecv, abortedBy,
        outstanding, empty, idle, opened, running, pending, unconnected, quiet_iff]
    | cons head rest =>
      simp [connectAndRead, run, traced, unfinished, refuses, withoutFinit, step, connectDone, post,
        runHandler, onConnect, onConnectCreated, recvData, dispatchRecv, abortedBy, outstanding,
        empty, idle, opened, running, pending, unconnected, quiet_iff]
  obtain ⟨u, later, quiet⟩ := run_reaches connectAndRead ran
  refine ⟨u, later.weaken fun v e allowed => ⟨allowed.1, fun result parsed => ?_⟩, quiet⟩
  have listed := allowed.2
  simp [parsed, connectAndRead] at listed

theorem unstranded_connects {t : Traced TcpMgr Bool} (answers : Answers parser closed)
    (reached : Reach connectTraced unfinished ⟨.started, false⟩ t) (free : ¬ Stranded t)
    (loop : LoopAhead t.now → ClosedAtEnd parser closed (received t.now) conn) :
    ∃ u, Reach connectTraced (returning parser conn) t u ∧ Quiet u.now := by
  obtain ⟨u, later, draining, drained⟩ := drains answers reached free loop
  have ⟨empty, idle⟩ := drained
  have persists := unfinished_persists draining.reached
  cases known : u.past with
  | true =>
    have started : u.now.socketStarted = true := by
      by_contra down
      apply draining.free
      rw [Bool.not_eq_true] at down
      exact ⟨known, by rw [empty, recovers, down]⟩
    rcases (reachable_flag draining.reached.untraced).2 started with up | failed | closing
    · exact ⟨u, later, up, empty, idle⟩
    · simp [empty] at failed
    · simp [empty] at closing
  | false =>
    have outstanding : 0 < u.now.connects := by
      rcases persists.alive with started | pending
      · have connected := (unfinished_linked draining.reached).started started
        rw [known] at connected
        cases connected
      · simpa [connecting, empty] using pending
    obtain ⟨v, connected, quiet⟩ := connects_drained drained known outstanding
      (persists.opened outstanding) persists.running
    exact ⟨v, later.trans connected, quiet⟩

theorem connection_reachable {t : Traced TcpMgr Bool} (answers : Answers parser closed)
    (reached : Reach connectTraced unfinished ⟨.started, false⟩ t)
    (loop : LoopAhead t.now → ClosedAtEnd parser closed (received t.now) conn) :
    ((∃ u, Reach connectTraced (returning parser conn) t u ∧ Quiet u.now) ↔ ¬ Stranded t) ∧
      (Stranded t → ∀ u, Reach connectTraced refuses t u → ¬ Quiet u.now) := by
  have lost (stranded : Stranded t) (u : Traced TcpMgr Bool)
      (later : Reach connectTraced refuses t u) : ¬ Quiet u.now :=
    stranded_not_quiet (reached.untraced.trans later.untraced)
      (stranded_forever reached stranded later)
  refine ⟨⟨?_, fun free => unstranded_connects answers reached free loop⟩, lost⟩
  rintro ⟨u, later, quiet⟩ stranded
  exact lost stranded u (later.weaken fun _ _ allowed => allowed.1.2) quiet

theorem lost_connection_replaced :
    (∃ t, (Answers Parse.closableLibrary Parse.ClosableConnection.closed ∧
          Reach connectTraced unfinished ⟨.started, false⟩ t ∧ t.now.up = false ∧
          t.now.phase = .parsing ∧ received t.now = [1] ∧ ¬ Stranded t) ∧
        ∃ u, Reach connectTraced (returning Parse.closableLibrary {}) t u ∧ Quiet u.now) ∧
      ∃ t, (Reach connectTraced unfinished ⟨.started, false⟩ t ∧ Stranded t ∧
          ¬ LoopAhead t.now) ∧
        ∀ u, Reach connectTraced refuses t u → ¬ Quiet u.now := by
  constructor
  · have ran : ∃ t, Reach connectTraced unfinished ⟨.started, false⟩ t ∧ t.now.up = false ∧
        t.now.phase = .parsing ∧ received t.now = [1] ∧ ¬ Stranded t :=
      run_reaches (readsAndWrites ++ [.readDone (.readSome 4096) none [1], .runNext [],
        .writeDone ⟨1, ⟨1, [7]⟩⟩ (some "Connection reset by peer")]) (by decide +kernel)
    obtain ⟨t, reached, lost, parsing, single, free⟩ := ran
    refine ⟨t, ⟨Parse.closable_answers, reached, lost, parsing, single, free⟩, ?_⟩
    have loop : LoopAhead t.now → ClosedAtEnd Parse.closableLibrary Parse.ClosableConnection.closed
        (received t.now) {} := by
      rw [single]
      exact fun _ => Parse.finished_closedAtEnd Parse.closable_answers 2 trivial
    exact (connection_reachable Parse.closable_answers reached loop).1.mpr free
  · have ran : ∃ t, Reach connectTraced unfinished ⟨.started, false⟩ t ∧ Stranded t ∧
        ¬ LoopAhead t.now :=
      run_reaches (connectsConnected ++ [.runNext []]) (by decide +kernel)
    obtain ⟨t, reached, stranded, done⟩ := ran
    have loop : LoopAhead t.now → ClosedAtEnd Parse.closableLibrary Parse.ClosableConnection.closed
        (received t.now) {} := fun ahead => absurd ahead done
    exact ⟨t, ⟨reached, stranded, done⟩,
      (connection_reachable Parse.closable_answers reached loop).2 stranded⟩

end RmqMgr.Tcp
