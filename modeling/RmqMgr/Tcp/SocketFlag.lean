import RmqMgr.Tcp.Liveness
import RmqMgr.Tcp.Reconnects

set_option autoImplicit false

namespace RmqMgr.Tcp

open Transition

/-- `established`: an `OnConnect` has succeeded, and the socket has not been closed since.
`skipped`: a `StartCloseSocket` left an established connection open. `cleared`: an `OnConnect` that
failed took the flag of one. -/
structure SocketRecord where
  established : Bool := false
  skipped : Bool := false
  cleared : Bool := false
  deriving DecidableEq, Repr

def Handler.connectFailed (s : TcpMgr) : Handler → Bool
  | .onConnect err => err.isSome || !s.sockOpen
  | _ => false

def connectFails (s : TcpMgr) (e : Event) : Prop :=
  e.isRun = true ∧ s.strand.head?.any (Handler.connectFailed s) = true

instance (s : TcpMgr) (e : Event) : Decidable (connectFails s e) :=
  inferInstanceAs (Decidable (_ ∧ _))

def noteSocket (s : TcpMgr) (e : Event) (t : TcpMgr) (h : SocketRecord) : SocketRecord where
  established := Connects s e || h.established && t.sockOpen
  skipped := h.skipped || h.established && decide (Runs s e .startCloseSocket) && t.sockOpen
  cleared := h.cleared ||
    h.established && decide (connectFails s e) && s.socketStarted && !t.socketStarted

abbrev socketTraced : Traced TcpMgr SocketRecord → Event → Option (Traced TcpMgr SocketRecord) :=
  traced step noteSocket

structure TellsSocket (t : Traced TcpMgr SocketRecord) : Prop where
  truth : t.now.phase = .idle → (t.now.socketStarted = true ↔ t.past.established = true)
  closes : t.past.skipped = false
  keeps : t.past.cleared = false

def failsUnconnected (t : Traced TcpMgr SocketRecord) (e : Event) : Prop :=
  connectFails t.now e → t.past.established = false

instance (t : Traced TcpMgr SocketRecord) (e : Event) : Decidable (failsUnconnected t e) :=
  inferInstanceAs (Decidable (_ → _))

structure Flagged (s : TcpMgr) (h : SocketRecord) : Prop where
  flag : s.socketStarted = h.established
  opened : h.established = true → s.sockOpen = true
  skipped : h.skipped = false
  cleared : h.cleared = false

theorem connectFails.other {s : TcpMgr} {e : Event} (fails : connectFails s e) :
    ¬ Connects s e ∧ ¬ Runs s e .startCloseSocket := by
  obtain ⟨_, failed⟩ := fails
  constructor
  · rintro ⟨⟨_, head⟩, connected⟩
    rw [head] at failed
    simp [Handler.connectFailed, connected] at failed
  · rintro ⟨_, head⟩
    rw [head] at failed
    cases failed

theorem connectFails.of_strand {s : TcpMgr} {order rest : List Handler} {err : ErrorCode}
    (waiting : s.strand = .onConnect err :: rest) (failed : ¬ (err = none ∧ s.sockOpen = true)) :
    connectFails s (.runNext order) := by
  refine ⟨rfl, ?_⟩
  rw [waiting]
  cases err with
  | none => simpa [Handler.connectFailed] using failed
  | some message => rfl

theorem connects_not {s : TcpMgr} {e : Event} {h : Handler} {rest : List Handler}
    (waiting : s.strand = h :: rest) (other : h.isConnect = false) : ¬ Connects s e := by
  rintro ⟨runs, _⟩
  obtain rfl := runs.head waiting
  cases other

inductive SocketStep (s : TcpMgr) (e : Event) (t : TcpMgr) : Prop where
  | connected :
      Connects s e → t.socketStarted = true → t.sockOpen = true → SocketStep s e t
  | failed :
      connectFails s e → t.phase = .idle → t.socketStarted = false → t.sockOpen = true →
      SocketStep s e t
  | closed :
      Runs s e .startCloseSocket → s.socketStarted = true → t.socketStarted = false →
      t.sockOpen = false → SocketStep s e t
  | kept :
      ¬ Connects s e → ¬ connectFails s e → (Runs s e .startCloseSocket → s.socketStarted = false) →
      t.socketStarted = s.socketStarted → (s.sockOpen = true → t.sockOpen = true) →
      SocketStep s e t

theorem SocketStep.ran {s t : TcpMgr} {order rest : List Handler} {h : Handler}
    (waiting : s.strand = h :: rest) (connects : h.isConnect = false)
    (skips : h = .startCloseSocket → s.socketStarted = false)
    (flag : t.socketStarted = s.socketStarted) (opened : s.sockOpen = true → t.sockOpen = true) :
    SocketStep s (.runNext order) t := by
  refine .kept (connects_not waiting connects) ?_ ?_ flag opened
  · rintro ⟨_, failed⟩
    rw [waiting] at failed
    cases h with
    | onConnect => cases connects
    | _ => cases failed
  · exact fun closes => skips (closes.head waiting)

theorem socket_step {s t : TcpMgr} {e : Event} (taken : step s e = some t) :
    SocketStep s e t := by
  cases step_took taken with
  | connected waiting idle opened => exact .connected ⟨.of_strand waiting, opened⟩ rfl opened
  | connectFailed waiting idle failed =>
    exact .failed (.of_strand waiting failed) idle rfl rfl
  | closed waiting idle started => exact .closed (.of_strand waiting) started rfl rfl
  | closeSkipped waiting idle skipped => exact .ran waiting rfl (fun _ => skipped) rfl id
  | recvStarted waiting | recvQueued waiting | received waiting | sendStarted waiting
  | sendQueued waiting | sendFinished waiting | sendNext waiting =>
    exact .ran waiting rfl (fun other => (by cases other)) rfl id
  | recvFailed waiting | sendFailed waiting =>
    exact .ran waiting rfl (fun other => (by cases other)) rfl fun _ => rfl
  | _ =>
    refine .kept ?_ ?_ ?_ rfl id
    · rintro ⟨⟨run, _⟩, _⟩
      cases run
    · rintro ⟨run, _⟩
      cases run
    · rintro ⟨run, _⟩
      cases run

theorem flagged_step {s t : TcpMgr} {e : Event} {h : SocketRecord} (flagged : Flagged s h)
    (unconnected : connectFails s e → h.established = false) (taken : step s e = some t) :
    Flagged t (noteSocket s e t h) := by
  obtain ⟨flag, opened, skipped, cleared⟩ := flagged
  cases socket_step taken with
  | connected connects started stays =>
    have other : ¬ Runs s e .startCloseSocket := fun closes => (by cases closes.same connects.1)
    constructor <;> simp [noteSocket, connects, other, started, stays, skipped, cleared]
  | failed fails _ lost =>
    have none := unconnected fails
    have other := fails.other.1
    constructor <;> simp [noteSocket, other, none, lost, skipped, cleared]
  | closed closes started lost shut =>
    have other : ¬ Connects s e := fun connects => (by cases closes.same connects.1)
    have failure : ¬ connectFails s e := fun fails => fails.other.2 closes
    constructor <;> simp [noteSocket, other, failure, lost, shut, skipped, cleared]
  | kept noConnect noFailure skips same stays =>
    have established : (noteSocket s e t h).established = h.established := by
      cases before : h.established with
      | false => simp [noteSocket, noConnect, before]
      | true => simp [noteSocket, noConnect, before, stays (opened before)]
    refine ⟨?_, ?_, ?_, ?_⟩
    · rw [established, same, flag]
    · rw [established]
      exact fun before => stays (opened before)
    · by_cases closes : Runs s e .startCloseSocket
      · have none := flag.symm.trans (skips closes)
        simp [noteSocket, none, skipped]
      · simp [noteSocket, closes, skipped]
    · simp [noteSocket, noFailure, cleared]

theorem reachable_flagged {t : Traced TcpMgr SocketRecord}
    (reached : Reach socketTraced failsUnconnected ⟨.started, {}⟩ t) : Flagged t.now t.past := by
  apply reached.invariant fun t => Flagged t.now t.past
  · exact ⟨rfl, fun _ => rfl, rfl, rfl⟩
  · intro t e u _ flagged unconnected taken
    obtain ⟨stepped, past⟩ := traced_step taken
    rw [past]
    exact flagged_step flagged unconnected stepped

theorem Flagged.tellsSocket {t : Traced TcpMgr SocketRecord} (flagged : Flagged t.now t.past) :
    TellsSocket t :=
  ⟨fun _ => by rw [flagged.flag], flagged.skipped, flagged.cleared⟩

theorem late_failure_lies {s t : TcpMgr} {e : Event} {h : SocketRecord}
    (fails : connectFails s e) (established : h.established = true) (taken : step s e = some t) :
    t.phase = .idle ∧ t.socketStarted = false ∧ (noteSocket s e t h).established = true := by
  obtain ⟨other, noClose⟩ := fails.other
  cases socket_step taken with
  | connected connects => exact absurd connects other
  | failed _ idle lost stays => exact ⟨idle, lost, by simp [noteSocket, established, stays]⟩
  | closed closes => exact absurd closes noClose
  | kept _ noFailure => exact absurd fails noFailure

theorem flag_tells_socket (t : Traced TcpMgr SocketRecord) :
    (Reach socketTraced failsUnconnected ⟨.started, {}⟩ t → TellsSocket t) ∧
      ∀ e u, Reachable socketTraced ⟨.started, {}⟩ t → socketTraced t e = some u →
        ¬ failsUnconnected t e → ¬ TellsSocket u := by
  constructor
  · exact fun reached => (reachable_flagged reached).tellsSocket
  · intro e u _ taken late
    obtain ⟨fails, established⟩ := Classical.not_imp.mp late
    obtain ⟨stepped, past⟩ := traced_step taken
    have established : t.past.established = true := (Bool.not_eq_false _).mp established
    obtain ⟨idle, down, stays⟩ := late_failure_lies fails established stepped
    intro tells
    rw [← past] at stays
    have up := (tells.truth idle).mpr stays
    rw [down] at up
    cases up

def connectsTwice : List Event :=
  [.connectDone (some "Connection refused"), .runNext [], .connectDone none, .runNext [], .created,
    .runNext [], .readDone (.readSome 4096) (some "Connection reset by peer") [], .runNext [],
    .runNext [.onConnect operationAborted], .runNext [], .connectDone none, .runNext [], .created]

-- The read and the write fail and each starts a connect. Both are aborted, the next one succeeds,
-- and the one after it finds the socket connected.
def connectsConnected : List Event :=
  readsAndWrites ++
    [.readDone (.readSome 4096) (some "Connection reset by peer") [],
      .writeDone ⟨1, ⟨1, [7]⟩⟩ (some "Connection reset by peer"), .runNext [], .runNext [],
      .runNext [.onConnect operationAborted, .onConnect operationAborted], .runNext [],
      .runNext [], .connectDone none, .runNext [],
      .connectDone (some "Transport endpoint is already connected"), .runNext [], .created]

theorem reconnects_tell_socket :
    (∃ t, (Reach socketTraced failsUnconnected ⟨.started, {}⟩ t ∧ t.now.phase = .idle ∧
          t.now.generation = 2 ∧ t.past.established = true) ∧ TellsSocket t) ∧
      ∃ t u, (Reachable socketTraced ⟨.started, {}⟩ t ∧ socketTraced t (.runNext []) = some u ∧
        ¬ failsUnconnected t (.runNext [])) ∧ ¬ TellsSocket u := by
  constructor
  · have ran : ∃ t, Reach socketTraced failsUnconnected ⟨.started, {}⟩ t ∧ t.now.phase = .idle ∧
        t.now.generation = 2 ∧ t.past.established = true :=
      run_reaches connectsTwice (by decide +kernel)
    obtain ⟨t, reached, connected⟩ := ran
    exact ⟨t, ⟨reached, connected⟩, (flag_tells_socket t).1 reached⟩
  · have ran : ∃ t, Reach socketTraced anyStep ⟨.started, {}⟩ t ∧
        (socketTraced t (.runNext [])).isSome = true ∧ ¬ failsUnconnected t (.runNext []) :=
      run_reaches connectsConnected (by decide +kernel)
    obtain ⟨t, reached, enabled, late⟩ := ran
    obtain ⟨u, taken⟩ := Option.isSome_iff_exists.mp enabled
    exact ⟨t, u, ⟨reached, taken, late⟩, (flag_tells_socket t).2 _ u reached taken late⟩

theorem late_connect_clears_flag :
    ∃ t, Reachable socketTraced ⟨.started, {}⟩ t ∧ t.now.phase = .idle ∧
      t.now.socketStarted = false ∧ t.past = ⟨true, true, true⟩ ∧ ¬ TellsSocket t := by
  have ran : ∃ t, Reach socketTraced anyStep ⟨.started, {}⟩ t ∧ t.now.phase = .idle ∧
      t.now.socketStarted = false ∧ t.past = ⟨true, true, true⟩ :=
    run_reaches (connectsConnected ++ [.runNext [], .finitClose, .runNext [], .runNext []])
      (by decide +kernel)
  obtain ⟨t, reached, idle, down, past⟩ := ran
  refine ⟨t, reached, idle, down, past, fun tells => ?_⟩
  have kept := tells.keeps
  rw [past] at kept
  cases kept

def connectsAlone (t : Traced TcpMgr SocketRecord) (e : Event) : Prop :=
  handlesFailure t.now e → connecting t.now = 0

def beforeConnect (strand : List Handler) : List Handler :=
  strand.takeWhile fun h => !h.isConnect

theorem beforeConnect_append {h : Handler} {strand : List Handler} (more : List Handler)
    (member : h ∈ beforeConnect strand) : h ∈ beforeConnect (strand ++ more) := by
  unfold beforeConnect at *
  rw [List.takeWhile_append]
  split
  next => exact List.mem_append_left _ (List.takeWhile_subset _ member)
  next => exact member

theorem beforeConnect_rest {h first : Handler} {rest : List Handler} (other : h ≠ first)
    (member : h ∈ beforeConnect (first :: rest)) : h ∈ beforeConnect rest := by
  unfold beforeConnect at *
  rw [List.takeWhile_cons] at member
  split at member
  next => exact List.mem_of_ne_of_mem other member
  next => cases member

theorem beforeConnect_last {h first : Handler} {rest : List Handler} (other : h.isConnect = false)
    (quiet : (first :: rest).countP Handler.isConnect = 0) : h ∈ beforeConnect (rest ++ [h]) := by
  have all : ∀ later ∈ rest, (!later.isConnect) = true := by
    intro later member
    simpa using List.countP_eq_zero.mp quiet later (List.mem_cons_of_mem _ member)
  rw [beforeConnect, List.takeWhile_append_of_pos all]
  simp [other]

/-- With one connect at a time, the close of a failed connection comes before the `OnConnect` that
ends the connect after it. -/
structure ClosesAhead (s : TcpMgr) (h : SocketRecord) : Prop where
  flagged : Flagged s h
  one : connecting s ≤ 1
  closing : h.established = true → connecting s ≠ 0 →
    Handler.startCloseSocket ∈ beforeConnect s.strand

theorem ClosesAhead.unconnected {s : TcpMgr} {e : Event} {h : SocketRecord}
    (ahead : ClosesAhead s h) (fails : connectFails s e) : h.established = false := by
  obtain ⟨_, failed⟩ := fails
  cases waiting : s.strand with
  | nil => simp [waiting] at failed
  | cons first rest =>
    cases first with
    | onConnect err =>
      by_contra established
      have outstanding : connecting s ≠ 0 := by
        simp [connecting, waiting, Handler.isConnect]
      have member := ahead.closing ((Bool.not_eq_false _).mp established) outstanding
      simp [beforeConnect, waiting, Handler.isConnect] at member
    | _ => simp [waiting, Handler.connectFailed] at failed

theorem connecting_one {s t : TcpMgr} {e : Event} (one : connecting s ≤ 1)
    (alone : handlesFailure s e → connecting s = 0) (taken : step s e = some t) :
    connecting t ≤ 1 := by
  have counts := connecting_step taken
  have grows : s.generation ≤ t.generation := by
    cases step_took taken with
    | connected => exact Nat.le_succ _
    | _ => exact Nat.le_refl _
  split at counts
  next failure =>
    have none := alone failure
    omega
  next => omega

theorem closing_step {s t : TcpMgr} {e : Event} {h : SocketRecord} (ahead : ClosesAhead s h)
    (alone : handlesFailure s e → connecting s = 0) (taken : step s e = some t)
    (established : (noteSocket s e t h).established = true) (outstanding : connecting t ≠ 0) :
    Handler.startCloseSocket ∈ beforeConnect t.strand := by
  have one := ahead.one
  have before (other : ¬ Connects s e) : h.established = true ∧ t.sockOpen = true := by
    simpa [noteSocket, other] using established
  have rests (rests : e.isRun = false) : ¬ Connects s e := by
    rintro ⟨⟨run, _⟩, _⟩
    rw [rests] at run
    cases run
  cases step_took taken with
  | connected waiting =>
    simp only [connecting, waiting, List.countP_cons, Handler.isConnect, if_true] at one outstanding
    omega
  | @connectFailed order _ _ _ waiting idle failed =>
    have fails : connectFails s (.runNext order) := .of_strand waiting failed
    have none := ahead.unconnected fails
    rw [(before fails.other.1).1] at none
    cases none
  | closed waiting =>
    have shut := (before (connects_not waiting rfl)).2
    cases shut
  | closeSkipped waiting idle skipped =>
    have flag := ahead.flagged.flag
    rw [skipped, (before (connects_not waiting rfl)).1] at flag
    cases flag
  | recvFailed waiting | sendFailed waiting =>
    have none : connecting s = 0 := alone ⟨rfl, by rw [waiting]; rfl⟩
    have quiet : s.strand.countP Handler.isConnect = 0 := (Nat.add_eq_zero_iff.mp none).2
    rw [waiting] at quiet
    exact beforeConnect_last rfl quiet
  | recvStarted waiting | recvQueued waiting | received waiting | sendStarted waiting
  | sendQueued waiting | sendFinished waiting | sendNext waiting =>
    have earlier := (before (connects_not waiting rfl)).1
    have same : connecting s ≠ 0 := by
      simpa [connecting, waiting, Handler.isConnect] using outstanding
    have member := ahead.closing earlier same
    rw [waiting] at member
    exact beforeConnect_rest (by simp) member
  | connectDone pending =>
    have same : connecting s ≠ 0 := by
      rw [connecting]
      omega
    exact beforeConnect_append _ (ahead.closing (before (rests rfl)).1 same)
  | readDone | writeDone | created | parsedLast | posted | closePosted =>
    have same : connecting s ≠ 0 := by
      simpa [connecting, Handler.isConnect] using outstanding
    exact beforeConnect_append _ (ahead.closing (before (rests rfl)).1 same)
  | parsedNext | ready | stopped | postFailed | errorReported | closeReported =>
    exact ahead.closing (before (rests rfl)).1 outstanding

theorem closesAhead_step {s t : TcpMgr} {e : Event} {h : SocketRecord} (ahead : ClosesAhead s h)
    (alone : handlesFailure s e → connecting s = 0) (taken : step s e = some t) :
    ClosesAhead t (noteSocket s e t h) :=
  ⟨flagged_step ahead.flagged ahead.unconnected taken, connecting_one ahead.one alone taken,
    closing_step ahead alone taken⟩

theorem single_connects_tell_socket {t : Traced TcpMgr SocketRecord}
    (reached : Reach socketTraced connectsAlone ⟨.started, {}⟩ t) : TellsSocket t := by
  have ahead : ClosesAhead t.now t.past := by
    apply reached.invariant fun t => ClosesAhead t.now t.past
    · exact ⟨⟨rfl, fun _ => rfl, rfl, rfl⟩, Nat.le_refl 1, fun established => (by cases established)⟩
    · intro t e u _ ahead alone taken
      obtain ⟨stepped, past⟩ := traced_step taken
      rw [past]
      exact closesAhead_step ahead alone stepped
  exact ahead.flagged.tellsSocket

end RmqMgr.Tcp
