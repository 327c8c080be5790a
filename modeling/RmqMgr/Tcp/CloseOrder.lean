import RmqMgr.Tcp.Reconnects

set_option autoImplicit false

-- `CloseSocket` posts the close and `ReConnectServer` connects at once, so the close of an error
-- always comes after its connect.

namespace RmqMgr.Tcp

open Transition

def Handler.isClose : Handler → Bool
  | .startCloseSocket => true
  | _ => false

-- Who posted a `StartCloseSocket`: an error, handled while `connection` was the latest connection
-- and `attempts` connects had been started, or `Finit`.
inductive Closer where
  | failure (connection attempts : Nat)
  | finit
  deriving DecidableEq, Repr

structure CloseRun where
  origin : Option Closer
  connection : Nat
  outstanding : List Nat
  aborted : List Nat
  deriving DecidableEq, Repr

/-- Connects are numbered from 1 in the order of their start. `pending` are those the socket works
on, and `completed` those whose `OnConnect` waits on the strand. -/
structure CloseRecord where
  posted : List Closer := []
  ran : List CloseRun := []
  attempts : Nat := 1
  pending : List Nat := [1]
  completed : List Nat := []
  deriving DecidableEq, Repr

namespace CloseRecord

def connects (h : CloseRecord) : CloseRecord :=
  { h with attempts := h.attempts + 1, pending := h.pending ++ [h.attempts + 1] }

def runsClose (s : TcpMgr) (h : CloseRecord) : CloseRecord :=
  let run : CloseRun :=
    ⟨h.posted.head?, s.generation, h.completed ++ h.pending, if s.socketStarted then h.pending else []⟩
  let h := { h with posted := h.posted.tail, ran := h.ran ++ [run] }
  if s.socketStarted then { h with completed := h.completed ++ h.pending, pending := [] } else h

def runs (s : TcpMgr) (h : CloseRecord) : Option Handler → CloseRecord
  | some (.handleRecv (some _) _) | some (.handleWrite (some _)) =>
    connects { h with posted := h.posted ++ [.failure s.generation h.attempts] }
  | some (.onConnect err) =>
    let h := { h with completed := h.completed.tail }
    if err = none ∧ s.sockOpen then h else h.connects
  | some .startCloseSocket => h.runsClose s
  | _ => h

def completes (which : Nat) (h : CloseRecord) : CloseRecord :=
  let i := which % h.pending.length
  { h with pending := h.pending.eraseIdx i, completed := h.completed ++ h.pending[i]?.toList }

end CloseRecord

-- The step of the transport; `which` names the connect that completes.
def connectStep (s : TcpMgr) (e : Event × Nat) : Option TcpMgr :=
  step s e.1

def noteCloses (s : TcpMgr) (e : Event × Nat) (_ : TcpMgr) (h : CloseRecord) : CloseRecord :=
  match e.1 with
  | .runNext _ => h.runs s s.strand.head?
  | .connectDone _ => h.completes e.2
  | .finitClose => { h with posted := h.posted ++ [.finit] }
  | _ => h

structure Recorded (s : TcpMgr) (h : CloseRecord) : Prop where
  posted : h.posted.length = s.strand.countP Handler.isClose
  pending : h.pending.length = s.connects
  completed : h.completed.length = s.strand.countP Handler.isConnect

theorem aborted_closes (s : TcpMgr) : (aborted s).countP Handler.isClose = 0 := by
  simp [aborted, List.countP_append, Handler.isClose, List.countP_replicate]

theorem recorded_step {s t : TcpMgr} {e : Event × Nat} {h : CloseRecord} (recorded : Recorded s h)
    (taken : connectStep s e = some t) : Recorded t (noteCloses s e t h) := by
  obtain ⟨posted, pending, completed⟩ := recorded
  obtain ⟨e, which⟩ := e
  cases step_took taken with
  | closed waiting idle live abort =>
    have closes := abort.countP_eq Handler.isClose
    have connects := abort.countP_eq Handler.isConnect
    rw [aborted_closes] at closes
    rw [aborted_connects] at connects
    simp only [waiting, List.countP_cons, Handler.isClose, Handler.isConnect] at posted completed
    constructor <;>
      simp [noteCloses, CloseRecord.runs, CloseRecord.runsClose, waiting, live, posted, completed,
        pending, closes, connects]
  | connected waiting idle opened =>
    simp only [waiting, List.countP_cons, Handler.isClose, Handler.isConnect] at posted completed
    constructor <;> simp [noteCloses, CloseRecord.runs, waiting, opened, posted, completed, pending]
  | connectFailed waiting idle failed =>
    simp only [waiting, List.countP_cons, Handler.isClose, Handler.isConnect, if_true,
      Bool.false_eq_true, if_false, Nat.add_zero] at posted completed
    constructor <;>
      simp only [noteCloses, CloseRecord.runs, CloseRecord.connects, waiting, List.head?_cons, failed,
        if_false, List.length_append, List.length_singleton, List.length_tail] <;> omega
  | connectDone outstanding =>
    have inside : which % h.pending.length < h.pending.length := Nat.mod_lt _ (by omega)
    constructor
    · simpa [noteCloses, CloseRecord.completes, Handler.isClose] using posted
    · simp only [noteCloses, CloseRecord.completes, List.length_eraseIdx_of_lt inside]
      omega
    · simp [noteCloses, CloseRecord.completes, Handler.isConnect, List.getElem?_eq_getElem inside,
        completed]
  | _ =>
    constructor <;>
      simp_all [noteCloses, CloseRecord.runs, CloseRecord.runsClose, CloseRecord.connects,
        Handler.isClose, Handler.isConnect, List.countP_cons]

/-- The close of an error takes effect before any connect after the error starts. When it runs, no
such connect is outstanding and no later connection is there, and only `Finit` aborts a connect. -/
structure ClosesFirst (h : CloseRecord) : Prop where
  first : ∀ k n, .failure k n ∈ h.posted → h.attempts = n
  own : ∀ run ∈ h.ran, ∀ k n, run.origin = some (.failure k n) →
    run.connection = k ∧ ∀ attempt ∈ run.outstanding, attempt ≤ n
  aborts : ∀ run ∈ h.ran, run.aborted ≠ [] → run.origin = some .finit

abbrev closesTraced : Traced TcpMgr CloseRecord → Event × Nat → Option (Traced TcpMgr CloseRecord) :=
  traced connectStep noteCloses

def noFailure (t : Traced TcpMgr CloseRecord) (e : Event × Nat) : Prop :=
  ¬ handlesFailure t.now e.1

instance (t : Traced TcpMgr CloseRecord) (e : Event × Nat) : Decidable (noFailure t e) :=
  inferInstanceAs (Decidable (¬ _))

theorem reachable_recorded {t : Traced TcpMgr CloseRecord}
    (reached : Reachable closesTraced ⟨.started, {}⟩ t) : Recorded t.now t.past := by
  apply reached.invariant fun t => Recorded t.now t.past
  · exact ⟨rfl, rfl, rfl⟩
  · intro t e u _ recorded _ taken
    obtain ⟨stepped, past⟩ := traced_step taken
    rw [past]
    exact recorded_step recorded stepped

structure OnlyFinit (h : CloseRecord) : Prop where
  posted : ∀ closer ∈ h.posted, closer = .finit
  ran : ∀ run ∈ h.ran, run.origin = some .finit

theorem onlyFinit_step {s t : TcpMgr} {e : Event × Nat} {h : CloseRecord} (recorded : Recorded s h)
    (only : OnlyFinit h) (quiet : ¬ handlesFailure s e.1) (taken : connectStep s e = some t) :
    OnlyFinit (noteCloses s e t h) := by
  obtain ⟨e, which⟩ := e
  cases step_took taken with
  | closed waiting | closeSkipped waiting =>
    have waited : 0 < h.posted.length := by
      simp [recorded.posted, waiting, Handler.isClose]
    obtain ⟨closer, rest, posted⟩ := List.exists_cons_of_length_pos waited
    have finit : closer = .finit := only.posted closer (by simp [posted])
    constructor
    · intro other member
      apply only.posted
      simp only [noteCloses, CloseRecord.runs, waiting, List.head?_cons,
        CloseRecord.runsClose] at member
      split at member <;> exact List.mem_of_mem_tail member
    · intro run member
      simp only [noteCloses, CloseRecord.runs, waiting, List.head?_cons,
        CloseRecord.runsClose] at member
      split at member <;>
      · rcases List.mem_append.mp member with earlier | last
        · exact only.ran run earlier
        · rw [List.mem_singleton.mp last]
          simp [posted, finit]
  | recvFailed waiting | sendFailed waiting =>
    exact absurd ⟨rfl, by rw [waiting]; rfl⟩ quiet
  | closePosted =>
    refine ⟨?_, only.ran⟩
    intro closer member
    rcases List.mem_append.mp member with earlier | last
    · exact only.posted closer earlier
    · exact List.mem_singleton.mp last
  | connectFailed waiting idle failed =>
    simp only [noteCloses, CloseRecord.runs, waiting, List.head?_cons, failed, if_false]
    exact ⟨only.posted, only.ran⟩
  | connected waiting idle opened =>
    simp only [noteCloses, CloseRecord.runs, waiting, List.head?_cons, opened, and_self, if_true]
    exact ⟨only.posted, only.ran⟩
  | connectDone | readDone | writeDone | created | parsedLast | parsedNext | posted | ready
  | stopped | postFailed | errorReported | closeReported => exact ⟨only.posted, only.ran⟩
  | recvStarted waiting | recvQueued waiting | received waiting | sendStarted waiting
  | sendQueued waiting | sendFinished waiting | sendNext waiting =>
    simp only [noteCloses, CloseRecord.runs, waiting, List.head?_cons]
    exact only

theorem OnlyFinit.closesFirst {h : CloseRecord} (only : OnlyFinit h) : ClosesFirst h := by
  refine ⟨?_, ?_, fun run ran _ => only.ran run ran⟩
  · intro k n posted
    cases only.posted _ posted
  · intro run ran k n failed
    rw [only.ran run ran] at failed
    cases failed

theorem failure_closes_late {s t : TcpMgr} {e : Event × Nat} {h : CloseRecord}
    (failed : handlesFailure s e.1) : ¬ ClosesFirst (noteCloses s e t h) := by
  obtain ⟨e, which⟩ := e
  obtain ⟨run, failed⟩ := failed
  intro closes
  have late : ∃ h' : CloseRecord, noteCloses s (e, which) t h = CloseRecord.connects
      { h' with posted := h'.posted ++ [.failure s.generation h'.attempts] } := by
    cases e with
    | runNext order =>
      cases head : s.strand.head? with
      | none => simp [head] at failed
      | some handler =>
        simp only [head, Option.any_some] at failed
        refine ⟨h, ?_⟩
        cases handler with
        | handleRecv err | handleWrite err =>
          cases err with
          | none => cases failed
          | some message => simp only [noteCloses, CloseRecord.runs, head]
        | _ => cases failed
    | _ => cases run
  obtain ⟨h', same⟩ := late
  rw [same] at closes
  have before := closes.first s.generation h'.attempts
    (List.mem_append_right _ (List.mem_singleton.mpr rfl))
  exact absurd before (Nat.succ_ne_self _)

theorem closes_first (t : Traced TcpMgr CloseRecord) :
    (Reach closesTraced noFailure ⟨.started, {}⟩ t → ClosesFirst t.past) ∧
      ∀ e u, Reachable closesTraced ⟨.started, {}⟩ t → closesTraced t e = some u →
        ¬ noFailure t e → ¬ ClosesFirst u.past := by
  constructor
  · intro reached
    have only : OnlyFinit t.past := by
      apply reached.invariant fun t => OnlyFinit t.past
      · constructor <;> intro other member <;> cases member
      · intro t e u before only quiet taken
        obtain ⟨stepped, past⟩ := traced_step taken
        rw [past]
        exact onlyFinit_step (reachable_recorded before.reachable) only quiet stepped
    exact only.closesFirst
  · intro e u _ taken failed
    rw [(traced_step taken).2]
    exact failure_closes_late (Decidable.not_not.mp failed)

def connected : List (Event × Nat) :=
  [(.connectDone none, 0), (.runNext [], 0), (.created, 0), (.runNext [], 0)]

def readBreaks : Event × Nat :=
  (.readDone (.readSome 4096) (some "Connection reset by peer") [], 0)

theorem finit_closes_first :
    (∃ t, (Reach closesTraced noFailure ⟨.started, {}⟩ t ∧ t.past.ran ≠ []) ∧
        ClosesFirst t.past) ∧
      ∃ t u, (Reachable closesTraced ⟨.started, {}⟩ t ∧ closesTraced t (.runNext [], 0) = some u ∧
        ¬ noFailure t (.runNext [], 0)) ∧ ¬ ClosesFirst u.past := by
  constructor
  · have ran : ∃ t, Reach closesTraced noFailure ⟨.started, {}⟩ t ∧ t.past.ran ≠ [] :=
      run_reaches (connected ++
        [(.finitClose, 0), (.runNext [.handleRecv operationAborted 0], 0)]) (by decide +kernel)
    obtain ⟨t, reached, closed⟩ := ran
    exact ⟨t, ⟨reached, closed⟩, (closes_first t).1 reached⟩
  · have ran : ∃ t, Reach closesTraced anyStep ⟨.started, {}⟩ t ∧
        (closesTraced t (.runNext [], 0)).isSome = true ∧ ¬ noFailure t (.runNext [], 0) :=
      run_reaches (connected ++ [readBreaks]) (by decide +kernel)
    obtain ⟨t, reached, enabled, failed⟩ := ran
    obtain ⟨u, taken⟩ := Option.isSome_iff_exists.mp enabled
    exact ⟨t, u, ⟨reached, taken, failed⟩, (closes_first t).2 _ u reached taken failed⟩

theorem close_aborts_reconnect :
    ∃ t, Reachable closesTraced ⟨.started, {}⟩ t ∧
      (∃ run ∈ t.past.ran, run.origin = some (.failure 1 1) ∧ run.aborted = [2]) ∧
      ¬ ClosesFirst t.past := by
  have ran : ∃ t, Reach closesTraced anyStep ⟨.started, {}⟩ t ∧
      ∃ run ∈ t.past.ran, run.origin = some (.failure 1 1) ∧ run.aborted = [2] :=
    run_reaches (connected ++ [readBreaks, (.runNext [], 0),
      (.runNext [.onConnect operationAborted], 0)]) (by decide +kernel)
  obtain ⟨t, reached, run, closed, origin, aborted⟩ := ran
  refine ⟨t, reached, ⟨run, closed, origin, aborted⟩, fun closes => ?_⟩
  have finit := closes.aborts run closed (by simp [aborted])
  rw [origin] at finit
  cases finit

end RmqMgr.Tcp
