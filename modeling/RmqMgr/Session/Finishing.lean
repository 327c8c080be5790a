import RmqMgr.Parse.Termination
import RmqMgr.Session.Generations
import RmqMgr.Session.Pointers

set_option autoImplicit false

-- A call waits for the login, which may time out, and for the worker, which may be inside a
-- handler.

namespace RmqMgr.Session

open Parse (Answers ClosedAtEnd LoopEnds loop_returns)
open Transition

variable {lib : Library} {C : Type} {parser : Parse.Library C} {closed : C → Bool} {conn : C}

def UserPhase.call : UserPhase → Option Api
  | .idle => none
  | .waitForReady => some .startMqInstance
  | .getMqConnection => some .startMqInstance
  | .createMqChannel => some .startMqInstance
  | .closeMqConnection => some .releaseMqInstance
  | .finitClose => some .releaseMqInstance
  | .finitStop => some .releaseMqInstance
  | .finitJoin => some .releaseMqInstance

def UserPhase.left : UserPhase → Nat
  | .idle => 0
  | .waitForReady => 3
  | .getMqConnection => 2
  | .createMqChannel => 1
  | .closeMqConnection => 4
  | .finitClose => 3
  | .finitStop => 2
  | .finitJoin => 1

def World.inHandler (w : World) : Bool :=
  w.ses.pTcpMgr.any fun i => (w.tcps i).phase ≠ .idle

def World.left (w : World) : Nat :=
  2 * w.user.left + w.inHandler.toNat

def Event.finishing : Event → Bool
  | .waitForReady => true
  | .getMqConnection => true
  | .createMqChannel => true
  | .closeMqConnection => true
  | .finitClose => true
  | .finitStop => true
  | .finitJoin => true
  | .transport _ .created => true
  | .transport _ (.parsed _) => true
  | _ => false

-- The call of `w` goes on in `v`, or it is the one call that has returned since.
def Continues (w v : World) : Prop :=
  v.user.call = w.user.call ∧ v.returns = w.returns ∨
    v.user = .idle ∧ ∃ api result, w.user.call = some api ∧
      v.returns = w.returns ++ [(api, result)]

structure Closer (w v : World) : Prop where
  left : v.left < w.left
  call : Continues w v

theorem closer_of_user {w v : World} (fewer : v.user.left < w.user.left)
    (call : Continues w v) : Closer w v := by
  refine ⟨?_, call⟩
  have one := Bool.toNat_le v.inHandler
  unfold World.left
  omega

theorem waitForReady_closer {w : World} {i : Nat} (waiting : w.user = .waitForReady)
    (current : w.ses.pTcpMgr = some i) : Closer w (waitForReady w) := by
  unfold waitForReady
  simp only [current]
  split
  · exact closer_of_user (by simp [waiting, UserPhase.left]) (.inl (by simp [waiting, UserPhase.call]))
  · refine closer_of_user (by simp [waiting, UserPhase.left, World.returned]) (.inr ⟨rfl, ?_⟩)
    exact ⟨_, _, by rw [waiting]; rfl, rfl⟩

theorem startMqChannel_closer {w : World} (waiting : w.user = .createMqChannel) :
    Closer w (startMqChannel lib w) := by
  unfold startMqChannel
  split
  all_goals
    refine closer_of_user (by simp [waiting, UserPhase.left, World.returned]) (.inr ⟨rfl, ?_⟩)
    exact ⟨_, _, by rw [waiting]; rfl, rfl⟩

theorem releaseStep_closer {w : World} (call : RmqMgrBase → RmqMgrBase × Option String)
    (waiting : w.user = .closeMqConnection) : Closer w (releaseStep call .finitClose w) := by
  unfold releaseStep
  split
  · exact closer_of_user (by simp [waiting, UserPhase.left]) (.inl (by simp [waiting, UserPhase.call]))
  · refine closer_of_user (by simp [waiting, UserPhase.left, World.returned]) (.inr ⟨rfl, ?_⟩)
    exact ⟨_, _, by rw [waiting]; rfl, rfl⟩

def LoopReturns (parser : Parse.Library C) (closed : C → Bool) (conn : C) (w : World) : Prop :=
  ∀ i, w.ses.pTcpMgr = some i → (w.tcps i).phase = .parsing →
    ClosedAtEnd parser closed (w.tcps i).parseBuf conn

-- The steps of a call that goes on, and the end of the current transport's loop.
def finishes (parser : Parse.Library C) (conn : C) (w : World) (e : Event) : Prop :=
  e.finishing = true ∧ ∀ i result, e = .transport i (.parsed result) →
    w.ses.pTcpMgr = some i ∧ LoopEnds parser conn (w.tcps i).parseBuf result

theorem parsing_step {s t : Tcp.TcpMgr} {e : Tcp.Event} (waits : e.isRun = false)
    (taken : Tcp.step s e = some t) (parsing : t.phase = .parsing) :
    s.phase = .parsing ∧ t.parseBuf = s.parseBuf := by
  cases Tcp.step_took taken with
  | created | parsedLast | parsedNext => cases parsing
  | connectDone | readDone | writeDone | posted | ready | closePosted | stopped | postFailed
  | errorReported | closeReported => exact ⟨parsing, rfl⟩
  | _ => cases waits

theorem finishing_waits {w : World} {e : Event} {i : Nat} {te : Tcp.Event}
    (finishing : e.finishing = true) (target : w.target e = some (i, te)) : te.isRun = false := by
  cases e with
  | transport j e' =>
    cases target
    cases te with
    | runNext => cases finishing
    | _ => rfl
  | finitClose | finitStop =>
    obtain ⟨j, _, same⟩ := Option.map_eq_some_iff.mp target
    cases same
    rfl
  | onData | onReady | onError | onClosed => cases finishing
  | _ => cases target

theorem loopReturns_step {w v : World} {e : Event} (finishing : e.finishing = true)
    (loop : LoopReturns parser closed conn w) (taken : step lib w e = some v) :
    LoopReturns parser closed conn v := by
  intro i current parsing
  have before : w.ses.pTcpMgr = some i := by
    rcases pTcpMgr_step taken with same | ⟨rfl, _⟩
    · rw [← same, current]
    · cases finishing
  rcases step_tcp i taken with same | ⟨te, target, stepped⟩
  · rw [same] at parsing ⊢
    exact loop i before parsing
  · obtain ⟨earlier, buffer⟩ := parsing_step (finishing_waits finishing target) stepped parsing
    rw [buffer]
    exact loop i before earlier

theorem handler_ends {s : Tcp.TcpMgr} (answers : Answers parser closed)
    (loop : s.phase = .parsing → ClosedAtEnd parser closed s.parseBuf conn)
    (busy : s.phase ≠ .idle) :
    ∃ e t, isTransport e = true ∧ (∀ i, (Event.transport i e).finishing = true) ∧
      (∀ result, e = .parsed result → LoopEnds parser conn s.parseBuf result) ∧
      Tcp.step s e = some t ∧ t.phase = .idle := by
  have ended {e : Tcp.Event} {t : Tcp.TcpMgr} (ends : e = .created ∨ ∃ result, e = .parsed result)
      (taken : Tcp.step s e = some t) : t.phase = .idle := by
    cases Tcp.step_took taken with
    | created | parsedLast | parsedNext => rfl
    | _ => simp at ends
  cases phase : s.phase with
  | idle => exact absurd phase busy
  | constructing =>
    have taken : Tcp.step s .created = some (Tcp.onConnectCreated s) := by simp [Tcp.step, phase]
    refine ⟨.created, _, rfl, fun _ => rfl, fun _ same => ?_, taken, ended (.inl rfl) taken⟩
    cases same
  | parsing =>
    obtain ⟨result, fits, returns⟩ := loop_returns answers (loop phase)
    have taken : Tcp.step s (.parsed result) = some (Tcp.handleRecvParsed result s) := by
      simp [Tcp.step, phase, fits]
    refine ⟨.parsed result, _, rfl, fun _ => rfl, fun other same => ?_, taken,
      ended (.inr ⟨result, rfl⟩) taken⟩
    cases same
    exact returns

theorem finit_closer {w : World} (i : Nat) (t : Tcp.TcpMgr) {user : UserPhase}
    (fewer : user.left < w.user.left) (same : user.call = w.user.call) :
    Closer w ({ w with user }.setTcp i t) :=
  closer_of_user fewer (.inl ⟨same, rfl⟩)

theorem finishes_other {w : World} {e : Event} (finishing : e.finishing = true)
    (other : ∀ i te, e ≠ .transport i te) : finishes parser conn w e :=
  ⟨finishing, fun i _ same => absurd same (other i _)⟩

theorem join_closer {w : World} {i : Nat} (answers : Answers parser closed)
    (loop : LoopReturns parser closed conn w) (unstarted : Unstarted w)
    (running : w.ses.fault = false) (waiting : w.user = .finitJoin)
    (current : w.ses.pTcpMgr = some i) :
    ∃ e v, finishes parser conn w e ∧ step lib w e = some v ∧ Closer w v := by
  by_cases idle : (w.tcps i).phase = .idle
  · refine ⟨.finitJoin, w.returned .releaseMqInstance none, finishes_other rfl (by simp),
      by simp [step, running, waiting, finitJoin, current, idle], ?_⟩
    exact closer_of_user (by simp [waiting, UserPhase.left, World.returned])
      (.inr ⟨rfl, _, _, by rw [waiting]; rfl, rfl⟩)
  · obtain ⟨e, t, transport, finishing, returns, taken, ended⟩ :=
      handler_ends answers (loop i current) idle
    have inside := unstarted.current i current
    have own : finishes parser conn w (.transport i e) := by
      refine ⟨finishing i, fun j result same => ?_⟩
      obtain ⟨rfl, rfl⟩ := Event.transport.inj same
      exact ⟨current, returns result rfl⟩
    refine ⟨.transport i e, w.setTcp i t, own,
      by simp [step, running, inside, transport, World.transports, taken], ?_, .inl ⟨rfl, rfl⟩⟩
    have before : w.inHandler = true := by simp [World.inHandler, current, idle]
    have after : (w.setTcp i t).inHandler = false := by
      simp [World.inHandler, World.setTcp, current, ended]
    rw [World.left, World.left, before, after]
    exact Nat.lt_succ_self _

theorem finish_progress {w : World} (answers : Answers parser closed)
    (loop : LoopReturns parser closed conn w) (pointers : Pointers w) (unstarted : Unstarted w)
    (busy : w.user ≠ .idle) :
    ∃ e v, finishes parser conn w e ∧ step lib w e = some v ∧ Closer w v := by
  have running := pointers.running
  obtain ⟨i, current⟩ := Option.ne_none_iff_exists'.mp (pointers.busy busy)
  cases waiting : w.user with
  | idle => exact absurd waiting busy
  | waitForReady =>
    exact ⟨.waitForReady, _, finishes_other rfl (by simp), by simp [step, running, waiting],
      waitForReady_closer waiting current⟩
  | getMqConnection =>
    refine ⟨.getMqConnection, _, finishes_other rfl (by simp),
      by simp [step, running, waiting]; rfl, ?_⟩
    exact closer_of_user (by simp [waiting, UserPhase.left]) (.inl (by simp [waiting, UserPhase.call]))
  | createMqChannel =>
    exact ⟨.createMqChannel, startMqChannel lib w, finishes_other rfl (by simp),
      by simp [step, running, waiting], startMqChannel_closer waiting⟩
  | closeMqConnection =>
    exact ⟨.closeMqConnection, releaseStep (closeMqConnection lib) .finitClose w,
      finishes_other rfl (by simp), by simp [step, running, waiting], releaseStep_closer _ waiting⟩
  | finitClose =>
    refine ⟨.finitClose, _, finishes_other rfl (by simp),
      by simp [step, running, waiting, finitStep, current, World.transports, Tcp.step]; rfl, ?_⟩
    exact finit_closer i _ (by simp [waiting, UserPhase.left]) (by rw [waiting]; rfl)
  | finitStop =>
    refine ⟨.finitStop, _, finishes_other rfl (by simp),
      by simp [step, running, waiting, finitStep, current, World.transports, Tcp.step]; rfl, ?_⟩
    exact finit_closer i _ (by simp [waiting, UserPhase.left]) (by rw [waiting]; rfl)
  | finitJoin => exact join_closer answers loop unstarted running waiting current

theorem finishing_ready {w : World} {e : Event} (finishing : e.finishing = true) :
    pointersReady w e := by
  cases e with
  | publishMsg | releaseMqInstance | reportReady | reportError => cases finishing
  | _ => exact ⟨fun needs => (nomatch needs), fun recreates => (nomatch recreates)⟩

theorem guarded_pointers {mqInfo : MqInfo} {w : World}
    (reached : Reach (step lib) pointersReady (World.start mqInfo) w) :
    Pointers w ∧ Unstarted w := by
  apply reached.invariant fun w => Pointers w ∧ Unstarted w
  · refine ⟨⟨rfl, ?_, ?_, ?_, ?_, ?_, ?_⟩, fun _ _ => rfl, ?_⟩ <;> simp [World.start, published]
  · intro w e v before held ready taken
    exact ⟨pointers_step (reachable_constructed before.reachable) held.1 ready taken,
      unstarted_step held.2 taken⟩

structure Finished (w v : World) : Prop where
  idle : v.user = .idle
  running : v.ses.fault = false
  returned : ∀ api, w.user.call = some api → ∃ result, v.returns = w.returns ++ [(api, result)]

theorem calls_finish {mqInfo : MqInfo} {w : World} (answers : Answers parser closed)
    (reached : Reach (step lib) pointersReady (World.start mqInfo) w)
    (loop : LoopReturns parser closed conn w) :
    ∃ v, Reach (step lib) (finishes parser conn) w v ∧ Finished w v := by
  have founded : WellFounded fun v u : World => v.left < u.left :=
    InvImage.wf World.left Nat.lt_wfRel.wf
  have finished : ∃ v, Reach (step lib) (finishes parser conn) w v ∧
      (Reach (step lib) pointersReady (World.start mqInfo) v ∧ LoopReturns parser closed conn v ∧
        Continues w v) ∧ v.user = .idle := by
    refine Reach.approaches founded ?_ ⟨reached, loop, .inl ⟨rfl, rfl⟩⟩
    rintro u ⟨before, loop, calls⟩ busy
    obtain ⟨pointers, unstarted⟩ := guarded_pointers before
    obtain ⟨e, v, own, taken, closer⟩ := finish_progress answers loop pointers unstarted busy
    refine ⟨e, v, own, taken, ⟨before.next (finishing_ready own.1) taken,
      loopReturns_step own.1 loop taken, ?_⟩, closer.left⟩
    rcases calls with ⟨call, returns⟩ | ⟨idle, _⟩
    · rw [Continues, ← call, ← returns]
      exact closer.call
    · exact absurd idle busy
  obtain ⟨v, later, ⟨before, _, calls⟩, idle⟩ := finished
  refine ⟨v, later, idle, (guarded_pointers before).1.running, fun api goes => ?_⟩
  rcases calls with ⟨call, _⟩ | ⟨_, api', result, called, returns⟩
  · rw [idle, goes] at call
    cases call
  · obtain rfl := Option.some.inj (goes.symm.trans called)
    exact ⟨result, returns⟩

open Run

theorem release_joins :
    ∃ w, (Answers Parse.closableLibrary Parse.ClosableConnection.closed ∧
        Reach (step accepting) pointersReady (World.start fanout) w ∧ w.user = .finitJoin ∧
        w.ses.pTcpMgr = some 0 ∧ (w.tcps 0).phase = .parsing ∧ (w.tcps 0).parseBuf = [1]) ∧
      ∃ v, Reach (step accepting) (finishes Parse.closableLibrary {}) w v ∧ Finished w v := by
  have ran : ∃ w, Reach (step accepting) pointersReady (World.start fanout) w ∧
      w.user = .finitJoin ∧ w.ses.pTcpMgr = some 0 ∧ (w.tcps 0).phase = .parsing ∧
      (w.tcps 0).parseBuf = [1] :=
    run_reaches (startAndLogIn ++ channelOpens 0 ++ parsing ++
      [.releaseMqInstance, .closeMqConnection, .finitClose, .finitStop]) (by decide +kernel)
  obtain ⟨w, reached, joins, current, parses, buffer⟩ := ran
  have loop : LoopReturns Parse.closableLibrary Parse.ClosableConnection.closed {} w := by
    intro i own _
    obtain rfl := Option.some.inj (current.symm.trans own)
    rw [buffer]
    exact Parse.finished_closedAtEnd Parse.closable_answers 2 trivial
  exact ⟨w, ⟨Parse.closable_answers, reached, joins, current, parses, buffer⟩,
    calls_finish Parse.closable_answers reached loop⟩

end RmqMgr.Session
