import RmqMgr.Session.Pointers

set_option autoImplicit false

-- The user's thread waits for `m_is_ready` and then reads `m_pConnect`, while the worker goes on
-- and may put a later connection object there.

namespace RmqMgr.Session

open Transition

variable {lib : Library}

def LoggedIn (w : World) : Prop :=
  w.user = .getMqConnection → ∃ i, w.ses.pTcpMgr = some i ∧ (w.tcps i).isReady = true

theorem getMqConnection_waits {w v : World} {e : Event} (taken : step lib w e = some v)
    (waiting : v.user = .getMqConnection) :
    w.user = .getMqConnection ∨
      e = .waitForReady ∧ ∃ i, w.ses.pTcpMgr = some i ∧ (w.tcps i).isReady = true := by
  cases step_took taken with
  | waited _ some ready => exact .inr ⟨rfl, _, some, ready⟩
  | startFailed | started | timedOut | getMqConnection | startSucceeded | channelFailed | publishMsg
  | finitClose | finitStop | finitJoin => cases waiting
  | releaseMqInstance _ _ next | closeMqConnection _ _ next =>
    rcases next with rfl | rfl <;> cases waiting
  | _ => exact .inl waiting

theorem loggedIn_step {w v : World} {e : Event} (logged : LoggedIn w)
    (taken : step lib w e = some v) : LoggedIn v := by
  intro waiting
  have before : ∃ i, w.ses.pTcpMgr = some i ∧ (w.tcps i).isReady = true := by
    rcases getMqConnection_waits taken waiting with waited | ⟨_, ready⟩
    · exact logged waited
    · exact ready
  obtain ⟨i, current, ready⟩ := before
  rcases pTcpMgr_step taken with same | ⟨rfl, _⟩
  · exact ⟨i, same.trans current, isReady_kept taken ready⟩
  · obtain ⟨_, rfl⟩ := user_step taken
    cases waiting

theorem reachable_loggedIn {mqInfo : MqInfo} {w : World}
    (reached : Reachable (step lib) (World.start mqInfo) w) : LoggedIn w :=
  reached.invariant LoggedIn (fun waiting => (by cases waiting)) fun _ _ _ _ logged _ taken =>
    loggedIn_step logged taken

theorem connection_always_set {mqInfo : MqInfo} :
    (∀ s, Reachable Tcp.step .started s → Tcp.ConnectionSet s) ∧
      ∀ w v u x, Reachable (step lib) (World.start mqInfo) w →
        step lib w .waitForReady = some v → v.user = .getMqConnection →
        Reachable (step lib) v u → step lib u .getMqConnection = some x →
        ∃ i n, u.ses.pTcpMgr = some i ∧ u.getConnection i = some n ∧
          x.ses.connection = some ⟨i, n⟩ := by
  constructor
  · exact fun s reached => Tcp.reachable_connectionSet reached
  · intro w v u x before ready waiting goes fetched
    have reached : Reachable (step lib) (World.start mqInfo) u :=
      (before.trans (.single trivial ready)).trans goes
    obtain ⟨fetching, rfl⟩ := user_step fetched
    obtain ⟨i, current, ready⟩ := reachable_loggedIn reached fetching
    obtain ⟨n, made⟩ := Option.ne_none_iff_exists'.mp ((reachable_constructed reached i).ready ready)
    have connected : u.getConnection i = some n := made
    exact ⟨i, n, current, connected, by simp [getMqConnection, current, connected]⟩

open Run

def logsIn : List Event :=
  [.startMqInstance none] ++ connects ++ parsing ++ [.onReady ⟨0, 1⟩, parsed, runs]

theorem reconnected_fetched :
    (∃ s, (Reachable Tcp.step .started s ∧ s.phase = .parsing ∧ s.isReady = true) ∧
        Tcp.ConnectionSet s) ∧
      ∃ w v u x, (Reachable (step accepting) (World.start fanout) w ∧
          step accepting w .waitForReady = some v ∧ v.user = .getMqConnection ∧
          Reachable (step accepting) v u ∧ step accepting u .getMqConnection = some x ∧
          (u.tcps 0).generation = 2) ∧
        ∃ i n, u.ses.pTcpMgr = some i ∧ u.getConnection i = some n ∧
          x.ses.connection = some ⟨i, n⟩ := by
  constructor
  · have ran : ∃ s, Reach Tcp.step anyStep .started s ∧ s.phase = .parsing ∧ s.isReady = true :=
      run_reaches [.connectDone none, .runNext [], .created, .runNext [],
        .readDone (.readSome 4096) none [1], .runNext [], .onReady] (by decide +kernel)
    obtain ⟨s, reached, ready⟩ := ran
    exact ⟨s, ⟨reached, ready⟩, (@connection_always_set accepting fanout).1 s reached⟩
  · have ran : ∃ w, Reach (step accepting) anyStep (World.start fanout) w ∧
        (step accepting w .waitForReady).any (fun v => v.user = .getMqConnection ∧
          (run (step accepting) anyStep v (readFails ++ connects)).any (fun u =>
            (u.tcps 0).generation = 2 ∧ (step accepting u .getMqConnection).isSome = true)) = true :=
      run_reaches logsIn (by decide +kernel)
    obtain ⟨w, before, waits⟩ := ran
    obtain ⟨v, ready, waits⟩ := (Option.any_eq_true _ _).mp waits
    obtain ⟨waiting, goes⟩ := of_decide_eq_true waits
    obtain ⟨u, goes, reconnected⟩ := (Option.any_eq_true _ _).mp goes
    obtain ⟨second, fetches⟩ := of_decide_eq_true reconnected
    obtain ⟨x, fetched⟩ := Option.isSome_iff_exists.mp fetches
    have reached : Reachable (step accepting) v u := run_reach goes
    exact ⟨w, v, u, x, ⟨before, ready, waiting, reached, fetched, second⟩,
      (@connection_always_set accepting fanout).2 w v u x before ready waiting reached fetched⟩

end RmqMgr.Session
