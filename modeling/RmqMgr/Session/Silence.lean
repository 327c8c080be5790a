import Mathlib.Data.List.Nodup
import RmqMgr.Session.Acks
import RmqMgr.Session.Replacement
import RmqMgr.Session.SessionStep
import RmqMgr.Tcp.Lifetime

set_option autoImplicit false

-- The library runs its callbacks but `onData` from inside `parse`, and a transport whose read
-- failed parses nothing any more.

namespace RmqMgr.Session

open Transition

variable {lib : Library}

structure Failed where
  tcpMgr : Nat
  ready : Bool
  deriving DecidableEq, Repr

def noteFailed (w : World) (e : Event) (_ : World) (past : List Failed) : List Failed :=
  match w.target e with
  | some (i, te) =>
    if Tcp.handlesReadFailure (w.tcps i) te then past ++ [⟨i, (w.tcps i).isReady⟩] else past
  | none => past

def World.callsBack (w : World) : Event → Option ConnId
  | .onData k _ _ => some k
  | .onReady k => some k
  | .onError k _ => some k
  | .onClosed k => some k
  | .reportReady c => some (w.ses.channels c).connection
  | .reportError c _ => some (w.ses.channels c).connection
  | .reportSuccess c => some (w.ses.channels c).connection
  | .reportClosed c => some (w.ses.channels c).connection
  | .consumeRecvedCb c _ _ => some (w.ses.channels c).connection
  | _ => none

def Event.isOnData : Event → Bool
  | .onData _ _ _ => true
  | _ => false

theorem parses_of_callsBack {w v : World} {e : Event} {k : ConnId}
    (called : w.callsBack e = some k) (other : e.isOnData = false)
    (taken : step lib w e = some v) : w.parses k := by
  cases step_took taken with
  | onData => cases other
  | onReady parses | onError parses | onClosed parses =>
    obtain rfl := Option.some.inj called
    exact parses
  | reportReady hears | reportError hears | reportSuccess hears | reportClosed hears
  | consumeRecvedCb hears =>
    obtain rfl := Option.some.inj called
    exact hears.2.2
  | finitFaulted finit =>
    rcases finit with ⟨rfl, _⟩ | ⟨rfl, _⟩ | ⟨rfl, _⟩ <;> cases called
  | _ => cases called

structure Stopped (t : Traced World (List Failed)) : Prop where
  stuck : ∀ d ∈ t.past, (Tcp.recvQueue (t.now.tcps d.tcpMgr)).Stuck
  ready : ∀ d ∈ t.past, (t.now.tcps d.tcpMgr).isReady = d.ready
  once : (t.past.map Failed.tcpMgr).Nodup

theorem stuck_world {w v : World} {e : Event} {i : Nat} (flight : Tcp.InFlight (w.tcps i))
    (stuck : (Tcp.recvQueue (w.tcps i)).Stuck) (taken : step lib w e = some v) :
    (Tcp.recvQueue (v.tcps i)).Stuck ∧ (v.tcps i).isReady = (w.tcps i).isReady := by
  rcases step_tcp i taken with same | ⟨te, _, stepped⟩
  · rw [same]
    exact ⟨stuck, rfl⟩
  · have kept := Tcp.deaf_step (Tcp.deaf_of_stuck stuck) stepped
    exact ⟨Tcp.stuck_stays flight stepped stuck, kept.isReady⟩

theorem noteFailed_cases (w v : World) (e : Event) (past : List Failed) :
    noteFailed w e v past = past ∨ ∃ i te, w.target e = some (i, te) ∧
      Tcp.handlesReadFailure (w.tcps i) te ∧
      noteFailed w e v past = past ++ [⟨i, (w.tcps i).isReady⟩] := by
  unfold noteFailed
  cases target : w.target e with
  | none => exact .inl rfl
  | some moved =>
    obtain ⟨i, te⟩ := moved
    by_cases failed : Tcp.handlesReadFailure (w.tcps i) te
    · exact .inr ⟨i, te, rfl, failed, by simp [failed]⟩
    · exact .inl (by simp [failed])

theorem target_step {w v : World} {e : Event} {i : Nat} {te : Tcp.Event}
    (target : w.target e = some (i, te)) (taken : step lib w e = some v) :
    Tcp.step (w.tcps i) te = some (v.tcps i) := by
  have moved := step_target taken
  rw [target] at moved
  obtain ⟨t, stepped, tcps⟩ := moved
  rw [tcps, Function.update_self]
  exact stepped

theorem stopped_step {t u : Traced World (List Failed)} {e : Event}
    (flight : ∀ i, Tcp.InFlight (t.now.tcps i)) (stopped : Stopped t)
    (taken : traced (step lib) noteFailed t e = some u) : Stopped u := by
  obtain ⟨stepped, noted⟩ := traced_step taken
  have kept (d : Failed) (earlier : d ∈ t.past) :
      (Tcp.recvQueue (u.now.tcps d.tcpMgr)).Stuck ∧ (u.now.tcps d.tcpMgr).isReady = d.ready := by
    obtain ⟨stuck, ready⟩ := stuck_world (flight d.tcpMgr) (stopped.stuck d earlier) stepped
    exact ⟨stuck, ready.trans (stopped.ready d earlier)⟩
  rcases noteFailed_cases t.now u.now e t.past with same | ⟨i, te, target, failed, added⟩
  · rw [same] at noted
    refine ⟨?_, ?_, ?_⟩
    · rw [noted]
      exact fun d earlier => (kept d earlier).1
    · rw [noted]
      exact fun d earlier => (kept d earlier).2
    · rw [noted]
      exact stopped.once
  · rw [added] at noted
    have moved := target_step target stepped
    have now := Tcp.stuck_of_readFailure (flight i) failed moved
    have fresh : i ∉ t.past.map Failed.tcpMgr := by
      intro before
      obtain ⟨d, earlier, rfl⟩ := List.mem_map.mp before
      exact Tcp.stuck_no_readFailure (flight d.tcpMgr) (stopped.stuck d earlier) moved failed
    refine ⟨?_, ?_, ?_⟩
    · rw [noted]
      intro d member
      rcases List.mem_append.mp member with earlier | last
      · exact (kept d earlier).1
      · obtain rfl := List.mem_singleton.mp last
        exact now
    · rw [noted]
      intro d member
      rcases List.mem_append.mp member with earlier | last
      · exact (kept d earlier).2
      · obtain rfl := List.mem_singleton.mp last
        exact (Tcp.readFailure_same failed moved).isReady
    · rw [noted, List.map_append, List.map_singleton]
      apply List.Nodup.append stopped.once (List.nodup_singleton _)
      intro j earlier last
      obtain rfl := List.mem_singleton.mp last
      exact fresh earlier

theorem reachable_flights {mqInfo : MqInfo} {w : World}
    (reached : Reachable (step lib) (World.start mqInfo) w) (i : Nat) :
    Tcp.InFlight (w.tcps i) :=
  Tcp.reachable_inFlight (reach_transport (fun _ _ _ _ _ _ => trivial) reached i)

theorem reachable_stopped {mqInfo : MqInfo} {t : Traced World (List Failed)}
    (reached : Reachable (traced (step lib) noteFailed) ⟨World.start mqInfo, []⟩ t) :
    Stopped t := by
  apply reached.invariant Stopped
  · exact ⟨fun d member => (by cases member), fun d member => (by cases member), List.nodup_nil⟩
  · intro t e u before stopped _ taken
    exact stopped_step (reachable_flights before.untraced) stopped taken

theorem onData_of_outside {w v : World} {e : Event} {k : ConnId}
    (outside : (w.tcps k.tcpMgr).phase ≠ .parsing) (called : w.callsBack e = some k)
    (taken : step lib w e = some v) : e.isOnData = true := by
  by_contra other
  have parses := parses_of_callsBack called (Bool.eq_false_iff.mpr other) taken
  exact outside parses.2.1

-- `onData` is the only event that the library still makes of it, and a `StartMqInstance` that waits
-- for its login fails unless that had succeeded before.
structure Silenced (lib : Library) (w : World) (d : Failed) : Prop where
  silent : ∀ e k v, w.callsBack e = some k → k.tcpMgr = d.tcpMgr → step lib w e = some v →
    e.isOnData = true
  login : d.ready = false → w.user = .waitForReady → w.ses.pTcpMgr = some d.tcpMgr →
    (waitForReady w).returns = w.returns ++ [(.startMqInstance, some "Rmq登录失败")]

theorem failed_transports_silent {mqInfo : MqInfo} {t : Traced World (List Failed)}
    (reached : Reachable (traced (step lib) noteFailed) ⟨World.start mqInfo, []⟩ t) :
    (t.past.map Failed.tcpMgr).Nodup ∧ ∀ d ∈ t.past, Silenced lib t.now d := by
  have stopped := reachable_stopped reached
  refine ⟨stopped.once, fun d member => ⟨?_, ?_⟩⟩
  · intro e k v called same taken
    have stuck := stopped.stuck d member
    rw [← same] at stuck
    exact onData_of_outside (Tcp.deaf_of_stuck stuck).parsing called taken
  · intro before waiting current
    have now := stopped.ready d member
    rw [before] at now
    simp [waitForReady, current, now, World.returned]

open Run

theorem login_lost :
    ∃ t, (Reachable (traced (step accepting) noteFailed) ⟨World.start fanout, []⟩ t ∧
        t.past = [⟨0, false⟩] ∧ t.now.user = .waitForReady ∧ t.now.ses.pTcpMgr = some 0 ∧
        (t.now.tcps 0).up = true) ∧
      (t.past.map Failed.tcpMgr).Nodup ∧ ∀ d ∈ t.past, Silenced accepting t.now d := by
  have ran : ∃ t : Traced World (List Failed),
      Reach (traced (step accepting) noteFailed) anyStep ⟨World.start fanout, []⟩ t ∧
        t.past = [⟨0, false⟩] ∧ t.now.user = .waitForReady ∧ t.now.ses.pTcpMgr = some 0 ∧
        (t.now.tcps 0).up = true :=
    run_reaches ([.startMqInstance none] ++ connects ++ readFails ++ connects) (by decide +kernel)
  obtain ⟨t, reached, lost⟩ := ran
  exact ⟨t, ⟨reached, lost⟩, failed_transports_silent reached⟩

def withoutStart (_ : World) (e : Event) : Prop :=
  e ≠ .startMqInstance none

instance (w : World) (e : Event) : Decidable (withoutStart w e) :=
  inferInstanceAs (Decidable (_ ≠ _))

def AllStuck (w : World) : Prop :=
  ∀ i, i < w.tcpCount → (Tcp.recvQueue (w.tcps i)).Stuck

structure Unheard (w v : World) : Prop where
  status : v.ses.status = some true → w.ses.status = some true
  setUps : setUpCalls v.ses = setUpCalls w.ses
  acks : acks v.ses = acks w.ses
  failures : v.failures = w.failures

theorem Unheard.trans {w v u : World} (first : Unheard w v) (second : Unheard v u) : Unheard w u where
  status told := first.status (second.status told)
  setUps := second.setUps.trans first.setUps
  acks := second.acks.trans first.acks
  failures := second.failures.trans first.failures

theorem AllStuck.quiet {w v : World} {e : Event} (stuck : AllStuck w)
    (other : e.isOnData = false) (taken : step lib w e = some v) : w.callsBack e = none := by
  rw [Option.eq_none_iff_forall_ne_some]
  intro k called
  have parses := parses_of_callsBack called other taken
  exact (Tcp.deaf_of_stuck (stuck _ parses.1)).parsing parses.2.1

theorem tcpCount_withoutStart {w v : World} {e : Event} (free : withoutStart w e)
    (taken : step lib w e = some v) : v.tcpCount = w.tcpCount := by
  cases step_took taken with
  | started => exact absurd rfl free
  | _ => rfl

theorem unheard_step {w v : World} {e : Event} (stuck : AllStuck w) (free : withoutStart w e)
    (taken : step lib w e = some v) : Unheard w v := by
  have quiet (other : e.isOnData = false) := stuck.quiet other taken
  refine ⟨?_, ?_, ?_, ?_⟩
  · have moved := step_moved taken
    generalize v.ses = s at moved ⊢
    intro told
    cases moved with
    | framed frame => exact frame.status ▸ told
    | onReady => exact told
    | reportReady | reportError => cases quiet rfl
    | started => exact absurd rfl free
    | fetched => exact (getMqConnection_status w.ses).symm.trans told
    | created _ result =>
      have same := @createMqChannel_status lib w.getConnection w.ses
      rw [result] at same
      exact same.symm.trans told
    | notCreated => cases told
  · have moved := step_moved taken
    generalize v.ses = s at moved ⊢
    cases moved with
    | framed frame => exact frame.setUpCalls
    | onReady => rfl
    | reportReady | reportError => cases quiet rfl
    | started => rfl
    | fetched =>
      unfold getMqConnection
      split <;> rfl
    | created _ result | notCreated _ result =>
      have recreates : Recreates lib 1 w.ses (createMqChannel lib w.getConnection w.ses).1 :=
        createMqChannel_recreates w.ses
      have same := recreates.calls
      rw [result] at same
      exact same
  · have acked := acks_step taken
    cases e with
    | consumeRecvedCb => cases quiet rfl
    | _ => simpa [Event.delivers] using acked
  · cases step_took taken with
    | reportError => cases quiet rfl
    | _ => rfl

theorem allStuck_step {w v : World} {e : Event} (flight : ∀ i, Tcp.InFlight (w.tcps i))
    (stuck : AllStuck w) (free : withoutStart w e) (taken : step lib w e = some v) :
    AllStuck v := by
  intro i inside
  rw [tcpCount_withoutStart free taken] at inside
  exact (stuck_world (flight i) (stuck i inside) taken).1

theorem all_failed_unheard {mqInfo : MqInfo} {t : Traced World (List Failed)} {w : World}
    (reached : Reachable (traced (step lib) noteFailed) ⟨World.start mqInfo, []⟩ t)
    (failed : ∀ i < t.now.tcpCount, ∃ d ∈ t.past, d.tcpMgr = i)
    (later : Reach (step lib) withoutStart t.now w) :
    Unheard t.now w ∧
      ∀ e k v, w.callsBack e = some k → step lib w e = some v → e.isOnData = true := by
  have stopped := reachable_stopped reached
  have stuck : AllStuck t.now := by
    intro i inside
    obtain ⟨d, member, rfl⟩ := failed i inside
    exact stopped.stuck d member
  have kept := later.invariant (fun w => AllStuck w ∧ Unheard t.now w)
    ⟨stuck, ⟨id, rfl, rfl, rfl⟩⟩ ?_
  · refine ⟨kept.2, fun e k v called taken => ?_⟩
    by_contra other
    rw [kept.1.quiet (Bool.eq_false_iff.mpr other) taken] at called
    cases called
  · intro w e v before held free taken
    have whole := reached.untraced.trans before.reachable
    exact ⟨allStuck_step (reachable_flights whole) held.1 free taken,
      held.2.trans (unheard_step held.1 free taken)⟩

theorem lost_session_unheard :
    ∃ t w, (Reachable (traced (step accepting) noteFailed) ⟨World.start fanout, []⟩ t ∧
        t.past = [⟨0, true⟩] ∧ t.now.tcpCount = 1 ∧
        Reach (step accepting) withoutStart t.now w ∧ (w.tcps 0).up = true ∧
        w.ses.status = some true) ∧
      Unheard t.now w ∧
        ∀ e k v, w.callsBack e = some k → step accepting w e = some v → e.isOnData = true := by
  have ran : ∃ t : Traced World (List Failed),
      Reach (traced (step accepting) noteFailed) anyStep ⟨World.start fanout, []⟩ t ∧
        t.past = [⟨0, true⟩] ∧ t.now.tcpCount = 1 ∧
        (run (step accepting) withoutStart t.now connects).any (fun w =>
          decide ((w.tcps 0).up = true ∧ w.ses.status = some true)) = true :=
    run_reaches (startAndLogIn ++ channelOpens 0 ++ readFails) (by decide +kernel)
  obtain ⟨t, reached, lost, one, ran⟩ := ran
  obtain ⟨w, later, up, told⟩ := run_reaches connects ran
  refine ⟨t, w, ⟨reached, lost, one, later, up, told⟩, ?_⟩
  apply all_failed_unheard reached _ later
  intro i inside
  obtain rfl : i = 0 := by omega
  exact ⟨⟨0, true⟩, by simp [lost], rfl⟩

end RmqMgr.Session
