import RmqMgr.Session.Generations
import RmqMgr.Session.Lifecycle
import RmqMgr.Session.Silence

set_option autoImplicit false

namespace RmqMgr.Session

open Transition
open Tcp (TcpMgr)

variable {lib : Library}

structure Frozen (s t : TcpMgr) : Prop where
  strand : s.strand <+: t.strand
  generation : t.generation = s.generation
  pConnect : t.pConnect = s.pConnect
  isReady : t.isReady = s.isReady
  parseBuf : t.parseBuf = s.parseBuf
  pendingRecvs : t.pendingRecvs = s.pendingRecvs
  pendingSends : t.pendingSends = s.pendingSends
  accepted : t.accepted = s.accepted
  passed : t.passed = s.passed

theorem Frozen.refl (s : TcpMgr) : Frozen s s :=
  ⟨List.prefix_rfl, rfl, rfl, rfl, rfl, rfl, rfl, rfl, rfl⟩

theorem Frozen.trans {s t u : TcpMgr} (first : Frozen s t) (second : Frozen t u) : Frozen s u where
  strand := first.strand.trans second.strand
  generation := second.generation.trans first.generation
  pConnect := second.pConnect.trans first.pConnect
  isReady := second.isReady.trans first.isReady
  parseBuf := second.parseBuf.trans first.parseBuf
  pendingRecvs := second.pendingRecvs.trans first.pendingRecvs
  pendingSends := second.pendingSends.trans first.pendingSends
  accepted := second.accepted.trans first.accepted
  passed := second.passed.trans first.passed

theorem frozen_step {s t : TcpMgr} {e : Tcp.Event} (stopped : s.stopped = true)
    (idle : s.phase = .idle) (taken : Tcp.step s e = some t) : Frozen s t := by
  have waits : e.isRun ≠ true := by
    intro run
    rw [Tcp.run_unstopped taken run] at stopped
    cases stopped
  cases Tcp.step_took taken with
  | connectDone | readDone | writeDone | posted | closePosted =>
    exact ⟨List.prefix_append _ _, rfl, rfl, rfl, rfl, rfl, rfl, rfl, rfl⟩
  | stopped | postFailed | errorReported | closeReported =>
    exact ⟨List.prefix_rfl, rfl, rfl, rfl, rfl, rfl, rfl, rfl, rfl⟩
  | created constructing => simp [idle] at constructing
  | parsedLast parsing | parsedNext parsing | ready parsing => simp [idle] at parsing
  | _ => exact absurd rfl waits

structure IsJoined (m : Managed) (i : Nat) : Prop where
  inside : i < m.world.tcpCount
  joined : i ∉ m.running

theorem isJoined_step {m n : Managed} {e : ManagedEvent} {i : Nat} (joined : IsJoined m i)
    (taken : m.step lib e = some n) : IsJoined n i := by
  obtain ⟨inside, absent⟩ := joined
  cases e with
  | world e =>
    obtain ⟨v, stepped, _, rfl⟩ := world_step taken
    constructor
    · rcases tcpCount_step stepped with same | ⟨_, next⟩
      · exact same ▸ inside
      · exact next ▸ Nat.lt_succ_of_lt inside
    · unfold runningAfter
      split
      · simp only [List.mem_append, List.mem_singleton, not_or]
        exact ⟨absent, Nat.ne_of_lt inside⟩
      · exact fun member => absent (List.mem_of_mem_filter member)
      · exact absent
  | startThrew | finitThrew | destroy =>
    have kept := managed_step taken
    rw [kept.2]
    exact ⟨inside, absent⟩

theorem managed_tcp {m n : Managed} {e : ManagedEvent} (i : Nat) (taken : m.step lib e = some n) :
    n.world.tcps i = m.world.tcps i ∨
      ∃ te, Tcp.step (m.world.tcps i) te = some (n.world.tcps i) := by
  cases e with
  | world e =>
    obtain ⟨v, stepped, _, rfl⟩ := world_step taken
    rcases step_tcp i stepped with same | ⟨te, _, moved⟩
    · exact .inl same
    · exact .inr ⟨te, moved⟩
  | startThrew | finitThrew | destroy =>
    have kept := managed_step taken
    rw [kept.2]
    exact .inl rfl

-- In `n`, later than `m`, the transport is as `Finit` left it, and `onData` is the only callback
-- that one of its connection objects still makes.
structure StaysJoined (lib : Library) (i : Nat) (m n : Managed) : Prop where
  frozen : Frozen (m.world.tcps i) (n.world.tcps i)
  silent : ∀ e k u, n.world.callsBack e = some k → k.tcpMgr = i →
    n.step lib (.world e) = some u → e.isOnData = true

theorem joined_inert {mqInfo : MqInfo} {m n : Managed} {i : Nat}
    (reached : Reachable (Managed.step lib) ⟨World.start mqInfo, [], false⟩ m)
    (joined : IsJoined m i) (later : Reachable (Managed.step lib) m n) : StaysJoined lib i m n := by
  have kept := later.invariant
    (fun n => IsJoined n i ∧ Frozen (m.world.tcps i) (n.world.tcps i)) ⟨joined, .refl _⟩ ?_
  · refine ⟨kept.2, fun e k u called same taken => ?_⟩
    obtain ⟨_, idle⟩ := (reachable_workers (reached.trans later)).silent i kept.1.inside kept.1.joined
    obtain ⟨v, stepped, _⟩ := world_step taken
    have outside : (n.world.tcps k.tcpMgr).phase ≠ .parsing := by simp [same, idle]
    exact onData_of_outside outside called stepped
  · intro u e v before held _ taken
    obtain ⟨stopped, idle⟩ :=
      (reachable_workers (reached.trans before)).silent i held.1.inside held.1.joined
    refine ⟨isJoined_step held.1 taken, held.2.trans ?_⟩
    rcases managed_tcp i taken with same | ⟨te, stepped⟩
    · rw [same]
      exact .refl _
    · exact frozen_step stopped idle stepped

open Run

theorem released_inert :
    ∃ m n, (Reachable (Managed.step accepting) ⟨World.start fanout, [], false⟩ m ∧
        IsJoined m 0 ∧ Reachable (Managed.step accepting) m n ∧ n.running = [1]) ∧
      StaysJoined accepting 0 m n := by
  have ran : ∃ m, Reachable (Managed.step accepting) ⟨World.start fanout, [], false⟩ m ∧
      (0 < m.world.tcpCount ∧ 0 ∉ m.running) ∧
      (run (Managed.step accepting) anyStep m
        [.world (.startMqInstance none), .world (.onData ⟨0, 1⟩ .posted [7])]).any
          (fun n => decide (n.running = [1])) = true :=
    run_reaches ((startAndLogIn ++ channelOpens 0 ++ release).map .world) (by decide +kernel)
  obtain ⟨m, reached, ⟨inside, absent⟩, ran⟩ := ran
  obtain ⟨n, later, running⟩ := run_reaches _ ran
  exact ⟨m, n, ⟨reached, ⟨inside, absent⟩, later, running⟩, joined_inert reached ⟨inside, absent⟩ later⟩

end RmqMgr.Session
