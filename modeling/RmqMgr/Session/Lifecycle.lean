import RmqMgr.Session.Replacement

set_option autoImplicit false

-- A transport runs from the start of its worker thread in `Init` until `Finit` has joined it.
-- Only `ReleaseMqInstance` calls `Finit`, and only when both closes before it went well.

namespace RmqMgr.Session

open Transition

structure Managed where
  world : World
  running : List Nat := []
  destroyed : Bool := false

inductive ManagedEvent where
  | world (e : Event)
  | startThrew (what : String)
  | finitThrew (what : String)
  | destroy
  deriving DecidableEq, Repr

def Event.inTransport : Event → Bool
  | .transport _ _ => true
  | .onData _ _ _ => true
  | _ => false

def UserPhase.finishing : UserPhase → Bool
  | .finitClose => true
  | .finitStop => true
  | .finitJoin => true
  | _ => false

def runningAfter (w : World) (running : List Nat) : Event → List Nat
  | .startMqInstance none => running ++ [w.tcpCount]
  | .finitJoin => running.filter fun i => w.ses.pTcpMgr ≠ some i
  | _ => running

variable (lib : Library)

-- An exception after `Init`, or out of `Finit`, ends the call as well.
def Managed.step (m : Managed) : ManagedEvent → Option Managed
  | .world e =>
    if m.destroyed = false ∨ e.inTransport = true then
      (Session.step lib m.world e).map fun w =>
        { m with world := w, running := runningAfter m.world m.running e }
    else none
  | .startThrew what =>
    if 0 < m.world.user.starting ∧ m.world.ses.fault = false then
      let err := "初始化mq实例失败：" ++ what
      some { m with
        world := { m.world with ses := onRtnErrMsg err m.world.ses }.returned .startMqInstance
          (some err) }
    else none
  | .finitThrew what =>
    if m.world.user.finishing = true ∧ m.world.ses.fault = false then
      some { m with
        world := m.world.returned .releaseMqInstance (some ("释放mq实例失败：" ++ what)) }
    else none
  | .destroy =>
    if m.world.user = .idle ∧ m.world.ses.fault = false ∧ m.destroyed = false then
      some { m with destroyed := true }
    else none

def World.lastCall (w : World) : Option (Api × Option String) :=
  (w.returns.filter fun result => result.1 ≠ .publishMsg).getLast?

def World.ended (w : World) : Prop :=
  w.user = .idle ∧ ∃ last ∈ w.lastCall, last ≠ (.startMqInstance, none)

instance (w : World) : Decidable w.ended :=
  inferInstanceAs (Decidable (_ ∧ ∃ _ ∈ _, _))

structure NoLeak (m : Managed) : Prop where
  one : m.running.length ≤ 1
  ended : m.world.ended → m.running = []
  destroyed : m.destroyed = true → m.running = []
  silent : ∀ i < m.world.tcpCount, i ∉ m.running →
    (m.world.tcps i).stopped = true ∧ (m.world.tcps i).phase = .idle

instance (m : Managed) : Decidable (NoLeak m) :=
  decidable_of_iff (m.running.length ≤ 1 ∧ (m.world.ended → m.running = []) ∧
      (m.destroyed = true → m.running = []) ∧ ∀ i < m.world.tcpCount, i ∉ m.running →
        (m.world.tcps i).stopped = true ∧ (m.world.tcps i).phase = .idle)
    ⟨fun ⟨one, ended, destroyed, silent⟩ => ⟨one, ended, destroyed, silent⟩,
      fun ⟨one, ended, destroyed, silent⟩ => ⟨one, ended, destroyed, silent⟩⟩

/-- `StartMqInstance` is called while nothing runs, logs in and makes its channel; a release of what
runs gets through all its parts; and the manager is destroyed while nothing runs. -/
def getsThrough (m : Managed) : ManagedEvent → Prop
  | .world (.startMqInstance _) => m.running = []
  | .world .waitForReady => ∀ i ∈ m.world.ses.pTcpMgr, (m.world.tcps i).isReady = true
  | .world .createMqChannel =>
    (createMqChannel lib m.world.getConnection m.world.ses).2 = none
  | .world .releaseMqInstance => m.running = [] ∨ (closeMqChannel lib m.world.ses).2 = none
  | .world .closeMqConnection => m.running = [] ∨ (closeMqConnection lib m.world.ses).2 = none
  | .world _ => True
  | .startThrew _ => False
  | .finitThrew _ => m.running = []
  | .destroy => m.running = []

instance (m : Managed) (e : ManagedEvent) : Decidable (getsThrough lib m e) :=
  match e with
  | .world (.startMqInstance _) => inferInstanceAs (Decidable (_ = _))
  | .world .waitForReady => inferInstanceAs (Decidable (∀ _ ∈ _, _))
  | .world .createMqChannel => inferInstanceAs (Decidable (_ = _))
  | .world .releaseMqInstance | .world .closeMqConnection =>
    inferInstanceAs (Decidable (_ ∨ _))
  | .world (.transport _ _) | .world (.onData _ _ _) | .world (.onReady _) | .world (.onError _ _)
  | .world (.onClosed _) | .world (.reportReady _) | .world (.reportError _ _)
  | .world (.reportSuccess _) | .world (.reportClosed _) | .world (.consumeRecvedCb _ _ _)
  | .world .getMqConnection | .world (.publishMsg _) | .world .finitClose | .world .finitStop
  | .world .finitJoin => inferInstanceAs (Decidable True)
  | .startThrew _ => inferInstanceAs (Decidable False)
  | .finitThrew _ | .destroy => inferInstanceAs (Decidable (_ = _))

variable {lib : Library}

theorem lastCall_returned (api : Api) (result : Option String) (w : World) :
    (w.returned api result).lastCall =
      if api = .publishMsg then w.lastCall else some (api, result) := by
  by_cases publish : api = .publishMsg
  · simp [World.lastCall, World.returned, List.filter_append, publish]
  · simp [World.lastCall, World.returned, List.filter_append, publish]

structure Workers (m : Managed) : Prop where
  starting : 0 < m.world.user.starting → ∃ i ∈ m.running, m.world.ses.pTcpMgr = some i
  stopping : m.world.user = .finitJoin → ∀ i, m.world.ses.pTcpMgr = some i →
    (m.world.tcps i).stopped = true
  silent : ∀ i < m.world.tcpCount, i ∉ m.running →
    (m.world.tcps i).stopped = true ∧ (m.world.tcps i).phase = .idle

theorem world_step {m n : Managed} {e : Event} (taken : m.step lib (.world e) = some n) :
    ∃ v, step lib m.world e = some v ∧ (m.destroyed = false ∨ e.inTransport = true) ∧
      n = { m with world := v, running := runningAfter m.world m.running e } := by
  simp only [Managed.step, Option.ite_none_right_eq_some, Option.map_eq_some_iff] at taken
  obtain ⟨alive, v, stepped, rfl⟩ := taken
  exact ⟨v, stepped, alive, rfl⟩

theorem managed_step {m n : Managed} {e : ManagedEvent} (taken : m.step lib e = some n) :
    match e with
    | .world _ => True
    | .startThrew what => 0 < m.world.user.starting ∧ n = { m with
        world := { m.world with
          ses := onRtnErrMsg ("初始化mq实例失败：" ++ what) m.world.ses }.returned .startMqInstance
            (some ("初始化mq实例失败：" ++ what)) }
    | .finitThrew what => m.world.user.finishing = true ∧ n = { m with
        world := m.world.returned .releaseMqInstance (some ("释放mq实例失败：" ++ what)) }
    | .destroy => m.world.user = .idle ∧ n = { m with destroyed := true } := by
  cases e with
  | world => trivial
  | startThrew | finitThrew | destroy =>
    simp only [Managed.step, Option.ite_none_right_eq_some, Option.some.injEq] at taken
    exact ⟨taken.1.1, taken.2.symm⟩

theorem silent_step {w v : World} {e : Event} (taken : step lib w e = some v) {i : Nat}
    (silent : (w.tcps i).stopped = true ∧ (w.tcps i).phase = .idle) :
    (v.tcps i).stopped = true ∧ (v.tcps i).phase = .idle := by
  rcases step_tcp i taken with same | ⟨te, _, stepped⟩
  · rw [same]
    exact silent
  · obtain ⟨stopped, idle⟩ := Tcp.stopped_step stepped silent.1
    exact ⟨stopped, idle silent.2⟩

theorem stopped_kept {w v : World} {e : Event} (taken : step lib w e = some v) {i : Nat}
    (stopped : (w.tcps i).stopped = true) : (v.tcps i).stopped = true := by
  rcases step_tcp i taken with same | ⟨te, _, stepped⟩
  · rw [same]
    exact stopped
  · exact (Tcp.stopped_step stepped stopped).1

theorem Workers.kept {m : Managed} {v : World} {e : Event} (workers : Workers m)
    (taken : step lib m.world e = some v) (pTcpMgr : v.ses.pTcpMgr = m.world.ses.pTcpMgr)
    (count : v.tcpCount = m.world.tcpCount)
    (user : v.user = m.world.user ∨
      (v.user.starting = 0 ∨ 0 < m.world.user.starting) ∧ v.user ≠ .finitJoin) :
    Workers { m with world := v } := by
  obtain ⟨starting, stopping, silent⟩ := workers
  refine ⟨?_, ?_, ?_⟩
  · intro starts
    rw [pTcpMgr]
    apply starting
    rcases user with same | ⟨none | before, _⟩
    · rwa [← same]
    · simp only at starts
      omega
    · exact before
  · intro joins i current
    rw [pTcpMgr] at current
    rcases user with same | ⟨_, other⟩
    · exact stopped_kept taken (stopping (same.symm.trans joins) i current)
    · exact absurd joins other
  · intro i inside absent
    rw [count] at inside
    exact silent_step taken (silent i inside absent)

theorem workers_step {m n : Managed} {e : ManagedEvent} (workers : Workers m)
    (taken : m.step lib e = some n) : Workers n := by
  cases e with
  | world e =>
    obtain ⟨v, stepped, _, rfl⟩ := world_step taken
    have same := pTcpMgr_step stepped
    cases step_took stepped with
    | started idle =>
      obtain ⟨_, _, silent⟩ := workers
      refine ⟨fun _ => ⟨m.world.tcpCount, by simp [runningAfter], rfl⟩,
        fun joins => (by cases joins), ?_⟩
      intro i inside absent
      simp only [runningAfter, List.mem_append, List.mem_singleton, not_or] at inside absent
      exact silent i (by omega) absent.1
    | finitStop waiting some stopping =>
      refine ⟨fun starts => absurd starts (by simp [UserPhase.starting]), ?_, ?_⟩
      · intro _ j current
        obtain rfl := Option.some.inj (some.symm.trans current)
        obtain rfl := Option.some.inj stopping
        simp [World.setTcp]
      · exact fun j inside absent => silent_step stepped (workers.silent j inside absent)
    | @finitJoin i waiting some idle =>
      refine ⟨fun starts => absurd starts (by simp [UserPhase.starting]),
        fun joins => (by cases joins), ?_⟩
      intro j inside absent
      by_cases current : m.world.ses.pTcpMgr = Option.some j
      · obtain rfl := Option.some.inj (some.symm.trans current)
        exact ⟨workers.stopping waiting i some, idle⟩
      · refine workers.silent j inside fun runs => absent ?_
        exact List.mem_filter.mpr ⟨runs, by simpa using current⟩
    | finitFaulted finit none =>
      have unchanged : runningAfter m.world m.running e = m.running := by
        rcases finit with ⟨rfl, _⟩ | ⟨rfl, _⟩ | ⟨rfl, _⟩ <;> simp [runningAfter, none]
      rw [unchanged]
      exact workers.kept stepped rfl rfl (.inl rfl)
    | startFailed | timedOut | startSucceeded | channelFailed | publishMsg =>
      obtain same | ⟨impossible, _⟩ := same
      · exact workers.kept stepped same rfl (.inr ⟨.inl rfl, by simp⟩)
      · cases impossible
    | waited waiting | getMqConnection waiting =>
      obtain same | ⟨impossible, _⟩ := same
      · refine workers.kept stepped same rfl (.inr ⟨.inr ?_, by simp⟩)
        simp [waiting, UserPhase.starting]
      · cases impossible
    | releaseMqInstance _ _ user | closeMqConnection _ _ user =>
      obtain same | ⟨impossible, _⟩ := same
      · refine workers.kept stepped same rfl (.inr ?_)
        rcases user with rfl | rfl <;> simp [UserPhase.starting]
      · cases impossible
    | finitClose =>
      exact workers.kept stepped rfl rfl (.inr ⟨.inl rfl, by simp⟩)
    | _ =>
      obtain same | ⟨impossible, _⟩ := same
      · exact workers.kept stepped same rfl (.inl rfl)
      · cases impossible
  | startThrew what =>
    obtain ⟨_, rfl⟩ := managed_step taken
    exact ⟨fun starts => absurd starts (by simp [World.returned, UserPhase.starting]),
      fun joins => (by cases joins), workers.silent⟩
  | finitThrew what =>
    obtain ⟨_, rfl⟩ := managed_step taken
    exact ⟨fun starts => absurd starts (by simp [World.returned, UserPhase.starting]),
      fun joins => (by cases joins), workers.silent⟩
  | destroy =>
    obtain ⟨_, rfl⟩ := managed_step taken
    exact ⟨workers.starting, workers.stopping, workers.silent⟩

theorem reachable_workers {mqInfo : MqInfo} {m : Managed}
    (reached : Reachable (Managed.step lib) ⟨World.start mqInfo, [], false⟩ m) : Workers m := by
  apply reached.invariant Workers
  · exact ⟨fun starts => absurd starts (by simp [World.start, UserPhase.starting]),
      fun joins => (by cases joins), fun i inside => (by cases inside)⟩
  · exact fun _ _ _ _ workers _ taken => workers_step workers taken

structure OwnsWorker (m : Managed) : Prop where
  own : m.running = [] ∨ ∃ i, m.running = [i] ∧ m.world.ses.pTcpMgr = some i
  idle : m.world.user = .idle → m.running = [] ∨ m.world.lastCall = some (.startMqInstance, none)
  destroyed : m.destroyed = true → m.running = []

theorem OwnsWorker.nothing {m : Managed} (none : m.running = []) : OwnsWorker m :=
  ⟨.inl none, fun _ => .inl none, fun _ => none⟩

theorem OwnsWorker.kept {m : Managed} {v : World} (owns : OwnsWorker m)
    (pTcpMgr : v.ses.pTcpMgr = m.world.ses.pTcpMgr)
    (idle : v.user = .idle → m.running = [] ∨ v.lastCall = some (.startMqInstance, none)) :
    OwnsWorker { m with world := v } :=
  ⟨by simp only [pTcpMgr]; exact owns.own, idle, owns.destroyed⟩

theorem OwnsWorker.noLeak {m : Managed} (owns : OwnsWorker m) (workers : Workers m) : NoLeak m := by
  refine ⟨?_, ?_, owns.destroyed, workers.silent⟩
  · rcases owns.own with none | ⟨i, one, _⟩
    · simp [none]
    · simp [one]
  · rintro ⟨idle, last, called, other⟩
    rcases owns.idle idle with none | started
    · exact none
    · rw [started] at called
      exact absurd (Option.mem_some_iff.mp called).symm other

theorem releaseStep_returns (call : RmqMgrBase → RmqMgrBase × Option String) (next : UserPhase)
    (w : World) :
    match (call w.ses).2 with
    | none => (releaseStep call next w).user = next
    | some err => (releaseStep call next w).user = .idle ∧
        (releaseStep call next w).lastCall = some (.releaseMqInstance, some err) := by
  unfold releaseStep
  generalize call w.ses = result
  obtain ⟨s, err⟩ := result
  cases err with
  | none => rfl
  | some err => exact ⟨rfl, lastCall_returned .releaseMqInstance _ _⟩

theorem idle_after {m : Managed} {v : World} {e : Event} (owns : OwnsWorker m)
    (through : getsThrough lib m (.world e)) (stepped : step lib m.world e = some v)
    (joins : e ≠ .finitJoin) (idle : v.user = .idle) :
    m.running = [] ∨ v.lastCall = some (.startMqInstance, none) := by
  cases e with
  | startMqInstance thrown => exact .inl through
  | waitForReady =>
    obtain ⟨waiting, rfl⟩ := user_step stepped
    cases current : m.world.ses.pTcpMgr with
    | none => simp [waitForReady, current, waiting] at idle
    | some i =>
      have ready : (m.world.tcps i).isReady = true := through i current
      simp [waitForReady, current, ready] at idle
  | createMqChannel =>
    have created : (createMqChannel lib m.world.getConnection m.world.ses).2 = none := through
    obtain ⟨_, rfl⟩ := user_step stepped
    unfold startMqChannel
    generalize createMqChannel lib m.world.getConnection m.world.ses = result at created ⊢
    obtain ⟨s, err⟩ := result
    obtain rfl : err = none := created
    exact .inr (lastCall_returned .startMqInstance none _)
  | publishMsg msg =>
    obtain ⟨before, rfl⟩ := user_step stepped
    rw [lastCall_returned, if_pos rfl]
    exact owns.idle before
  | releaseMqInstance =>
    obtain ⟨_, rfl⟩ := user_step stepped
    refine through.imp_right fun closed => ?_
    have returns := releaseStep_returns (closeMqChannel lib) .closeMqConnection m.world
    rw [closed, idle] at returns
    cases returns
  | closeMqConnection =>
    obtain ⟨_, rfl⟩ := user_step stepped
    refine through.imp_right fun closed => ?_
    have returns := releaseStep_returns (closeMqConnection lib) .finitClose m.world
    rw [closed, idle] at returns
    cases returns
  | finitJoin => exact absurd rfl joins
  | getMqConnection =>
    cases step_took stepped with
    | getMqConnection => cases idle
    | finitFaulted => exact owns.idle idle
  | finitClose =>
    cases step_took stepped with
    | finitClose => cases idle
    | finitFaulted => exact owns.idle idle
  | finitStop =>
    cases step_took stepped with
    | finitStop => cases idle
    | finitFaulted => exact owns.idle idle
  | _ =>
    cases step_took stepped with
    | _ => exact owns.idle idle

theorem owns_step {m n : Managed} {e : ManagedEvent} (owns : OwnsWorker m)
    (through : getsThrough lib m e) (taken : m.step lib e = some n) : OwnsWorker n := by
  cases e with
  | world e =>
    obtain ⟨v, stepped, alive, rfl⟩ := world_step taken
    by_cases starts : e = .startMqInstance none
    · subst starts
      have nothing : m.running = [] := through
      have living : m.destroyed = false := alive.resolve_right (by simp [Event.inTransport])
      cases step_took stepped with
      | started =>
        refine ⟨.inr ⟨m.world.tcpCount, by simp [runningAfter, nothing], rfl⟩,
          fun idle => (by cases idle), fun destroyed => ?_⟩
        rw [living] at destroyed
        cases destroyed
      | finitFaulted finit => simp at finit
    · have same := (pTcpMgr_step stepped).resolve_right fun started => starts started.1
      by_cases joins : e = .finitJoin
      · subst joins
        refine .nothing ?_
        rcases owns.own with none | ⟨i, one, current⟩
        · simp [runningAfter, none]
        · simp [runningAfter, one, current]
      · have unchanged : runningAfter m.world m.running e = m.running := by
          cases e with
          | startMqInstance thrown =>
            cases thrown with
            | none => exact absurd rfl starts
            | some what => rfl
          | finitJoin => exact absurd rfl joins
          | _ => rfl
        rw [unchanged]
        exact owns.kept same (idle_after owns through stepped joins)
  | startThrew what => exact absurd through not_false
  | finitThrew what =>
    obtain ⟨_, rfl⟩ := managed_step taken
    exact .nothing through
  | destroy =>
    obtain ⟨_, rfl⟩ := managed_step taken
    exact .nothing through

theorem failed_leaks {m : Managed} {api : Api} {err : String} (idle : m.world.user = .idle)
    (last : m.world.lastCall = some (api, some err)) (busy : m.running ≠ []) : ¬ NoLeak m := by
  intro held
  exact busy (held.ended ⟨idle, _, last, by simp⟩)

theorem Workers.busy {m : Managed} (workers : Workers m) (starting : 0 < m.world.user.starting) :
    m.running ≠ [] := by
  obtain ⟨i, member, _⟩ := workers.starting starting
  exact List.ne_nil_of_mem member

theorem released_leaks {m : Managed} {next : UserPhase}
    {call : RmqMgrBase → RmqMgrBase × Option String} (failed : (call m.world.ses).2 ≠ none)
    (busy : m.running ≠ []) : ¬ NoLeak { m with world := releaseStep call next m.world } := by
  obtain ⟨err, failed⟩ := Option.ne_none_iff_exists'.mp failed
  have returns := releaseStep_returns call next m.world
  rw [failed] at returns
  exact failed_leaks returns.1 returns.2 busy

theorem leak_step {m n : Managed} {e : ManagedEvent} (workers : Workers m)
    (stuck : ¬ getsThrough lib m e) (taken : m.step lib e = some n) : ¬ NoLeak n := by
  cases e with
  | world e =>
    obtain ⟨v, stepped, _, rfl⟩ := world_step taken
    cases e with
    | startMqInstance thrown =>
      have busy : m.running ≠ [] := stuck
      cases thrown with
      | none =>
        intro held
        have one := held.one
        have positive := List.length_pos_of_ne_nil busy
        simp only [runningAfter, List.length_append, List.length_singleton] at one
        omega
      | some what =>
        obtain ⟨_, rfl⟩ := user_step stepped
        exact failed_leaks rfl (lastCall_returned .startMqInstance _ _) busy
    | waitForReady =>
      obtain ⟨waiting, rfl⟩ := user_step stepped
      have busy := workers.busy (by simp [waiting, UserPhase.starting])
      cases current : m.world.ses.pTcpMgr with
      | none => exact absurd (fun i same => by simp [current] at same) stuck
      | some i =>
        have late : ¬ (m.world.tcps i).isReady = true := by
          refine fun ready => stuck fun j same => ?_
          rwa [← Option.some.inj (current.symm.trans same)]
        simp only [waitForReady, current, late]
        exact failed_leaks rfl (lastCall_returned .startMqInstance _ _) busy
    | createMqChannel =>
      have failed : (createMqChannel lib m.world.getConnection m.world.ses).2 ≠ none := stuck
      obtain ⟨waiting, rfl⟩ := user_step stepped
      have busy := workers.busy (by simp [waiting, UserPhase.starting])
      unfold startMqChannel
      generalize createMqChannel lib m.world.getConnection m.world.ses = result at failed ⊢
      obtain ⟨s, err⟩ := result
      obtain ⟨err, rfl⟩ := Option.ne_none_iff_exists'.mp failed
      exact failed_leaks rfl (lastCall_returned .startMqInstance _ _) busy
    | releaseMqInstance =>
      obtain ⟨busy, failed⟩ := not_or.mp stuck
      obtain ⟨_, rfl⟩ := user_step stepped
      exact released_leaks failed busy
    | closeMqConnection =>
      obtain ⟨busy, failed⟩ := not_or.mp stuck
      obtain ⟨_, rfl⟩ := user_step stepped
      exact released_leaks failed busy
    | _ => exact absurd trivial stuck
  | startThrew what =>
    obtain ⟨starting, rfl⟩ := managed_step taken
    exact failed_leaks rfl (lastCall_returned .startMqInstance _ _) (workers.busy starting)
  | finitThrew what =>
    obtain ⟨_, rfl⟩ := managed_step taken
    exact failed_leaks rfl (lastCall_returned .releaseMqInstance _ _) stuck
  | destroy =>
    obtain ⟨_, rfl⟩ := managed_step taken
    exact fun held => stuck (held.destroyed rfl)

theorem transports_joined {mqInfo : MqInfo} (m : Managed) :
    (Reach (Managed.step lib) (getsThrough lib) ⟨World.start mqInfo, [], false⟩ m → NoLeak m) ∧
      ∀ e n, Reachable (Managed.step lib) ⟨World.start mqInfo, [], false⟩ m →
        m.step lib e = some n → ¬ getsThrough lib m e → ¬ NoLeak n := by
  constructor
  · intro reached
    have owns : OwnsWorker m := by
      apply reached.invariant OwnsWorker (.nothing rfl)
      exact fun _ _ _ _ owns through taken => owns_step owns through taken
    exact owns.noLeak (reachable_workers reached.reachable)
  · intro e n reached taken stuck
    exact leak_step (reachable_workers reached) stuck taken

open Run

def release : List Event :=
  [.releaseMqInstance, .closeMqConnection, .finitClose, .finitStop, .finitJoin]

theorem released_joined :
    (∃ m, (Reach (Managed.step accepting) (getsThrough accepting) ⟨World.start fanout, [], false⟩ m ∧
          m.world.lastCall = some (.releaseMqInstance, none) ∧ m.destroyed = true) ∧ NoLeak m) ∧
      ∃ m n, (Reachable (Managed.step accepting) ⟨World.start fanout, [], false⟩ m ∧
          m.step accepting (.world .waitForReady) = some n ∧
          ¬ getsThrough accepting m (.world .waitForReady)) ∧ ¬ NoLeak n := by
  constructor
  · have ran : ∃ m, Reach (Managed.step accepting) (getsThrough accepting)
        ⟨World.start fanout, [], false⟩ m ∧
        m.world.lastCall = some (.releaseMqInstance, none) ∧ m.destroyed = true :=
      run_reaches ((startAndLogIn ++ channelOpens 0 ++ release).map .world ++ [.destroy])
        (by decide +kernel)
    obtain ⟨m, reached, released⟩ := ran
    exact ⟨m, ⟨reached, released⟩, (transports_joined m).1 reached⟩
  · have ran : ∃ m, Reach (Managed.step accepting) anyStep ⟨World.start fanout, [], false⟩ m ∧
        (m.step accepting (.world .waitForReady)).isSome = true ∧
        ¬ getsThrough accepting m (.world .waitForReady) :=
      run_reaches [.world (.startMqInstance none)] (by decide +kernel)
    obtain ⟨m, reached, enabled, late⟩ := ran
    obtain ⟨n, taken⟩ := Option.isSome_iff_exists.mp enabled
    exact ⟨m, n, ⟨reached, taken, late⟩, (transports_joined m).2 _ n reached taken late⟩

theorem timed_out_login_leaks :
    ∃ m, Reachable (Managed.step accepting) ⟨World.start fanout, [], false⟩ m ∧
      m.world.returns = [(.startMqInstance, some "Rmq登录失败")] ∧ m.running = [0] ∧ ¬ NoLeak m :=
  run_reaches [.world (.startMqInstance none), .world .waitForReady] (by decide +kernel)

end RmqMgr.Session
