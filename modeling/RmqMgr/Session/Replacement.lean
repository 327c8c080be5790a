import RmqMgr.Session.SetUp

set_option autoImplicit false

namespace RmqMgr.Session

open Transition

variable {lib : Library} {getConnection : Nat → Option Nat}

structure Recreates (lib : Library) (n : Nat) (s t : RmqMgrBase) : Prop where
  calls : setUpCalls t = setUpCalls s
  later : s.calls.length ≤ t.calls.length
  atMost : consumersMade t ≤ consumersMade s + n
  exactly : (∀ i what, s.calls.length ≤ i → lib i ≠ .threw what) → connectionUsable s = true →
    consumersMade t = consumersMade s + n ∧ connectionUsable t = true

theorem Recreates.nothing {s t : RmqMgrBase} (calls : t.calls = s.calls)
    (usable : connectionUsable t = connectionUsable s) : Recreates lib 0 s t := by
  have made : consumersMade t = consumersMade s := by rw [consumersMade, calls, consumersMade]
  refine ⟨by rw [setUpCalls, calls, setUpCalls], Nat.le_of_eq (by rw [calls]), Nat.le_of_eq made,
    fun _ able => ⟨made, ?_⟩⟩
  rw [usable]
  exact able

theorem Recreates.trans {m n : Nat} {s t u : RmqMgrBase} (first : Recreates lib m s t)
    (second : Recreates lib n t u) : Recreates lib (m + n) s u where
  calls := second.calls.trans first.calls
  later := Nat.le_trans first.later second.later
  atMost := by
    have before := first.atMost
    have after := second.atMost
    omega
  exactly opens usable := by
    obtain ⟨before, able⟩ := first.exactly opens usable
    obtain ⟨after, able⟩ :=
      second.exactly (fun i what later => opens i what (Nat.le_trans first.later later)) able
    exact ⟨by omega, able⟩

theorem consumer_calls {s : RmqMgrBase} {pointer : Option Nat} {k : ConnId}
    {channels : Nat → Channel} {calls : List Call}
    (replaces : Replaces .consumer pointer k s channels calls) :
    calls.filterMap Call.setsUp = setUpCalls s ∧ s.calls.length ≤ calls.length ∧
      calls.countP Call.makesConsumer = consumersMade s + 1 := by
  rcases replaces.calls with rfl | ⟨d, rfl⟩
  · simp [setUpCalls, consumersMade, Call.setsUp, Call.makesConsumer]
  · simp [setUpCalls, consumersMade, Call.setsUp, Call.makesConsumer, List.countP_cons]

theorem fetched_recreates {s t : RmqMgrBase} (fetched : Fetched getConnection s t) :
    t.calls = s.calls ∧ (connectionUsable s = true → t = s) := by
  rcases fetched with ⟨_, rfl⟩ | ⟨unusable, rfl⟩
  · exact ⟨rfl, fun _ => rfl⟩
  · refine ⟨?_, fun usable => ?_⟩
    · unfold getMqConnection
      split <;> rfl
    · rw [unusable] at usable
      cases usable

theorem createMqChannel_recreates (s : RmqMgrBase) :
    Recreates lib 1 s (createMqChannel lib getConnection s).1 := by
  have created : Created lib getConnection s (createMqChannel lib getConnection s) :=
    createMqChannel_created s
  generalize createMqChannel lib getConnection s = result at created ⊢
  cases created with
  | faulted fetched none =>
    obtain ⟨calls, same⟩ := fetched_recreates fetched
    refine ⟨by rw [setUpCalls, setUpCalls, ← calls]; rfl, Nat.le_of_eq (by rw [← calls]; rfl), ?_,
      fun _ usable => ?_⟩
    · rw [consumersMade, consumersMade, ← calls]
      exact Nat.le_succ _
    · obtain rfl := same usable
      simp [connectionUsable, none] at usable
  | @refused t k what err fetched some threw =>
    obtain ⟨calls, same⟩ := fetched_recreates fetched
    refine ⟨?_, ?_, ?_, fun opens _ => absurd threw (opens _ what (Nat.le_of_eq (by rw [calls])))⟩
    · simp [setUpCalls, record, calls, Call.setsUp]
    · simp [record, calls]
    · simp [consumersMade, record, calls, Call.makesConsumer]
  | @made t k channels recorded fetched some replaces =>
    obtain ⟨calls, same⟩ := fetched_recreates fetched
    obtain ⟨setUps, later, made⟩ := consumer_calls replaces
    have before : setUpCalls t = setUpCalls s ∧ consumersMade t = consumersMade s := by
      rw [setUpCalls, consumersMade, calls]
      exact ⟨rfl, rfl⟩
    refine ⟨setUps.trans before.1, Nat.le_trans (Nat.le_of_eq (by rw [calls])) later, ?_,
      fun _ usable => ⟨?_, ?_⟩⟩
    · exact Nat.le_of_eq (made.trans (congrArg (· + 1) before.2))
    · exact made.trans (congrArg (· + 1) before.2)
    · obtain rfl := same usable
      exact usable

theorem errCb_recreates (text msg : String) (s : RmqMgrBase) :
    Recreates lib 1 s (errCb lib getConnection text msg s) := by
  have told : Recreates lib 0 s (onStatusChange false (onRtnErrMsg (text ++ msg) s)) :=
    .nothing rfl rfl
  have made : Recreates lib (0 + 1) s (errCb lib getConnection text msg s) :=
    told.trans (createMqChannel_recreates _)
  rwa [Nat.zero_add] at made

def Operation.isSetUp : Operation → Bool
  | .close => false
  | .destruct => false
  | _ => true

theorem operationErrCb_recreates (operation : Operation) (msg : String) (s : RmqMgrBase) :
    Recreates lib (if operation.isSetUp then 1 else 0) s
      (operationErrCb lib getConnection operation msg s) := by
  cases operation with
  | close | destruct => exact .nothing rfl rfl
  | _ => exact errCb_recreates _ msg s

theorem pendingErrCbs_recreates (pending : List Operation) (message : String) (s : RmqMgrBase) :
    Recreates lib (pending.countP Operation.isSetUp) s
      (pendingErrCbs lib getConnection pending message s) := by
  induction pending generalizing s with
  | nil => exact .nothing rfl rfl
  | cons operation rest ih =>
    have first : Recreates lib (if operation.isSetUp then 1 else 0) s
        (operationErrCb lib getConnection operation message s) :=
      operationErrCb_recreates operation message s
    have both := first.trans (ih _)
    rwa [Nat.add_comm, ← List.countP_cons] at both

-- The end of a channel makes one new channel for the channel itself, when it is a consumer
-- channel, and one more for every set-up operation without an answer.
theorem reportError_recreates (c : Nat) (message : String) (s : RmqMgrBase) :
    Recreates lib ((s.channels c).pending.countP Operation.isSetUp +
        if (s.channels c).role = .consumer then 1 else 0) s
      (reportError lib getConnection c message s) := by
  have ended : Recreates lib 0 s (endChannel c s) := .nothing rfl rfl
  have pending : Recreates lib (0 + (s.channels c).pending.countP Operation.isSetUp) s
      (pendingErrCbs lib getConnection (s.channels c).pending message (endChannel c s)) :=
    ended.trans (pendingErrCbs_recreates _ _ _)
  rw [Nat.zero_add] at pending
  unfold reportError
  cases role : (s.channels c).role with
  | consumer => exact pending.trans (errCb_recreates _ message _)
  | publish => exact pending.trans (.nothing rfl rfl)

theorem reportError_replaces {s : RmqMgrBase}
    (opens : ∀ i what, s.calls.length ≤ i → lib i ≠ .threw what) {c : Nat} (message : String)
    (role : (s.channels c).role = .consumer) (usable : connectionUsable s = true) :
    consumersMade (reportError lib getConnection c message s) = consumersMade s + 1 ↔
      ∀ operation ∈ (s.channels c).pending, operation.isSetUp = false := by
  have recreates : Recreates lib _ s (reportError lib getConnection c message s) :=
    reportError_recreates c message s
  have made := (recreates.exactly opens usable).1
  rw [if_pos role] at made
  have none : (s.channels c).pending.countP Operation.isSetUp = 0 ↔
      ∀ operation ∈ (s.channels c).pending, operation.isSetUp = false := by
    simp [List.countP_eq_zero]
  rw [← none, made]
  omega

def Event.fails : Event → Option Nat
  | .reportError c _ => some c
  | _ => none

def Event.readies : Event → Option Nat
  | .reportReady c => some c
  | _ => none

/-- No channel ends with a set-up operation pending, and no set-up is asked of a channel that cannot
send. -/
def replacesOnce (w : World) (e : Event) : Prop :=
  (∀ c ∈ e.fails, ∀ operation ∈ (w.ses.channels c).pending, operation.isSetUp = false) ∧
    ∀ c ∈ e.readies, (w.ses.channels c).role = .consumer →
      ∃ d ∈ w.ses.channel, sends d w.ses = true

instance (w : World) (e : Event) : Decidable (replacesOnce w e) :=
  inferInstanceAs (Decidable ((∀ _ ∈ _, ∀ _ ∈ _, _) ∧ ∀ _ ∈ _, _ → ∃ _ ∈ _, _))

def UserPhase.starting : UserPhase → Nat
  | .waitForReady => 1
  | .getMqConnection => 1
  | .createMqChannel => 1
  | _ => 0

theorem reportReady_made {c : Nat} {s : RmqMgrBase} (roles : Roles s)
    (able : (s.channels c).role = .consumer → ∃ d ∈ s.channel, sends d s = true) :
    consumersMade (reportReady lib getConnection c s) = consumersMade s := by
  cases role : (s.channels c).role with
  | publish => simp only [reportReady, role]; rfl
  | consumer =>
    obtain ⟨d, channel, able⟩ := able role
    obtain ⟨start, p, t, rfl, _, made, done, same⟩ :=
      reportReady_setsUp lib getConnection roles role channel able
    rw [same]
    exact done.made.trans made.made

theorem getMqConnection_made (s : RmqMgrBase) :
    consumersMade (getMqConnection getConnection s) = consumersMade s := by
  unfold getMqConnection
  split <;> rfl

theorem counted_step {w v : World} {e : Event} (roles : Roles w.ses) (once : replacesOnce w e)
    (taken : step lib w e = some v)
    (counted : consumersMade w.ses + w.user.starting ≤ w.failures + w.starts) :
    consumersMade v.ses + v.user.starting ≤ v.failures + v.starts := by
  have finished {made : Nat} (same : made = consumersMade w.ses) {user : UserPhase}
      (idle : user.starting = 0) : made + user.starting ≤ w.failures + w.starts := by
    omega
  cases step_took taken with
  | transport | onData | onReady | onError | onClosed | reportSuccess | reportClosed
  | waitFaulted => exact counted
  | reportReady =>
    have same : consumersMade (reportReady lib w.getConnection _ w.ses) = consumersMade w.ses :=
      reportReady_made roles (once.2 _ rfl)
    simp only
    omega
  | @reportError c message =>
    have recreates : Recreates lib _ w.ses (reportError lib w.getConnection c message w.ses) :=
      reportError_recreates c message w.ses
    have none : (w.ses.channels c).pending.countP Operation.isSetUp = 0 := by
      rw [List.countP_eq_zero]
      intro operation member
      simp [once.1 c rfl operation member]
    have made := recreates.atMost
    simp only
    omega
  | consumeRecvedCb =>
    rw [(consumeRecvedCb_frame _ _ w.ses).consumersMade]
    exact counted
  | startFailed idle =>
    change consumersMade w.ses + 0 ≤ w.failures + (w.starts + 1)
    omega
  | started idle =>
    change consumersMade w.ses + 1 ≤ w.failures + (w.starts + 1)
    simp only [idle, UserPhase.starting] at counted
    omega
  | waited waiting =>
    rw [waiting] at counted
    exact counted
  | timedOut => exact finished rfl rfl
  | getMqConnection waiting =>
    simp only [waiting, UserPhase.starting, getMqConnection_made] at counted ⊢
    exact counted
  | startSucceeded waiting result | channelFailed waiting result =>
    have recreates : Recreates lib 1 w.ses (createMqChannel lib w.getConnection w.ses).1 :=
      createMqChannel_recreates w.ses
    have made := recreates.atMost
    rw [result] at made
    rw [waiting] at counted
    exact Nat.le_trans made counted
  | @publishMsg msg _ _ _ result =>
    have frame := Frame.of_result (publishMsg_frame msg) result
    exact finished frame.consumersMade rfl
  | releaseMqInstance _ result next =>
    have frame := Frame.of_result closeMqChannel_frame result
    exact finished frame.consumersMade (by rcases next with rfl | rfl <;> rfl)
  | closeMqConnection _ result next =>
    have frame := Frame.of_result closeMqConnection_frame result
    exact finished frame.consumersMade (by rcases next with rfl | rfl <;> rfl)
  | finitClose | finitStop | finitJoin => exact finished rfl rfl
  | finitFaulted => exact counted

theorem one_replacement {mqInfo : MqInfo} :
    (∀ w, Reachable (step lib) (World.start mqInfo) w →
      (∀ i what, w.ses.calls.length ≤ i → lib i ≠ .threw what) →
      ∀ c message, w.ses.channel = some c → connectionUsable w.ses = true →
        (consumersMade (reportError lib w.getConnection c message w.ses) =
            consumersMade w.ses + 1 ↔
          ∀ operation ∈ (w.ses.channels c).pending, operation.isSetUp = false)) ∧
    ∀ w, Reach (step lib) replacesOnce (World.start mqInfo) w →
      consumersMade w.ses ≤ 1 + w.failures + w.starts := by
  constructor
  · intro w reached opens c message channel usable
    exact reportError_replaces opens message ((reachable_roles reached).channel c channel).2 usable
  · intro w reached
    have counted : consumersMade w.ses + w.user.starting ≤ w.failures + w.starts := by
      apply reached.invariant fun w => consumersMade w.ses + w.user.starting ≤ w.failures + w.starts
      · exact Nat.le_refl 0
      · intro w e v before counted once taken
        exact counted_step (reachable_roles before.reachable) once taken counted
    omega

open Run

def setUpAnswered (c : Nat) : List Event :=
  parsing ++ List.replicate 4 (.reportSuccess c) ++ [parsed, runs]

def failing : String := "PRECONDITION_FAILED - inequivalent arg 'type'"

theorem replaced_after_set_up :
    ∃ w, (Reach (step accepting) replacesOnce (World.start fanout) w ∧
        w.ses.channel = some 0 ∧ connectionUsable w.ses = true ∧ (w.ses.channels 0).pending = []) ∧
      consumersMade (reportError accepting w.getConnection 0 failing w.ses) =
        consumersMade w.ses + 1 ∧
      consumersMade w.ses ≤ 1 + w.failures + w.starts := by
  have ran : ∃ w, Reach (step accepting) replacesOnce (World.start fanout) w ∧
      w.ses.channel = some 0 ∧ connectionUsable w.ses = true ∧ (w.ses.channels 0).pending = [] :=
    run_reaches (startAndLogIn ++ channelOpens 0 ++ setUpAnswered 0) (by decide +kernel)
  obtain ⟨w, reached, channel, usable, answered⟩ := ran
  refine ⟨w, ⟨reached, channel, usable, answered⟩, ?_, one_replacement.2 w reached⟩
  refine (one_replacement.1 w reached.reachable (fun _ _ _ threw => ?_) 0 failing channel
    usable).mpr ?_
  · cases threw
  · simp [answered]

theorem five_replacements :
    (∃ w, Reach (step accepting) anyStep (World.start fanout) w ∧
      w.hears 0 ∧ w.ses.channel = some 0 ∧ connectionUsable w.ses = true ∧
        consumersMade (reportError accepting w.getConnection 0 failing w.ses) =
          consumersMade w.ses + 5) ∧
    ∃ w, Reach (step accepting) anyStep (World.start fanout) w ∧
      ¬ consumersMade w.ses ≤ 1 + w.failures + w.starts :=
  ⟨run_reaches (startAndLogIn ++ channelOpens 0 ++ parsing) (by decide +kernel),
    run_reaches (startAndLogIn ++ channelOpens 0 ++ parsing ++ [.reportError 0 failing])
      (by decide +kernel)⟩

end RmqMgr.Session
