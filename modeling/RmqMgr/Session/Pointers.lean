import RmqMgr.Session.SessionStep
import RmqMgr.Tcp.Connection

set_option autoImplicit false

namespace RmqMgr.Session

open Transition

variable {lib : Library} {getConnection : Nat → Option Nat}

structure StartedByUser (w : World) : Prop where
  tcp : w.tcpCount ≠ 0 → w.ses.pTcpMgr ≠ none
  busy : w.user ∈ [.waitForReady, .getMqConnection, .createMqChannel] → w.tcpCount ≠ 0
  never : w.ses.startsItself = false

theorem startsItself_effects {s t : RmqMgrBase} (effects : Effects getConnection s t)
    (started : s.pTcpMgr ≠ none) (never : s.startsItself = false) : t.startsItself = false := by
  have both : t.pTcpMgr ≠ none ∧ t.startsItself = false := by
    refine effects.invariant (fun t => t.pTcpMgr ≠ none ∧ t.startsItself = false) ?_ ⟨started, never⟩
    intro s t effect held
    cases effect with
    | startedItself none => exact absurd none held.1
    | _ => exact held
  exact both.2

theorem StartedByUser.framed {w v : World} (byUser : StartedByUser w) (frame : Frame w.ses v.ses)
    (count : v.tcpCount = w.tcpCount)
    (busy : v.user ∈ [.waitForReady, .getMqConnection, .createMqChannel] → v.user = w.user) :
    StartedByUser v where
  tcp := by
    rw [frame.pTcpMgr, count]
    exact byUser.tcp
  busy user := by
    rw [count]
    exact byUser.busy (busy user ▸ user)
  never := frame.startsItself.trans byUser.never

theorem reportReady_startsItself {c : Nat} {s : RmqMgrBase} (started : s.pTcpMgr ≠ none)
    (never : s.startsItself = false) :
    (reportReady lib getConnection c s).startsItself = false := by
  obtain ⟨before, t, after, effects, same⟩ := reportReady_effects c s
  rw [same]
  have kept : t.startsItself = false := startsItself_effects effects started never
  exact kept

theorem startedByUser_step {w v : World} {e : Event} (byUser : StartedByUser w)
    (taken : step lib w e = some v) : StartedByUser v := by
  have heard {c : Nat} (hears : w.hears c) : w.ses.pTcpMgr ≠ none := by
    apply byUser.tcp
    have inside := hears.2.2.1
    omega
  cases step_took taken with
  | transport | onData | onReady | onError | onClosed | reportSuccess | reportClosed =>
    exact ⟨byUser.tcp, byUser.busy, byUser.never⟩
  | @reportReady c hears =>
    refine ⟨?_, byUser.busy, reportReady_startsItself (heard hears) byUser.never⟩
    simp only [reportReady_pTcpMgr]
    exact byUser.tcp
  | @reportError c message hears =>
    have effects : Effects w.getConnection (endChannel c w.ses)
        (reportError lib w.getConnection c message w.ses) := reportError_effects c message w.ses
    refine ⟨?_, byUser.busy, startsItself_effects effects (heard hears) byUser.never⟩
    simp only [effects.pTcpMgr]
    exact byUser.tcp
  | consumeRecvedCb => exact byUser.framed (consumeRecvedCb_frame _ _ _) rfl fun _ => rfl
  | startFailed | timedOut | finitJoin => exact ⟨byUser.tcp, by simp, byUser.never⟩
  | started => exact ⟨by simp, by simp, byUser.never⟩
  | waited waiting => exact ⟨byUser.tcp, fun _ => byUser.busy (by simp [waiting]), byUser.never⟩
  | waitFaulted => exact ⟨byUser.tcp, byUser.busy, byUser.never⟩
  | getMqConnection waiting =>
    have started : w.ses.pTcpMgr ≠ none := byUser.tcp (byUser.busy (by simp [waiting]))
    obtain ⟨i, some⟩ := Option.ne_none_iff_exists'.mp started
    have same : getMqConnection w.getConnection w.ses =
        { w.ses with connection := (w.getConnection i).map (ConnId.mk i) } := by
      simp only [getMqConnection, some]
    rw [same]
    exact ⟨byUser.tcp, fun _ => byUser.busy (by simp [waiting]), byUser.never⟩
  | startSucceeded waiting result | channelFailed waiting result =>
    have started : w.ses.pTcpMgr ≠ none := byUser.tcp (byUser.busy (by simp [waiting]))
    have effects := createMqChannel_result result
    have same := effects.pTcpMgr
    have never := startsItself_effects effects started byUser.never
    exact ⟨fun _ none => started (same.symm.trans none), by simp, never⟩
  | @publishMsg msg s _ idle result =>
    have frame := Frame.of_result (publishMsg_frame msg) result
    exact byUser.framed frame rfl (by simp)
  | @releaseMqInstance s _ user _ idle result next =>
    have frame := Frame.of_result closeMqChannel_frame result
    refine byUser.framed frame rfl ?_
    rcases next with rfl | rfl <;> simp
  | @closeMqConnection s _ user _ waiting result next =>
    have frame := Frame.of_result closeMqConnection_frame result
    refine byUser.framed frame rfl ?_
    rcases next with rfl | rfl <;> simp
  | finitClose waiting | finitStop waiting => exact ⟨byUser.tcp, by simp, byUser.never⟩
  | finitFaulted => exact ⟨byUser.tcp, byUser.busy, byUser.never⟩

-- `GetMqConnection` always finds a `TcpMgr`. So the branch in which it calls `StartMqInstance`,
-- which the model only marks, is never taken.
theorem never_startsItself {mqInfo : MqInfo} {w : World}
    (reached : Reachable (step lib) (World.start mqInfo) w) : w.ses.startsItself = false := by
  have byUser := reached.invariant StartedByUser
    ⟨by simp [World.start], by simp [World.start], rfl⟩
    fun _ _ _ _ byUser _ taken => startedByUser_step byUser taken
  exact byUser.never

def Call.makesPublish : Call → Bool
  | .channel .publish _ true => true
  | _ => false

def published (s : RmqMgrBase) : Prop :=
  s.calls.any Call.makesPublish = true

instance (s : RmqMgrBase) : Decidable (published s) :=
  inferInstanceAs (Decidable (_ = _))

def canConnect (getConnection : Nat → Option Nat) (s : RmqMgrBase) : Prop :=
  connectionUsable s = true ∨ (s.pTcpMgr.bind getConnection).isSome = true

instance (s : RmqMgrBase) : Decidable (canConnect getConnection s) :=
  inferInstanceAs (Decidable (_ ∨ _))

structure Held (getConnection : Nat → Option Nat) (s : RmqMgrBase) : Prop where
  connection : s.connection ≠ none
  channel : s.channel ≠ none
  pTcpMgr : s.pTcpMgr ≠ none
  connects : canConnect getConnection s
  pub : published s → s.channelPub ≠ none
  counted : s.channelCount ≠ 0
  running : s.fault = false

theorem published_plain {s : RmqMgrBase} {call : Call} (plain : call.plain = true) :
    published (record call s) ↔ published s := by
  cases call with
  | channel role k made =>
    cases made <;> cases role <;> simp [published, record, Call.makesPublish, Call.plain] at plain ⊢
  | _ => simp [published, record, Call.makesPublish]

theorem published_consumer {s : RmqMgrBase} {pointer : Option Nat} {k : ConnId}
    {channels : Nat → Channel} {calls : List Call}
    (replaces : Replaces .consumer pointer k s channels calls) :
    calls.any Call.makesPublish = s.calls.any Call.makesPublish := by
  rcases replaces.calls with rfl | ⟨d, rfl⟩ <;> simp [Call.makesPublish]

theorem held_effect (s t : RmqMgrBase) (effect : Effect getConnection s t)
    (held : Held getConnection s) : Held getConnection t := by
  obtain ⟨connection, channel, pTcpMgr, connects, pub, counted, running⟩ := held
  cases effect with
  | told => exact ⟨connection, channel, pTcpMgr, connects, pub, counted, running⟩
  | fetched i unusable some =>
    have made : (getConnection i).isSome = true := by
      rcases connects with usable | made
      · rw [unusable] at usable
        cases usable
      · simpa [some] using made
    obtain ⟨k, made⟩ := Option.isSome_iff_exists.mp made
    refine ⟨by simp [made], channel, pTcpMgr, .inr ?_, pub, counted, running⟩
    simp [some, made]
  | startedItself none => exact absurd none pTcpMgr
  | faulted none =>
    rcases none with none | none
    · exact absurd none connection
    · exact absurd none channel
  | called call plain =>
    refine ⟨connection, channel, pTcpMgr, connects, ?_, counted, running⟩
    rw [published_plain plain]
    exact pub
  | consumerMade some replaces =>
    refine ⟨connection, by simp, pTcpMgr, connects, ?_, by simp, running⟩
    unfold published
    rw [published_consumer replaces]
    exact pub
  | publishMade some replaces =>
    exact ⟨connection, channel, pTcpMgr, connects, by simp, by simp, running⟩
  | pushed operation c some =>
    exact ⟨connection, channel, pTcpMgr, connects, pub, counted, running⟩

theorem Held.through {s t : RmqMgrBase} (held : Held getConnection s)
    (effects : Effects getConnection s t) : Held getConnection t :=
  effects.invariant (Held getConnection) held_effect held

theorem Held.setChannel {s : RmqMgrBase} (held : Held getConnection s) (c : Nat) (channel : Channel)
    (handling : Option Nat) :
    Held getConnection { setChannel c channel s with handling } := by
  obtain ⟨connection, channel, pTcpMgr, connects, pub, counted, running⟩ := held
  exact ⟨connection, channel, pTcpMgr, connects, pub, counted, running⟩

theorem reportReady_held {s : RmqMgrBase} (c : Nat) (held : Held getConnection s) :
    Held getConnection (reportReady lib getConnection c s) := by
  obtain ⟨before, t, after, effects, same⟩ := reportReady_effects c s
  rw [same]
  obtain ⟨connection, channel, pTcpMgr, connects, pub, counted, running⟩ :=
    Held.through (held.setChannel c _ before) effects
  exact ⟨connection, channel, pTcpMgr, connects, pub, counted, running⟩

theorem reportError_held {s : RmqMgrBase} (c : Nat) (message : String) (held : Held getConnection s) :
    Held getConnection (reportError lib getConnection c message s) :=
  Held.through (held.setChannel c _ s.handling) (reportError_effects c message s)

def Event.recreates : Event → Bool
  | .reportReady _ => true
  | .reportError _ _ => true
  | _ => false

def Event.needsPublish : Event → Bool
  | .publishMsg _ => true
  | .releaseMqInstance => true
  | _ => false

/-- The calls that need `m_channelPub` come after it was made, and the callbacks that may run
`CreateMqChannel` come while it finds a connection object. -/
def pointersReady (w : World) (e : Event) : Prop :=
  (e.needsPublish = true → published w.ses) ∧
    (e.recreates = true → canConnect w.getConnection w.ses)

instance (w : World) (e : Event) : Decidable (pointersReady w e) :=
  inferInstanceAs (Decidable (_ ∧ _))

structure Pointers (w : World) : Prop where
  running : w.ses.fault = false
  tcp : w.tcpCount ≠ 0 → w.ses.pTcpMgr ≠ none
  held : w.ses.channelCount ≠ 0 →
    w.ses.channel ≠ none ∧ w.ses.connection ≠ none ∧ w.ses.pTcpMgr ≠ none
  pub : published w.ses → w.ses.channelPub ≠ none ∧ w.ses.channelCount ≠ 0
  busy : w.user ≠ .idle → w.ses.pTcpMgr ≠ none
  login : w.user = .getMqConnection ∨ w.user = .createMqChannel →
    ∀ i, w.ses.pTcpMgr = some i → (w.tcps i).isReady = true
  fetched : w.user = .createMqChannel ∨ w.user = .closeMqConnection → w.ses.connection ≠ none

theorem isReady_kept {w v : World} {e : Event} {i : Nat} (taken : step lib w e = some v)
    (ready : (w.tcps i).isReady = true) : (v.tcps i).isReady = true := by
  rcases step_tcp i taken with same | ⟨te, _, stepped⟩
  · rw [same]
    exact ready
  · exact Tcp.isReady_step stepped ready

theorem Pointers.callback {w : World} (pointers : Pointers w) {s : RmqMgrBase} {failures : Nat}
    (held : Held w.getConnection s) (same : s.pTcpMgr = w.ses.pTcpMgr) :
    Pointers { w with ses := s, failures } where
  running := held.running
  tcp _ := held.pTcpMgr
  held _ := ⟨held.channel, held.connection, held.pTcpMgr⟩
  pub made := ⟨held.pub made, held.counted⟩
  busy _ := held.pTcpMgr
  login user i some := pointers.login user i (same ▸ some)
  fetched _ := held.connection

theorem Pointers.hears {w : World} (pointers : Pointers w) {c : Nat} (hears : w.hears c)
    (connects : canConnect w.getConnection w.ses) : Held w.getConnection w.ses := by
  have counted : w.ses.channelCount ≠ 0 := by
    have inside := hears.1
    omega
  obtain ⟨channel, connection, pTcpMgr⟩ := pointers.held counted
  exact ⟨connection, channel, pTcpMgr, connects, fun made => (pointers.pub made).1, counted,
    pointers.running⟩

theorem Frame.published {s t : RmqMgrBase} (frame : Frame s t) : published t ↔ published s := by
  obtain ⟨more, same, quiet⟩ := frame.calls
  have none : more.any Call.makesPublish = false := by
    rw [List.any_eq_false]
    intro call member
    have silent := quiet call member
    cases call <;> simp [Call.makesPublish, Call.quiet] at silent ⊢
  rw [Session.published, Session.published, same, List.any_append, none, Bool.or_false]

theorem Pointers.framed {w v : World} (pointers : Pointers w) (frame : Frame w.ses v.ses)
    (fault : v.ses.fault = w.ses.fault) (count : v.tcpCount = w.tcpCount)
    (tcps : v.tcps = w.tcps)
    (login : v.user = .getMqConnection ∨ v.user = .createMqChannel → v.user = w.user)
    (busy : v.user ≠ .idle → w.ses.pTcpMgr ≠ none)
    (fetched : v.user = .closeMqConnection → w.ses.connection ≠ none) : Pointers v where
  running := fault.trans pointers.running
  tcp := by
    rw [count, frame.pTcpMgr]
    exact pointers.tcp
  held := by
    rw [frame.channelCount, frame.channel, frame.connection, frame.pTcpMgr]
    exact pointers.held
  pub := by
    rw [frame.published, frame.channelPub, frame.channelCount]
    exact pointers.pub
  busy := by
    rw [frame.pTcpMgr]
    exact busy
  login user := by
    rw [frame.pTcpMgr, tcps]
    exact pointers.login (login user ▸ user)
  fetched user := by
    rw [frame.connection]
    rcases user with user | user
    · exact pointers.fetched (.inl ((login (.inr user)).symm.trans user))
    · exact fetched user

theorem Pointers.logged {w : World} (pointers : Pointers w)
    (constructed : ∀ i, Tcp.Constructed (w.tcps i))
    (user : w.user = .getMqConnection ∨ w.user = .createMqChannel) :
    ∃ i n, w.ses.pTcpMgr = some i ∧ w.getConnection i = some n := by
  have busy : w.user ≠ .idle := by
    rcases user with user | user <;> simp [user]
  obtain ⟨i, some⟩ := Option.ne_none_iff_exists'.mp (pointers.busy busy)
  have ready := pointers.login user i some
  obtain ⟨n, made⟩ := Option.ne_none_iff_exists'.mp ((constructed i).ready ready)
  exact ⟨i, n, some, made⟩

theorem Pointers.fetches {w : World} (pointers : Pointers w)
    (constructed : ∀ i, Tcp.Constructed (w.tcps i)) (user : w.user = .createMqChannel)
    {t : RmqMgrBase} (fetched : Fetched w.getConnection w.ses t) :
    ∃ k, t = { w.ses with connection := some k } := by
  rcases fetched with ⟨_, rfl⟩ | ⟨_, rfl⟩
  · obtain ⟨k, some⟩ := Option.ne_none_iff_exists'.mp (pointers.fetched (.inl user))
    exact ⟨k, by rw [← some]⟩
  · obtain ⟨i, n, some, made⟩ := pointers.logged constructed (.inr user)
    exact ⟨⟨i, n⟩, by simp only [getMqConnection, some, made, Option.map_some]⟩

theorem pointers_step {w v : World} {e : Event}
    (constructed : ∀ i, Tcp.Constructed (w.tcps i)) (pointers : Pointers w)
    (ready : pointersReady w e) (taken : step lib w e = some v) : Pointers v := by
  have kept : ∀ i, (w.tcps i).isReady = true → (v.tcps i).isReady = true :=
    fun i ready => isReady_kept taken ready
  cases step_took taken with
  | transport | onData | onReady | onError | onClosed | reportSuccess | reportClosed =>
    exact ⟨pointers.running, pointers.tcp, pointers.held, pointers.pub, pointers.busy,
      fun user i some => kept i (pointers.login user i some), pointers.fetched⟩
  | reportReady hears =>
    exact pointers.callback (reportReady_held _ (pointers.hears hears (ready.2 rfl)))
      (reportReady_pTcpMgr _ _)
  | reportError hears =>
    exact pointers.callback (reportError_held _ _ (pointers.hears hears (ready.2 rfl)))
      (reportError_effects _ _ _).pTcpMgr
  | @consumeRecvedCb c thrown deliveryTag hears =>
    have counted : w.ses.channelCount ≠ 0 := by
      have inside := hears.1
      omega
    have channel := (pointers.held counted).1
    exact pointers.framed (consumeRecvedCb_frame thrown deliveryTag w.ses)
      (consumeRecvedCb_fault channel) rfl rfl (fun _ => rfl) pointers.busy
      fun user => pointers.fetched (.inr user)
  | startFailed =>
    exact ⟨pointers.running, pointers.tcp, pointers.held, pointers.pub,
      fun busy => absurd rfl busy, by simp, by simp⟩
  | started =>
    refine ⟨pointers.running, by simp, ?_, pointers.pub, by simp, by simp, by simp⟩
    intro counted
    obtain ⟨channel, connection, _⟩ := pointers.held counted
    exact ⟨channel, connection, by simp⟩
  | @waited i waiting some login =>
    refine ⟨pointers.running, pointers.tcp, pointers.held, pointers.pub, ?_, ?_, by simp⟩
    · simp [some]
    · intro _ j current
      obtain rfl := Option.some.inj (some.symm.trans current)
      exact login
  | timedOut =>
    exact ⟨pointers.running, pointers.tcp, pointers.held, pointers.pub,
      fun busy => absurd rfl busy, by simp, by simp⟩
  | waitFaulted waiting none =>
    exact absurd none (pointers.busy (by simp [waiting]))
  | getMqConnection waiting =>
    obtain ⟨i, n, some, made⟩ := pointers.logged constructed (.inl waiting)
    have same : getMqConnection w.getConnection w.ses =
        { w.ses with connection := Option.some ⟨i, n⟩ } := by
      simp only [getMqConnection, some, made, Option.map_some]
    rw [same]
    refine ⟨pointers.running, pointers.tcp, ?_, pointers.pub, by simp [some], ?_, by simp⟩
    · intro counted
      obtain ⟨channel, _, pTcpMgr⟩ := pointers.held counted
      exact ⟨channel, by simp, pTcpMgr⟩
    · exact fun _ => pointers.login (.inl waiting)
  | startSucceeded waiting result =>
    cases Created.of_result result with
    | faulted fetched none =>
      obtain ⟨k, rfl⟩ := pointers.fetches constructed waiting fetched
      cases none
    | made fetched some replaces =>
      obtain ⟨k, rfl⟩ := pointers.fetches constructed waiting fetched
      have busy : w.ses.pTcpMgr ≠ none := pointers.busy (by simp [waiting])
      refine ⟨pointers.running, pointers.tcp, fun _ => ⟨by simp, by simp, busy⟩, ?_,
        fun busy => absurd rfl busy, by simp, by simp⟩
      unfold published
      rw [published_consumer replaces]
      exact fun made => ⟨(pointers.pub made).1, by simp⟩
  | channelFailed waiting result =>
    cases Created.of_result result with
    | @refused _ j _ _ fetched =>
      obtain ⟨k, rfl⟩ := pointers.fetches constructed waiting fetched
      refine ⟨pointers.running, pointers.tcp, ?_, ?_, fun busy => absurd rfl busy, by simp, by simp⟩
      · intro counted
        obtain ⟨channel, _, pTcpMgr⟩ := pointers.held counted
        exact ⟨channel, by simp [onStatusChange, onRtnErrMsg, record], pTcpMgr⟩
      · have plain : published (record (.channel .consumer j false) w.ses) ↔ published w.ses :=
          published_plain rfl
        exact fun made => pointers.pub (plain.mp made)
  | @publishMsg msg s returned idle result =>
    have channelPub := (pointers.pub (ready.1 rfl)).1
    have frame := Frame.of_result (publishMsg_frame msg) result
    have fault : (publishMsg lib msg w.ses).1.fault = w.ses.fault := publishMsg_fault channelPub
    rw [result] at fault
    exact pointers.framed frame fault rfl rfl (by simp) (fun busy => absurd rfl busy) (by simp)
  | @releaseMqInstance s returned user returns idle result next =>
    obtain ⟨channelPub, counted⟩ := pointers.pub (ready.1 rfl)
    obtain ⟨channel, connection, pTcpMgr⟩ := pointers.held counted
    have frame := Frame.of_result closeMqChannel_frame result
    have fault : (closeMqChannel lib w.ses).1.fault = w.ses.fault :=
      closeMqChannel_fault channel channelPub
    rw [result] at fault
    refine pointers.framed frame fault rfl rfl ?_ (fun _ => pTcpMgr) (fun _ => connection)
    rcases next with rfl | rfl <;> simp
  | @closeMqConnection s returned user returns waiting result next =>
    have frame := Frame.of_result closeMqConnection_frame result
    have fault : (closeMqConnection lib w.ses).1.fault = w.ses.fault :=
      closeMqConnection_fault (pointers.fetched (.inr waiting))
    rw [result] at fault
    refine pointers.framed frame fault rfl rfl ?_ (fun _ => pointers.busy (by simp [waiting])) ?_
    · rcases next with rfl | rfl <;> simp
    · rcases next with rfl | rfl <;> simp
  | finitClose waiting some | finitStop waiting some =>
    exact ⟨pointers.running, pointers.tcp, pointers.held, pointers.pub,
      fun _ => pointers.busy (by simp [waiting]), by simp, by simp⟩
  | finitJoin =>
    exact ⟨pointers.running, pointers.tcp, pointers.held, pointers.pub,
      fun busy => absurd rfl busy, by simp, by simp⟩
  | finitFaulted waiting none =>
    refine absurd none (pointers.busy ?_)
    rcases waiting with ⟨_, waiting⟩ | ⟨_, waiting⟩ | ⟨_, waiting⟩ <;> simp [waiting]

theorem pointers_never_null {mqInfo : MqInfo} {w : World}
    (reached : Reach (step lib) pointersReady (World.start mqInfo) w) : w.ses.fault = false := by
  have pointers : Pointers w := by
    apply reached.invariant Pointers
    · exact ⟨rfl, by simp [World.start], by simp [World.start], by simp [World.start, published],
        by simp [World.start], by simp [World.start], by simp [World.start]⟩
    · intro w e v before pointers ready taken
      exact pointers_step (reachable_constructed before.reachable) pointers ready taken
  exact pointers.running

open Run

theorem published_after_ready :
    ∃ w, (Reach (step accepting) pointersReady (World.start fanout) w ∧
        w.ses.calls.length = 7 ∧ w.returns = [(.startMqInstance, none), (.publishMsg, none)]) ∧
      w.ses.fault = false := by
  have ran : ∃ w, Reach (step accepting) pointersReady (World.start fanout) w ∧
      w.ses.calls.length = 7 ∧ w.returns = [(.startMqInstance, none), (.publishMsg, none)] :=
    run_reaches (startAndLogIn ++ channelOpens 0 ++ [.publishMsg [1]]) (by decide +kernel)
  obtain ⟨w, reached, published⟩ := ran
  exact ⟨w, ⟨reached, published⟩, pointers_never_null reached⟩

theorem published_before_ready :
    ∃ w, Reach (step accepting) anyStep (World.start fanout) w ∧
      w.returns.head? = some (.startMqInstance, none) ∧ ¬ w.ses.fault = false :=
  run_reaches (startAndLogIn ++ [.publishMsg [1]]) (by decide +kernel)

end RmqMgr.Session
