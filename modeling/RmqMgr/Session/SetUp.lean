import RmqMgr.Session.SessionStep

set_option autoImplicit false

namespace RmqMgr.Session

open Transition

variable {lib : Library} {getConnection : Nat → Option Nat}

-- The operation a call asks for, on which channel, and for whose ready event.
def Call.setsUp : Call → Option (Operation × Nat × Option Nat)
  | .setUp operation c _ owner => some (operation, c, owner)
  | _ => none

def setUpCalls (s : RmqMgrBase) : List (Operation × Nat × Option Nat) :=
  s.calls.filterMap Call.setsUp

def Call.makesConsumer : Call → Bool
  | .channel .consumer _ true => true
  | _ => false

def consumersMade (s : RmqMgrBase) : Nat :=
  s.calls.countP Call.makesConsumer

theorem Frame.setUpCalls {s t : RmqMgrBase} (frame : Frame s t) :
    setUpCalls t = setUpCalls s := by
  obtain ⟨more, same, quiet⟩ := frame.calls
  have none : more.filterMap Call.setsUp = [] := by
    rw [List.filterMap_eq_nil_iff]
    intro call member
    have silent := quiet call member
    cases call <;> simp [Call.setsUp, Call.quiet] at silent ⊢
  rw [Session.setUpCalls, Session.setUpCalls, same, List.filterMap_append, none, List.append_nil]

theorem Frame.consumersMade {s t : RmqMgrBase} (frame : Frame s t) :
    consumersMade t = consumersMade s := by
  obtain ⟨more, same, quiet⟩ := frame.calls
  have none : more.countP Call.makesConsumer = 0 := by
    rw [List.countP_eq_zero]
    intro call member
    have silent := quiet call member
    cases call <;> simp [Call.makesConsumer, Call.quiet] at silent ⊢
  rw [Session.consumersMade, Session.consumersMade, same, List.countP_append, none, Nat.add_zero]

structure SetsUp (c : Nat) (operations : List Operation) (s t : RmqMgrBase) : Prop where
  mqInfo : t.mqInfo = s.mqInfo
  connection : t.connection = s.connection
  channel : t.channel = s.channel
  channelPub : t.channelPub = s.channelPub
  connections : t.connections = s.connections
  channelCount : t.channelCount = s.channelCount
  handling : t.handling = s.handling
  status : t.status = s.status
  channels : ∀ d, (t.channels d).connection = (s.channels d).connection ∧
    (t.channels d).role = (s.channels d).role ∧ (t.channels d).state = (s.channels d).state ∧
    (t.channels d).opened = (s.channels d).opened
  calls : setUpCalls t = setUpCalls s ++ operations.map fun operation => (operation, c, s.handling)
  made : consumersMade t = consumersMade s

theorem SetsUp.nothing (c : Nat) (s : RmqMgrBase) (errMsgs : List String) :
    SetsUp c [] s { s with errMsgs } :=
  ⟨rfl, rfl, rfl, rfl, rfl, rfl, rfl, rfl, fun _ => ⟨rfl, rfl, rfl, rfl⟩, by simp [setUpCalls], rfl⟩

theorem SetsUp.trans {c : Nat} {first second : List Operation} {s t u : RmqMgrBase}
    (before : SetsUp c first s t) (after : SetsUp c second t u) :
    SetsUp c (first ++ second) s u where
  mqInfo := after.mqInfo.trans before.mqInfo
  connection := after.connection.trans before.connection
  channel := after.channel.trans before.channel
  channelPub := after.channelPub.trans before.channelPub
  connections := after.connections.trans before.connections
  channelCount := after.channelCount.trans before.channelCount
  handling := after.handling.trans before.handling
  status := after.status.trans before.status
  channels d := by
    obtain ⟨connection, role, state, opened⟩ := before.channels d
    obtain ⟨connection', role', state', opened'⟩ := after.channels d
    exact ⟨connection'.trans connection, role'.trans role, state'.trans state,
      opened'.trans opened⟩
  calls := by
    rw [after.calls, before.calls, before.handling, List.map_append, List.append_assoc]
  made := after.made.trans before.made

theorem SetsUp.sends {c d : Nat} {operations : List Operation} {s t : RmqMgrBase}
    (done : SetsUp c operations s t) : Session.sends d t = Session.sends d s := by
  obtain ⟨connection, _, state, _⟩ := done.channels d
  simp only [Session.sends, Channel.usable, connection, state, done.connections]

theorem setUp_setsUp {operation : Operation} (arguments : List String) (text : String) {c : Nat}
    {s : RmqMgrBase} (channel : s.channel = some c) (able : sends c s = true) :
    SetsUp c [operation] s (setUp lib getConnection operation arguments text s).1 := by
  have called : SetsUp c [operation] s (record (.setUp operation c arguments s.handling) s) :=
    ⟨rfl, rfl, rfl, rfl, rfl, rfl, rfl, rfl, fun _ => ⟨rfl, rfl, rfl, rfl⟩,
      by simp [setUpCalls, record, Call.setsUp], by simp [consumersMade, record, Call.makesConsumer]⟩
  have pushed (t : RmqMgrBase) : SetsUp c [] t (push operation c t) := by
    refine ⟨rfl, rfl, rfl, rfl, rfl, rfl, rfl, rfl, fun d => ?_,
      by simp [setUpCalls, push, setChannel], rfl⟩
    by_cases same : d = c
    · subst same
      simp [push]
    · simp [push, setChannel_other same]
  simp only [setUp, channel, able, if_true]
  split
  next => exact called
  next => exact called.trans (pushed _)
  next => exact called.trans (pushed _)

theorem reportFailed_setsUp {c : Nat} {operations : List Operation} {s : RmqMgrBase}
    {result : RmqMgrBase × Option String} (done : SetsUp c operations s result.1) :
    SetsUp c operations s (reportFailed result) := by
  unfold reportFailed
  split
  next => exact done
  next err _ =>
    have told : SetsUp c (operations ++ []) s (onRtnErrMsg err result.1) :=
      done.trans (.nothing c result.1 _)
    rwa [List.append_nil] at told

-- What `ChannelOkCb` sets up; `CreateMqExchange` fails on a type it does not know.
def setUpOperations (mqInfo : MqInfo) : List Operation :=
  (if mqInfo.exchangeType ∈ exchangeTypes then [.exchange] else []) ++ [.queue, .bind, .consume]

theorem createMqExchange_setsUp {c : Nat} {s : RmqMgrBase} (channel : s.channel = some c)
    (able : sends c s = true) (exchangeName exchangeType : String) :
    SetsUp c (if exchangeType ∈ exchangeTypes then [.exchange] else []) s
      (createMqExchange lib getConnection exchangeName exchangeType s).1 := by
  unfold createMqExchange
  split
  next => exact setUp_setsUp _ _ channel able
  next => exact .nothing c s s.errMsgs

theorem SetsUp.channelOf {c : Nat} {operations : List Operation} {s t : RmqMgrBase}
    (done : SetsUp c operations s t) (channel : s.channel = some c) (able : Session.sends c s = true) :
    t.channel = some c ∧ Session.sends c t = true :=
  ⟨done.channel.trans channel, done.sends.trans able⟩

-- Once its publish channel is made, `ChannelOkCb` does the set-up of `m_channel` only, as long
-- as that can send.
theorem channelOkCb_setsUp {c : Nat} {s : RmqMgrBase}
    (channel : (createMqPubChannel lib (onStatusChange true s)).channel = some c)
    (able : sends c (createMqPubChannel lib (onStatusChange true s)) = true) :
    SetsUp c (setUpOperations (createMqPubChannel lib (onStatusChange true s)).mqInfo)
      (createMqPubChannel lib (onStatusChange true s)) (channelOkCb lib getConnection s) := by
  unfold channelOkCb
  generalize createMqPubChannel lib (onStatusChange true s) = p at channel able ⊢
  have exchange : SetsUp c (if p.mqInfo.exchangeType ∈ exchangeTypes then [.exchange] else []) p
      (reportFailed (createMqExchange lib getConnection
        p.mqInfo.exchangeName p.mqInfo.exchangeType p)) :=
    reportFailed_setsUp (createMqExchange_setsUp channel able _ _)
  simp only
  generalize reportFailed (createMqExchange lib getConnection
    p.mqInfo.exchangeName p.mqInfo.exchangeType p) = q at exchange ⊢
  have queued : SetsUp c [.queue] q
      (reportFailed (createMqQueue lib getConnection q.mqInfo.queueName q)) := by
    obtain ⟨channel, able⟩ := exchange.channelOf channel able
    exact reportFailed_setsUp (setUp_setsUp _ _ channel able)
  have queue := exchange.trans queued
  generalize reportFailed (createMqQueue lib getConnection q.mqInfo.queueName q) = r at queue ⊢
  have bound : SetsUp c [.bind] r (reportFailed (bindQueue lib getConnection
      r.mqInfo.queueName r.mqInfo.exchangeName r.mqInfo.bindingKey r)) := by
    obtain ⟨channel, able⟩ := queue.channelOf channel able
    exact reportFailed_setsUp (setUp_setsUp _ _ channel able)
  have bind := queue.trans bound
  generalize reportFailed (bindQueue lib getConnection
    r.mqInfo.queueName r.mqInfo.exchangeName r.mqInfo.bindingKey r) = t at bind ⊢
  have consumed : SetsUp c [.consume] t
      (reportFailed (startConsumeMsg lib getConnection t.mqInfo.queueName t)) := by
    obtain ⟨channel, able⟩ := bind.channelOf channel able
    exact reportFailed_setsUp (setUp_setsUp _ _ channel able)
  have consume := bind.trans consumed
  simpa only [setUpOperations, List.append_assoc, List.cons_append, List.nil_append] using consume

structure PubMade (c : Nat) (s t : RmqMgrBase) : Prop where
  mqInfo : t.mqInfo = s.mqInfo
  connection : t.connection = s.connection
  channel : t.channel = s.channel
  connections : t.connections = s.connections
  handling : t.handling = s.handling
  able : Session.sends c t = Session.sends c s
  calls : setUpCalls t = setUpCalls s
  made : consumersMade t = consumersMade s

theorem createMqPubChannel_pubMade {c : Nat} {s : RmqMgrBase} (inside : c < s.channelCount)
    (apart : s.channelPub ≠ some c) : PubMade c s (createMqPubChannel lib s) := by
  have created : PubCreated s (createMqPubChannel lib s) := createMqPubChannel_created s
  generalize createMqPubChannel lib s = t at created ⊢
  cases created with
  | faulted => exact ⟨rfl, rfl, rfl, rfl, rfl, rfl, rfl, rfl⟩
  | refused =>
    exact ⟨rfl, rfl, rfl, rfl, rfl, rfl,
      by simp [setUpCalls, channelPubErrCb, onStatusChange, onRtnErrMsg, record, Call.setsUp],
      by simp [consumersMade, channelPubErrCb, onStatusChange, onRtnErrMsg, record,
        Call.makesConsumer]⟩
  | @made k channels calls some replaces =>
    have same : channels c = s.channels c := replaces.others c (Nat.ne_of_lt inside) apart
    refine ⟨rfl, rfl, rfl, rfl, rfl, by simp only [Session.sends, same], ?_, ?_⟩
    · rcases replaces.calls with rfl | ⟨d, rfl⟩ <;> simp [setUpCalls, Call.setsUp]
    · rcases replaces.calls with rfl | ⟨d, rfl⟩ <;> simp [consumersMade, Call.makesConsumer]

structure Roles (s : RmqMgrBase) : Prop where
  channel : ∀ c, s.channel = some c → c < s.channelCount ∧ (s.channels c).role = .consumer
  channelPub : ∀ c, s.channelPub = some c → c < s.channelCount ∧ (s.channels c).role = .publish

theorem roles_replaces {s : RmqMgrBase} {role : Role} {pointer : Option Nat} {k : ConnId}
    {channels : Nat → Channel} {calls : List Call}
    (replaces : Replaces role pointer k s channels calls) {role' : Role} {c : Nat}
    (held : c < s.channelCount ∧ (s.channels c).role = role') :
    c < s.channelCount + 1 ∧ (channels c).role = role' := by
  obtain ⟨inside, same⟩ := held
  have identity := replaces.identity c (Nat.ne_of_lt inside)
  exact ⟨Nat.lt_succ_of_lt inside, identity.2.1.trans same⟩

theorem roles_made {s : RmqMgrBase} {role : Role} {pointer : Option Nat} {k : ConnId}
    {channels : Nat → Channel} {calls : List Call}
    (replaces : Replaces role pointer k s channels calls)
    (inside : ∀ c, pointer = some c → c < s.channelCount) {c : Nat}
    (made : some s.channelCount = some c) :
    c < s.channelCount + 1 ∧ (channels c).role = role := by
  obtain rfl := Option.some.inj made
  rw [replaces.new inside]
  exact ⟨Nat.lt_succ_self _, rfl⟩

theorem push_identity (operation : Operation) (c d : Nat) (s : RmqMgrBase) :
    ((push operation c s).channels d).role = (s.channels d).role ∧
      ((push operation c s).channels d).state = (s.channels d).state ∧
      ((push operation c s).channels d).opened = (s.channels d).opened := by
  by_cases same : d = c
  · subst same
    simp [push]
  · simp [push, setChannel_other same]

theorem roles_effect (s t : RmqMgrBase) (effect : Effect getConnection s t) (roles : Roles s) :
    Roles t := by
  obtain ⟨channel, channelPub⟩ := roles
  cases effect with
  | consumerMade _ replaces =>
    exact ⟨fun _ => roles_made replaces fun c same => (channel c same).1,
      fun c same => roles_replaces replaces (channelPub c same)⟩
  | publishMade _ replaces =>
    exact ⟨fun c same => roles_replaces replaces (channel c same),
      fun _ => roles_made replaces fun c same => (channelPub c same).1⟩
  | pushed operation d =>
    refine ⟨fun c same => ?_, fun c same => ?_⟩
    · rw [(push_identity operation d c s).1]
      exact channel c same
    · rw [(push_identity operation d c s).1]
      exact channelPub c same
  | _ => exact ⟨channel, channelPub⟩

theorem Roles.through {s t : RmqMgrBase} (roles : Roles s) (effects : Effects getConnection s t) :
    Roles t :=
  effects.invariant Roles roles_effect roles

theorem Roles.framed {s t : RmqMgrBase} (roles : Roles s) (frame : Frame s t) : Roles t := by
  refine ⟨fun c same => ?_, fun c same => ?_⟩
  · rw [frame.channelCount, (frame.identity c).2.1]
    exact roles.channel c (frame.channel ▸ same)
  · rw [frame.channelCount, (frame.identity c).2.1]
    exact roles.channelPub c (frame.channelPub ▸ same)

theorem Roles.setChannel {s : RmqMgrBase} (roles : Roles s) (c : Nat) {channel : Channel}
    (same : channel.role = (s.channels c).role) (handling : Option Nat) :
    Roles { setChannel c channel s with handling } := by
  have role (d : Nat) : ((Session.setChannel c channel s).channels d).role = (s.channels d).role := by
    by_cases hit : d = c
    · subst hit
      simpa using same
    · rw [setChannel_other hit]
  refine ⟨fun d some => ?_, fun d some => ?_⟩
  · exact (role d).symm ▸ roles.channel d some
  · exact (role d).symm ▸ roles.channelPub d some

theorem roles_step {w v : World} {e : Event} (roles : Roles w.ses)
    (taken : step lib w e = some v) : Roles v.ses := by
  refine session_step Roles (fun _ _ frame roles => roles.framed frame)
    (fun _ => roles_effect) (fun c s roles => ?_) (fun _ _ _ _ _ _ roles => ?_) roles taken
  · exact roles.setChannel c (by rfl) s.handling
  · exact ⟨roles.channel, roles.channelPub⟩

theorem reachable_roles {mqInfo : MqInfo} {w : World}
    (reached : Reachable (step lib) (World.start mqInfo) w) : Roles w.ses :=
  reached.invariant (fun w => Roles w.ses) ⟨by simp [World.start], by simp [World.start]⟩
    fun _ _ _ _ roles _ taken => roles_step roles taken

theorem confirmOpen_sends (c d : Nat) (s : RmqMgrBase) : sends d (confirmOpen c s) = sends d s := by
  by_cases same : d = c
  · subst same
    cases state : (s.channels d).state <;>
      simp [sends, confirmOpen, Channel.usable, state, setChannel]
  · rw [sends, sends, confirmOpen, setChannel_other same]
    rfl

theorem reportReady_setsUp (lib : Library) (getConnection : Nat → Option Nat) {c d : Nat}
    {s : RmqMgrBase} (roles : Roles s)
    (role : (s.channels c).role = .consumer) (channel : s.channel = some d)
    (able : sends d s = true) :
    ∃ start p t, start = onStatusChange true { confirmOpen c s with handling := some c } ∧
      p = createMqPubChannel lib start ∧ PubMade d start p ∧
      SetsUp d (setUpOperations s.mqInfo) p t ∧
      reportReady lib getConnection c s = { t with handling := none } := by
  have apart : s.channelPub ≠ some d := by
    intro same
    have consumer := (roles.channel d channel).2
    rw [(roles.channelPub d same).2] at consumer
    cases consumer
  have made : PubMade d (onStatusChange true { confirmOpen c s with handling := some c })
      (createMqPubChannel lib (onStatusChange true { confirmOpen c s with handling := some c })) :=
    createMqPubChannel_pubMade (roles.channel d channel).1 apart
  have sending := made.able.trans ((confirmOpen_sends c d s).trans able)
  have done : SetsUp d _ _ (channelOkCb lib getConnection
      { confirmOpen c s with handling := some c }) :=
    channelOkCb_setsUp (made.channel.trans channel) sending
  rw [made.mqInfo] at done
  exact ⟨_, _, _, rfl, rfl, made, done, by simp only [reportReady, role]⟩

end RmqMgr.Session
