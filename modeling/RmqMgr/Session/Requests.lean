import RmqMgr.Session.Acks
import RmqMgr.Session.OwnSetUp
import RmqMgr.Session.UserFailures

set_option autoImplicit false

-- A ready event asks for the whole set-up of a channel whatever becomes of its steps, and
-- nothing else asks for any of it.

namespace RmqMgr.Session

open Transition

variable {lib : Library} {getConnection : Nat → Option Nat}

inductive Request where
  | setUp (operation : Operation) (arguments : List String) (owner : Option Nat)
  | publish (exchangeName routingKey : String) (msg : List UInt8)
  | ack (deliveryTag : Nat)
  deriving DecidableEq, Repr

def Request.role : Request → Role
  | .publish _ _ _ => .publish
  | _ => .consumer

def Call.request : Call → Option (Nat × Request)
  | .setUp operation c arguments owner => some (c, .setUp operation arguments owner)
  | .publish c exchangeName routingKey msg => some (c, .publish exchangeName routingKey msg)
  | .ack c deliveryTag => some (c, .ack deliveryTag)
  | _ => none

def requests (s : RmqMgrBase) : List (Nat × Request) :=
  s.calls.filterMap Call.request

def script (mqInfo : MqInfo) : List (Operation × List String) :=
  (if mqInfo.exchangeType ∈ exchangeTypes then
    [(.exchange, [mqInfo.exchangeName, mqInfo.exchangeType])] else []) ++
  [(.queue, [mqInfo.queueName, "exclusive"]),
    (.bind, [mqInfo.exchangeName, mqInfo.queueName, mqInfo.bindingKey]),
    (.consume, [mqInfo.queueName])]

def setUps (owner : Option Nat) (steps : List (Operation × List String)) : List Request :=
  steps.map fun step => .setUp step.1 step.2 owner

theorem effects_kept {s t : RmqMgrBase} (effects : Effects getConnection s t) :
    t.mqInfo = s.mqInfo ∧ t.handling = s.handling ∧ (s.channel ≠ none → t.channel ≠ none) := by
  apply effects.invariant fun t =>
    t.mqInfo = s.mqInfo ∧ t.handling = s.handling ∧ (s.channel ≠ none → t.channel ≠ none)
  · intro t u effect kept
    obtain ⟨mqInfo, handling, channel⟩ := kept
    cases effect with
    | consumerMade => exact ⟨mqInfo, handling, fun _ => Option.some_ne_none _⟩
    | _ => exact ⟨mqInfo, handling, channel⟩
  · exact ⟨rfl, rfl, id⟩

theorem effects_roles {s t : RmqMgrBase} (effects : Effects getConnection s t) :
    ∀ d, d < s.channelCount →
      d < t.channelCount ∧ (t.channels d).role = (s.channels d).role := by
  refine effects.invariant (fun t => ∀ d, d < s.channelCount →
    d < t.channelCount ∧ (t.channels d).role = (s.channels d).role) ?_ fun d inside => ⟨inside, rfl⟩
  intro t u effect kept d inside
  obtain ⟨before, same⟩ := kept d inside
  cases effect with
  | consumerMade _ replaces | publishMade _ replaces =>
    have identity := replaces.identity d (Nat.ne_of_lt before)
    exact ⟨Nat.lt_succ_of_lt before, identity.2.1.trans same⟩
  | pushed operation c => exact ⟨before, (push_identity operation c d t).1.trans same⟩
  | _ => exact ⟨before, same⟩

def OnRole (s : RmqMgrBase) (request : Nat × Request) : Prop :=
  request.1 < s.channelCount ∧ (s.channels request.1).role = request.2.role

theorem OnRole.through {s t : RmqMgrBase} {request : Nat × Request} (onRole : OnRole s request)
    (effects : Effects getConnection s t) : OnRole t request := by
  obtain ⟨inside, role⟩ := onRole
  obtain ⟨after, same⟩ := effects_roles effects request.1 inside
  exact ⟨after, same.trans role⟩

structure Asks (getConnection : Nat → Option Nat) (steps : List (Operation × List String))
    (s t : RmqMgrBase) : Prop where
  effects : Effects getConnection s t
  asked : s.channel ≠ none → ∃ more, requests t = requests s ++ more ∧
    more.map Prod.snd = setUps s.handling steps ∧ (Roles s → ∀ request ∈ more, OnRole t request)

theorem Asks.nothing {s t : RmqMgrBase} (effects : Effects getConnection s t)
    (same : requests t = requests s) : Asks getConnection [] s t :=
  ⟨effects, fun _ => ⟨[], by rw [same, List.append_nil], rfl, fun _ _ none => nomatch none⟩⟩

theorem Asks.trans {first second : List (Operation × List String)} {s t u : RmqMgrBase}
    (before : Asks getConnection first s t) (after : Asks getConnection second t u) :
    Asks getConnection (first ++ second) s u := by
  refine ⟨before.effects.trans after.effects, fun channel => ?_⟩
  obtain ⟨_, handling, still⟩ := effects_kept before.effects
  obtain ⟨more, made, asked, onRole⟩ := before.asked channel
  obtain ⟨more', made', asked', onRole'⟩ := after.asked (still channel)
  refine ⟨more ++ more', by rw [made', made, List.append_assoc], ?_, fun roles request member => ?_⟩
  · rw [List.map_append, asked, asked', handling]
    exact List.map_append.symm
  · rcases List.mem_append.mp member with earlier | later
    · exact (onRole roles request earlier).through after.effects
    · exact onRole' (roles.through before.effects) request later

theorem createMqChannel_requests (s : RmqMgrBase) :
    requests (createMqChannel lib getConnection s).1 = requests s := by
  have created : Created lib getConnection s (createMqChannel lib getConnection s) :=
    createMqChannel_created s
  generalize createMqChannel lib getConnection s = result at created ⊢
  cases created with
  | @faulted t fetched =>
    have same : t.calls = s.calls := (fetched_recreates fetched).1
    simp [requests, dereferencesNull, same]
  | @refused t _ _ _ fetched =>
    have same : t.calls = s.calls := (fetched_recreates fetched).1
    simp [requests, record, same, Call.request]
  | @made t _ _ _ fetched _ replaces =>
    have same : t.calls = s.calls := (fetched_recreates fetched).1
    rcases replaces.calls with rfl | ⟨d, rfl⟩ <;> simp [requests, same, Call.request]

theorem errCb_requests (text msg : String) (s : RmqMgrBase) :
    requests (errCb lib getConnection text msg s) = requests s :=
  createMqChannel_requests _

theorem operationErrCb_requests (operation : Operation) (msg : String) (s : RmqMgrBase) :
    requests (operationErrCb lib getConnection operation msg s) = requests s := by
  cases operation with
  | close | destruct => rfl
  | _ => exact errCb_requests _ msg s

theorem pendingErrCbs_requests (pending : List Operation) (message : String) (s : RmqMgrBase) :
    requests (pendingErrCbs lib getConnection pending message s) = requests s := by
  induction pending generalizing s with
  | nil => rfl
  | cons operation rest ih => exact (ih _).trans (operationErrCb_requests operation message s)

theorem reportError_requests (c : Nat) (message : String) (s : RmqMgrBase) :
    requests (reportError lib getConnection c message s) = requests s := by
  have pending : requests (pendingErrCbs lib getConnection (s.channels c).pending message
      (endChannel c s)) = requests s := pendingErrCbs_requests _ message _
  unfold reportError
  cases (s.channels c).role with
  | consumer => exact (errCb_requests _ message _).trans pending
  | publish => exact pending

theorem called_asks {operation : Operation} {c : Nat} {s : RmqMgrBase} (arguments : List String)
    (channel : s.channel = some c) :
    Asks getConnection [(operation, arguments)] s
      (record (.setUp operation c arguments s.handling) s) := by
  refine ⟨.single (.called _ rfl), fun _ => ⟨[(c, .setUp operation arguments s.handling)], ?_⟩⟩
  refine ⟨by simp [requests, record, Call.request], rfl, fun roles request only => ?_⟩
  obtain rfl := List.mem_singleton.mp only
  exact roles.channel c channel

theorem setUp_asks {operation : Operation} (arguments : List String) (text : String)
    (s : RmqMgrBase) (open_ : operation ≠ .close) (open' : operation ≠ .destruct) :
    Asks getConnection [(operation, arguments)] s
      (setUp lib getConnection operation arguments text s).1 := by
  cases channel : s.channel with
  | none =>
    refine ⟨setUp_effects arguments text s open_ open', fun some => ?_⟩
    rw [channel] at some
    exact absurd rfl some
  | some c =>
    have called : Asks getConnection [(operation, arguments)] s
        (record (.setUp operation c arguments s.handling) s) := called_asks arguments channel
    have pushed (able : sends c s = true) :=
      called.trans (.nothing (.single (.pushed operation c channel able open_ open')) rfl)
    simp only [setUp, channel]
    split
    next => exact called
    next =>
      split
      next able => exact pushed able
      next => exact called
    next msg _ =>
      split
      next able => exact pushed able
      next =>
        exact called.trans (.nothing (operationErrCb_effects operation msg _)
          (operationErrCb_requests operation msg _))

theorem reportFailed_asks {steps : List (Operation × List String)} {s : RmqMgrBase}
    {result : RmqMgrBase × Option String} (done : Asks getConnection steps s result.1) :
    Asks getConnection steps s (reportFailed result) := by
  unfold reportFailed
  split
  next => exact done
  next err _ =>
    have told := done.trans (.nothing (.single (onRtnErrMsg_effect err result.1)) rfl)
    rwa [List.append_nil] at told

theorem createMqExchange_asks (exchangeName exchangeType : String) (s : RmqMgrBase) :
    Asks getConnection
      (if exchangeType ∈ exchangeTypes then [(.exchange, [exchangeName, exchangeType])] else [])
      s (createMqExchange lib getConnection exchangeName exchangeType s).1 := by
  unfold createMqExchange
  split
  next => exact setUp_asks _ _ s (by decide) (by decide)
  next => exact .nothing .refl rfl

theorem createMqQueue_asks (queueName : String) (s : RmqMgrBase) :
    Asks getConnection [(.queue, [queueName, "exclusive"])] s
      (createMqQueue lib getConnection queueName s).1 :=
  setUp_asks _ _ s (by decide) (by decide)

theorem bindQueue_asks (queueName exchangeName bindingKey : String) (s : RmqMgrBase) :
    Asks getConnection [(.bind, [exchangeName, queueName, bindingKey])] s
      (bindQueue lib getConnection queueName exchangeName bindingKey s).1 :=
  setUp_asks _ _ s (by decide) (by decide)

theorem startConsumeMsg_asks (queueName : String) (s : RmqMgrBase) :
    Asks getConnection [(.consume, [queueName])] s
      (startConsumeMsg lib getConnection queueName s).1 :=
  setUp_asks _ _ s (by decide) (by decide)

theorem createMqPubChannel_asks (s : RmqMgrBase) :
    Asks getConnection [] s (createMqPubChannel lib s) := by
  refine .nothing (createMqPubChannel_effects s) ?_
  have created : PubCreated s (createMqPubChannel lib s) := createMqPubChannel_created s
  generalize createMqPubChannel lib s = t at created ⊢
  cases created with
  | faulted => rfl
  | refused => simp [requests, channelPubErrCb, onStatusChange, onRtnErrMsg, record, Call.request]
  | made _ replaces =>
    rcases replaces.calls with rfl | ⟨d, rfl⟩ <;> simp [requests, Call.request]

theorem channelOkCb_asks (s : RmqMgrBase) :
    Asks getConnection (script s.mqInfo) s (channelOkCb lib getConnection s) := by
  have told : Asks getConnection [] s (onStatusChange true s) :=
    .nothing (.single (onStatusChange_effect true s)) rfl
  have made : Asks getConnection [] s (createMqPubChannel lib (onStatusChange true s)) :=
    told.trans (createMqPubChannel_asks _)
  unfold channelOkCb
  generalize createMqPubChannel lib (onStatusChange true s) = p at made ⊢
  have infoP := (effects_kept made.effects).1
  have exchange := made.trans (reportFailed_asks (@createMqExchange_asks lib getConnection
    p.mqInfo.exchangeName p.mqInfo.exchangeType p))
  simp only
  generalize reportFailed (createMqExchange lib getConnection
    p.mqInfo.exchangeName p.mqInfo.exchangeType p) = q at exchange ⊢
  have infoQ := (effects_kept exchange.effects).1
  have queue := exchange.trans (reportFailed_asks (@createMqQueue_asks lib getConnection
    q.mqInfo.queueName q))
  generalize reportFailed (createMqQueue lib getConnection q.mqInfo.queueName q) = r at queue ⊢
  have infoR := (effects_kept queue.effects).1
  have bind := queue.trans (reportFailed_asks (@bindQueue_asks lib getConnection
    r.mqInfo.queueName r.mqInfo.exchangeName r.mqInfo.bindingKey r))
  generalize reportFailed (bindQueue lib getConnection
    r.mqInfo.queueName r.mqInfo.exchangeName r.mqInfo.bindingKey r) = t at bind ⊢
  have infoT := (effects_kept bind.effects).1
  have consume := bind.trans (reportFailed_asks (@startConsumeMsg_asks lib getConnection
    t.mqInfo.queueName t))
  simpa only [script, infoP, infoQ, infoR, infoT, List.nil_append, List.append_assoc,
    List.cons_append] using consume

-- What an event asks for; a null `m_channelPub` ends the program instead.
def World.asks (w : World) : Event → List Request
  | .reportReady c =>
    match (w.ses.channels c).role with
    | .publish => []
    | .consumer => setUps (some c) (script w.ses.mqInfo)
  | .consumeRecvedCb _ none deliveryTag => [.ack deliveryTag]
  | .publishMsg msg =>
    if w.ses.channelPub = none then []
    else [.publish w.ses.mqInfo.exchangeName w.ses.mqInfo.routingKey msg]
  | _ => []

def Requests (asked : List Request) (s t : RmqMgrBase) : Prop :=
  ∃ more, requests t = requests s ++ more ∧ more.map Prod.snd = asked ∧
    ∀ request ∈ more, OnRole t request

theorem Requests.nothing {s t : RmqMgrBase} (same : requests t = requests s) : Requests [] s t :=
  ⟨[], by rw [same, List.append_nil], rfl, fun _ none => nomatch none⟩

theorem Requests.one {c : Nat} {request : Request} {s t : RmqMgrBase}
    (same : requests t = requests s ++ [(c, request)]) (onRole : OnRole t (c, request)) :
    Requests [request] s t := by
  refine ⟨_, same, rfl, fun other only => ?_⟩
  obtain rfl := List.mem_singleton.mp only
  exact onRole

theorem reportReady_requests {c : Nat} {s : RmqMgrBase} (roles : Roles s)
    (channel : (s.channels c).role = .consumer → s.channel ≠ none) :
    Requests (match (s.channels c).role with
      | .publish => []
      | .consumer => setUps (some c) (script s.mqInfo)) s (reportReady lib getConnection c s) := by
  unfold reportReady
  cases role : (s.channels c).role with
  | publish => exact .nothing rfl
  | consumer =>
    obtain ⟨more, made, asked, onRole⟩ :=
      (@channelOkCb_asks lib getConnection
        { confirmOpen c s with handling := some c }).asked (channel role)
    exact ⟨more, made, asked, onRole (roles.setChannel c (by rfl) (some c))⟩

theorem closed_requests {s t : RmqMgrBase} {result : Option String}
    (closed : Closed lib s t result) : requests t = requests s := by
  obtain ⟨calls, _, made, _, closes, _⟩ := closed
  have none : calls.filterMap Call.request = [] := by
    rw [List.filterMap_eq_nil_iff]
    intro call member
    obtain ⟨c, rfl⟩ := closes call member
    rfl
  rw [requests, made, List.filterMap_append, none, List.append_nil, requests]

theorem closeMqConnection_requests (s : RmqMgrBase) :
    requests (closeMqConnection lib s).1 = requests s := by
  unfold closeMqConnection
  split
  next => rfl
  next k _ =>
    have called : requests (record (.closeConnection k) s) = requests s := by
      simp [requests, record, Call.request]
    split
    next =>
      simp only
      split <;> exact called
    next => rfl

theorem publishMsg_requests (msg : List UInt8) {s : RmqMgrBase} (roles : Roles s) :
    Requests (if s.channelPub = none then []
      else [.publish s.mqInfo.exchangeName s.mqInfo.routingKey msg]) s (publishMsg lib msg s).1 := by
  have frame : Frame s (publishMsg lib msg s).1 := publishMsg_frame msg s
  have roles := roles.framed frame
  cases pub : s.channelPub with
  | none =>
    simp only [if_true, publishMsg, pub]
    exact .nothing rfl
  | some c =>
    have same : requests (publishMsg lib msg s).1 = requests s ++
        [(c, .publish s.mqInfo.exchangeName s.mqInfo.routingKey msg)] := by
      simp only [publishMsg, pub]
      split <;> simp [requests, record, Call.request]
    exact .one same (roles.channelPub c (frame.channelPub.trans pub))

theorem delivery_requests (deliveryTag : Nat) {s : RmqMgrBase} (roles : Roles s)
    (channel : s.channel ≠ none) :
    Requests [.ack deliveryTag] s (consumeRecvedCb none deliveryTag s) := by
  obtain ⟨c, some⟩ := Option.ne_none_iff_exists'.mp channel
  have frame : Frame s (consumeRecvedCb none deliveryTag s) := consumeRecvedCb_frame none deliveryTag s
  have same : requests (consumeRecvedCb none deliveryTag s) =
      requests s ++ [(c, .ack deliveryTag)] := by
    simp [consumeRecvedCb, some, requests, record, Call.request]
  exact .one same ((roles.framed frame).channel c (frame.channel.trans some))

theorem step_requests {w v : World} {e : Event} (roles : Roles w.ses) (newest : Newest w.ses)
    (taken : step lib w e = some v) : Requests (w.asks e) w.ses v.ses := by
  have consumer {c : Nat} (hears : w.hears c) (role : (w.ses.channels c).role = .consumer) :
      w.ses.channel ≠ none := by
    obtain ⟨m, some, _⟩ := newest c hears.1 role
    rw [some]
    exact Option.some_ne_none m
  cases step_took taken with
  | reportReady hears => exact reportReady_requests roles (consumer hears)
  | @consumeRecvedCb c thrown deliveryTag =>
    obtain ⟨hears, role⟩ := delivery_enabled taken
    cases thrown with
    | some what => exact .nothing rfl
    | none => exact delivery_requests deliveryTag roles (consumer hears role)
  | @publishMsg msg s result _ published =>
    have made : Requests _ w.ses (publishMsg lib msg w.ses).1 := publishMsg_requests msg roles
    rw [published] at made
    exact made
  | @reportError c message => exact .nothing (reportError_requests c message w.ses)
  | getMqConnection =>
    refine .nothing ?_
    simp only [getMqConnection]
    split <;> rfl
  | startSucceeded _ result | channelFailed _ result =>
    have same := @createMqChannel_requests lib w.getConnection w.ses
    rw [result] at same
    exact .nothing same
  | releaseMqInstance _ result => exact .nothing (closed_requests (closeMqChannel_closes result))
  | closeMqConnection _ result =>
    have same : requests (closeMqConnection lib w.ses).1 = requests w.ses :=
      closeMqConnection_requests w.ses
    rw [result] at same
    exact .nothing same
  | finitFaulted finit =>
    rcases finit with ⟨rfl, _⟩ | ⟨rfl, _⟩ | ⟨rfl, _⟩ <;> exact .nothing rfl
  | _ => exact .nothing rfl

theorem role_step {w v : World} {e : Event} (taken : step lib w e = some v) :
    ∀ d, d < w.ses.channelCount →
      d < v.ses.channelCount ∧ (v.ses.channels d).role = (w.ses.channels d).role := by
  refine session_step (fun s => ∀ d, d < w.ses.channelCount →
    d < s.channelCount ∧ (s.channels d).role = (w.ses.channels d).role) ?_ ?_ ?_ ?_
    (fun d inside => ⟨inside, rfl⟩) taken
  · intro s t frame kept d inside
    rw [frame.channelCount, (frame.identity d).2.1]
    exact kept d inside
  · intro getConnection s t effect kept d inside
    obtain ⟨before, same⟩ := kept d inside
    obtain ⟨after, same'⟩ := effects_roles (.single effect) d before
    exact ⟨after, same'.trans same⟩
  · intro c s kept d inside
    obtain ⟨before, same⟩ := kept d inside
    refine ⟨before, Eq.trans ?_ same⟩
    by_cases hit : d = c
    · subst hit
      simp [confirmOpen]
    · rw [confirmOpen, setChannel_other hit]
  · exact fun _ _ _ _ _ _ kept => kept

def Opened (c : Nat) (s : RmqMgrBase) : Prop :=
  c < s.channelCount ∧ (s.channels c).role = .consumer ∧ (s.channels c).opened = true

instance (c : Nat) (s : RmqMgrBase) : Decidable (Opened c s) :=
  inferInstanceAs (Decidable (_ ∧ _ ∧ _))

theorem opened_replaces {s : RmqMgrBase} {role : Role} {pointer : Option Nat} {k : ConnId}
    {channels : Nat → Channel} {calls : List Call}
    (replaces : Replaces role pointer k s channels calls)
    (inside : ∀ c, pointer = some c → c < s.channelCount) (c : Nat) :
    (c < s.channelCount + 1 ∧ (channels c).role = .consumer ∧ (channels c).opened = true) ↔
      Opened c s := by
  by_cases new : c = s.channelCount
  · subst new
    rw [replaces.new inside]
    simp [Opened]
  · obtain ⟨_, role, opened⟩ := replaces.identity c new
    rw [role, opened, Opened]
    have before : c < s.channelCount + 1 ↔ c < s.channelCount := by omega
    rw [before]

theorem opened_through {s t : RmqMgrBase} (roles : Roles s) (effects : Effects getConnection s t)
    (c : Nat) : Opened c t ↔ Opened c s := by
  have kept := effects.invariant (fun t => Roles t ∧ (Opened c t ↔ Opened c s)) ?_ ⟨roles, .rfl⟩
  · exact kept.2
  · intro t u effect held
    obtain ⟨roles, same⟩ := held
    refine ⟨roles_effect t u effect roles, Iff.trans ?_ same⟩
    cases effect with
    | consumerMade _ replaces =>
      exact opened_replaces replaces (fun c some => (roles.channel c some).1) c
    | publishMade _ replaces =>
      exact opened_replaces replaces (fun c some => (roles.channelPub c some).1) c
    | pushed operation d =>
      have identity := push_identity operation d c t
      rw [Opened, identity.1, identity.2.2]
      rfl
    | _ => rfl

theorem opened_framed {s t : RmqMgrBase} (frame : Frame s t) (c : Nat) :
    Opened c t ↔ Opened c s := by
  obtain ⟨_, role, opened⟩ := frame.identity c
  rw [Opened, frame.channelCount, role, opened]
  rfl

theorem opened_confirmed {c d : Nat} {s : RmqMgrBase} (inside : c < s.channelCount) :
    Opened d (confirmOpen c s) ↔
      Opened d s ∨ d = c ∧ (s.channels c).role = .consumer := by
  by_cases same : d = c
  · subst same
    by_cases role : (s.channels d).role = .consumer
    · have now : Opened d (confirmOpen d s) := ⟨inside, by simpa [confirmOpen] using role,
        by simp [confirmOpen]⟩
      simp [now, role]
    · have before : ¬ Opened d (confirmOpen d s) := fun now => role (by
        simpa [confirmOpen] using now.2.1)
      have before' : ¬ Opened d s := fun now => role now.2.1
      simp [before, before', role]
  · simp only [Opened, confirmOpen, setChannel_other same, same, false_and, or_false]
    rfl

theorem opened_ready {w v : World} {d : Nat} (roles : Roles w.ses)
    (taken : step lib w (.reportReady d) = some v) (c : Nat) :
    Opened c v.ses ↔ Opened c w.ses ∨ c = d ∧ (w.ses.channels d).role = .consumer := by
  cases step_took taken with
  | reportReady hears =>
    obtain ⟨before, t, after, effects, same⟩ := @reportReady_effects lib w.getConnection d w.ses
    have rolesBefore : Roles { confirmOpen d w.ses with handling := before } :=
      roles.setChannel d (by rfl) before
    have through := opened_through rolesBefore effects c
    rw [same]
    exact through.trans (opened_confirmed hears.1)
  | finitFaulted finit =>
    rcases finit with ⟨finit, _⟩ | ⟨finit, _⟩ | ⟨finit, _⟩ <;> cases finit

theorem opened_other {w v : World} {e : Event} (roles : Roles w.ses) (other : e.readies = none)
    (taken : step lib w e = some v) (c : Nat) : Opened c v.ses ↔ Opened c w.ses := by
  have moved := step_moved taken
  generalize v.ses = s at moved ⊢
  cases moved with
  | framed frame => exact opened_framed frame c
  | onReady | started => rfl
  | reportReady => cases other
  | @reportError d message =>
    have ended : Frame w.ses (endChannel d w.ses) :=
      frame_setChannel rfl rfl rfl fun able => (by simp [Channel.usable] at able)
    have effects := @reportError_effects lib w.getConnection d message w.ses
    exact (opened_through (roles.framed ended) effects c).trans (opened_framed ended c)
  | fetched =>
    unfold getMqConnection
    split <;> rfl
  | created _ result | notCreated _ result =>
    exact opened_through roles (createMqChannel_result result) c

theorem mqInfo_step {mqInfo : MqInfo} {w v : World} {e : Event} (same : w.ses.mqInfo = mqInfo)
    (taken : step lib w e = some v) : v.ses.mqInfo = mqInfo :=
  session_step (fun s => s.mqInfo = mqInfo) (fun _ _ frame same => frame.mqInfo.trans same)
    (fun _ _ _ effect same => (effects_kept (.single effect)).1.trans same) (fun _ _ same => same)
    (fun _ _ _ _ _ _ same => same) same taken

def noteRequests (w : World) (e : Event) (_ : World) (past : List Request) : List Request :=
  past ++ w.asks e

def setUpsOf (c : Nat) (past : List Request) : List (Operation × List String) :=
  past.filterMap fun request =>
    match request with
    | .setUp operation arguments owner => if owner = some c then some (operation, arguments) else none
    | _ => none

theorem setUpsOf_append (c : Nat) (first second : List Request) :
    setUpsOf c (first ++ second) = setUpsOf c first ++ setUpsOf c second :=
  List.filterMap_append

theorem setUpsOf_setUps (c d : Nat) (steps : List (Operation × List String)) :
    setUpsOf c (setUps (some d) steps) = if c = d then steps else [] := by
  by_cases same : c = d
  · subst same
    simp [setUps, setUpsOf]
  · have other : d ≠ c := Ne.symm same
    simp [setUps, setUpsOf, same, other]

theorem setUpsOf_asks (w : World) (e : Event) (other : e.readies = none) (c : Nat) :
    setUpsOf c (w.asks e) = [] := by
  cases e with
  | reportReady => cases other
  | consumeRecvedCb d thrown => cases thrown <;> rfl
  | publishMsg =>
    simp only [World.asks]
    split <;> rfl
  | _ => rfl

structure AskedInOrder (mqInfo : MqInfo) (t : Traced World (List Request)) : Prop where
  inOrder : (requests t.now.ses).map Prod.snd = t.past
  onRole : ∀ request ∈ requests t.now.ses, OnRole t.now.ses request
  once : ∀ c, setUpsOf c t.past = if Opened c t.now.ses then script mqInfo else []

theorem once_step {mqInfo : MqInfo} {w v : World} {e : Event} {past : List Request}
    (roles : Roles w.ses) (info : w.ses.mqInfo = mqInfo) (taken : step lib w e = some v)
    (once : ∀ c, setUpsOf c past = if Opened c w.ses then script mqInfo else []) (c : Nat) :
    setUpsOf c (noteRequests w e v past) = if Opened c v.ses then script mqInfo else [] := by
  rw [noteRequests, setUpsOf_append, once c]
  cases readies : e.readies with
  | none =>
    simp only [setUpsOf_asks w e readies, List.append_nil, opened_other roles readies taken c]
  | some d =>
    cases e with
    | reportReady d =>
      have fresh : ¬ Opened d w.ses := by
        cases step_took taken with
        | reportReady _ fresh => simp [Opened, fresh]
        | finitFaulted finit =>
          rcases finit with ⟨finit, _⟩ | ⟨finit, _⟩ | ⟨finit, _⟩ <;> cases finit
      have ready := opened_ready roles taken c
      cases role : (w.ses.channels d).role with
      | publish => simp_all [World.asks, setUpsOf]
      | consumer =>
        simp only [World.asks, role, setUpsOf_setUps, info]
        by_cases same : c = d
        · subst same
          simp [fresh, ready, role]
        · simp [ready, same]
    | _ => cases readies

theorem askedInOrder_step {mqInfo : MqInfo} {t u : Traced World (List Request)} {e : Event}
    (roles : Roles t.now.ses) (newest : Newest t.now.ses) (info : t.now.ses.mqInfo = mqInfo)
    (asked : AskedInOrder mqInfo t) (taken : traced (step lib) noteRequests t e = some u) :
    AskedInOrder mqInfo u := by
  obtain ⟨stepped, noted⟩ := traced_step taken
  obtain ⟨more, made, same, onRole⟩ := step_requests roles newest stepped
  refine ⟨?_, ?_, ?_⟩
  · rw [made, noted, List.map_append, asked.inOrder, same, noteRequests]
  · rw [made]
    intro request member
    rcases List.mem_append.mp member with earlier | later
    · obtain ⟨inside, role⟩ := asked.onRole request earlier
      obtain ⟨after, kept⟩ := role_step stepped request.1 inside
      exact ⟨after, kept.trans role⟩
    · exact onRole request later
  · rw [noted]
    exact once_step roles info stepped asked.once

-- What is recorded behind a null pointer, in the step that dereferences it, is no call any more.
theorem asked_in_order {mqInfo : MqInfo} {t : Traced World (List Request)}
    (reached : Reachable (traced (step lib) noteRequests) ⟨World.start mqInfo, []⟩ t) :
    t.now.ses.fault = false → AskedInOrder mqInfo t := by
  intro _
  have kept := reached.invariant
    (fun t => t.now.ses.mqInfo = mqInfo ∧ AskedInOrder mqInfo t) ?_ ?_
  · exact kept.2
  · refine ⟨rfl, rfl, fun request none => (nomatch none), fun c => ?_⟩
    simp [setUpsOf, Opened, World.start]
  · intro t e u before held _ taken
    obtain ⟨roles, newest⟩ := reachable_newest before.untraced
    exact ⟨mqInfo_step held.1 (traced_step taken).1,
      askedInOrder_step roles newest held.1 held.2 taken⟩

open Run

theorem replaced_while_set_up :
    ∃ t, (Reachable (traced (step accepting) noteRequests) ⟨World.start fanout, []⟩ t ∧
        t.now.ses.fault = false ∧ Opened 0 t.now.ses ∧ Opened 2 t.now.ses ∧
        ¬ Opened 3 t.now.ses) ∧
      AskedInOrder fanout t := by
  have ran : ∃ t, Reach (traced (step accepting) noteRequests) anyStep ⟨World.start fanout, []⟩ t ∧
      t.now.ses.fault = false ∧ Opened 0 t.now.ses ∧ Opened 2 t.now.ses ∧ ¬ Opened 3 t.now.ses :=
    run_reaches (startAndLogIn ++ channelOpens 0 ++ parsing ++
      [.reportError 0 failing, .reportReady 2]) (by decide +kernel)
  obtain ⟨t, reached, running, opened⟩ := ran
  exact ⟨t, ⟨reached, running, opened⟩, asked_in_order reached running⟩

end RmqMgr.Session
