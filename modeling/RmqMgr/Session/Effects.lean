import Mathlib.Logic.Relation
import RmqMgr.Session.World

set_option autoImplicit false

-- Every callback is a chain of these effects; an invariant that each of them keeps survives all
-- the callbacks, however deep the library nests them.

namespace RmqMgr.Session

def Call.plain : Call → Bool
  | .setUp _ _ _ _ => true
  | .channel _ _ false => true
  | _ => false

/-- A channel object takes the place of the one behind `pointer`, which starts to close. -/
structure Replaces (role : Role) (pointer : Option Nat) (k : ConnId) (s : RmqMgrBase)
    (channels : Nat → Channel) (calls : List Call) : Prop where
  made : pointer ≠ some s.channelCount →
    channels s.channelCount = { connection := k, role, state := .connected }
  others : ∀ d, d ≠ s.channelCount → pointer ≠ some d → channels d = s.channels d
  replaced : ∀ d, d ≠ s.channelCount → pointer = some d → (channels d).usable = false
  identity : ∀ d, d ≠ s.channelCount → (channels d).connection = (s.channels d).connection ∧
    (channels d).role = (s.channels d).role ∧ (channels d).opened = (s.channels d).opened
  calls : calls = s.calls ++ [.channel role k true] ∨
    ∃ d, calls = s.calls ++ [.channel role k true, .closeChannel d]

theorem Replaces.new {role : Role} {pointer : Option Nat} {k : ConnId} {s : RmqMgrBase}
    {channels : Nat → Channel} {calls : List Call}
    (replaces : Replaces role pointer k s channels calls)
    (inside : ∀ c, pointer = some c → c < s.channelCount) :
    channels s.channelCount = { connection := k, role, state := .connected } := by
  apply replaces.made
  intro same
  have bound := inside _ same
  omega

inductive Effect (getConnection : Nat → Option Nat) (s : RmqMgrBase) : RmqMgrBase → Prop where
  | told (msgs : List String) (status : Option Bool) :
      Effect getConnection s { s with errMsgs := msgs, status }
  | fetched (i : Nat) :
      connectionUsable s = false → s.pTcpMgr = some i →
      Effect getConnection s { s with connection := (getConnection i).map (ConnId.mk i) }
  | startedItself :
      s.pTcpMgr = none → Effect getConnection s { s with startsItself := true }
  | faulted :
      s.connection = none ∨ s.channel = none → Effect getConnection s (dereferencesNull s)
  | called (call : Call) :
      call.plain = true → Effect getConnection s (record call s)
  | consumerMade {k : ConnId} {channels : Nat → Channel} {calls : List Call} :
      s.connection = some k → Replaces .consumer s.channel k s channels calls →
      Effect getConnection s { s with
        channel := some s.channelCount, channelCount := s.channelCount + 1, channels, calls }
  | publishMade {k : ConnId} {channels : Nat → Channel} {calls : List Call} :
      s.connection = some k → Replaces .publish s.channelPub k s channels calls →
      Effect getConnection s { s with
        channelPub := some s.channelCount, channelCount := s.channelCount + 1, channels, calls }
  | pushed (operation : Operation) (c : Nat) :
      s.channel = some c → sends c s = true → operation ≠ .close → operation ≠ .destruct →
      Effect getConnection s (push operation c s)

abbrev Effects (getConnection : Nat → Option Nat) : RmqMgrBase → RmqMgrBase → Prop :=
  Relation.ReflTransGen (Effect getConnection)

variable {lib : Library} {getConnection : Nat → Option Nat}

theorem Effects.invariant {s t : RmqMgrBase} (P : RmqMgrBase → Prop)
    (kept : ∀ s t, Effect getConnection s t → P s → P t) (effects : Effects getConnection s t)
    (initial : P s) : P t := by
  induction effects with
  | refl => exact initial
  | tail _ effect ih => exact kept _ _ effect ih

theorem construct_replaces (role : Role) (pointer : Option Nat) (k : ConnId) (s : RmqMgrBase) :
    ∃ channels calls, Replaces role pointer k s channels calls ∧
      destruct pointer (construct role k s) =
        { s with channelCount := s.channelCount + 1, channels, calls } := by
  have older (d : Nat) (other : d ≠ s.channelCount) :
      (construct role k s).channels d = s.channels d := setChannel_other other ..
  have fresh (closing : ∀ d, pointer = some d → ((construct role k s).channels d).usable = false) :
      Replaces role pointer k s (construct role k s).channels (construct role k s).calls := by
    refine ⟨fun _ => setChannel_self .., fun d other _ => older d other, fun d _ => closing d, ?_,
      .inl rfl⟩
    intro d other
    rw [older d other]
    exact ⟨rfl, rfl, rfl⟩
  cases pointer with
  | none => exact ⟨_, _, fresh (fun _ none => (by cases none)), rfl⟩
  | some d =>
    by_cases usable : ((construct role k s).channels d).usable = true
    · refine ⟨_, _, ⟨?_, ?_, ?_, ?_, .inr ⟨d, ?_⟩⟩,
        by simp only [destruct, usable, if_true, startClose_eq]; rfl⟩
      · intro other
        have different : s.channelCount ≠ d := fun same => other (congrArg some same.symm)
        exact (setChannel_other different ..).trans (setChannel_self ..)
      · intro e other different
        have apart : e ≠ d := fun same => different (congrArg some same.symm)
        exact (setChannel_other apart ..).trans (older e other)
      · intro e _ same
        obtain rfl := Option.some.inj same
        simp [Channel.usable]
      · intro e other
        by_cases same : e = d
        · subst same
          simp [older e other]
        · rw [setChannel_other same, older e other]
          exact ⟨rfl, rfl, rfl⟩
      · simp [setChannel, construct, record]
    · refine ⟨_, _, fresh fun e same => ?_, by simp only [destruct, usable]; rfl⟩
      obtain rfl := Option.some.inj same
      exact Bool.eq_false_iff.mpr usable

theorem Effects.pTcpMgr {s t : RmqMgrBase} (effects : Effects getConnection s t) :
    t.pTcpMgr = s.pTcpMgr := by
  refine effects.invariant (fun t => t.pTcpMgr = s.pTcpMgr) ?_ rfl
  intro s' t' effect same
  cases effect with
  | _ => exact same

theorem Effects.connections {s t : RmqMgrBase} (effects : Effects getConnection s t) :
    t.connections = s.connections := by
  refine effects.invariant (fun t => t.connections = s.connections) ?_ rfl
  intro s' t' effect same
  cases effect with
  | _ => exact same

theorem onRtnErrMsg_effect (err : String) (s : RmqMgrBase) :
    Effect getConnection s (onRtnErrMsg err s) :=
  .told _ _

theorem onStatusChange_effect (isOk : Bool) (s : RmqMgrBase) :
    Effect getConnection s (onStatusChange isOk s) :=
  .told _ _

theorem getMqConnection_effect {s : RmqMgrBase} (unusable : connectionUsable s = false) :
    Effect getConnection s (getMqConnection getConnection s) := by
  unfold getMqConnection
  split
  next none => exact .startedItself none
  next i some => exact .fetched i unusable some

def Fetched (getConnection : Nat → Option Nat) (s t : RmqMgrBase) : Prop :=
  connectionUsable s = true ∧ t = s ∨
    connectionUsable s = false ∧ t = getMqConnection getConnection s

theorem Fetched.effects {s t : RmqMgrBase} (fetched : Fetched getConnection s t) :
    Effects getConnection s t := by
  rcases fetched with ⟨_, rfl⟩ | ⟨unusable, rfl⟩
  · exact .refl
  · exact .single (getMqConnection_effect unusable)

theorem getMqConnection_status (s : RmqMgrBase) :
    (getMqConnection getConnection s).status = s.status := by
  unfold getMqConnection
  split <;> rfl

theorem Fetched.status {s t : RmqMgrBase} (fetched : Fetched getConnection s t) :
    t.status = s.status := by
  rcases fetched with ⟨_, rfl⟩ | ⟨_, rfl⟩
  · rfl
  · exact getMqConnection_status s

theorem fetches_connection (s : RmqMgrBase) : Fetched getConnection s
    (if connectionUsable s then s else getMqConnection getConnection s) := by
  split
  next usable => exact .inl ⟨usable, rfl⟩
  next unusable => exact .inr ⟨Bool.eq_false_iff.mpr unusable, rfl⟩

inductive Created (lib : Library) (getConnection : Nat → Option Nat) (s : RmqMgrBase) :
    RmqMgrBase × Option String → Prop where
  | faulted {t : RmqMgrBase} :
      Fetched getConnection s t → t.connection = none →
      Created lib getConnection s (dereferencesNull t, none)
  | refused {t : RmqMgrBase} {k : ConnId} {what err : String} :
      Fetched getConnection s t → t.connection = some k → lib t.calls.length = .threw what →
      Created lib getConnection s (record (.channel .consumer k false) t, some err)
  | made {t : RmqMgrBase} {k : ConnId} {channels : Nat → Channel} {calls : List Call} :
      Fetched getConnection s t → t.connection = some k →
      Replaces .consumer t.channel k t channels calls →
      Created lib getConnection s ({ t with
        channel := some t.channelCount, channelCount := t.channelCount + 1, channels, calls }, none)

theorem createMqChannel_created (s : RmqMgrBase) :
    Created lib getConnection s (createMqChannel lib getConnection s) := by
  unfold createMqChannel
  have fetched := @fetches_connection getConnection s
  generalize (if connectionUsable s then s else getMqConnection getConnection s) = t at fetched ⊢
  simp only
  split
  next none => exact .faulted fetched none
  next k some =>
    split
    next what threw => exact .refused fetched some threw
    next =>
      obtain ⟨channels, calls, replaces, made⟩ := construct_replaces .consumer t.channel k t
      rw [made]
      exact .made fetched some replaces

theorem Created.of_result {s t : RmqMgrBase} {result : Option String}
    (made : createMqChannel lib getConnection s = (t, result)) :
    Created lib getConnection s (t, result) := by
  rw [← made]
  exact createMqChannel_created s

theorem createMqChannel_status (s : RmqMgrBase) :
    (createMqChannel lib getConnection s).1.status = s.status := by
  have created : Created lib getConnection s (createMqChannel lib getConnection s) :=
    createMqChannel_created s
  generalize createMqChannel lib getConnection s = result at created ⊢
  cases created with
  | faulted fetched | refused fetched | made fetched => exact fetched.status

theorem createMqChannel_effects (s : RmqMgrBase) :
    Effects getConnection s (createMqChannel lib getConnection s).1 := by
  have created : Created lib getConnection s (createMqChannel lib getConnection s) :=
    createMqChannel_created s
  generalize createMqChannel lib getConnection s = result at created ⊢
  cases created with
  | faulted fetched none => exact fetched.effects.tail (.faulted (.inl none))
  | refused fetched some => exact fetched.effects.tail (.called _ rfl)
  | made fetched some replaces => exact fetched.effects.tail (.consumerMade some replaces)

theorem createMqChannel_result {s t : RmqMgrBase} {err : Option String}
    (result : createMqChannel lib getConnection s = (t, err)) : Effects getConnection s t := by
  have effects : Effects getConnection s (createMqChannel lib getConnection s).1 :=
    createMqChannel_effects s
  rw [result] at effects
  exact effects

theorem errCb_effects (text msg : String) (s : RmqMgrBase) :
    Effects getConnection s (errCb lib getConnection text msg s) :=
  (Relation.ReflTransGen.single (onRtnErrMsg_effect _ s)).tail (onStatusChange_effect false _)
    |>.trans (createMqChannel_effects _)

theorem operationErrCb_effects (operation : Operation) (msg : String) (s : RmqMgrBase) :
    Effects getConnection s (operationErrCb lib getConnection operation msg s) := by
  cases operation with
  | close => exact .single (onRtnErrMsg_effect _ s)
  | destruct => exact .refl
  | _ => exact errCb_effects _ msg s

theorem setUp_effects {operation : Operation} (arguments : List String) (text : String)
    (s : RmqMgrBase) (open_ : operation ≠ .close) (open' : operation ≠ .destruct) :
    Effects getConnection s (setUp lib getConnection operation arguments text s).1 := by
  unfold setUp
  split
  next none => exact .single (.faulted (.inr none))
  next c some =>
    have called : Effects getConnection s (record (.setUp operation c arguments s.handling) s) :=
      .single (.called _ rfl)
    have pushed (able : sends c s = true) := called.tail (.pushed operation c some able open_ open')
    split
    next => exact called
    next =>
      split
      next able => exact pushed able
      next => exact called
    next msg _ =>
      split
      next able => exact pushed able
      next => exact called.trans (operationErrCb_effects operation msg _)

theorem reportFailed_effects {s : RmqMgrBase} {result : RmqMgrBase × Option String}
    (effects : Effects getConnection s result.1) :
    Effects getConnection s (reportFailed result) := by
  unfold reportFailed
  split
  next => exact effects
  next err _ => exact effects.tail (onRtnErrMsg_effect err _)

theorem createMqExchange_effects (exchangeName exchangeType : String) (s : RmqMgrBase) :
    Effects getConnection s (createMqExchange lib getConnection exchangeName exchangeType s).1 := by
  unfold createMqExchange
  split
  next => exact setUp_effects _ _ s (by decide) (by decide)
  next => exact .refl

theorem channelPubErrCb_effects (msg : String) (s : RmqMgrBase) :
    Effects getConnection s (channelPubErrCb msg s) :=
  (Relation.ReflTransGen.single (onRtnErrMsg_effect _ s)).tail (onStatusChange_effect false _)

inductive PubCreated (s : RmqMgrBase) : RmqMgrBase → Prop where
  | faulted : s.connection = none → PubCreated s (dereferencesNull s)
  | refused {k : ConnId} {what : String} :
      s.connection = some k →
      PubCreated s (channelPubErrCb what (record (.channel .publish k false) s))
  | made {k : ConnId} {channels : Nat → Channel} {calls : List Call} :
      s.connection = some k → Replaces .publish s.channelPub k s channels calls →
      PubCreated s { s with
        channelPub := some s.channelCount, channelCount := s.channelCount + 1, channels, calls }

theorem createMqPubChannel_created (s : RmqMgrBase) : PubCreated s (createMqPubChannel lib s) := by
  unfold createMqPubChannel
  split
  next none => exact .faulted none
  next k some =>
    split
    next => exact .refused some
    next =>
      obtain ⟨channels, calls, replaces, made⟩ := construct_replaces .publish s.channelPub k s
      rw [made]
      exact .made some replaces

theorem createMqPubChannel_effects (s : RmqMgrBase) :
    Effects getConnection s (createMqPubChannel lib s) := by
  have created : PubCreated s (createMqPubChannel lib s) := createMqPubChannel_created s
  generalize createMqPubChannel lib s = t at created ⊢
  cases created with
  | faulted none => exact .single (.faulted (.inl none))
  | refused => exact .trans (.single (.called _ rfl)) (channelPubErrCb_effects _ _)
  | made some replaces => exact .single (.publishMade some replaces)

theorem channelOkCb_setUps (s : RmqMgrBase) :
    Effects getConnection (createMqPubChannel lib (onStatusChange true s))
      (channelOkCb lib getConnection s) := by
  have exchange (s : RmqMgrBase) : Effects getConnection s (reportFailed
      (createMqExchange lib getConnection s.mqInfo.exchangeName s.mqInfo.exchangeType s)) :=
    reportFailed_effects (createMqExchange_effects _ _ s)
  have queue (s : RmqMgrBase) : Effects getConnection s (reportFailed
      (createMqQueue lib getConnection s.mqInfo.queueName s)) :=
    reportFailed_effects (setUp_effects _ _ s (by decide) (by decide))
  have bind (s : RmqMgrBase) : Effects getConnection s (reportFailed (bindQueue lib getConnection
      s.mqInfo.queueName s.mqInfo.exchangeName s.mqInfo.bindingKey s)) :=
    reportFailed_effects (setUp_effects _ _ s (by decide) (by decide))
  have consume (s : RmqMgrBase) : Effects getConnection s (reportFailed
      (startConsumeMsg lib getConnection s.mqInfo.queueName s)) :=
    reportFailed_effects (setUp_effects _ _ s (by decide) (by decide))
  exact (exchange _).trans ((queue _).trans ((bind _).trans (consume _)))

theorem channelOkCb_effects (s : RmqMgrBase) :
    Effects getConnection s (channelOkCb lib getConnection s) := by
  have published : Effects getConnection s (createMqPubChannel lib (onStatusChange true s)) :=
    .trans (.single (onStatusChange_effect true s)) (createMqPubChannel_effects _)
  exact published.trans (channelOkCb_setUps s)

theorem pendingErrCbs_effects (pending : List Operation) (message : String) (s : RmqMgrBase) :
    Effects getConnection s (pendingErrCbs lib getConnection pending message s) := by
  induction pending generalizing s with
  | nil => exact .refl
  | cons operation rest ih => exact (operationErrCb_effects operation message s).trans (ih _)

theorem reportError_effects (c : Nat) (message : String) (s : RmqMgrBase) :
    Effects getConnection (endChannel c s) (reportError lib getConnection c message s) := by
  have pending : Effects getConnection (endChannel c s)
      (pendingErrCbs lib getConnection (s.channels c).pending message (endChannel c s)) :=
    pendingErrCbs_effects _ _ _
  unfold reportError
  cases (s.channels c).role with
  | consumer => exact pending.trans (errCb_effects _ message _)
  | publish => exact pending.trans (channelPubErrCb_effects message _)

theorem reportReady_effects (c : Nat) (s : RmqMgrBase) :
    ∃ before t after, Effects getConnection { confirmOpen c s with handling := before } t ∧
      reportReady lib getConnection c s = { t with handling := after } := by
  unfold reportReady
  cases (s.channels c).role with
  | publish => exact ⟨s.handling, _, s.handling, .refl, rfl⟩
  | consumer => exact ⟨some c, _, none, channelOkCb_effects _, rfl⟩

theorem reportReady_pTcpMgr (c : Nat) (s : RmqMgrBase) :
    (reportReady lib getConnection c s).pTcpMgr = s.pTcpMgr := by
  obtain ⟨before, t, after, effects, same⟩ := reportReady_effects c s
  rw [same]
  exact effects.pTcpMgr

end RmqMgr.Session
