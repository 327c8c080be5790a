import RmqMgr.Session.Lifecycle
import RmqMgr.Tcp.Failures

set_option autoImplicit false

-- A failure is the text under which the code reports it, and `none` where no code does. A report
-- goes to `OnRtnErrMsg`, or to the caller as the `err` of a public method.

namespace RmqMgr.Session

open Transition
open scoped List

def Operation.failed : Operation → String
  | .exchange => "创建Exchange失败："
  | .queue => "创建Queue失败："
  | .bind => "绑定Queue失败："
  | .qos => "设置Qos值失败："
  | .consume => "消费消息失败："
  | .close => "关闭channel失败："
  | .destruct => "关闭channel失败："

-- An exception of `ack` goes on to `ParseAmqpData`. A close that is no step of `CloseMqChannel` is
-- the library's own.
def Call.failures (releasing : Bool) : Call → Answer → List (Option String)
  | .channel .consumer _ false, .threw what => [some ("创建channel失败：" ++ what)]
  | .channel .publish _ false, .threw what => [some ("发送数据通道发生错误：" ++ what)]
  | .setUp operation _ _ _, .threw what => [some (operation.failed ++ what)]
  | .publish _ _ _ _, .threw what => [some ("发布消息失败：" ++ what)]
  | .publish _ _ _ _, .refused _ => [none]
  | .ack _ _, .refused _ => [none]
  | .closeChannel _, .threw what =>
    if releasing then [some ("关闭channel失败：" ++ what)] else []
  | .closeConnection _, .threw what => [some ("关闭连接失败" ++ what)]
  | .closeConnection _, .refused _ => [some "关闭连接失败"]
  | _, _ => []

def newCalls (s t : RmqMgrBase) : List (Call × Nat) :=
  t.calls.zipIdx.drop s.calls.length

variable (lib : Library)

def callFailures (releasing : Bool) (calls : List (Call × Nat)) : List (Option String) :=
  calls.flatMap fun (call, n) => call.failures releasing (lib n)

-- `CreateMqExchange` returns false for a type that it does not know.
def exchangeFailures (exchangeType : String) : List (Option String) :=
  if exchangeType ∈ exchangeTypes then []
  else [some ("创建Exchange失败：未知的交换器类型：" ++ exchangeType)]

def Event.failures (w : World) : Event → List (Option String)
  | .startMqInstance (some what) => [some ("初始化mq实例失败：" ++ what)]
  | .waitForReady =>
    if w.ses.pTcpMgr.all fun i => (w.tcps i).isReady then [] else [some "Rmq登录失败"]
  | .reportReady c =>
    if (w.ses.channels c).role = .consumer then exchangeFailures w.ses.mqInfo.exchangeType else []
  | _ => []

def failures (w : World) (e : Event) (v : World) : List (Option String) :=
  (match w.target e with
    | some (i, e) => Tcp.failures (w.tcps i) e
    | none => []) ++
  e.failures w ++ callFailures lib (e = .releaseMqInstance) (newCalls w.ses v.ses)

def told (w v : World) : List String :=
  v.ses.errMsgs.drop w.ses.errMsgs.length ++ (v.returns.drop w.returns.length).filterMap Prod.snd

def reports (w : World) (e : Event) (v : World) : List String :=
  (match w.target e with
    | some (i, _) => (v.tcps i).errMsgs.drop (w.tcps i).errMsgs.length
    | none => []) ++
  told w v

/-- What nothing reports: `CreateMqChannel` throws inside an error callback, or `publish` or `ack`
returns false. -/
def Call.unheard (starting : Bool) : Call → Answer → Bool
  | .channel .consumer _ false, .threw _ => !starting
  | .publish _ _ _ _, .refused _ => true
  | .ack _ _, .refused _ => true
  | _, _ => false

def heardCalls (starting : Bool) (calls : List (Call × Nat)) : Prop :=
  ∀ call ∈ calls, call.1.unheard starting (lib call.2) = false

instance (starting : Bool) (calls : List (Call × Nat)) : Decidable (heardCalls lib starting calls) :=
  inferInstanceAs (Decidable (∀ _ ∈ _, _))

def Event.dropsData : Event → Bool
  | .onData _ (.postThrew _) _ => true
  | _ => false

variable {lib} {getConnection : Nat → Option Nat}

def Aside (msg : String) : Prop :=
  msg.toList.take 3 ≠ "创建channel失败：".toList.take 3

theorem Aside.append {text : String} (aside : Aside text) (long : 3 ≤ text.toList.length)
    (msg : String) : Aside (text ++ msg) := by
  unfold Aside at *
  rwa [String.toList_append, List.take_append_of_le_length long]

structure Account (lib : Library) (others : List (Option String)) (s t : RmqMgrBase)
    (calls : List Call) (msgs : List String) : Prop where
  mqInfo : t.mqInfo = s.mqInfo
  made : t.calls = s.calls ++ calls
  told : t.errMsgs = s.errMsgs ++ msgs
  aside : ∀ msg ∈ msgs, Aside msg
  heard : heardCalls lib false (calls.zipIdx s.calls.length) →
    others ++ callFailures lib false (calls.zipIdx s.calls.length) <+~ msgs.map some

def Accounts (lib : Library) (others : List (Option String)) (s t : RmqMgrBase) : Prop :=
  ∃ calls msgs, Account lib others s t calls msgs

theorem callFailures_append (releasing : Bool) (first second : List (Call × Nat)) :
    callFailures lib releasing (first ++ second) =
      callFailures lib releasing first ++ callFailures lib releasing second :=
  List.flatMap_append

theorem Accounts.trans {first second : List (Option String)} {s t u : RmqMgrBase}
    (before : Accounts lib first s t) (after : Accounts lib second t u) :
    Accounts lib (first ++ second) s u := by
  obtain ⟨calls, msgs, before⟩ := before
  obtain ⟨calls', msgs', after⟩ := after
  have count : t.calls.length = s.calls.length + calls.length := by
    rw [before.made, List.length_append]
  refine ⟨calls ++ calls', msgs ++ msgs', after.mqInfo.trans before.mqInfo, ?_, ?_, ?_, ?_⟩
  · rw [after.made, before.made, List.append_assoc]
  · rw [after.told, before.told, List.append_assoc]
  · intro msg told
    rcases List.mem_append.mp told with early | late
    · exact before.aside msg early
    · exact after.aside msg late
  · intro heard
    rw [List.zipIdx_append, ← count] at heard ⊢
    have early := before.heard fun call made => heard call (List.mem_append_left _ made)
    have late := after.heard fun call made => heard call (List.mem_append_right _ made)
    rw [callFailures_append, List.map_append]
    refine List.Subperm.trans (List.Perm.subperm ?_) (early.append late)
    rw [List.append_assoc, List.append_assoc]
    exact (List.perm_append_comm_assoc _ _ _).append_left _

theorem Accounts.nothing {s t : RmqMgrBase} (mqInfo : t.mqInfo = s.mqInfo)
    (calls : t.calls = s.calls) (told : t.errMsgs = s.errMsgs) : Accounts lib [] s t :=
  ⟨[], [], mqInfo, (by rw [calls, List.append_nil]), (by rw [told, List.append_nil]),
    (fun _ none => nomatch none), fun _ => List.nil_subperm⟩

theorem Accounts.told {s t : RmqMgrBase} {msg : String} (mqInfo : t.mqInfo = s.mqInfo)
    (calls : t.calls = s.calls) (told : t.errMsgs = s.errMsgs ++ [msg]) (aside : Aside msg) :
    Accounts lib [] s t := by
  refine ⟨[], [msg], mqInfo, by rw [calls, List.append_nil], told, ?_, fun _ => List.nil_subperm⟩
  intro _ only
  rwa [List.mem_singleton.mp only]

theorem fetched_kept {s t : RmqMgrBase} (fetched : Fetched getConnection s t) :
    t.mqInfo = s.mqInfo ∧ t.calls = s.calls ∧ t.errMsgs = s.errMsgs := by
  rcases fetched with ⟨_, rfl⟩ | ⟨_, rfl⟩
  · exact ⟨rfl, rfl, rfl⟩
  · unfold getMqConnection
    split <;> exact ⟨rfl, rfl, rfl⟩

theorem fetched_accounts {s t : RmqMgrBase} (fetched : Fetched getConnection s t) :
    Accounts lib [] s t := by
  obtain ⟨mqInfo, calls, errMsgs⟩ := fetched_kept fetched
  exact .nothing mqInfo calls errMsgs

theorem Accounts.called {s t : RmqMgrBase} {call : Call} {msgs : List String}
    (mqInfo : t.mqInfo = s.mqInfo) (made : t.calls = s.calls ++ [call])
    (told : t.errMsgs = s.errMsgs ++ msgs) (aside : ∀ msg ∈ msgs, Aside msg)
    (heard : call.unheard false (lib s.calls.length) = false →
      call.failures false (lib s.calls.length) <+~ msgs.map some) :
    Accounts lib [] s t := by
  refine ⟨[call], msgs, mqInfo, made, told, aside, fun answered => ?_⟩
  have answer := answered (call, s.calls.length) (by simp)
  simpa [callFailures] using heard answer

theorem failures_constructed (role : Role) (k : ConnId) (answer : Answer) :
    (Call.channel role k true).failures false answer = [] := by
  cases role <;> rfl

theorem failures_closeChannel (c : Nat) (answer : Answer) :
    (Call.closeChannel c).failures false answer = [] := by
  cases answer <;> rfl

theorem construct_accounts (role : Role) (k : ConnId) (s : RmqMgrBase) :
    Accounts lib [] s (construct role k s) := by
  refine .called rfl rfl (List.append_nil _).symm (fun _ none => nomatch none) fun _ => ?_
  rw [failures_constructed]
  exact List.nil_subperm

theorem destruct_accounts (pointer : Option Nat) (s : RmqMgrBase) :
    Accounts lib [] s (destruct pointer s) := by
  unfold destruct
  split
  next => exact .nothing rfl rfl rfl
  next c =>
    split
    next =>
      rw [startClose_eq]
      refine .called rfl rfl (List.append_nil _).symm (fun _ none => nomatch none) fun _ => ?_
      rw [failures_closeChannel]
      exact List.nil_subperm
    next => exact .nothing rfl rfl rfl

theorem createMqChannel_accounts (s : RmqMgrBase) :
    Accounts lib [] s (createMqChannel lib getConnection s).1 := by
  unfold createMqChannel
  have fetched := @fetched_accounts lib _ _ _ (@fetches_connection getConnection s)
  generalize (if connectionUsable s then s else getMqConnection getConnection s) = t at fetched ⊢
  simp only
  split
  next => exact fetched.trans (.nothing rfl rfl rfl)
  next k _ =>
    split
    next what threw =>
      refine fetched.trans (.called rfl rfl (List.append_nil _).symm (fun _ none => nomatch none) ?_)
      intro answered
      simp [Call.unheard, threw] at answered
    next =>
      have made : Accounts lib [] t (construct .consumer k t) := construct_accounts .consumer k t
      exact ((fetched.trans made).trans (destruct_accounts t.channel _)).trans (.nothing rfl rfl rfl)

theorem errCb_accounts {text : String} (aside : Aside text) (long : 3 ≤ text.toList.length)
    (msg : String) (s : RmqMgrBase) : Accounts lib [] s (errCb lib getConnection text msg s) := by
  have told : Accounts lib [] s (onStatusChange false (onRtnErrMsg (text ++ msg) s)) :=
    .told rfl rfl rfl (aside.append long msg)
  exact told.trans (createMqChannel_accounts _)

theorem operationErrCb_accounts (operation : Operation) (msg : String) (s : RmqMgrBase) :
    Accounts lib [] s (operationErrCb lib getConnection operation msg s) := by
  cases operation with
  | destruct => exact .nothing rfl rfl rfl
  | close => exact .told rfl rfl rfl (Aside.append (by unfold Aside; decide) (by decide) msg)
  | _ => exact errCb_accounts (by unfold Aside; decide) (by decide) msg s

theorem pendingErrCbs_accounts (pending : List Operation) (message : String) (s : RmqMgrBase) :
    Accounts lib [] s (pendingErrCbs lib getConnection pending message s) := by
  induction pending generalizing s with
  | nil => exact .nothing rfl rfl rfl
  | cons operation rest ih =>
    have first : Accounts lib [] s (operationErrCb lib getConnection operation message s) :=
      operationErrCb_accounts operation message s
    exact first.trans (ih _)

theorem reportError_accounts (c : Nat) (message : String) (s : RmqMgrBase) :
    Accounts lib [] s (reportError lib getConnection c message s) := by
  have ended : Accounts lib [] s (endChannel c s) := .nothing rfl rfl rfl
  have pending : Accounts lib [] s
      (pendingErrCbs lib getConnection (s.channels c).pending message (endChannel c s)) :=
    ended.trans (pendingErrCbs_accounts _ message _)
  unfold reportError
  cases (s.channels c).role with
  | consumer => exact pending.trans (errCb_accounts (by unfold Aside; decide) (by decide) message _)
  | publish =>
    exact pending.trans (.told rfl rfl rfl
      (Aside.append (by unfold Aside; decide) (by decide) message))

theorem failed_aside (operation : Operation) (what : String) :
    Aside (operation.failed ++ what) := by
  cases operation <;> exact Aside.append (by unfold Aside; decide) (by decide) what

theorem setUp_accounts (operation : Operation) (arguments : List String) (s : RmqMgrBase) :
    Accounts lib [] s
      (reportFailed (setUp lib getConnection operation arguments operation.failed s)) := by
  unfold setUp
  split
  next => exact .nothing rfl rfl rfl
  next c _ =>
    have accepted (t : RmqMgrBase) (same : t.mqInfo = s.mqInfo)
        (made : t.calls = s.calls ++ [.setUp operation c arguments s.handling])
        (told : t.errMsgs = s.errMsgs) (opens : ∀ what, lib s.calls.length ≠ .threw what) :
        Accounts lib [] s t := by
      have quiet : t.errMsgs = s.errMsgs ++ [] := told.trans (List.append_nil _).symm
      refine .called same made quiet (fun _ none => nomatch none) fun _ => ?_
      cases answer : lib s.calls.length with
      | threw what => exact absurd answer (opens what)
      | _ => exact List.nil_subperm
    simp only
    split
    next what threw =>
      refine .called rfl rfl rfl ?_ fun _ => ?_
      · exact fun msg only => List.mem_singleton.mp only ▸ failed_aside operation what
      · rw [threw]
        exact .refl _
    next answer =>
      split <;> exact accepted _ rfl rfl rfl (by simp [answer])
    next msg answer =>
      split
      next => exact accepted _ rfl rfl rfl (by simp [answer])
      next =>
        have called : Accounts lib [] s (record (.setUp operation c arguments s.handling) s) :=
          accepted _ rfl rfl rfl (by simp [answer])
        exact called.trans (operationErrCb_accounts operation msg _)

theorem createMqExchange_accounts (exchangeName : String) (s : RmqMgrBase) :
    Accounts lib (exchangeFailures s.mqInfo.exchangeType) s
      (reportFailed (createMqExchange lib getConnection exchangeName s.mqInfo.exchangeType s)) := by
  unfold createMqExchange exchangeFailures
  split
  next => exact setUp_accounts .exchange _ s
  next =>
    refine ⟨[], [_], rfl, (List.append_nil _).symm, rfl, ?_, fun _ => .refl _⟩
    intro _ only
    rw [List.mem_singleton.mp only]
    exact Aside.append (by unfold Aside; decide) (by decide) _

theorem createMqPubChannel_accounts (s : RmqMgrBase) :
    Accounts lib [] s (createMqPubChannel lib s) := by
  unfold createMqPubChannel
  split
  next => exact .nothing rfl rfl rfl
  next k _ =>
    split
    next what threw =>
      refine .called rfl rfl rfl ?_ fun _ => ?_
      · intro _ only
        rw [List.mem_singleton.mp only]
        exact Aside.append (by unfold Aside; decide) (by decide) what
      · rw [threw]
        exact .refl _
    next =>
      have made : Accounts lib [] s (construct .publish k s) := construct_accounts .publish k s
      exact (made.trans (destruct_accounts s.channelPub _)).trans (.nothing rfl rfl rfl)

theorem channelOkCb_accounts (s : RmqMgrBase) :
    Accounts lib (exchangeFailures s.mqInfo.exchangeType) s (channelOkCb lib getConnection s) := by
  have told : Accounts lib [] s (onStatusChange true s) := .nothing rfl rfl rfl
  have made : Accounts lib [] s (createMqPubChannel lib (onStatusChange true s)) :=
    told.trans (createMqPubChannel_accounts _)
  have mqInfo : (createMqPubChannel lib (onStatusChange true s)).mqInfo = s.mqInfo := by
    obtain ⟨_, _, account⟩ := made
    exact account.mqInfo
  have exchange (s : RmqMgrBase) : Accounts lib (exchangeFailures s.mqInfo.exchangeType) s
      (reportFailed (createMqExchange lib getConnection
        s.mqInfo.exchangeName s.mqInfo.exchangeType s)) :=
    createMqExchange_accounts _ s
  have queue (s : RmqMgrBase) : Accounts lib [] s (reportFailed
      (createMqQueue lib getConnection s.mqInfo.queueName s)) :=
    setUp_accounts .queue _ s
  have bind (s : RmqMgrBase) : Accounts lib [] s (reportFailed (bindQueue lib getConnection
      s.mqInfo.queueName s.mqInfo.exchangeName s.mqInfo.bindingKey s)) :=
    setUp_accounts .bind _ s
  have consume (s : RmqMgrBase) : Accounts lib [] s (reportFailed
      (startConsumeMsg lib getConnection s.mqInfo.queueName s)) :=
    setUp_accounts .consume _ s
  have all : Accounts lib ([] ++ (exchangeFailures
        (createMqPubChannel lib (onStatusChange true s)).mqInfo.exchangeType ++ ([] ++ ([] ++ []))))
      s (channelOkCb lib getConnection s) :=
    made.trans ((exchange _).trans ((queue _).trans ((bind _).trans (consume _))))
  rwa [mqInfo, List.nil_append, List.append_nil, List.append_nil, List.append_nil] at all

theorem reportReady_accounts (c : Nat) (s : RmqMgrBase) :
    Accounts lib
      (if (s.channels c).role = .consumer then exchangeFailures s.mqInfo.exchangeType else [])
      s (reportReady lib getConnection c s) := by
  unfold reportReady
  cases (s.channels c).role with
  | publish => exact .nothing rfl rfl rfl
  | consumer =>
    have opened : Accounts lib [] s { confirmOpen c s with handling := some c } :=
      .nothing rfl rfl rfl
    have mqInfo : ({ confirmOpen c s with handling := some c } : RmqMgrBase).mqInfo = s.mqInfo := rfl
    generalize ({ confirmOpen c s with handling := some c } : RmqMgrBase) = t at opened mqInfo ⊢
    have set : Accounts lib (exchangeFailures t.mqInfo.exchangeType) t
        (channelOkCb lib getConnection t) :=
      channelOkCb_accounts t
    have handled : Accounts lib [] (channelOkCb lib getConnection t)
        { channelOkCb lib getConnection t with handling := none } :=
      .nothing rfl rfl rfl
    have all := (opened.trans set).trans handled
    rwa [mqInfo, List.nil_append, List.append_nil] at all

theorem consumeRecvedCb_accounts (thrown : Option String) (deliveryTag : Nat) (s : RmqMgrBase) :
    Accounts lib [] s (consumeRecvedCb thrown deliveryTag s) := by
  unfold consumeRecvedCb
  split
  next => exact .nothing rfl rfl rfl
  next => exact .nothing rfl rfl rfl
  next c _ =>
    refine .called rfl rfl (List.append_nil _).symm (fun _ none => nomatch none) fun heard => ?_
    cases answer : lib s.calls.length with
    | refused =>
      rw [answer] at heard
      cases heard
    | _ => exact List.nil_subperm

end RmqMgr.Session
