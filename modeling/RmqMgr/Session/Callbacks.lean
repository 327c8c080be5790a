import RmqMgr.Session.State

set_option autoImplicit false

namespace RmqMgr.Session

-- `getConnection` is `TcpMgr::GetConnection` of each instance. A function that may fail returns
-- the text of its `err`, and `none` for `true`.
variable (lib : Library) (getConnection : Nat → Option Nat)

-- Without a `TcpMgr` the source starts an instance from here; no caller gets there.
def getMqConnection (s : RmqMgrBase) : RmqMgrBase :=
  match s.pTcpMgr with
  | none => { s with startsItself := true }
  | some i => { s with connection := (getConnection i).map (ConnId.mk i) }

def createMqChannel (s : RmqMgrBase) : RmqMgrBase × Option String :=
  let s := if connectionUsable s then s else getMqConnection getConnection s
  match s.connection with
  | none => (dereferencesNull s, none)
  | some k =>
    match lib s.calls.length with
    | .threw what => (record (.channel .consumer k false) s, some ("创建channel失败：" ++ what))
    | _ => ({ destruct s.channel (construct .consumer k s) with channel := some s.channelCount }, none)

/-- The error callbacks that report and make a new channel; the result of `CreateMqChannel` is not
looked at. -/
def errCb (text msg : String) (s : RmqMgrBase) : RmqMgrBase :=
  (createMqChannel lib getConnection (onStatusChange false (onRtnErrMsg (text ++ msg) s))).1

def channelErrCb := errCb lib getConnection "当前通道发生错误："

def creatMqExchangeErrCb := errCb lib getConnection "创建Exchange发生错误："

def creatMqQueueErrCb := errCb lib getConnection "创建Queue发生错误："

def bindQueueErrCb := errCb lib getConnection "绑定Queue发生错误："

def setQosValueErrCb := errCb lib getConnection "设置Qos值发生错误："

def consumeErrorCb := errCb lib getConnection "消费消息发生错误："

def channelCloseErrCb (msg : String) (s : RmqMgrBase) : RmqMgrBase :=
  onRtnErrMsg ("关闭通道发生错误：" ++ msg) s

def operationErrCb : Operation → String → RmqMgrBase → RmqMgrBase
  | .exchange => creatMqExchangeErrCb lib getConnection
  | .queue => creatMqQueueErrCb lib getConnection
  | .bind => bindQueueErrCb lib getConnection
  | .qos => setQosValueErrCb lib getConnection
  | .consume => consumeErrorCb lib getConnection
  | .close => channelCloseErrCb
  | .destruct => fun _ s => s

-- An operation on `m_channel`. On an unusable channel the library may run the callback before
-- it returns.
def setUp (operation : Operation) (arguments : List String) (text : String) (s : RmqMgrBase) :
    RmqMgrBase × Option String :=
  match s.channel with
  | none => (dereferencesNull s, none)
  | some c =>
    let called := record (.setUp operation c arguments s.handling) s
    match lib s.calls.length with
    | .threw what => (called, some (text ++ what))
    | .accepted => if sends c s then (push operation c called, none) else (called, none)
    | .refused msg =>
      if sends c s then (push operation c called, none)
      else (operationErrCb lib getConnection operation msg called, none)

def exchangeTypes : List String :=
  ["topic", "direct", "fanout", "headers", "consistent_hash"]

def createMqExchange (exchangeName exchangeType : String) (s : RmqMgrBase) :
    RmqMgrBase × Option String :=
  if exchangeType ∈ exchangeTypes then
    setUp lib getConnection .exchange [exchangeName, exchangeType] "创建Exchange失败：" s
  else (s, some ("创建Exchange失败：未知的交换器类型：" ++ exchangeType))

def createMqQueue (queueName : String) :=
  setUp lib getConnection .queue [queueName, "exclusive"] "创建Queue失败："

def bindQueue (queueName exchangeName bindingKey : String) :=
  setUp lib getConnection .bind [exchangeName, queueName, bindingKey] "绑定Queue失败："

def setQosValue (val : UInt16) :=
  setUp lib getConnection .qos [toString val] "设置Qos值失败："

def startConsumeMsg (queueName : String) :=
  setUp lib getConnection .consume [queueName] "消费消息失败："

def channelPubErrCb (msg : String) (s : RmqMgrBase) : RmqMgrBase :=
  onStatusChange false (onRtnErrMsg ("发送数据通道发生错误：" ++ msg) s)

def createMqPubChannel (s : RmqMgrBase) : RmqMgrBase :=
  match s.connection with
  | none => dereferencesNull s
  | some k =>
    match lib s.calls.length with
    | .threw what => channelPubErrCb what (record (.channel .publish k false) s)
    | _ => { destruct s.channelPub (construct .publish k s) with channelPub := some s.channelCount }

def reportFailed (result : RmqMgrBase × Option String) : RmqMgrBase :=
  match result.2 with
  | none => result.1
  | some err => onRtnErrMsg err result.1

def channelOkCb (s : RmqMgrBase) : RmqMgrBase :=
  let s := createMqPubChannel lib (onStatusChange true s)
  let s := reportFailed (createMqExchange lib getConnection
    s.mqInfo.exchangeName s.mqInfo.exchangeType s)
  let s := reportFailed (createMqQueue lib getConnection s.mqInfo.queueName s)
  let s := reportFailed (bindQueue lib getConnection
    s.mqInfo.queueName s.mqInfo.exchangeName s.mqInfo.bindingKey s)
  reportFailed (startConsumeMsg lib getConnection s.mqInfo.queueName s)

def consumeRecvedCb (thrown : Option String) (deliveryTag : Nat) (s : RmqMgrBase) : RmqMgrBase :=
  match thrown, s.channel with
  | some _, _ => s
  | none, none => dereferencesNull s
  | none, some c => record (.ack c deliveryTag) s

def publishMsg (msg : List UInt8) (s : RmqMgrBase) : RmqMgrBase × Option String :=
  match s.channelPub with
  | none => (dereferencesNull s, none)
  | some c =>
    let called := record (.publish c s.mqInfo.exchangeName s.mqInfo.routingKey msg) s
    match lib s.calls.length with
    | .threw what => (called, some ("发布消息失败：" ++ what))
    | _ => (called, none)

def closeUsable (c : Nat) (s : RmqMgrBase) : RmqMgrBase × Option String :=
  if (s.channels c).usable then
    match lib s.calls.length with
    | .threw what => (record (.closeChannel c) s, some ("关闭channel失败：" ++ what))
    | .accepted => (startClose .close c s, none)
    | .refused msg =>
      if sends c s then (startClose .close c s, none)
      else (channelCloseErrCb msg (record (.closeChannel c) s), none)
  else (s, none)

def closeMqChannel (s : RmqMgrBase) : RmqMgrBase × Option String :=
  match s.channel with
  | none => (dereferencesNull s, none)
  | some c =>
    match closeUsable lib c s with
    | (s, some err) => (s, some err)
    | (s, none) =>
      match s.channelPub with
      | none => (dereferencesNull s, none)
      | some c => closeUsable lib c s

def closeMqConnection (s : RmqMgrBase) : RmqMgrBase × Option String :=
  match s.connection with
  | none => (dereferencesNull s, none)
  | some k =>
    if (s.connections k).usable then
      let called := record (.closeConnection k) s
      match lib s.calls.length with
      | .threw what => (called, some ("关闭连接失败" ++ what))
      | .refused _ => (called, some "关闭连接失败")
      | .accepted =>
        ({ called with
          connections := Function.update s.connections k { s.connections k with usable := false } },
          none)
    else (s, none)

def confirmOpen (c : Nat) (s : RmqMgrBase) : RmqMgrBase :=
  let channel := s.channels c
  let state := if channel.state = .connected then .ready else channel.state
  setChannel c { channel with state, opened := true } s

def endChannel (c : Nat) (s : RmqMgrBase) : RmqMgrBase :=
  setChannel c { s.channels c with state := .closed, pending := [] } s

-- `ChannelImpl::reportReady`. The callback of a consumer channel runs also when the `Channel`
-- object is gone.
def reportReady (c : Nat) (s : RmqMgrBase) : RmqMgrBase :=
  match (s.channels c).role with
  | .publish => confirmOpen c s
  | .consumer =>
    { channelOkCb lib getConnection { confirmOpen c s with handling := some c } with
      handling := none }

def pendingErrCbs (pending : List Operation) (message : String) (s : RmqMgrBase) : RmqMgrBase :=
  pending.foldl (fun s operation => operationErrCb lib getConnection operation message s) s

-- `ChannelImpl::reportError`: the callbacks of what is pending, then the one of the channel.
def reportError (c : Nat) (message : String) (s : RmqMgrBase) : RmqMgrBase :=
  let t := pendingErrCbs lib getConnection (s.channels c).pending message (endChannel c s)
  match (s.channels c).role with
  | .consumer => channelErrCb lib getConnection message t
  | .publish => channelPubErrCb message t

def reportSuccess (c : Nat) (s : RmqMgrBase) : RmqMgrBase :=
  setChannel c { s.channels c with pending := (s.channels c).pending.tail } s

-- `ChannelImpl::reportClosed`: the answer to the close, which is the last to come.
def reportClosed (c : Nat) (s : RmqMgrBase) : RmqMgrBase :=
  endChannel c s

end RmqMgr.Session
