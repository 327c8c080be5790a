import RmqMgr.Session.Callbacks
import RmqMgr.Tcp.Took

set_option autoImplicit false

namespace RmqMgr.Session

open Tcp (TcpMgr)

inductive UserPhase where
  | idle
  | waitForReady
  | getMqConnection
  | createMqChannel
  | closeMqConnection
  | finitClose
  | finitStop
  | finitJoin
  deriving DecidableEq, Repr

inductive Api where
  | startMqInstance
  | publishMsg
  | releaseMqInstance
  deriving DecidableEq, Repr

/-- `live`: the latest `StartMqInstance` returned true and `ReleaseMqInstance` was not called since.
`returns` are the results so far, with their `err`. -/
structure World where
  ses : RmqMgrBase
  tcps : Nat → TcpMgr := fun _ => .started
  tcpCount : Nat := 0
  user : UserPhase := .idle
  live : Bool := false
  returns : List (Api × Option String) := []
  starts : Nat := 0
  failures : Nat := 0

def World.start (mqInfo : MqInfo) : World :=
  { ses := { mqInfo } }

inductive Event where
  | transport (i : Nat) (e : Tcp.Event)
  | onData (k : ConnId) (posting : Tcp.Posting) (data : Tcp.Bytes)
  | onReady (k : ConnId)
  | onError (k : ConnId) (message : String)
  | onClosed (k : ConnId)
  | reportReady (c : Nat)
  | reportError (c : Nat) (message : String)
  | reportSuccess (c : Nat)
  | reportClosed (c : Nat)
  | consumeRecvedCb (c : Nat) (thrown : Option String) (deliveryTag : Nat)
  | startMqInstance (thrown : Option String)
  | waitForReady
  | getMqConnection
  | createMqChannel
  | publishMsg (msg : List UInt8)
  | releaseMqInstance
  | closeMqConnection
  | finitClose
  | finitStop
  | finitJoin
  deriving DecidableEq, Repr

-- The handlers and completions of a transport that do not run code of the session.
def isTransport : Tcp.Event → Bool
  | .runNext _ => true
  | .connectDone _ => true
  | .readDone _ _ _ => true
  | .writeDone _ _ => true
  | .created => true
  | .parsed _ => true
  | _ => false

def answerable : List Operation → Bool
  | [] => false
  | .close :: _ => false
  | .destruct :: _ => false
  | _ :: _ => true

namespace World

def getConnection (w : World) (i : Nat) : Option Nat :=
  Tcp.getConnection (w.tcps i)

-- The worker of the `TcpMgr` that made `k` is inside `parse` of it.
def parses (w : World) (k : ConnId) : Prop :=
  k.tcpMgr < w.tcpCount ∧ (w.tcps k.tcpMgr).phase = .parsing ∧
    w.getConnection k.tcpMgr = some k.number

instance (w : World) (k : ConnId) : Decidable (w.parses k) :=
  inferInstanceAs (Decidable (_ ∧ _ ∧ _))

def made (w : World) (k : ConnId) : Prop :=
  k.tcpMgr < w.tcpCount ∧ 0 < k.number ∧ k.number ≤ (w.tcps k.tcpMgr).generation

instance (w : World) (k : ConnId) : Decidable (w.made k) :=
  inferInstanceAs (Decidable (_ ∧ _ ∧ _))

-- The broker speaks on channel `c`, and not after its end.
def hears (w : World) (c : Nat) : Prop :=
  c < w.ses.channelCount ∧ (w.ses.channels c).state ≠ .closed ∧
    w.parses (w.ses.channels c).connection

instance (w : World) (c : Nat) : Decidable (w.hears c) :=
  inferInstanceAs (Decidable (_ ∧ _ ∧ _))

def setTcp (i : Nat) (t : TcpMgr) (w : World) : World :=
  { w with tcps := Function.update w.tcps i t }

def transports (i : Nat) (e : Tcp.Event) (w : World) : Option World :=
  (Tcp.step (w.tcps i) e).map fun t => w.setTcp i t

def returned (api : Api) (result : Option String) (w : World) : World :=
  { w with user := .idle, returns := w.returns ++ [(api, result)] }

end World

def setUsable (k : ConnId) (usable : Bool) (s : RmqMgrBase) : RmqMgrBase :=
  { s with connections := Function.update s.connections k { s.connections k with usable } }

def setReady (k : ConnId) (s : RmqMgrBase) : RmqMgrBase :=
  { s with connections := Function.update s.connections k { s.connections k with ready := true } }

-- `StartMqInstance` up to `WaitForReady`.
def startMqInstance (thrown : Option String) (w : World) : World :=
  let w := { w with starts := w.starts + 1, live := false }
  match thrown with
  | some what =>
    let err := "初始化mq实例失败：" ++ what
    { w with ses := onRtnErrMsg err w.ses }.returned .startMqInstance (some err)
  | none =>
    { w with
      ses := { w.ses with pTcpMgr := some w.tcpCount }
      tcpCount := w.tcpCount + 1
      user := .waitForReady }

def waitForReady (w : World) : World :=
  match w.ses.pTcpMgr with
  | none => { w with ses := dereferencesNull w.ses }
  | some i =>
    if (w.tcps i).isReady then { w with user := .getMqConnection }
    else
      let err := "Rmq登录失败"
      { w with ses := onRtnErrMsg err w.ses }.returned .startMqInstance (some err)

variable (lib : Library)

def startMqChannel (w : World) : World :=
  match createMqChannel lib w.getConnection w.ses with
  | (s, none) => { w with ses := s, live := true }.returned .startMqInstance none
  | (s, some err) =>
    { w with ses := onStatusChange false (onRtnErrMsg err s) }.returned .startMqInstance (some err)

def releaseStep (step : RmqMgrBase → RmqMgrBase × Option String) (next : UserPhase) (w : World) :
    World :=
  match step w.ses with
  | (s, none) => { w with ses := s, user := next, live := false }
  | (s, some err) => { w with ses := s, live := false }.returned .releaseMqInstance (some err)

def finitStep (e : Tcp.Event) (next : UserPhase) (w : World) : Option World :=
  match w.ses.pTcpMgr with
  | none => some { w with ses := dereferencesNull w.ses }
  | some i => { w with user := next }.transports i e

def finitJoin (w : World) : Option World :=
  match w.ses.pTcpMgr with
  | none => some { w with ses := dereferencesNull w.ses }
  | some i => if (w.tcps i).phase = .idle then some (w.returned .releaseMqInstance none) else none

def callback (w : World) (enabled : Prop) [Decidable enabled] (run : RmqMgrBase → RmqMgrBase) :
    Option World :=
  if enabled then some { w with ses := run w.ses } else none

def step (w : World) (e : Event) : Option World :=
  if w.ses.fault then none else
  match e with
  | .transport i e =>
    if i < w.tcpCount ∧ isTransport e = true then w.transports i e else none
  | .onData k posting data =>
    if w.made k then w.transports k.tcpMgr (.onData posting ⟨k.number, data⟩) else none
  | .onReady k =>
    if w.parses k then { w with ses := setReady k w.ses }.transports k.tcpMgr .onReady else none
  | .onError k message =>
    if w.parses k then
      { w with ses := setUsable k false w.ses }.transports k.tcpMgr (.onError message)
    else none
  | .onClosed k =>
    if w.parses k then
      { w with ses := setUsable k false w.ses }.transports k.tcpMgr .onClosed
    else none
  | .reportReady c =>
    callback w (w.hears c ∧ (w.ses.channels c).opened = false) (reportReady lib w.getConnection c)
  | .reportError c message =>
    if w.hears c then
      some { w with
        ses := reportError lib w.getConnection c message w.ses
        failures := w.failures + if (w.ses.channels c).role = .consumer then 1 else 0 }
    else none
  | .reportSuccess c =>
    callback w (w.hears c ∧ answerable (w.ses.channels c).pending = true) (reportSuccess c)
  | .reportClosed c =>
    callback w (w.hears c ∧ ((w.ses.channels c).pending = [.close] ∨
      (w.ses.channels c).pending = [.destruct])) (reportClosed c)
  | .consumeRecvedCb c thrown deliveryTag =>
    callback w (w.hears c ∧ (w.ses.channels c).opened = true ∧
      (w.ses.channels c).role = .consumer) (consumeRecvedCb thrown deliveryTag)
  | .startMqInstance thrown => if w.user = .idle then some (startMqInstance thrown w) else none
  | .waitForReady => if w.user = .waitForReady then some (waitForReady w) else none
  | .getMqConnection =>
    if w.user = .getMqConnection then
      some { w with ses := getMqConnection w.getConnection w.ses, user := .createMqChannel }
    else none
  | .createMqChannel => if w.user = .createMqChannel then some (startMqChannel lib w) else none
  | .publishMsg msg =>
    if w.user = .idle then
      let result := publishMsg lib msg w.ses
      some ({ w with ses := result.1 }.returned .publishMsg result.2)
    else none
  | .releaseMqInstance =>
    if w.user = .idle then some (releaseStep (closeMqChannel lib) .closeMqConnection w) else none
  | .closeMqConnection =>
    if w.user = .closeMqConnection then
      some (releaseStep (closeMqConnection lib) .finitClose w)
    else none
  | .finitClose => if w.user = .finitClose then finitStep .finitClose .finitStop w else none
  | .finitStop => if w.user = .finitStop then finitStep .finitStop .finitJoin w else none
  | .finitJoin => if w.user = .finitJoin then finitJoin w else none

-- A first start, for the runs on which the results below are tried.
namespace Run

def fanout : MqInfo := ⟨"RmqMgrExchangeTest", "fanout", "", "", ""⟩

def accepting : Library := fun _ => .accepted

def runs : Event := .transport 0 (.runNext [])

def parsing : List Event :=
  [.transport 0 (.readDone (.readSome 4096) none [1]), runs]

def parsed : Event := .transport 0 (.parsed (.parsed 1))

def connects : List Event :=
  [.transport 0 (.connectDone none), runs, .transport 0 .created, runs]

def startAndLogIn : List Event :=
  [.startMqInstance none] ++ connects ++ parsing ++
    [.onReady ⟨0, 1⟩, parsed, runs, .waitForReady, .getMqConnection, .createMqChannel]

def channelOpens (c : Nat) : List Event :=
  parsing ++ [.reportReady c, parsed, runs]

def readFails : List Event :=
  [.transport 0 (.readDone (.readSome 4096) (some "Connection reset by peer") []), runs,
    .transport 0 (.runNext [.onConnect Tcp.operationAborted]), runs]

end Run

end RmqMgr.Session
