import Mathlib.Logic.Function.Basic

set_option autoImplicit false

namespace RmqMgr.Session

structure MqInfo where
  exchangeName : String
  exchangeType : String
  queueName : String
  routingKey : String
  bindingKey : String
  deriving DecidableEq, Repr

-- A connection object: the `TcpMgr` that made it, and which of its `OnConnect` calls did.
structure ConnId where
  tcpMgr : Nat
  number : Nat
  deriving DecidableEq, Repr

structure Connection where
  usable : Bool := true
  ready : Bool := false
  deriving DecidableEq, Repr

inductive Role where
  | consumer
  | publish
  deriving DecidableEq, Repr

/-- A deferred operation on a channel. `destruct` is the close that `Channel::~Channel` starts,
which has no callback. -/
inductive Operation where
  | exchange
  | queue
  | bind
  | qos
  | consume
  | close
  | destruct
  deriving DecidableEq, Repr

inductive ChannelState where
  | connected
  | ready
  | closing
  | closed
  deriving DecidableEq, Repr

/-- The part of `ChannelImpl` that outlives the `Channel` object. `pending` are the operations
without an answer, oldest first; `opened` says that the broker confirmed the opening. -/
structure Channel where
  connection : ConnId := ⟨0, 0⟩
  role : Role := .consumer
  state : ChannelState := .closed
  opened : Bool := false
  pending : List Operation := []
  deriving DecidableEq, Repr

def Channel.usable (c : Channel) : Bool :=
  c.state = .connected ∨ c.state = .ready

-- The calls into the library. `owner` is the channel whose ready event is being handled.
inductive Call where
  | channel (role : Role) (connection : ConnId) (constructed : Bool)
  | setUp (operation : Operation) (channel : Nat) (arguments : List String) (owner : Option Nat)
  | publish (channel : Nat) (exchangeName routingKey : String) (msg : List UInt8)
  | ack (channel : Nat) (deliveryTag : Nat)
  | closeChannel (channel : Nat)
  | closeConnection (connection : ConnId)
  deriving DecidableEq, Repr

inductive Answer where
  | accepted
  | refused (message : String)
  | threw (what : String)
  deriving DecidableEq, Repr

abbrev Library := Nat → Answer

/-- The members of `RmqMgrBase`, the objects of the library behind them, and what the virtual
functions were told. -/
structure RmqMgrBase where
  mqInfo : MqInfo
  connection : Option ConnId := none
  channel : Option Nat := none
  channelPub : Option Nat := none
  pTcpMgr : Option Nat := none
  connections : ConnId → Connection := fun _ => {}
  channels : Nat → Channel := fun _ => {}
  channelCount : Nat := 0
  calls : List Call := []
  handling : Option Nat := none
  status : Option Bool := none
  errMsgs : List String := []
  startsItself : Bool := false
  -- A null pointer was dereferenced; the program ends there.
  fault : Bool := false

def onRtnErrMsg (err : String) (s : RmqMgrBase) : RmqMgrBase :=
  { s with errMsgs := s.errMsgs ++ [err] }

def onStatusChange (isOk : Bool) (s : RmqMgrBase) : RmqMgrBase :=
  { s with status := some isOk }

def record (call : Call) (s : RmqMgrBase) : RmqMgrBase :=
  { s with calls := s.calls ++ [call] }

def dereferencesNull (s : RmqMgrBase) : RmqMgrBase :=
  { s with fault := true }

def connectionUsable (s : RmqMgrBase) : Bool :=
  match s.connection with
  | none => false
  | some k => (s.connections k).usable

-- The library sends a frame only on a usable channel of a usable connection.
def sends (c : Nat) (s : RmqMgrBase) : Bool :=
  (s.channels c).usable && (s.connections (s.channels c).connection).usable

def setChannel (c : Nat) (channel : Channel) (s : RmqMgrBase) : RmqMgrBase :=
  { s with channels := Function.update s.channels c channel }

@[simp]
theorem setChannel_self (c : Nat) (channel : Channel) (s : RmqMgrBase) :
    (setChannel c channel s).channels c = channel :=
  Function.update_self ..

theorem setChannel_other {c d : Nat} (other : d ≠ c) (channel : Channel) (s : RmqMgrBase) :
    (setChannel c channel s).channels d = s.channels d :=
  Function.update_of_ne other ..

def construct (role : Role) (k : ConnId) (s : RmqMgrBase) : RmqMgrBase :=
  record (.channel role k true)
    { setChannel s.channelCount { connection := k, role, state := .connected } s with
      channelCount := s.channelCount + 1 }

def push (operation : Operation) (c : Nat) (s : RmqMgrBase) : RmqMgrBase :=
  setChannel c { s.channels c with pending := (s.channels c).pending ++ [operation] } s

-- `ChannelImpl::close` on a usable channel.
def startClose (operation : Operation) (c : Nat) (s : RmqMgrBase) : RmqMgrBase :=
  record (.closeChannel c) (push operation c
    (setChannel c { s.channels c with state := .closing } s))

theorem startClose_eq (operation : Operation) (c : Nat) (s : RmqMgrBase) :
    startClose operation c s = record (.closeChannel c) (setChannel c { s.channels c with
      state := .closing, pending := (s.channels c).pending ++ [operation] } s) := by
  simp [startClose, record, push, setChannel]

-- The last pointer to a channel object is replaced.
def destruct (pointer : Option Nat) (s : RmqMgrBase) : RmqMgrBase :=
  match pointer with
  | none => s
  | some c => if (s.channels c).usable then startClose .destruct c s else s

end RmqMgr.Session
