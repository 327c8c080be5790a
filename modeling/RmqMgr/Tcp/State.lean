import Mathlib.Data.List.Basic

set_option autoImplicit false

namespace RmqMgr.Tcp

abbrev Bytes := List UInt8

-- `boost::system::error_code`: a failure carries its message.
abbrev ErrorCode := Option String

def errorMessage : ErrorCode → String
  | none => "Success"
  | some message => message

def operationAborted : ErrorCode := some "Operation canceled"

/-- The string a posted `SendMsg` owns. `producer` numbers the connection object whose `onData` made
it; the source forgets it. -/
structure Message where
  producer : Nat
  data : Bytes
  deriving DecidableEq, Repr

inductive Handler where
  | onConnect (err : ErrorCode)
  | dispatchRecv (totalBytes : Int)
  | handleRecv (err : ErrorCode) (bytes : Nat)
  | sendMsg (pmsg : Message)
  | handleWrite (err : ErrorCode)
  | startCloseSocket
  deriving DecidableEq, Repr

-- `async_read` fills its buffer, `async_read_some` may stop earlier.
inductive ReadOp where
  | read (total : Nat)
  | readSome (max : Nat)
  deriving DecidableEq, Repr

structure WriteOp where
  tcp : Nat
  msg : Message
  deriving DecidableEq, Repr

/-- Where the worker thread is. The library runs inside `OnConnect` (the constructor of
`AMQP::Connection`) and inside `HandleRecv` (`parse`), and calls back from there. -/
inductive Phase where
  | idle
  | constructing
  | parsing
  deriving DecidableEq, Repr

structure TcpMgr where
  socketStarted : Bool := false
  recvBuffer : Bytes := []
  parseBuf : Bytes := []
  pendingRecvs : List Int := []
  pendingSends : List Message := []
  pConnect : Option Nat := none
  isReady : Bool := false
  -- The strand and the socket: handlers in posting order, and what is outstanding on `m_sock`.
  strand : List Handler := []
  phase : Phase := .idle
  stopped : Bool := false
  sockOpen : Bool := false
  reads : List ReadOp := []
  writes : List WriteOp := []
  connects : Nat := 0
  -- History. `generation` counts successful `OnConnect` calls, and `up` says that the latest
  -- `OnConnect` succeeded and its socket has neither failed nor been closed since. A message is
  -- posted, accepted by `SendMsg`, passed to `async_write`, written, and popped when finished.
  generation : Nat := 0
  up : Bool := false
  errMsgs : List String := []
  posted : List Message := []
  accepted : List Message := []
  passed : List WriteOp := []
  written : List Message := []
  finished : List Message := []
  deriving DecidableEq, Repr

def kReceiveBufferSize : Nat := 4096

-- `std::vector::resize`: cut, or fill up with zeros.
def resize (buffer : Bytes) (size : Nat) : Bytes :=
  buffer.take size ++ List.replicate (size - buffer.length) 0

def onErrMsg (msg : String) (s : TcpMgr) : TcpMgr :=
  { s with errMsgs := s.errMsgs ++ [msg] }

def post (h : Handler) (s : TcpMgr) : TcpMgr :=
  { s with strand := s.strand ++ [h] }

def recvData (totalBytes : Int) (s : TcpMgr) : TcpMgr :=
  post (.dispatchRecv totalBytes) s

def startRecv (totalBytes : Int) (s : TcpMgr) : TcpMgr :=
  if 0 < totalBytes then
    { s with
      recvBuffer := resize s.recvBuffer totalBytes.toNat
      reads := s.reads ++ [.read totalBytes.toNat] }
  else
    { s with
      recvBuffer := resize s.recvBuffer kReceiveBufferSize
      reads := s.reads ++ [.readSome kReceiveBufferSize] }

theorem startRecv_spec (totalBytes : Int) (s : TcpMgr) :
    ∃ op buffer, startRecv totalBytes s =
      { s with recvBuffer := buffer, reads := s.reads ++ [op] } := by
  unfold startRecv
  split <;> exact ⟨_, _, rfl⟩

def dispatchRecv (totalBytes : Int) (s : TcpMgr) : TcpMgr :=
  let shouldStartReceive := s.pendingRecvs.isEmpty
  let s := { s with pendingRecvs := s.pendingRecvs ++ [totalBytes] }
  if shouldStartReceive then startRecv totalBytes s else s

def startSend (s : TcpMgr) : TcpMgr :=
  match s.pendingSends with
  | [] => s
  | pmsg :: _ =>
    { s with
      writes := s.writes ++ [⟨s.generation, pmsg⟩]
      passed := s.passed ++ [⟨s.generation, pmsg⟩] }

def sendMsg (pmsg : Message) (s : TcpMgr) : TcpMgr :=
  let shouldStartSend := s.pendingSends.isEmpty
  let s := { s with pendingSends := s.pendingSends ++ [pmsg], accepted := s.accepted ++ [pmsg] }
  if shouldStartSend then startSend s else s

-- `async_connect` opens a closed socket before it starts.
def reConnectServer (s : TcpMgr) : TcpMgr :=
  { s with sockOpen := true, connects := s.connects + 1 }

def closeSocket (s : TcpMgr) : TcpMgr :=
  post .startCloseSocket (onErrMsg "Rmq底层socket关闭" s)

def aborted (s : TcpMgr) : List Handler :=
  s.reads.map (fun _ => .handleRecv operationAborted 0) ++
    s.writes.map (fun _ => .handleWrite operationAborted) ++
    List.replicate s.connects (.onConnect operationAborted)

-- `order` is the order in which the close completes what was outstanding.
def startCloseSocket (order : List Handler) (s : TcpMgr) : TcpMgr :=
  if s.socketStarted then
    { s with
      strand := s.strand ++ order
      sockOpen := false
      reads := []
      writes := []
      connects := 0
      socketStarted := false
      up := false }
  else s

-- `OnConnect` up to the constructor of the connection object, which calls `onData`.
def onConnect (err : ErrorCode) (s : TcpMgr) : TcpMgr :=
  if err = none ∧ s.sockOpen then
    { s with
      socketStarted := true
      phase := .constructing
      generation := s.generation + 1
      up := true }
  else
    let s := onErrMsg ("与RabbitMq建立连接失败：" ++ errorMessage err) s
    reConnectServer { s with socketStarted := false, up := false }

-- The rest of `OnConnect`, from the assignment to `m_pConnect`.
def onConnectCreated (s : TcpMgr) : TcpMgr :=
  recvData 0 { s with pConnect := some s.generation, phase := .idle }

-- `HandleRecv` up to the loop of `ParseAmqpData`, inside which the library calls back.
def handleRecv (err : ErrorCode) (bytes : Nat) (s : TcpMgr) : TcpMgr :=
  match err with
  | none =>
    let recvBuffer := resize s.recvBuffer bytes
    { s with
      recvBuffer := recvBuffer
      parseBuf := s.parseBuf ++ recvBuffer
      phase := .parsing }
  | some message =>
    reConnectServer (closeSocket (onErrMsg ("接收数据发生错误：" ++ message) s))

inductive ParseEnd where
  | parsed (bytes : Nat)
  | threw (what : String)
  deriving DecidableEq, Repr

def parseAmqpDataEnd (result : ParseEnd) (s : TcpMgr) : TcpMgr :=
  match result with
  | .parsed bytes => { s with parseBuf := s.parseBuf.drop bytes }
  | .threw what => onErrMsg ("解析Rmq数据发生错误：" ++ what) s

-- The rest of `HandleRecv`, from the erase in `ParseAmqpData`.
def handleRecvParsed (result : ParseEnd) (s : TcpMgr) : TcpMgr :=
  let s := parseAmqpDataEnd result s
  let s := { s with pendingRecvs := s.pendingRecvs.tail, phase := .idle }
  match s.pendingRecvs with
  | [] => recvData 0 s
  | totalBytes :: _ => startRecv totalBytes s

theorem handleRecvParsed_keeps (result : ParseEnd) (s : TcpMgr) :
    (handleRecvParsed result s).parseBuf = (parseAmqpDataEnd result s).parseBuf ∧
      (handleRecvParsed result s).errMsgs = (parseAmqpDataEnd result s).errMsgs := by
  simp only [handleRecvParsed]
  cases (parseAmqpDataEnd result s).pendingRecvs.tail with
  | nil => exact ⟨rfl, rfl⟩
  | cons totalBytes more =>
    simp only [startRecv]
    split <;> exact ⟨rfl, rfl⟩

def handleWrite (err : ErrorCode) (s : TcpMgr) : TcpMgr :=
  match err with
  | some message => reConnectServer (closeSocket (onErrMsg ("发送数据失败：" ++ message) s))
  | none =>
    startSend { s with
      pendingSends := s.pendingSends.tail
      finished := s.finished ++ s.pendingSends.take 1 }

inductive Posting where
  | posted
  | postThrew (what : String)
  | copyThrew (what : String)
  deriving DecidableEq, Repr

-- `errmsg` is a copy, so the text of the failure ends here.
def sendData (thrown : Option String) (msg : Message) (s : TcpMgr) : TcpMgr × Bool :=
  match thrown with
  | some _ => (s, false)
  | none => ({ post (.sendMsg msg) s with posted := s.posted ++ [msg] }, true)

-- `MyConnectionHandler::onData`: the result of `SendData` is not looked at.
def onData (posting : Posting) (msg : Message) (s : TcpMgr) : TcpMgr :=
  match posting with
  | .posted => (sendData none msg s).1
  | .postThrew what => (sendData (some what) msg s).1
  | .copyThrew what => onErrMsg ("向RabbitMq发送数据失败：" ++ what) s

def setLoginReady (s : TcpMgr) : TcpMgr :=
  { s with isReady := true }

def getConnection (s : TcpMgr) : Option Nat :=
  s.pConnect

def TcpMgr.started : TcpMgr :=
  { sockOpen := true, connects := 1 }

end RmqMgr.Tcp
