import RmqMgr.Shared.Transition
import RmqMgr.Tcp.State

set_option autoImplicit false

namespace RmqMgr.Tcp

/-- `created`, `parsed`, `onReady`, `onError` and `onClosed` belong to the handler the worker is in;
`onData` and the two halves of `Finit` may come from any thread at any time. -/
inductive Event where
  | runNext (order : List Handler)
  | connectDone (err : ErrorCode)
  | readDone (op : ReadOp) (err : ErrorCode) (data : Bytes)
  | writeDone (op : WriteOp) (err : ErrorCode)
  | created
  | parsed (result : ParseEnd)
  | onData (posting : Posting) (msg : Message)
  | onReady
  | onError (message : String)
  | onClosed
  | finitClose
  | finitStop
  deriving DecidableEq, Repr

def runHandler (order : List Handler) (h : Handler) (s : TcpMgr) : TcpMgr :=
  match h with
  | .onConnect err => onConnect err s
  | .dispatchRecv totalBytes => dispatchRecv totalBytes s
  | .handleRecv err bytes => handleRecv err bytes s
  | .sendMsg pmsg => sendMsg pmsg s
  | .handleWrite err => handleWrite err s
  | .startCloseSocket => startCloseSocket order s

def abortedBy (h : Handler) (s : TcpMgr) : List Handler :=
  if h = .startCloseSocket ∧ s.socketStarted then aborted s else []

-- A read that succeeds leaves at most what it asked for in the buffer.
def ReadOp.delivers : ReadOp → ErrorCode → Bytes → Bool
  | _, some _, _ => true
  | .read total, none, data => data.length == total
  | .readSome max, none, data => data.length ≤ max

def ParseEnd.fits : ParseEnd → Bytes → Bool
  | .parsed bytes, buffer => bytes ≤ buffer.length
  | .threw _, _ => true

def connectDone (err : ErrorCode) (s : TcpMgr) : TcpMgr :=
  post (.onConnect err) { s with connects := s.connects - 1 }

-- The data is in `m_recv_buffer` when the handler is queued.
def readDone (op : ReadOp) (err : ErrorCode) (data : Bytes) (s : TcpMgr) : TcpMgr :=
  post (.handleRecv err data.length)
    { s with
      reads := s.reads.erase op
      recvBuffer := data ++ s.recvBuffer.drop data.length
      up := s.up && err.isNone }

def writeDone (op : WriteOp) (err : ErrorCode) (s : TcpMgr) : TcpMgr :=
  post (.handleWrite err)
    { s with
      writes := s.writes.erase op
      up := s.up && err.isNone
      written := if err = none then s.written ++ [op.msg] else s.written }

def step (s : TcpMgr) : Event → Option TcpMgr
  | .runNext order =>
    match s.strand with
    | [] => none
    | h :: rest =>
      if s.phase = .idle ∧ s.stopped = false ∧ order.Perm (abortedBy h s) then
        some (runHandler order h { s with strand := rest })
      else none
  | .connectDone err => if 0 < s.connects then some (connectDone err s) else none
  | .readDone op err data =>
    if op ∈ s.reads ∧ op.delivers err data ∧ data.length ≤ s.recvBuffer.length ∧
        (err = none → s.sockOpen) then
      some (readDone op err data s)
    else none
  | .writeDone op err =>
    if op ∈ s.writes ∧ (err = none → s.sockOpen) then some (writeDone op err s) else none
  | .created => if s.phase = .constructing then some (onConnectCreated s) else none
  | .parsed result =>
    if s.phase = .parsing ∧ result.fits s.parseBuf then
      some (handleRecvParsed result s)
    else none
  | .onData posting msg => some (onData posting msg s)
  | .onReady => if s.phase = .parsing then some (setLoginReady s) else none
  | .onError message =>
    if s.phase = .parsing then some (onErrMsg ("RabbitMq发生错误：" ++ message) s) else none
  | .onClosed => if s.phase = .parsing then some (onErrMsg "RabbitMq对端关闭连接" s) else none
  | .finitClose => some (closeSocket s)
  | .finitStop => some { s with stopped := true }

end RmqMgr.Tcp
