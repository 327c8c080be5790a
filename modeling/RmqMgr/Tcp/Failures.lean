import Mathlib.Data.List.Perm.Subperm
import RmqMgr.Tcp.Took

set_option autoImplicit false

-- A failure is the text under which the code reports it, and `none` where no code does.

namespace RmqMgr.Tcp

open scoped List

def Handler.failures (s : TcpMgr) : Handler → List (Option String)
  | .onConnect err =>
    if err = none ∧ s.sockOpen then [] else [some ("与RabbitMq建立连接失败：" ++ errorMessage err)]
  | .handleRecv (some message) _ => [some ("接收数据发生错误：" ++ message)]
  | .handleWrite (some message) => [some ("发送数据失败：" ++ message)]
  | _ => []

def failures (s : TcpMgr) : Event → List (Option String)
  | .runNext _ => (s.strand.take 1).flatMap (Handler.failures s)
  | .parsed (.threw what) => [some ("解析Rmq数据发生错误：" ++ what)]
  | .onData (.postThrew what) _ => [some ("发送数据失败：" ++ what)]
  | .onData (.copyThrew what) _ => [some ("向RabbitMq发送数据失败：" ++ what)]
  | _ => []

def Event.dropsData : Event → Bool
  | .onData (.postThrew _) _ => true
  | _ => false

inductive LibraryCall where
  | makeConnection
  | post
  | pushBack
  | resize
  | insert
  | asyncRead
  | asyncWrite
  | fromString
  | asyncConnect
  deriving DecidableEq, Repr

def startRecvCalls : List LibraryCall := [.resize, .asyncRead]

def reConnectServerCalls : List LibraryCall := [.fromString, .asyncConnect]

-- `StartCloseSocket` uses the overloads that do not throw.
def Handler.calls (s : TcpMgr) : Handler → List LibraryCall
  | .onConnect err => if err = none ∧ s.sockOpen then [] else reConnectServerCalls
  | .dispatchRecv _ => .pushBack :: if s.pendingRecvs.isEmpty then startRecvCalls else []
  | .handleRecv none _ => [.resize, .insert]
  | .handleRecv (some _) _ => .post :: reConnectServerCalls
  | .sendMsg _ => .pushBack :: if s.pendingSends.isEmpty then [.asyncWrite] else []
  | .handleWrite none => if s.pendingSends.tail.isEmpty then [] else [.asyncWrite]
  | .handleWrite (some _) => .post :: reConnectServerCalls
  | .startCloseSocket => []

/-- What the worker may call next outside of the `try` of `ParseAmqpData`. An exception of it leaves
the handler and `m_ios.run()`. -/
def unguarded (s : TcpMgr) : List LibraryCall :=
  match s.phase with
  | .constructing => [.makeConnection, .post]
  | .parsing => if s.pendingRecvs.tail.isEmpty then [.post] else startRecvCalls
  | .idle => if s.stopped then [] else (s.strand.take 1).flatMap (Handler.calls s)

def Heard (s t : TcpMgr) (failures : List (Option String)) : Prop :=
  ∃ msgs, t.errMsgs = s.errMsgs ++ msgs ∧ failures <+~ msgs.map some

theorem Heard.nothing {s t : TcpMgr} (same : t.errMsgs = s.errMsgs) : Heard s t [] :=
  ⟨[], by rw [same, List.append_nil], List.nil_subperm⟩

theorem Heard.told {s t : TcpMgr} {msg : String} (told : t.errMsgs = s.errMsgs ++ [msg]) :
    Heard s t [some msg] :=
  ⟨[msg], told, .refl _⟩

theorem Heard.closed {s t : TcpMgr} {msg closing : String}
    (told : t.errMsgs = s.errMsgs ++ [msg] ++ [closing]) : Heard s t [some msg] :=
  ⟨[msg, closing], by rw [told, List.append_assoc]; rfl,
    (List.sublist_append_left [some msg] [some closing]).subperm⟩

theorem startRecv_errMsgs (totalBytes : Int) (s : TcpMgr) :
    (startRecv totalBytes s).errMsgs = s.errMsgs := by
  obtain ⟨op, buffer, started⟩ := startRecv_spec totalBytes s
  rw [started]

theorem startSend_errMsgs (s : TcpMgr) : (startSend s).errMsgs = s.errMsgs := by
  unfold startSend
  split <;> rfl

theorem runHandler_heard {s : TcpMgr} {order rest : List Handler} (h : Handler) :
    Heard s (runHandler order h { s with strand := rest }) (h.failures s) := by
  cases h with
  | onConnect err =>
    simp only [runHandler, onConnect, Handler.failures]
    split
    next => exact .nothing rfl
    next => exact .told rfl
  | dispatchRecv totalBytes =>
    refine .nothing ?_
    simp only [runHandler, dispatchRecv]
    split
    next => exact startRecv_errMsgs _ _
    next => rfl
  | handleRecv err bytes =>
    cases err with
    | none => exact .nothing rfl
    | some message => exact .closed rfl
  | sendMsg pmsg =>
    refine .nothing ?_
    simp only [runHandler, sendMsg]
    split
    next => exact startSend_errMsgs _
    next => rfl
  | handleWrite err =>
    cases err with
    | none => exact .nothing (startSend_errMsgs _)
    | some message => exact .closed rfl
  | startCloseSocket =>
    refine .nothing ?_
    simp only [runHandler, startCloseSocket]
    split <;> rfl

theorem handleRecvParsed_heard (result : ParseEnd) (s : TcpMgr) :
    Heard s (handleRecvParsed result s) (failures s (.parsed result)) := by
  have kept : (handleRecvParsed result s).errMsgs = (parseAmqpDataEnd result s).errMsgs := by
    simp only [handleRecvParsed]
    split
    next => rfl
    next => exact startRecv_errMsgs _ _
  cases result with
  | parsed bytes => exact .nothing kept
  | threw what => exact .told kept

theorem step_heard {s t : TcpMgr} {e : Event} (taken : step s e = some t)
    (sends : e.dropsData = false) : Heard s t (failures s e) := by
  cases e with
  | runNext order =>
    obtain ⟨h, rest, waiting, _, _, _, rfl⟩ := run_step taken
    simpa [failures, waiting] using runHandler_heard h
  | parsed result =>
    simp only [step, Option.ite_none_right_eq_some, Option.some.injEq] at taken
    obtain ⟨_, rfl⟩ := taken
    exact handleRecvParsed_heard result s
  | onData posting msg =>
    obtain rfl := Option.some.inj taken
    cases posting with
    | posted => exact .nothing rfl
    | postThrew what => cases sends
    | copyThrew what => exact .told rfl
  | connectDone | readDone | writeDone | created | onReady =>
    simp only [step, Option.ite_none_right_eq_some, Option.some.injEq] at taken
    obtain ⟨_, rfl⟩ := taken
    exact .nothing rfl
  | onError | onClosed =>
    simp only [step, Option.ite_none_right_eq_some, Option.some.injEq] at taken
    obtain ⟨_, rfl⟩ := taken
    exact ⟨_, rfl, List.nil_subperm⟩
  | finitClose =>
    obtain rfl := Option.some.inj taken
    exact ⟨_, rfl, List.nil_subperm⟩
  | finitStop =>
    obtain rfl := Option.some.inj taken
    exact .nothing rfl

end RmqMgr.Tcp
