import Mathlib.Algebra.Group.Nat.Defs
import RmqMgr.Shared.Loop
import RmqMgr.Tcp.Step

set_option autoImplicit false

namespace RmqMgr.Parse

open Tcp

inductive Parsed (C : Type) where
  | returned (bytes : Nat) (conn : C)
  | threw (what : String) (conn : C)

structure Library (C : Type) where
  expected : C → Nat
  parse : C → Bytes → Parsed C

variable {C : Type}

-- `size_t` subtraction.
def sizeSub (a b : Nat) : Nat :=
  if b ≤ a then a - b else 2 ^ 64 - (b - a)

-- Where the loop of `ParseAmqpData` stands; `undefined` is a copy of a range that leaves
-- `m_parseBuf`.
inductive LoopState (C : Type) where
  | head (conn : C) (parsedBytes expectedBytes : Nat)
  | exited (conn : C) (parsedBytes : Nat)
  | threw (conn : C) (what : String)
  | undefined

def enter (lib : Library C) (conn : C) : LoopState C :=
  .head conn 0 (lib.expected conn)

def iteration (lib : Library C) (parseBuf : Bytes) : LoopState C → LoopState C
  | .head conn parsedBytes expectedBytes =>
    if expectedBytes ≤ sizeSub parseBuf.length parsedBytes then
      if parsedBytes + expectedBytes ≤ parseBuf.length then
        let buff := (parseBuf.drop parsedBytes).take expectedBytes
        match lib.parse conn buff with
        | .returned bytes conn => .head conn (parsedBytes + bytes) (lib.expected conn)
        | .threw what conn => .threw conn what
      else .undefined
    else .exited conn parsedBytes
  | finished => finished

def LoopState.finished : LoopState C → Prop
  | .head _ _ _ => False
  | _ => True

theorem iteration_head {lib : Library C} {conn : C} {parseBuf : Bytes}
    {parsedBytes expectedBytes : Nat} (inside : parsedBytes ≤ parseBuf.length) :
    iteration lib parseBuf (.head conn parsedBytes expectedBytes) =
      if parsedBytes + expectedBytes ≤ parseBuf.length then
        match lib.parse conn ((parseBuf.drop parsedBytes).take expectedBytes) with
        | .returned bytes conn => .head conn (parsedBytes + bytes) (lib.expected conn)
        | .threw what conn => .threw conn what
      else .exited conn parsedBytes := by
  have rest : sizeSub parseBuf.length parsedBytes = parseBuf.length - parsedBytes := if_pos inside
  by_cases fits : parsedBytes + expectedBytes ≤ parseBuf.length
  next =>
    have more : expectedBytes ≤ parseBuf.length - parsedBytes := by omega
    simp only [iteration, rest, more, fits, if_true]
  next =>
    have short : ¬ expectedBytes ≤ parseBuf.length - parsedBytes := by omega
    simp only [iteration, rest, short, fits, if_false]

theorem iteration_finished (lib : Library C) (parseBuf : Bytes) (s : LoopState C)
    (finished : s.finished) : iteration lib parseBuf s = s := by
  cases s with
  | head => cases finished
  | _ => rfl

structure Receiver (C : Type) where
  conn : C
  parseBuf : Bytes := []
  errMsgs : List String := []

def LoopState.result : LoopState C → Option (C × ParseEnd)
  | .exited conn parsedBytes => some (conn, .parsed parsedBytes)
  | .threw conn what => some (conn, .threw what)
  | _ => none

-- `fuel` bounds the iterations of the loop.
def parseLoop (lib : Library C) (fuel : Nat) (conn : C) (parseBuf : Bytes) :
    Option (C × ParseEnd) :=
  ((iteration lib parseBuf)^[fuel] (enter lib conn)).result

def parseAmqpData (lib : Library C) (fuel : Nat) (r : Receiver C) : Option (Receiver C) :=
  (parseLoop lib fuel r.conn r.parseBuf).map fun (conn, result) =>
    match result with
    | .parsed parsedBytes => { r with conn, parseBuf := r.parseBuf.drop parsedBytes }
    | .threw what =>
      { r with conn, errMsgs := r.errMsgs ++ ["解析Rmq数据发生错误：" ++ what] }

-- A successful `HandleRecv` of `chunk`, seen from the connection.
def handleRecv (lib : Library C) (fuel : Nat) (r : Receiver C) (chunk : Bytes) :
    Option (Receiver C) :=
  parseAmqpData lib fuel { r with parseBuf := r.parseBuf ++ chunk }

def receive (lib : Library C) (fuel : Nat) (r : Receiver C) (chunks : List Bytes) :
    Option (Receiver C) :=
  chunks.foldlM (handleRecv lib fuel) r

theorem resize_received (data rest : Bytes) : resize (data ++ rest) data.length = data := by
  simp [resize]

-- `HandleRecv` of the transport, with the loop between its two halves, is `handleRecv`. So what
-- is said of runs of `receive` is said of the buffer and the messages of the transport.
theorem handleRecv_transport {lib : Library C} {fuel : Nat} {conn conn' : C} {result : ParseEnd}
    (s : TcpMgr) (data rest : Bytes) (buffered : s.recvBuffer = data ++ rest)
    (looped : parseLoop lib fuel conn (Tcp.handleRecv none data.length s).parseBuf =
      some (conn', result)) :
    let t := handleRecvParsed result (Tcp.handleRecv none data.length s)
    handleRecv lib fuel ⟨conn, s.parseBuf, s.errMsgs⟩ data =
      some ⟨conn', t.parseBuf, t.errMsgs⟩ := by
  have arrived : (Tcp.handleRecv none data.length s).parseBuf = s.parseBuf ++ data := by
    simp only [Tcp.handleRecv, buffered, resize_received]
  have silent : (Tcp.handleRecv none data.length s).errMsgs = s.errMsgs := rfl
  obtain ⟨buffer, messages⟩ := handleRecvParsed_keeps result (Tcp.handleRecv none data.length s)
  rw [arrived] at looped
  simp only [handleRecv, parseAmqpData, looped, Option.map_some, buffer, messages]
  cases result with
  | parsed bytes => simp [parseAmqpDataEnd, arrived, silent]
  | threw what => simp [parseAmqpDataEnd, onErrMsg, arrived, silent]

end RmqMgr.Parse
