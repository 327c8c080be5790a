import RmqMgr.Parse.Reframing

set_option autoImplicit false

namespace RmqMgr.Parse

open Tcp Framing

variable {C : Type} {lib : Library C} {Serves : C → List Frame → Prop}
  {dispatched : C → List Bytes}

-- The connection with a record beside it of what `parse` was called with.
def logging (lib : Library C) : Library (C × List Bytes) where
  expected c := lib.expected c.1
  parse c buff :=
    match lib.parse c.1 buff with
    | .returned bytes conn => .returned bytes (conn, c.2 ++ [buff])
    | .threw what conn => .threw what (conn, c.2 ++ [buff])

def LoopState.forget : LoopState (C × List Bytes) → LoopState C
  | .head c parsedBytes expectedBytes => .head c.1 parsedBytes expectedBytes
  | .exited c parsedBytes => .exited c.1 parsedBytes
  | .threw c what => .threw c.1 what
  | .undefined => .undefined

def Receiver.forget (r : Receiver (C × List Bytes)) : Receiver C :=
  { r with conn := r.conn.1 }

theorem iteration_forget (parseBuf : Bytes) :
    Function.Semiconj LoopState.forget (iteration (logging lib) parseBuf)
      (iteration lib parseBuf) := by
  intro s
  cases s with
  | head c parsedBytes expectedBytes =>
    by_cases enough : expectedBytes ≤ sizeSub parseBuf.length parsedBytes
    next =>
      by_cases copied : parsedBytes + expectedBytes ≤ parseBuf.length
      next =>
        simp only [iteration, LoopState.forget, enough, copied, if_true, logging]
        cases lib.parse c.1 ((parseBuf.drop parsedBytes).take expectedBytes) <;> rfl
      next => simp only [iteration, LoopState.forget, enough, copied, if_true, if_false]
    next => simp only [iteration, LoopState.forget, enough, if_false]
  | exited | threw | undefined => rfl

theorem result_forget (s : LoopState (C × List Bytes)) :
    s.forget.result = s.result.map fun (c, result) => (c.1, result) := by
  cases s <;> rfl

theorem handleRecv_forget (fuel : Nat) (r : Receiver (C × List Bytes)) (chunk : Bytes) :
    handleRecv lib fuel r.forget chunk =
      (handleRecv (logging lib) fuel r chunk).map Receiver.forget := by
  have same := (@iteration_forget C lib (r.parseBuf ++ chunk)).iterate_right fuel
    (enter (logging lib) r.conn)
  have looped : parseLoop lib fuel r.conn.1 (r.parseBuf ++ chunk) =
      (parseLoop (logging lib) fuel r.conn (r.parseBuf ++ chunk)).map
        fun (c, result) => (c.1, result) := by
    rw [parseLoop, parseLoop, ← result_forget, same]
    rfl
  simp only [handleRecv, parseAmqpData, Receiver.forget, looped]
  cases parseLoop (logging lib) fuel r.conn (r.parseBuf ++ chunk) with
  | none => rfl
  | some ended =>
    obtain ⟨c, result⟩ := ended
    cases result <;> rfl

theorem receive_forget (fuel : Nat) (r : Receiver (C × List Bytes)) (chunks : List Bytes) :
    receive lib fuel r.forget chunks =
      (receive (logging lib) fuel r chunks).map Receiver.forget := by
  induction chunks generalizing r with
  | nil => rfl
  | cons chunk rest ih =>
    simp only [receive, List.foldlM_cons, handleRecv_forget, Option.bind_eq_bind] at ih ⊢
    cases handleRecv (logging lib) fuel r chunk with
    | none => rfl
    | some next => exact ih next

def callsOf (frames : List Bytes) : List Bytes :=
  frames.flatMap fun frame => [frame.take headerSize, frame]

/-- The calls so far, with `remaining` still in the buffer: those of the frames handed out, and the
header of the next frame once the connection expects all of it. -/
def Logged (lib : Library C) (dispatched : C → List Bytes) (c : C × List Bytes)
    (remaining : Bytes) : Prop :=
  lib.expected c.1 = headerSize ∧ c.2 = callsOf (dispatched c.1) ∨
    lib.expected c.1 ≠ headerSize ∧ headerSize ≤ remaining.length ∧
      c.2 = callsOf (dispatched c.1) ++ [remaining.take headerSize]

def LoopLogged (lib : Library C) (dispatched : C → List Bytes) (parseBuf : Bytes) :
    LoopState (C × List Bytes) → Prop
  | .head c parsedBytes _ => Logged lib dispatched c (parseBuf.drop parsedBytes)
  | .exited c parsedBytes => Logged lib dispatched c (parseBuf.drop parsedBytes)
  | _ => True

def LogStands (lib : Library C) (Serves : C → List Frame → Prop) (dispatched : C → List Bytes)
    (before after : List Frame) (parseBuf : Bytes) (s : LoopState (C × List Bytes)) : Prop :=
  Stands (logging lib) (fun c => Serves c.1) (fun c => dispatched c.1) before after parseBuf s ∧
    LoopLogged lib dispatched parseBuf s

theorem logging_contract (contract : FrameAtATime lib Serves dispatched) :
    FrameAtATime (logging lib) (fun c => Serves c.1) (fun c => dispatched c.1) where
  header c f rest part serves formed initial long short := by
    obtain ⟨conn', result, kept⟩ := contract.header c.1 f rest part serves formed initial long short
    exact ⟨(conn', c.2 ++ [part]), by simp [logging, result], kept⟩
  frame c f rest serves formed quiet := by
    obtain ⟨conn', result, kept⟩ := contract.frame c.1 f rest serves formed quiet
    exact ⟨(conn', c.2 ++ [f.bytes]), by simp [logging, result], kept⟩
  throwing c f rest what serves formed throws := by
    obtain ⟨conn', result, handed⟩ := contract.throwing c.1 f rest what serves formed throws
    exact ⟨(conn', c.2 ++ [f.bytes]), by simp [logging, result], handed⟩

theorem Logged.more {c : C × List Bytes} {remaining : Bytes} (chunk : Bytes)
    (logged : Logged lib dispatched c remaining) :
    Logged lib dispatched c (remaining ++ chunk) := by
  rcases logged with before | ⟨within, long, calls⟩
  · exact .inl before
  · refine .inr ⟨within, ?_, ?_⟩
    · rw [List.length_append]
      omega
    · rw [List.take_append_of_le_length long]
      exact calls

theorem logged_iteration (contract : FrameAtATime lib Serves dispatched)
    {before after : List Frame} {parseBuf : Bytes} (formed : ∀ f ∈ after, f.WellFormed)
    (arrived : parseBuf <+: stream after) (s : LoopState (C × List Bytes))
    (stands : Stands (logging lib) (fun c => Serves c.1) (fun c => dispatched c.1) before after
      parseBuf s)
    (logged : LoopLogged lib dispatched parseBuf s) :
    LoopLogged lib dispatched parseBuf (iteration (logging lib) parseBuf s) := by
  cases s with
  | head c parsedBytes expectedBytes =>
    obtain ⟨here, rest, rfl, parsed, inside, rfl, at_⟩ := stands
    rw [iteration_head inside]
    split
    next fits =>
      have remaining : parseBuf.drop parsedBytes <+: stream rest := parsed ▸ rest_of_buffer arrived
      have enough : (logging lib).expected c ≤ (parseBuf.drop parsedBytes).length := by
        rw [List.length_drop]
        omega
      obtain ⟨f, more, rfl, slice⟩ :=
        next_slice (fun f member => formed f (List.mem_append_right here member)) at_ remaining
          enough
      have formed' : f.WellFormed := formed f (List.mem_append_right here (List.mem_cons_self ..))
      rcases slice with ⟨header, part, size⟩ | ⟨whole, slice⟩
      · have long := formed'.header
        obtain ⟨conn', result, _, expected, handed⟩ := contract.header c.1 f more _ at_.serves
          formed' part (Nat.le_of_eq size.symm) (by rw [size]; exact long)
        have raised : lib.expected conn' ≠ headerSize := by
          rw [expected]
          unfold headerSize
          omega
        have first : lib.expected c.1 = headerSize := header
        rcases logged with ⟨_, calls⟩ | ⟨within, _⟩
        · rw [header]
          simp only [logging, result, Nat.add_zero]
          refine .inr ⟨raised, ?_, ?_⟩
          · rw [← header]
            exact enough
          · rw [handed, calls]
        · exact absurd first within
      · have second : lib.expected c.1 = f.size := whole
        rcases logged with ⟨header, _⟩ | ⟨_, _, calls⟩
        · have long := formed'.header
          rw [second] at header
          unfold headerSize at header
          omega
        · rw [whole, slice]
          cases throws : f.throws with
          | none =>
            obtain ⟨conn', result, _, expected, handed⟩ :=
              contract.frame c.1 f more at_.serves formed' throws
            simp only [logging, result]
            refine .inl ⟨expected, ?_⟩
            have within : headerSize ≤ f.size := Nat.le_of_lt formed'.holds_header
            have start : (parseBuf.drop parsedBytes).take headerSize = f.bytes.take headerSize := by
              rw [← slice, List.take_take, Nat.min_eq_left within]
            rw [handed, calls, start]
            simp [callsOf]
          | some what =>
            obtain ⟨conn', result, _⟩ := contract.throwing c.1 f more what at_.serves formed' throws
            simp only [logging, result]
            trivial
    next => exact logged
  | exited | threw | undefined => exact logged

theorem logStands_iteration (contract : FrameAtATime lib Serves dispatched)
    {before after : List Frame} {parseBuf : Bytes} (formed : ∀ f ∈ after, f.WellFormed)
    (arrived : parseBuf <+: stream after) (s : LoopState (C × List Bytes))
    (stands : LogStands lib Serves dispatched before after parseBuf s) :
    LogStands lib Serves dispatched before after parseBuf
      (iteration (logging lib) parseBuf s) :=
  ⟨(stands_iteration (logging_contract contract) formed arrived s stands.1).1,
    logged_iteration contract formed arrived s stands.1 stands.2⟩

theorem handleRecv_logged (contract : FrameAtATime lib Serves dispatched) {frames : List Frame}
    {received chunk : Bytes} {r r' : Receiver (C × List Bytes)} {fuel : Nat}
    (formed : ∀ f ∈ frames, f.WellFormed) (arrived : received ++ chunk <+: stream frames)
    (boundary : Boundary (logging lib) (fun c => Serves c.1) (fun c => dispatched c.1) frames
      received r)
    (logged : Logged lib dispatched r.conn r.parseBuf)
    (ran : handleRecv (logging lib) fuel r chunk = some r') (silent : r'.errMsgs = r.errMsgs) :
    Logged lib dispatched r'.conn r'.parseBuf := by
  obtain ⟨done, rest, rfl, fits, tail, _, at_⟩ := boundary
  obtain ⟨arrived', _⟩ := Boundary.buffer rfl fits tail arrived
  have formed' : ∀ f ∈ rest, f.WellFormed := fun f member =>
    formed f (List.mem_append_right done member)
  have entered : LogStands lib Serves dispatched done rest (r.parseBuf ++ chunk)
      (enter (logging lib) r.conn) := ⟨stands_enter at_, logged.more chunk⟩
  have kept := Loop.invariant (fun s => logStands_iteration contract formed' arrived' s) entered fuel
  simp only [handleRecv, parseAmqpData, parseLoop, Option.map_eq_some_iff] at ran
  obtain ⟨⟨c, result⟩, ended, rfl⟩ := ran
  generalize (iteration (logging lib) (r.parseBuf ++ chunk))^[fuel] (enter (logging lib) r.conn) = s
    at kept ended
  cases s with
  | head | undefined => cases ended
  | exited =>
    obtain ⟨rfl, rfl⟩ := Option.some.inj ended
    exact kept.2
  | threw =>
    obtain ⟨rfl, rfl⟩ := Option.some.inj ended
    simp at silent

theorem receive_logged (contract : FrameAtATime lib Serves dispatched) {frames : List Frame}
    {conn : C} (formed : ∀ f ∈ frames, f.WellFormed) (quiet : ∀ f ∈ frames, f.throws = none)
    (serves : Serves conn frames) (fresh : lib.expected conn = headerSize)
    (unused : dispatched conn = []) (chunks : List Bytes)
    (arrived : chunks.flatten <+: stream frames) :
    ∃ fuel r, receive (logging lib) fuel { conn := (conn, []) } chunks = some r ∧
      Boundary (logging lib) (fun c => Serves c.1) (fun c => dispatched c.1) frames chunks.flatten r ∧
      r.errMsgs = [] ∧ Logged lib dispatched r.conn r.parseBuf := by
  induction chunks using List.reverseRecOn with
  | nil =>
    exact ⟨0, _, rfl, start_boundary serves fresh unused, rfl,
      .inl ⟨fresh, by simp [unused, callsOf]⟩⟩
  | append_singleton chunks chunk ih =>
    rw [List.flatten_append, List.flatten_singleton] at arrived ⊢
    obtain ⟨fuel, r, ran, boundary, silent, logged⟩ := ih ((List.prefix_append _ _).trans arrived)
    obtain ⟨fuel', r', next, ⟨boundary', same⟩ | interrupted⟩ :=
      handleRecv_boundary (logging_contract contract) formed arrived boundary
    · exact ⟨_, r', receive_snoc ran next, boundary', same.trans silent,
        handleRecv_logged contract formed arrived boundary logged next same⟩
    · obtain ⟨done, f, rest, what, rfl, throws, _⟩ := interrupted
      rw [quiet f (by simp)] at throws
      cases throws

theorem copied_calls {frames : List Frame} (formed : ∀ f ∈ frames, f.WellFormed) :
    ((callsOf (frames.map Frame.bytes)).map List.length).sum ≤ 2 * total Frame.size frames := by
  induction frames with
  | nil => exact Nat.le_refl 0
  | cons f rest ih =>
    have rest' := ih fun g member => formed g (List.mem_cons_of_mem f member)
    have long := (formed f (List.mem_cons_self ..)).holds_header
    simp only [callsOf, List.map_cons, List.flatMap_cons, List.map_append, List.sum_append,
      List.sum_cons, List.map_nil, List.sum_nil, List.length_take, total_cons, Frame.size] at rest' ⊢
    omega

structure Called (frames : List Frame) (received parseBuf : Bytes) (calls : List Bytes) : Prop where
  slices : calls = callsOf ((arrivedFrames frames received.length).map Frame.bytes) ++
    if headerSize ≤ parseBuf.length then [parseBuf.take headerSize] else []
  copied : (calls.map List.length).sum ≤ 2 * received.length
  buffered : ∀ f rest, frames = arrivedFrames frames received.length ++ f :: rest →
    parseBuf.length < f.size

theorem Logged.called {frames : List Frame} {received : Bytes} {r : Receiver (C × List Bytes)}
    (formed : ∀ f ∈ frames, f.WellFormed)
    (boundary : Boundary (logging lib) (fun c => Serves c.1) (fun c => dispatched c.1) frames
      received r)
    (logged : Logged lib dispatched r.conn r.parseBuf) :
    Called frames received r.parseBuf r.conn.2 := by
  obtain ⟨done, rest, split, fits, tail, short, at_⟩ := boundary
  have all := Boundary.done_eq formed split fits tail short at_
  have left : r.parseBuf.length = received.length - total Frame.size done := by
    rw [tail, List.length_drop]
  have slices : r.conn.2 = callsOf (done.map Frame.bytes) ++
      if headerSize ≤ r.parseBuf.length then [r.parseBuf.take headerSize] else [] := by
    rw [← at_.handed]
    rcases logged with ⟨header, calls⟩ | ⟨_, long, calls⟩
    · have few : ¬ headerSize ≤ r.parseBuf.length := Nat.not_le_of_lt (header ▸ short)
      simp only [calls, few, if_false, List.append_nil]
    · simp only [calls, long, if_true]
  constructor
  case slices => rw [all, slices]
  case copied =>
    have before := copied_calls fun f member => formed f (split ▸ List.mem_append_left rest member)
    rw [slices, List.map_append, List.sum_append]
    by_cases long : headerSize ≤ r.parseBuf.length
    next =>
      simp only [long, if_true, List.map_cons, List.map_nil, List.sum_singleton, List.length_take]
      omega
    next =>
      simp only [long, if_false, List.map_nil, List.sum_nil]
      omega
  case buffered =>
    intro f more next
    rw [all, split] at next
    obtain rfl := List.append_cancel_left next
    rcases at_.expects with header | ⟨g, _, same, whole⟩
    · have long := (formed f (by simp [split])).holds_header
      rw [header] at short
      exact Nat.lt_trans short long
    · obtain ⟨rfl, _⟩ := List.cons.inj same
      rw [← whole]
      exact short

theorem calls_ignore_chunks (contract : FrameAtATime lib Serves dispatched)
    {frames : List Frame} {conn : C} (formed : ∀ f ∈ frames, f.WellFormed)
    (quiet : ∀ f ∈ frames, f.throws = none) (serves : Serves conn frames)
    (fresh : lib.expected conn = headerSize) (unused : dispatched conn = [])
    (chunks : List Bytes) (arrived : chunks.flatten <+: stream frames) :
    ∃ fuel r calls, receive lib fuel { conn } chunks = some r ∧
      receive (logging lib) fuel { conn := (conn, []) } chunks =
        some { r with conn := (r.conn, calls) } ∧
      Called frames chunks.flatten r.parseBuf calls := by
  obtain ⟨fuel, r, ran, boundary, _, logged⟩ :=
    receive_logged contract formed quiet serves fresh unused chunks arrived
  have plain := @receive_forget C lib fuel { conn := (conn, []) } chunks
  rw [ran] at plain
  exact ⟨fuel, r.forget, r.conn.2, plain, ran, logged.called formed boundary⟩

theorem two_frames_calls :
    ∃ fuel r calls, receive (wireLibrary fun _ => none) fuel { conn := {} }
        [[1, 0, 1], [], [0, 0, 0, 1, 10, 206, 1, 0], [1, 0, 0, 0, 1]] = some r ∧
      receive (logging (wireLibrary fun _ => none)) fuel { conn := ({}, []) }
        [[1, 0, 1], [], [0, 0, 0, 1, 10, 206, 1, 0], [1, 0, 0, 0, 1]] =
          some { r with conn := (r.conn, calls) } ∧
      Called [⟨frameOf 10, none⟩, ⟨frameOf 11, none⟩]
        [1, 0, 1, 0, 0, 0, 1, 10, 206, 1, 0, 1, 0, 0, 0, 1] r.parseBuf calls :=
  calls_ignore_chunks (wire_contract fun _ => none) (by decide) (by decide)
    (by simp [wireServes]) rfl rfl _ (by decide)

end RmqMgr.Parse
