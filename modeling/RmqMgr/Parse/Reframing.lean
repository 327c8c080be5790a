import Mathlib.Data.List.Induction
import RmqMgr.Parse.Receive
import RmqMgr.Parse.Wire

set_option autoImplicit false

namespace RmqMgr.Parse

open Tcp Framing

variable {C : Type} {lib : Library C} {Serves : C → List Frame → Prop}
  {dispatched : C → List Bytes}

abbrev arrivedFrames (frames : List Frame) (received : Nat) : List Frame :=
  complete Frame.size frames received

theorem Boundary.done_eq {frames done rest : List Frame} {received : Bytes} {r : Receiver C}
    (formed : ∀ f ∈ frames, f.WellFormed) (split : frames = done ++ rest)
    (fits : total Frame.size done ≤ received.length)
    (tail : r.parseBuf = received.drop (total Frame.size done))
    (short : r.parseBuf.length < lib.expected r.conn)
    (at_ : At lib Serves dispatched done rest r.conn) :
    arrivedFrames frames received.length = done := by
  rw [split]
  apply complete_eq Frame.size done rest _ fits
  intro f more next
  have long := (formed f (by simp [split, next])).header
  rw [tail, List.length_drop] at short
  rcases at_.expects with header | ⟨g, _, same, whole⟩
  · rw [header, headerSize] at short
    omega
  · rw [next] at same
    obtain ⟨rfl, _⟩ := List.cons.inj same
    omega

structure Reframed (lib : Library C) (dispatched : C → List Bytes) (frames : List Frame)
    (received : Bytes) (r : Receiver C) : Prop where
  processed : dispatched r.conn = (arrivedFrames frames received.length).map Frame.bytes
  tail : r.parseBuf = received.drop (total Frame.size (arrivedFrames frames received.length))
  short : r.parseBuf.length < lib.expected r.conn
  silent : r.errMsgs = []

theorem Boundary.reframed {frames : List Frame} {received : Bytes} {r : Receiver C}
    (formed : ∀ f ∈ frames, f.WellFormed)
    (boundary : Boundary lib Serves dispatched frames received r) (silent : r.errMsgs = []) :
    Reframed lib dispatched frames received r ∧
      ∀ f ∈ arrivedFrames frames received.length, f.throws = none := by
  obtain ⟨done, rest, split, fits, tail, short, at_⟩ := boundary
  have all := Boundary.done_eq formed split fits tail short at_
  constructor
  · exact ⟨by rw [all, at_.handed], by rw [all, tail], short, silent⟩
  · rw [all]
    exact at_.quiet

theorem start_boundary {frames : List Frame} {conn : C} (serves : Serves conn frames)
    (fresh : lib.expected conn = headerSize) (unused : dispatched conn = []) :
    Boundary lib Serves dispatched frames [] { conn } := by
  refine ⟨[], frames, rfl, Nat.le_refl 0, rfl, ?_, serves, ?_, unused, .inl fresh⟩
  · rw [fresh]
    exact Nat.zero_lt_succ 6
  · intro f member
    cases member

theorem receive_boundary (contract : FrameAtATime lib Serves dispatched) {frames : List Frame}
    {conn : C} (formed : ∀ f ∈ frames, f.WellFormed) (serves : Serves conn frames)
    (fresh : lib.expected conn = headerSize) (unused : dispatched conn = [])
    (chunks : List Bytes) (arrived : chunks.flatten <+: stream frames)
    (quiet : ∀ f ∈ arrivedFrames frames chunks.flatten.length, f.throws = none) :
    ∃ fuel r, receive lib fuel { conn } chunks = some r ∧
      Boundary lib Serves dispatched frames chunks.flatten r ∧ r.errMsgs = [] := by
  induction chunks using List.reverseRecOn with
  | nil => exact ⟨0, { conn }, rfl, start_boundary serves fresh unused, rfl⟩
  | append_singleton chunks chunk ih =>
    rw [List.flatten_append, List.flatten_singleton] at arrived quiet ⊢
    have grown : chunks.flatten.length ≤ (chunks.flatten ++ chunk).length := by simp
    have earlier := complete_mono Frame.size frames grown
    obtain ⟨fuel, r, ran, boundary, silent⟩ := ih ((List.prefix_append _ _).trans arrived)
      fun f member => quiet f (earlier.subset member)
    obtain ⟨fuel', r', next, ⟨boundary', same⟩ | interrupted⟩ :=
      handleRecv_boundary contract formed arrived boundary
    · exact ⟨_, r', receive_snoc ran next, boundary', same.trans silent⟩
    · obtain ⟨done, f, rest, what, rfl, throws, fits, _⟩ := interrupted
      have loud := quiet f (mem_complete Frame.size done rest f fits)
      rw [throws] at loud
      cases loud

-- The offset stays in the buffer, so the subtraction does not wrap, and so does every copy.
def InRange (parseBuf : Bytes) : LoopState C → Prop
  | .head _ parsedBytes expectedBytes =>
    parsedBytes ≤ parseBuf.length ∧
      (expectedBytes ≤ sizeSub parseBuf.length parsedBytes →
        parsedBytes + expectedBytes ≤ parseBuf.length)
  | .exited _ parsedBytes => parsedBytes ≤ parseBuf.length
  | .threw _ _ => True
  | .undefined => False

theorem Stands.inRange {before after : List Frame} {parseBuf : Bytes} {s : LoopState C}
    (stands : Stands lib Serves dispatched before after parseBuf s) : InRange parseBuf s := by
  cases s with
  | head conn parsedBytes expectedBytes =>
    obtain ⟨_, _, _, _, inside, _⟩ := stands
    refine ⟨inside, ?_⟩
    simp only [sizeSub, inside, if_true]
    omega
  | exited conn parsedBytes =>
    obtain ⟨_, _, _, _, inside, _⟩ := stands
    exact inside
  | threw => trivial
  | undefined => cases stands

theorem boundary_inRange (contract : FrameAtATime lib Serves dispatched) {frames : List Frame}
    {received chunk : Bytes} {r : Receiver C} (formed : ∀ f ∈ frames, f.WellFormed)
    (arrived : received ++ chunk <+: stream frames)
    (boundary : Boundary lib Serves dispatched frames received r) (n : Nat) :
    InRange (r.parseBuf ++ chunk)
      ((iteration lib (r.parseBuf ++ chunk))^[n] (enter lib r.conn)) := by
  obtain ⟨done, rest, rfl, fits, tail, _, at_⟩ := boundary
  obtain ⟨arrived', _⟩ := Boundary.buffer rfl fits tail arrived
  have formed' : ∀ f ∈ rest, f.WellFormed := fun f member =>
    formed f (List.mem_append_right done member)
  exact (Loop.invariant (fun s stands => (stands_iteration contract formed' arrived' s stands).1)
    (stands_enter at_) n).inRange

theorem reframing_ignores_chunks (contract : FrameAtATime lib Serves dispatched)
    {frames : List Frame} {conn : C} (formed : ∀ f ∈ frames, f.WellFormed)
    (quiet : ∀ f ∈ frames, f.throws = none) (serves : Serves conn frames)
    (fresh : lib.expected conn = headerSize) (unused : dispatched conn = [])
    (chunks : List Bytes) (arrived : chunks.flatten <+: stream frames) :
    (∃ fuel r, receive lib fuel { conn } chunks = some r ∧
        Reframed lib dispatched frames chunks.flatten r) ∧
      ∀ before chunk after, chunks = before ++ chunk :: after →
        ∃ fuel r, receive lib fuel { conn } before = some r ∧
          ∀ n, InRange (r.parseBuf ++ chunk)
            ((iteration lib (r.parseBuf ++ chunk))^[n] (enter lib r.conn)) := by
  have silent (received : Nat) : ∀ f ∈ arrivedFrames frames received, f.throws = none :=
    fun f member => quiet f ((complete_initial Frame.size frames received).subset member)
  constructor
  · obtain ⟨fuel, r, ran, boundary, messages⟩ :=
      receive_boundary contract formed serves fresh unused chunks arrived (silent _)
    exact ⟨fuel, r, ran, (boundary.reframed formed messages).1⟩
  · rintro before chunk after rfl
    rw [List.flatten_append, List.flatten_cons, ← List.append_assoc] at arrived
    have arrived' := (List.prefix_append _ _).trans arrived
    obtain ⟨fuel, r, ran, boundary, _⟩ := receive_boundary contract formed serves fresh unused
      before ((List.prefix_append _ _).trans arrived') (silent _)
    exact ⟨fuel, r, ran, boundary_inRange contract formed arrived' boundary⟩

def frameOf (payload : UInt8) : Bytes :=
  [1, 0, 1, 0, 0, 0, 1, payload, Frame.endOfFrame]

theorem two_frames_in_pieces :
    (∃ fuel r, receive (wireLibrary fun _ => none) fuel { conn := {} }
          [[1, 0, 1], [], [0, 0, 0, 1, 10, 206, 1, 0]] = some r ∧
        Reframed (wireLibrary fun _ => none) WireConnection.dispatched
          [⟨frameOf 10, none⟩, ⟨frameOf 11, none⟩] [1, 0, 1, 0, 0, 0, 1, 10, 206, 1, 0] r) ∧
      ∀ before chunk after,
        [[1, 0, 1], [], [0, 0, 0, 1, 10, 206, 1, 0]] = before ++ chunk :: after →
        ∃ fuel r, receive (wireLibrary fun _ => none) fuel { conn := {} } before = some r ∧
          ∀ n, InRange (r.parseBuf ++ chunk)
            ((iteration (wireLibrary fun _ => none) (r.parseBuf ++ chunk))^[n]
              (enter (wireLibrary fun _ => none) r.conn)) :=
  reframing_ignores_chunks (wire_contract fun _ => none) (by decide) (by decide)
    (by simp [wireServes]) rfl rfl _ (by decide)

/-- Every frame is handed to the callbacks at most once, in stream order, and is gone from
`m_parseBuf` once it was. -/
def HandsOnce (lib : Library C) (dispatched : C → List Bytes) (frames : List Frame) (conn : C)
    (chunks : List Bytes) : Prop :=
  ∀ before after, chunks = before ++ after →
    ∃ fuel r, receive lib fuel { conn } before = some r ∧
      dispatched r.conn <+: frames.map Frame.bytes ∧
      r.parseBuf = before.flatten.drop (dispatched r.conn).flatten.length

theorem bytes_length (frames : List Frame) :
    (frames.map Frame.bytes).flatten.length = total Frame.size frames := by
  rw [← List.flatMap_def]
  exact stream_length frames

theorem Boundary.hands {frames : List Frame} {received : Bytes} {r : Receiver C}
    (boundary : Boundary lib Serves dispatched frames received r) :
    dispatched r.conn <+: frames.map Frame.bytes ∧
      r.parseBuf = received.drop (dispatched r.conn).flatten.length := by
  obtain ⟨done, rest, rfl, fits, tail, _, at_⟩ := boundary
  rw [at_.handed, bytes_length, List.map_append]
  exact ⟨List.prefix_append _ _, tail⟩

theorem Interrupted.keeps {frames : List Frame} {received : Bytes} {r : Receiver C}
    (interrupted : Interrupted dispatched frames received r) :
    r.parseBuf ≠ received.drop (dispatched r.conn).flatten.length := by
  obtain ⟨done, f, rest, what, _, _, fits, handed, more⟩ := interrupted
  intro trimmed
  have length := congrArg List.length trimmed
  rw [handed, bytes_length, List.length_drop] at length
  simp only [total_append, total_cons, total_nil] at length more
  omega

theorem HandsOnce.boundary (contract : FrameAtATime lib Serves dispatched) {frames : List Frame}
    {conn : C} (formed : ∀ f ∈ frames, f.WellFormed) (serves : Serves conn frames)
    (fresh : lib.expected conn = headerSize) (unused : dispatched conn = [])
    {chunks : List Bytes} (arrived : chunks.flatten <+: stream frames)
    (once : HandsOnce lib dispatched frames conn chunks) (before after : List Bytes)
    (split : chunks = before ++ after) :
    ∃ fuel r, receive lib fuel { conn } before = some r ∧
      Boundary lib Serves dispatched frames before.flatten r ∧ r.errMsgs = [] := by
  induction before using List.reverseRecOn generalizing after with
  | nil => exact ⟨0, { conn }, rfl, start_boundary serves fresh unused, rfl⟩
  | append_singleton before chunk ih =>
    rw [List.append_assoc] at split
    obtain ⟨fuel, r, ran, boundary, silent⟩ := ih ([chunk] ++ after) split
    have arrived' : before.flatten ++ chunk <+: stream frames := by
      rw [split] at arrived
      simp only [List.flatten_append, List.flatten_singleton, ← List.append_assoc] at arrived
      exact (List.prefix_append _ _).trans arrived
    rw [List.flatten_append, List.flatten_singleton]
    obtain ⟨fuel', r', next, ⟨boundary', same⟩ | interrupted⟩ :=
      handleRecv_boundary contract formed arrived' boundary
    · exact ⟨_, r', receive_snoc ran next, boundary', same.trans silent⟩
    · obtain ⟨_, r'', ran'', _, trimmed⟩ := once (before ++ [chunk]) after (by rw [split]; simp)
      rw [receive_unique ran'' (receive_snoc ran next), List.flatten_append,
        List.flatten_singleton] at trimmed
      exact absurd trimmed interrupted.keeps

theorem handsOnce_iff (contract : FrameAtATime lib Serves dispatched) {frames : List Frame}
    {conn : C} (formed : ∀ f ∈ frames, f.WellFormed) (serves : Serves conn frames)
    (fresh : lib.expected conn = headerSize) (unused : dispatched conn = [])
    (chunks : List Bytes) (arrived : chunks.flatten <+: stream frames) :
    HandsOnce lib dispatched frames conn chunks ↔
      ∀ f ∈ arrivedFrames frames chunks.flatten.length, f.throws = none := by
  constructor
  · intro once
    obtain ⟨_, r, _, boundary, silent⟩ :=
      once.boundary contract formed serves fresh unused arrived chunks [] (by simp)
    exact (boundary.reframed formed silent).2
  · rintro quiet before after rfl
    rw [List.flatten_append] at arrived quiet
    have grown : before.flatten.length ≤ (before.flatten ++ after.flatten).length := by simp
    have earlier := complete_mono Frame.size frames grown
    obtain ⟨fuel, r, ran, boundary, _⟩ := receive_boundary contract formed serves fresh unused
      before ((List.prefix_append _ _).trans arrived) fun f member =>
        quiet f (earlier.subset member)
    exact ⟨fuel, r, ran, boundary.hands⟩

def throwsOnEleven (frame : Bytes) : Option String :=
  if frame = frameOf 11 then some "callback failed" else none

def threeFrames : List Frame :=
  [⟨frameOf 10, none⟩, ⟨frameOf 11, some "callback failed"⟩, ⟨frameOf 12, none⟩]

theorem incomplete_throw_hands_once :
    HandsOnce (wireLibrary throwsOnEleven) WireConnection.dispatched threeFrames {}
      [frameOf 10 ++ [1, 0, 1]] :=
  (handsOnce_iff (wire_contract throwsOnEleven) (by decide) (by decide +kernel) rfl rfl
    [frameOf 10 ++ [1, 0, 1]] (by decide)).mpr (by decide)

theorem throwing_frame_replays :
    (∃ fuel r, receive (wireLibrary throwsOnEleven) fuel { conn := {} }
        [frameOf 10 ++ frameOf 11, [1]] = some r ∧
      r.conn.dispatched = [frameOf 10, frameOf 11, frameOf 10, frameOf 11]) ∧
    ¬ HandsOnce (wireLibrary throwsOnEleven) WireConnection.dispatched threeFrames {}
      [frameOf 10 ++ frameOf 11, [1]] := by
  have ran : receive (wireLibrary throwsOnEleven) 5 { conn := {} }
      [frameOf 10 ++ frameOf 11, [1]] = some
        { conn := ⟨9, [frameOf 10, frameOf 11, frameOf 10, frameOf 11]⟩
          parseBuf := frameOf 10 ++ frameOf 11 ++ [1]
          errMsgs := ["解析Rmq数据发生错误：callback failed", "解析Rmq数据发生错误：callback failed"] } := rfl
  refine ⟨⟨5, _, ran, rfl⟩, ?_⟩
  intro once
  obtain ⟨_, _, ran', ordered, _⟩ := once _ [] (List.append_nil _).symm
  rw [receive_unique ran' ran] at ordered
  exact absurd ordered (by decide)

end RmqMgr.Parse
