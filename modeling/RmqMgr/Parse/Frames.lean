import RmqMgr.Parse.ParseAmqpData
import RmqMgr.Shared.Framing

set_option autoImplicit false

-- `AMQP::Connection` is a parameter. It takes one frame at a time, as the comments of its header
-- say, and lets an exception of a callback through after the frame was dispatched.

namespace RmqMgr.Parse

open Tcp Framing

structure Frame where
  bytes : Bytes
  throws : Option String := none
  deriving DecidableEq, Repr

namespace Frame

def size (f : Frame) : Nat := f.bytes.length

-- The total size that a header announces: type and channel, the payload's size in four bytes,
-- the payload, and the end-of-frame byte.
def announced (header : Bytes) : Nat :=
  ((header.drop 3).take 4).foldl (fun size byte => size * 256 + byte.toNat) 0 + 8

def endOfFrame : UInt8 := 206

def WellFormed (f : Frame) : Prop :=
  f.size = announced f.bytes ∧ f.bytes.getLast? = some endOfFrame

instance (f : Frame) : Decidable f.WellFormed :=
  inferInstanceAs (Decidable (_ ∧ _))

theorem WellFormed.header {f : Frame} (formed : f.WellFormed) : 8 ≤ f.size := by
  rw [formed.1]
  exact Nat.le_add_left 8 _

end Frame

abbrev stream (frames : List Frame) : Bytes :=
  frames.flatMap Frame.bytes

theorem stream_length (frames : List Frame) :
    (stream frames).length = total Frame.size frames := by
  induction frames with
  | nil => rfl
  | cons f rest ih => simp [ih, Frame.size]

def headerSize : Nat := 7

theorem Frame.WellFormed.holds_header {f : Frame} (formed : f.WellFormed) :
    headerSize < f.bytes.length :=
  Nat.lt_of_lt_of_le (by decide) formed.header

/-- `Serves conn frames`: the connection is open, stands at the start of `frames`, and will go
through them. `dispatched` are the frames it handed to the callbacks. -/
structure FrameAtATime {C : Type} (lib : Library C) (Serves : C → List Frame → Prop)
    (dispatched : C → List Bytes) : Prop where
  header : ∀ conn f rest part, Serves conn (f :: rest) → f.WellFormed → part <+: f.bytes →
    headerSize ≤ part.length → part.length < f.size →
    ∃ conn', lib.parse conn part = .returned 0 conn' ∧ Serves conn' (f :: rest) ∧
      lib.expected conn' = f.size ∧ dispatched conn' = dispatched conn
  frame : ∀ conn f rest, Serves conn (f :: rest) → f.WellFormed → f.throws = none →
    ∃ conn', lib.parse conn f.bytes = .returned f.size conn' ∧ Serves conn' rest ∧
      lib.expected conn' = headerSize ∧ dispatched conn' = dispatched conn ++ [f.bytes]
  throwing : ∀ conn f rest what, Serves conn (f :: rest) → f.WellFormed → f.throws = some what →
    ∃ conn', lib.parse conn f.bytes = .threw what conn' ∧
      dispatched conn' = dispatched conn ++ [f.bytes]

variable {C : Type} {lib : Library C} {Serves : C → List Frame → Prop}
  {dispatched : C → List Bytes}

structure At (lib : Library C) (Serves : C → List Frame → Prop) (dispatched : C → List Bytes)
    (done rest : List Frame) (conn : C) : Prop where
  serves : Serves conn rest
  quiet : ∀ f ∈ done, f.throws = none
  handed : dispatched conn = done.map Frame.bytes
  expects : lib.expected conn = headerSize ∨
    ∃ f more, rest = f :: more ∧ lib.expected conn = f.size

def Stands (lib : Library C) (Serves : C → List Frame → Prop) (dispatched : C → List Bytes)
    (before after : List Frame) (parseBuf : Bytes) : LoopState C → Prop
  | .head conn parsedBytes expectedBytes =>
    ∃ here rest, after = here ++ rest ∧ parsedBytes = total Frame.size here ∧
      parsedBytes ≤ parseBuf.length ∧ expectedBytes = lib.expected conn ∧
      At lib Serves dispatched (before ++ here) rest conn
  | .exited conn parsedBytes =>
    ∃ here rest, after = here ++ rest ∧ parsedBytes = total Frame.size here ∧
      parsedBytes ≤ parseBuf.length ∧ parseBuf.length - parsedBytes < lib.expected conn ∧
      At lib Serves dispatched (before ++ here) rest conn
  | .threw conn what =>
    ∃ here f rest, after = here ++ f :: rest ∧
      total Frame.size here + f.size ≤ parseBuf.length ∧ f.throws = some what ∧
      dispatched conn = (before ++ here ++ [f]).map Frame.bytes
  | .undefined => False

theorem rest_of_buffer {here rest : List Frame} {parseBuf : Bytes}
    (arrived : parseBuf <+: stream (here ++ rest)) :
    parseBuf.drop (total Frame.size here) <+: stream rest := by
  have cut := drop_initial arrived (stream here).length
  rw [← stream_length]
  simpa only [stream, List.flatMap_append, List.drop_left] using cut

theorem next_slice {lib : Library C} {done rest : List Frame} {conn : C} {remaining : Bytes}
    (formed : ∀ f ∈ rest, f.WellFormed) (at_ : At lib Serves dispatched done rest conn)
    (arrived : remaining <+: stream rest) (enough : lib.expected conn ≤ remaining.length) :
    ∃ f more, rest = f :: more ∧
      (lib.expected conn = headerSize ∧ remaining.take headerSize <+: f.bytes ∧
          (remaining.take headerSize).length = headerSize ∨
        lib.expected conn = f.size ∧ remaining.take f.size = f.bytes) := by
  rcases at_.expects with header | ⟨f, more, rfl, whole⟩
  · cases rest with
    | nil =>
      have empty : remaining = [] := List.prefix_nil.mp arrived
      rw [header, empty] at enough
      cases enough
    | cons f more =>
      rw [header] at enough
      refine ⟨f, more, rfl, .inl ⟨header, ?_, ?_⟩⟩
      · have start := take_initial arrived headerSize
        have inside := Nat.le_of_lt (formed f (List.mem_cons_self ..)).holds_header
        rw [stream, List.flatMap_cons, List.take_append_of_le_length inside] at start
        exact start.trans (List.take_prefix _ _)
      · rw [List.length_take]
        omega
  · rw [whole] at enough
    refine ⟨f, more, rfl, .inr ⟨whole, ?_⟩⟩
    have start := take_initial arrived f.size
    rw [stream, List.flatMap_cons, Frame.size, List.take_left] at start
    apply start.eq_of_length
    rw [List.length_take]
    exact Nat.min_eq_left enough

-- An iteration moves the offset, or raises the expectation once from a header to its frame.
def distance (parseBuf : Bytes) : LoopState C → Nat
  | .head _ parsedBytes expectedBytes =>
    2 * (parseBuf.length - parsedBytes) + if expectedBytes = headerSize then 2 else 1
  | _ => 0

theorem distance_finished {parseBuf : Bytes} {conn : C} {parsedBytes expectedBytes : Nat} :
    0 < distance parseBuf (.head conn parsedBytes expectedBytes) := by
  simp only [distance]
  split <;> omega

theorem stands_iteration (contract : FrameAtATime lib Serves dispatched)
    {before after : List Frame} {parseBuf : Bytes} (formed : ∀ f ∈ after, f.WellFormed)
    (arrived : parseBuf <+: stream after) (s : LoopState C)
    (stands : Stands lib Serves dispatched before after parseBuf s) :
    Stands lib Serves dispatched before after parseBuf (iteration lib parseBuf s) ∧
      (¬ s.finished → distance parseBuf (iteration lib parseBuf s) < distance parseBuf s) := by
  cases s with
  | head conn parsedBytes expectedBytes =>
    obtain ⟨here, rest, rfl, parsed, inside, rfl, at_⟩ := stands
    simp only [iteration, sizeSub, inside, if_true]
    by_cases enough : lib.expected conn ≤ parseBuf.length - parsedBytes
    next =>
      have copied : parsedBytes + lib.expected conn ≤ parseBuf.length := by omega
      rw [if_pos enough, if_pos copied]
      have remaining : parseBuf.drop parsedBytes <+: stream rest := parsed ▸ rest_of_buffer arrived
      have long : lib.expected conn ≤ (parseBuf.drop parsedBytes).length := by
        rw [List.length_drop]
        exact enough
      obtain ⟨f, more, rfl, slice⟩ :=
        next_slice (fun f member => formed f (List.mem_append_right here member)) at_ remaining long
      have formed' : f.WellFormed := formed f (List.mem_append_right here (List.mem_cons_self ..))
      rcases slice with ⟨header, part, size⟩ | ⟨whole, slice⟩
      · -- Only the header is there: nothing is consumed and the expectation becomes the frame.
        have short := formed'.header
        obtain ⟨conn', result, serves, expected, handed⟩ := contract.header conn f more _ at_.serves
          formed' part (Nat.le_of_eq size.symm) (by rw [size]; exact short)
        rw [header, result]
        constructor
        · exact ⟨here, f :: more, rfl, parsed, inside, rfl, serves, at_.quiet,
            handed.trans at_.handed, .inr ⟨f, more, rfl, expected⟩⟩
        · intro _
          have raised : lib.expected conn' ≠ headerSize := by
            rw [expected]
            unfold headerSize
            omega
          simp only [distance, raised, if_true, if_false]
          omega
      · rw [whole, slice]
        cases throws : f.throws with
        | none =>
          obtain ⟨conn', result, serves, expected, handed⟩ :=
            contract.frame conn f more at_.serves formed' throws
          rw [result]
          constructor
          · refine ⟨here ++ [f], more, by simp, by simp [parsed], by omega, rfl, serves, ?_, ?_, ?_⟩
            · intro g member
              rw [← List.append_assoc] at member
              rcases List.mem_append.mp member with earlier | last
              · exact at_.quiet g earlier
              · rw [List.mem_singleton.mp last]
                exact throws
            · rw [handed, at_.handed]
              simp
            · exact .inl expected
          · intro _
            have long := formed'.header
            simp only [distance, expected, if_true]
            split <;> omega
        | some what =>
          obtain ⟨conn', result, handed⟩ :=
            contract.throwing conn f more what at_.serves formed' throws
          rw [result]
          constructor
          · refine ⟨here, f, more, rfl, by omega, throws, ?_⟩
            rw [handed, at_.handed]
            simp
          · exact fun _ => distance_finished
    next =>
      rw [if_neg enough]
      exact ⟨⟨here, rest, rfl, parsed, inside, by omega, at_⟩, fun _ => distance_finished⟩
  | exited | threw | undefined => exact ⟨stands, fun running => absurd trivial running⟩

end RmqMgr.Parse
