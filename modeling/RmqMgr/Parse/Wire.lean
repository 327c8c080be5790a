import RmqMgr.Parse.Frames

set_option autoImplicit false

namespace RmqMgr.Parse

open Tcp

structure WireConnection where
  expected : Nat := headerSize
  dispatched : List Bytes := []
  deriving DecidableEq, Repr

-- `callbacks` says what the callbacks of a frame throw.
def wireLibrary (callbacks : Bytes → Option String) : Library WireConnection where
  expected conn := conn.expected
  parse conn buff :=
    if buff.length < headerSize then .returned 0 conn
    else if buff.length < Frame.announced buff then
      .returned 0 { conn with expected := Frame.announced buff }
    else
      let frame := buff.take (Frame.announced buff)
      match callbacks frame with
      | none =>
        .returned frame.length
          { expected := headerSize, dispatched := conn.dispatched ++ [frame] }
      | some what => .threw what { conn with dispatched := conn.dispatched ++ [frame] }

def wireServes (callbacks : Bytes → Option String) (_ : WireConnection) (rest : List Frame) :
    Prop :=
  ∀ f ∈ rest, f.throws = callbacks f.bytes

instance (callbacks : Bytes → Option String) (conn : WireConnection) (rest : List Frame) :
    Decidable (wireServes callbacks conn rest) :=
  inferInstanceAs (Decidable (∀ f ∈ rest, _ = _))

theorem announced_initial {part whole : Bytes} (initial : part <+: whole)
    (header : headerSize ≤ part.length) : Frame.announced part = Frame.announced whole := by
  obtain ⟨rest, rfl⟩ := initial
  unfold headerSize at header
  have inside : 3 ≤ part.length := by omega
  have long : 4 ≤ (part.drop 3).length := by
    rw [List.length_drop]
    omega
  rw [Frame.announced, Frame.announced, List.drop_append_of_le_length inside,
    List.take_append_of_le_length long]

theorem wire_contract (callbacks : Bytes → Option String) :
    FrameAtATime (wireLibrary callbacks) (wireServes callbacks) WireConnection.dispatched where
  header := by
    intro conn f rest part serves formed initial header short
    have size : Frame.announced part = f.size :=
      (announced_initial initial header).trans formed.1.symm
    refine ⟨{ conn with expected := f.size }, ?_, serves, rfl, rfl⟩
    have enough : ¬ part.length < headerSize := by omega
    simp [wireLibrary, enough, size, short]
  frame := by
    intro conn f rest serves formed silent
    have enough := Nat.not_lt_of_lt formed.holds_header
    have whole : Frame.announced f.bytes = f.bytes.length := formed.1.symm
    have none : callbacks f.bytes = none := by
      rw [← serves f (List.mem_cons_self ..)]
      exact silent
    refine ⟨⟨headerSize, conn.dispatched ++ [f.bytes]⟩, ?_,
      fun g member => serves g (List.mem_cons_of_mem f member), rfl, rfl⟩
    simp [wireLibrary, enough, whole, none, Frame.size]
  throwing := by
    intro conn f rest what serves formed throws
    have enough := Nat.not_lt_of_lt formed.holds_header
    have whole : Frame.announced f.bytes = f.bytes.length := formed.1.symm
    have some : callbacks f.bytes = some what := by
      rw [← serves f (List.mem_cons_self ..)]
      exact throws
    refine ⟨{ conn with dispatched := conn.dispatched ++ [f.bytes] }, ?_, rfl⟩
    simp [wireLibrary, enough, whole, some]

end RmqMgr.Parse
