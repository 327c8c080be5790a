import RmqMgr.Parse.Frames

set_option autoImplicit false

namespace RmqMgr.Parse

open Tcp Framing

variable {C : Type} {lib : Library C} {Serves : C → List Frame → Prop}
  {dispatched : C → List Bytes}

theorem parseLoop_mono {fuel more : Nat} {conn : C} {parseBuf : Bytes} {out : C × ParseEnd}
    (enough : parseLoop lib fuel conn parseBuf = some out) (grown : fuel ≤ more) :
    parseLoop lib more conn parseBuf = some out := by
  have finished : ((iteration lib parseBuf)^[fuel] (enter lib conn)).finished := by
    unfold parseLoop at enough
    cases state : (iteration lib parseBuf)^[fuel] (enter lib conn) with
    | head =>
      rw [state] at enough
      cases enough
    | _ => trivial
  obtain ⟨k, rfl⟩ := Nat.exists_eq_add_of_le' grown
  rw [parseLoop, Function.iterate_add_apply,
    Function.iterate_fixed (iteration_finished lib parseBuf _ finished)]
  exact enough

theorem handleRecv_mono {fuel more : Nat} {r r' : Receiver C} {chunk : Bytes}
    (enough : handleRecv lib fuel r chunk = some r') (grown : fuel ≤ more) :
    handleRecv lib more r chunk = some r' := by
  simp only [handleRecv, parseAmqpData, Option.map_eq_some_iff] at enough ⊢
  obtain ⟨out, looped, same⟩ := enough
  exact ⟨out, parseLoop_mono looped grown, same⟩

theorem receive_mono {fuel more : Nat} {r r' : Receiver C} {chunks : List Bytes}
    (enough : receive lib fuel r chunks = some r') (grown : fuel ≤ more) :
    receive lib more r chunks = some r' := by
  induction chunks generalizing r with
  | nil => exact enough
  | cons chunk rest ih =>
    simp only [receive, List.foldlM_cons, Option.bind_eq_bind, Option.bind_eq_some_iff] at enough ⊢
    obtain ⟨middle, first, later⟩ := enough
    exact ⟨middle, handleRecv_mono first grown, ih later⟩

theorem receive_unique {fuel fuel' : Nat} {r first second : Receiver C} {chunks : List Bytes}
    (one : receive lib fuel r chunks = some first)
    (other : receive lib fuel' r chunks = some second) : first = second := by
  have left := receive_mono one (Nat.le_max_left fuel fuel')
  have right := receive_mono other (Nat.le_max_right fuel fuel')
  exact Option.some.inj (left.symm.trans right)

theorem receive_snoc {fuel fuel' : Nat} {r middle last : Receiver C} {chunks : List Bytes}
    {chunk : Bytes} (before : receive lib fuel r chunks = some middle)
    (next : handleRecv lib fuel' middle chunk = some last) :
    receive lib (max fuel fuel') r (chunks ++ [chunk]) = some last := by
  have before' := receive_mono before (Nat.le_max_left fuel fuel')
  have next' := handleRecv_mono next (Nat.le_max_right fuel fuel')
  unfold receive at before' ⊢
  rw [List.foldlM_append, before']
  simpa using next'

def Boundary (lib : Library C) (Serves : C → List Frame → Prop) (dispatched : C → List Bytes)
    (frames : List Frame) (received : Bytes) (r : Receiver C) : Prop :=
  ∃ done rest, frames = done ++ rest ∧ total Frame.size done ≤ received.length ∧
    r.parseBuf = received.drop (total Frame.size done) ∧
    r.parseBuf.length < lib.expected r.conn ∧ At lib Serves dispatched done rest r.conn

/-- A call whose loop was left by an exception of the frame after `done`: the buffer holds more than
what was not handed out. -/
def Interrupted (dispatched : C → List Bytes) (frames : List Frame) (received : Bytes)
    (r : Receiver C) : Prop :=
  ∃ done f rest what, frames = done ++ f :: rest ∧ f.throws = some what ∧
    total Frame.size done + f.size ≤ received.length ∧
    dispatched r.conn = (done ++ [f]).map Frame.bytes ∧
    received.length < r.parseBuf.length + total Frame.size (done ++ [f])

theorem Boundary.buffer {frames : List Frame} {received chunk : Bytes} {r : Receiver C}
    {done rest : List Frame} (split : frames = done ++ rest)
    (fits : total Frame.size done ≤ received.length)
    (tail : r.parseBuf = received.drop (total Frame.size done))
    (arrived : received ++ chunk <+: stream frames) :
    r.parseBuf ++ chunk <+: stream rest ∧
      r.parseBuf ++ chunk = (received ++ chunk).drop (total Frame.size done) := by
  have whole : r.parseBuf ++ chunk = (received ++ chunk).drop (total Frame.size done) := by
    rw [tail, List.drop_append_of_le_length fits]
  refine ⟨?_, whole⟩
  rw [whole]
  exact rest_of_buffer (split ▸ arrived)

theorem stands_enter {done rest : List Frame} {conn : C} {parseBuf : Bytes}
    (at_ : At lib Serves dispatched done rest conn) :
    Stands lib Serves dispatched done rest parseBuf (enter lib conn) :=
  ⟨[], rest, rfl, rfl, Nat.zero_le _, rfl, by simpa using at_⟩

theorem handleRecv_boundary (contract : FrameAtATime lib Serves dispatched) {frames : List Frame}
    {received chunk : Bytes} {r : Receiver C} (formed : ∀ f ∈ frames, f.WellFormed)
    (arrived : received ++ chunk <+: stream frames)
    (boundary : Boundary lib Serves dispatched frames received r) :
    ∃ fuel r', handleRecv lib fuel r chunk = some r' ∧
      (Boundary lib Serves dispatched frames (received ++ chunk) r' ∧ r'.errMsgs = r.errMsgs ∨
        Interrupted dispatched frames (received ++ chunk) r') := by
  obtain ⟨done, rest, rfl, fits, tail, _, at_⟩ := boundary
  obtain ⟨arrived', whole⟩ := Boundary.buffer rfl fits tail arrived
  have formed' : ∀ f ∈ rest, f.WellFormed := fun f member =>
    formed f (List.mem_append_right done member)
  obtain ⟨fuel, finished, stands⟩ := Loop.terminates LoopState.finished
    (distance (r.parseBuf ++ chunk))
    (fun s stands => (stands_iteration contract formed' arrived' s stands).1)
    (fun s stands => (stands_iteration contract formed' arrived' s stands).2)
    (stands_enter at_)
  have size : (r.parseBuf ++ chunk).length = (received ++ chunk).length - total Frame.size done := by
    rw [whole, List.length_drop]
  have fits' : total Frame.size done ≤ (received ++ chunk).length := by
    rw [List.length_append]
    omega
  cases state : (iteration lib (r.parseBuf ++ chunk))^[fuel] (enter lib r.conn) with
  | head =>
    rw [state] at finished
    cases finished
  | exited conn parsedBytes =>
    rw [state] at stands
    obtain ⟨here, more, rfl, parsed, inside, short, at'⟩ := stands
    refine ⟨fuel, { r with conn, parseBuf := (r.parseBuf ++ chunk).drop parsedBytes }, ?_,
      .inl ⟨?_, rfl⟩⟩
    · simp [handleRecv, parseAmqpData, parseLoop, state, LoopState.result]
    · refine ⟨done ++ here, more, by simp, ?_, ?_, ?_, at'⟩
      · rw [total_append]
        omega
      · rw [total_append, ← List.drop_drop, ← whole, parsed]
      · rw [List.length_drop]
        exact short
  | threw conn what =>
    rw [state] at stands
    obtain ⟨here, f, more, rfl, inside, throws, handed⟩ := stands
    refine ⟨fuel, ⟨conn, r.parseBuf ++ chunk, r.errMsgs ++ ["解析Rmq数据发生错误：" ++ what]⟩, ?_,
      .inr ⟨done ++ here, f, more, what, by simp, throws, ?_, handed, ?_⟩⟩
    · simp [handleRecv, parseAmqpData, parseLoop, state, LoopState.result]
    · rw [total_append]
      omega
    · have long := (formed' f (by simp)).header
      simp only [total_append, total_cons, total_nil]
      omega
  | undefined =>
    rw [state] at stands
    cases stands

end RmqMgr.Parse
