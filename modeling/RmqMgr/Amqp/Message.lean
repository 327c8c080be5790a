import RmqMgr.Parse.ParseAmqpData

set_option autoImplicit false

namespace RmqMgr.Amqp

open Tcp (Bytes)
open Parse (sizeSub)

-- A block of `malloc`; a byte that was never written is `none`.
abbrev Block := List (Option UInt8)

inductive BodyPointer where
  | null
  | frame (payload : Bytes)
  | block
  deriving DecidableEq, Repr

structure Message where
  bodySize : Nat := 0
  body : BodyPointer := .null
  mutableBody : Option Block := none
  filled : Nat := 0
  deriving DecidableEq, Repr

-- `w` is the number of bits of `size_t`, and `allocates` the sizes for which `malloc` succeeds.
variable (w : Nat) (allocates : Nat → Bool)

def toSize (n : Nat) : Nat :=
  n % 2 ^ w

def setBodySize (size : Nat) (m : Message) : Except String Message :=
  if 2 ^ w - 1 < size then .error "message is too big for this system"
  else .ok { m with bodySize := size }

def malloc (size : Nat) : Option Block :=
  if allocates size then some (List.replicate size none) else none

-- `none` when a byte outside of either block would be touched.
def memcpy (block : Block) (offset : Nat) (buffer : Bytes) (size : Nat) : Option Block :=
  if size ≤ buffer.length ∧ offset + size ≤ block.length then
    some (block.take offset ++ (buffer.take size).map some ++ block.drop (offset + size))
  else none

def Message.done (m : Message) : Bool :=
  m.bodySize ≤ m.filled

def append (buffer : Bytes) (m : Message) : Option (Message × Bool) :=
  match m.mutableBody with
  | some block =>
    let size := toSize w (min buffer.length (sizeSub m.bodySize m.filled))
    (memcpy block m.filled buffer size).map fun block =>
      let m := { m with mutableBody := some block, filled := toSize w (m.filled + size) }
      (m, m.done)
  | none =>
    if m.bodySize ≤ buffer.length then
      let m := { m with body := .frame buffer }
      some (m, m.done)
    else
      let filled := min (toSize w buffer.length) (toSize w m.bodySize)
      match malloc allocates (toSize w m.bodySize) with
      | some block =>
        (memcpy block 0 buffer filled).map fun block =>
          let m := { m with body := .block, mutableBody := some block, filled }
          (m, m.done)
      | none =>
        -- The result of `malloc` is not tested: what is copied goes to the null pointer.
        (memcpy [] 0 buffer filled).map fun _ =>
          let m := { m with body := .null, filled }
          (m, m.done)

def appends : List Bytes → Message → Option (Message × List Bool)
  | [], m => some (m, [])
  | buffer :: rest, m =>
    (append w allocates buffer m).bind fun (m, done) =>
      (appends rest m).map fun (m, more) => (m, done :: more)

-- The `bodySize()` bytes at `body()`, if each of them may be read.
def Message.read (m : Message) : Option Bytes :=
  match m.body with
  | .null => if m.bodySize = 0 then some [] else none
  | .frame payload => if m.bodySize ≤ payload.length then some (payload.take m.bodySize) else none
  | .block =>
    m.mutableBody.bind fun block =>
      if m.bodySize ≤ block.length then (block.take m.bodySize).mapM id else none

def filledBlock (size : Nat) (written : Bytes) : Block :=
  written.map some ++ List.replicate (size - written.length) none

variable {w allocates}

theorem toSize_id {n size : Nat} (small : size < 2 ^ w) (inside : n ≤ size) : toSize w n = n :=
  Nat.mod_eq_of_lt (Nat.lt_of_le_of_lt inside small)

theorem filledBlock_length {size : Nat} {written : Bytes} (inside : written.length ≤ size) :
    (filledBlock size written).length = size := by
  simp only [filledBlock, List.length_append, List.length_map, List.length_replicate]
  omega

theorem memcpy_filled {size n : Nat} {written buffer : Bytes} (readable : n ≤ buffer.length)
    (inside : written.length + n ≤ size) :
    memcpy (filledBlock size written) written.length buffer n =
      some (filledBlock size (written ++ buffer.take n)) := by
  have length : (filledBlock size written).length = size := filledBlock_length (by omega)
  have taken : (buffer.take n).length = n := List.length_take_of_le readable
  have rest : size - written.length - n = size - (written ++ buffer.take n).length := by
    rw [List.length_append, taken]
    omega
  simp only [memcpy, length, readable, inside, and_self, if_true]
  simp [filledBlock, List.drop_append, rest]

def assembling (size : Nat) (written : Bytes) : Message where
  bodySize := size
  body := .block
  mutableBody := some (filledBlock size written)
  filled := written.length

theorem append_first {m : Message} {buffer : Bytes} (small : m.bodySize < 2 ^ w)
    (none : m.mutableBody = none) (short : buffer.length < m.bodySize)
    (allocated : allocates m.bodySize = true) :
    append w allocates buffer m = some (assembling m.bodySize buffer, false) := by
  have size : toSize w m.bodySize = m.bodySize := toSize_id small (Nat.le_refl _)
  have length : toSize w buffer.length = buffer.length := toSize_id small (Nat.le_of_lt short)
  have inside : ¬ m.bodySize ≤ buffer.length := Nat.not_le_of_lt short
  have copied : memcpy (List.replicate m.bodySize Option.none) 0 buffer buffer.length =
      some (filledBlock m.bodySize buffer) := by
    have first := @memcpy_filled m.bodySize buffer.length [] buffer (Nat.le_refl _) (by simp; omega)
    simpa [filledBlock] using first
  simp [append, malloc, allocated, none, inside, size, length, Nat.min_eq_left (Nat.le_of_lt short),
    copied, assembling, Message.done]

theorem append_null {m : Message} {buffer : Bytes} (small : m.bodySize < 2 ^ w)
    (none : m.mutableBody = none) (short : buffer.length < m.bodySize)
    (refused : allocates m.bodySize = false) :
    append w allocates buffer m =
      if buffer = [] then some ({ m with body := .null, filled := 0 }, false) else Option.none := by
  have inside : ¬ m.bodySize ≤ buffer.length := Nat.not_le_of_lt short
  have size : toSize w m.bodySize = m.bodySize := toSize_id small (Nat.le_refl _)
  have length : toSize w buffer.length = buffer.length := toSize_id small (Nat.le_of_lt short)
  have filled : min buffer.length m.bodySize = buffer.length := Nat.min_eq_left (Nat.le_of_lt short)
  simp only [append, malloc, none, inside, size, length, filled, refused, if_false, Bool.false_eq_true]
  cases buffer with
  | nil =>
    have positive : ¬ m.bodySize ≤ 0 := inside
    simp [memcpy, Message.done, positive]
  | cons byte rest => simp [memcpy]

theorem append_more {size : Nat} {written buffer : Bytes} (small : size < 2 ^ w)
    (inside : written.length ≤ size) :
    append w allocates buffer (assembling size written) =
      some (assembling size (written ++ buffer.take (size - written.length)),
        decide (size ≤ written.length + buffer.length)) := by
  have rest : sizeSub size written.length = size - written.length := if_pos inside
  have count : toSize w (min buffer.length (size - written.length)) =
      min buffer.length (size - written.length) :=
    toSize_id small (Nat.le_trans (Nat.min_le_right _ _) (Nat.sub_le _ _))
  have after : toSize w (written.length + min buffer.length (size - written.length)) =
      written.length + min buffer.length (size - written.length) :=
    toSize_id small (by omega)
  have copied := @memcpy_filled size (min buffer.length (size - written.length)) written buffer
    (Nat.min_le_left _ _) (by omega)
  have taken : buffer.take (min buffer.length (size - written.length)) =
      buffer.take (size - written.length) := by
    rw [Nat.min_comm, ← List.take_take, List.take_length]
  rw [taken] at copied
  have full : size ≤ written.length + min buffer.length (size - written.length) ↔
      size ≤ written.length + buffer.length := by omega
  simp only [append, assembling, rest, count, after, copied, Option.map_some, Message.done, full,
    List.length_append, List.length_take]
  rw [Nat.min_comm]

def Assembled (size : Nat) (m : Message) : Prop :=
  m.bodySize = size ∧ m.mutableBody = none ∨
    ∃ written, written.length ≤ size ∧ m = assembling size written

theorem assembled_append {size : Nat} {m : Message} {buffer : Bytes} (small : size < 2 ^ w)
    (safe : size ≤ 1 ∨ allocates size = true) (assembled : Assembled size m) :
    ∃ m' done, append w allocates buffer m = some (m', done) ∧ Assembled size m' := by
  rcases assembled with ⟨rfl, none⟩ | ⟨written, inside, rfl⟩
  · by_cases short : buffer.length < m.bodySize
    · cases allocated : allocates m.bodySize with
      | true =>
        exact ⟨_, _, append_first small none short allocated,
          .inr ⟨buffer, Nat.le_of_lt short, rfl⟩⟩
      | false =>
        have one : m.bodySize ≤ 1 := by simpa [allocated] using safe
        have empty : buffer = [] := List.length_eq_zero_iff.mp (by omega)
        have appended := append_null small none short allocated
        rw [if_pos empty] at appended
        exact ⟨_, _, appended, .inl ⟨rfl, none⟩⟩
    · have long : m.bodySize ≤ buffer.length := Nat.le_of_not_lt short
      have appended : append w allocates buffer m = some ({ m with body := .frame buffer },
          Message.done { m with body := .frame buffer }) := by
        simp only [append, none, long, if_true]
      exact ⟨_, _, appended, .inl ⟨rfl, none⟩⟩
  · refine ⟨_, _, append_more small inside, .inr ⟨_, ?_, rfl⟩⟩
    rw [List.length_append, List.length_take]
    omega

theorem assembled_appends {size : Nat} {m : Message} (small : size < 2 ^ w)
    (safe : size ≤ 1 ∨ allocates size = true) (assembled : Assembled size m)
    (chunks : List Bytes) :
    ∃ m' results, appends w allocates chunks m = some (m', results) ∧ Assembled size m' := by
  induction chunks generalizing m with
  | nil => exact ⟨m, [], rfl, assembled⟩
  | cons buffer rest ih =>
    obtain ⟨next, done, appended, assembled⟩ :=
      @assembled_append w allocates size m buffer small safe assembled
    obtain ⟨last, more, continued, final⟩ := ih assembled
    exact ⟨last, done :: more, by simp [appends, appended, continued], final⟩

theorem appends_block {size : Nat} {written last : Bytes} {frames : List Bytes}
    (small : size < 2 ^ w) (short : (written ++ frames.flatten).length < size)
    (enough : size ≤ (written ++ frames.flatten ++ last).length) :
    appends w allocates (frames ++ [last]) (assembling size written) =
      some (assembling size ((written ++ frames.flatten ++ last).take size),
        List.replicate frames.length false ++ [true]) := by
  induction frames generalizing written with
  | nil =>
    simp only [List.flatten_nil, List.append_nil, List.length_append] at short enough ⊢
    have done : decide (size ≤ written.length + last.length) = true := decide_eq_true enough
    have whole : (written ++ last).take size = written ++ last.take (size - written.length) := by
      rw [List.take_append, List.take_of_length_le (Nat.le_of_lt short)]
    simp [appends, append_more small (Nat.le_of_lt short), done, whole]
  | cons frame rest ih =>
    simp only [List.flatten_cons, ← List.append_assoc] at short enough ⊢
    have first : written.length + frame.length < size := by
      rw [List.length_append, List.length_append] at short
      omega
    have notDone : decide (size ≤ written.length + frame.length) = false :=
      decide_eq_false (by omega)
    have taken : frame.take (size - written.length) = frame := List.take_of_length_le (by omega)
    have inside : written.length ≤ size := by omega
    have more := @append_more w allocates size written frame small inside
    rw [taken, notDone] at more
    simp [appends, more, ih short enough, List.replicate_succ]

theorem assembling_read {size : Nat} {written : Bytes} (all : written.length = size) :
    (assembling size written).read = some written := by
  have same : (filledBlock size written).take size = written.map some := by
    have long : size ≤ (written.map some).length := by simp [all]
    rw [filledBlock, List.take_append_of_le_length long, List.take_of_length_le (by simp [all])]
  have inside : size ≤ (filledBlock size written).length :=
    Nat.le_of_eq (filledBlock_length (Nat.le_of_eq all)).symm
  have read : (written.map some).mapM id = some written := by
    clear same inside all
    induction written with
    | nil => rfl
    | cons byte rest ih => simp [List.mapM_cons, ih]
  simp [Message.read, assembling, inside, same, read]

theorem null_written {size : Nat} (small : size < 2 ^ w) (more : 1 < size)
    (refused : allocates size = false) : appends w allocates [[0]] { bodySize := size } = none := by
  have appended := @append_null w allocates { bodySize := size } [0] small rfl more refused
  simp [appends, appended]

/-- `append` touches no byte outside of its blocks, whatever frames come, exactly when the block can
be had or is not needed. When the body is complete with the last frame and not before, it is what
the frames held, and `append` told so if there was more than one. -/
theorem body_assembled {size : Nat} {m : Message} (sized : setBodySize w size {} = .ok m) :
    ((∀ frames, (appends w allocates frames m).isSome = true) ↔
        size ≤ 1 ∨ allocates size = true) ∧
      ∀ frames last, frames.flatten.length < size → size ≤ (frames.flatten ++ last).length →
        (frames ≠ [] → allocates size = true) →
          ∃ m', appends w allocates (frames ++ [last]) m =
              some (m', List.replicate frames.length false ++ [decide (frames ≠ [])]) ∧
            m'.read = some ((frames.flatten ++ last).take size) := by
  unfold setBodySize at sized
  split at sized
  next => cases sized
  next fits =>
    have small : size < 2 ^ w := by
      have positive := Nat.two_pow_pos w
      omega
    obtain rfl := Except.ok.inj sized
    refine ⟨⟨fun safe => ?_, fun safe frames => ?_⟩, ?_⟩
    · by_contra neither
      obtain ⟨more, refused⟩ := not_or.mp neither
      have written := null_written small (Nat.lt_of_not_le more) (Bool.eq_false_iff.mpr refused)
      simpa [written] using safe [[0]]
    · obtain ⟨m', results, appended, _⟩ :=
        assembled_appends small safe (m := { bodySize := size }) (.inl ⟨rfl, rfl⟩) frames
      rw [appended]
      rfl
    · intro frames last short enough allocated
      cases frames with
      | nil =>
        have long : size ≤ last.length := by simpa using enough
        have notDone : ¬ size ≤ 0 := Nat.not_le_of_lt (by simpa using short)
        refine ⟨⟨size, .frame last, none, 0⟩, ?_, ?_⟩
        · simp [appends, append, long, Message.done, notDone]
        · simp [Message.read, long]
      | cons first rest =>
        simp only [List.flatten_cons] at short enough ⊢
        have fewer : first.length < size := by
          rw [List.length_append] at short
          omega
        have started : append w allocates first { bodySize := size } =
            some (assembling size first, false) :=
          append_first small rfl fewer (allocated (List.cons_ne_nil _ _))
        refine ⟨assembling size ((first ++ rest.flatten ++ last).take size), ?_, ?_⟩
        · simp [appends, started, appends_block small short enough, List.replicate_succ]
        · exact assembling_read (List.length_take_of_le enough)

def upTo64 (size : Nat) : Bool :=
  size ≤ 64

theorem three_frames_assembled :
    ((∀ frames, (appends 32 upTo64 frames { bodySize := 5 }).isSome = true) ↔
        5 ≤ 1 ∨ upTo64 5 = true) ∧
      ∀ frames last, frames.flatten.length < 5 → 5 ≤ (frames.flatten ++ last).length →
        (frames ≠ [] → upTo64 5 = true) →
          ∃ m', appends 32 upTo64 (frames ++ [last]) { bodySize := 5 } =
              some (m', List.replicate frames.length false ++ [decide (frames ≠ [])]) ∧
            m'.read = some ((frames.flatten ++ last).take 5) :=
  body_assembled (m := { bodySize := 5 }) (by rfl)

end RmqMgr.Amqp
