import RmqMgr.Parse.Frames

set_option autoImplicit false

-- The loop waits for the offset or the expectation to move. A closed connection moves neither,
-- and the loop never asks whether the connection is closed.

namespace RmqMgr.Parse

open Tcp

variable {C : Type} {lib : Library C} {closed : C → Bool}

/-- How an open connection answers a call of `parse`: a part of a frame, a whole one, which may
close the connection, or a violation of the protocol. -/
inductive Answer (lib : Library C) (closed : C → Bool) (buff : Bytes) (bytes : Nat) (conn : C) :
    Prop where
  | part : bytes = 0 → buff.length < lib.expected conn → Answer lib closed buff bytes conn
  | whole : 0 < bytes → Answer lib closed buff bytes conn
  | violation : closed conn = true → Answer lib closed buff bytes conn

structure Answers (lib : Library C) (closed : C → Bool) : Prop where
  expects : ∀ conn, 1 ≤ lib.expected conn
  atMost : ∀ conn buff bytes conn',
    lib.parse conn buff = .returned bytes conn' → bytes ≤ buff.length
  opened : ∀ conn buff bytes conn', closed conn = false →
    lib.parse conn buff = .returned bytes conn' → Answer lib closed buff bytes conn'
  ignores : ∀ conn buff, closed conn = true → ∃ conn', lib.parse conn buff = .returned 0 conn' ∧
    closed conn' = true ∧ lib.expected conn' = lib.expected conn

/-- The connection object `conn'` that has been given `stream` as it asked for it, and the bytes of
the stream that it has consumed. -/
inductive Fed (lib : Library C) (stream : Bytes) (conn : C) : C → Nat → Prop where
  | start : Fed lib stream conn conn 0
  | more {conn' conn'' : C} {consumed bytes : Nat} :
      Fed lib stream conn conn' consumed → consumed + lib.expected conn' ≤ stream.length →
      lib.parse conn' ((stream.drop consumed).take (lib.expected conn')) = .returned bytes conn'' →
      Fed lib stream conn conn'' (consumed + bytes)

-- Wherever the stream leaves the connection closed, less is left of it than `expected()` bytes.
def ClosedAtEnd (lib : Library C) (closed : C → Bool) (stream : Bytes) (conn : C) : Prop :=
  ∀ conn' consumed, Fed lib stream conn conn' consumed → closed conn' = true →
    stream.length < consumed + lib.expected conn'

def Feeds (lib : Library C) (parseBuf : Bytes) (conn : C) : LoopState C → Prop
  | .head conn' parsedBytes expectedBytes =>
    Fed lib parseBuf conn conn' parsedBytes ∧ parsedBytes ≤ parseBuf.length ∧
      expectedBytes = lib.expected conn'
  | .exited _ parsedBytes => parsedBytes ≤ parseBuf.length
  | .undefined => False
  | _ => True

theorem feeds_iteration (answers : Answers lib closed) {parseBuf : Bytes} {conn : C}
    (s : LoopState C) (feeds : Feeds lib parseBuf conn s) :
    Feeds lib parseBuf conn (iteration lib parseBuf s) := by
  cases s with
  | head conn' parsedBytes expectedBytes =>
    obtain ⟨fed, inside, rfl⟩ := feeds
    rw [iteration_head inside]
    split
    next fits =>
      cases parsed : lib.parse conn' ((parseBuf.drop parsedBytes).take (lib.expected conn')) with
      | returned bytes conn'' =>
        have short := answers.atMost _ _ _ _ parsed
        simp only [List.length_take, List.length_drop] at short
        exact ⟨.more fed fits parsed, by omega, rfl⟩
      | threw what conn'' => trivial
    next => exact inside
  | _ => exact feeds

theorem feeds_enter (conn : C) (parseBuf : Bytes) : Feeds lib parseBuf conn (enter lib conn) :=
  ⟨.start, Nat.zero_le _, rfl⟩

-- The offset counts first, then the expectation, then the turn that finds the connection closed.
def stepsLeft (closed : C → Bool) (parseBuf : Bytes) : LoopState C → Nat
  | .head conn parsedBytes expectedBytes =>
    if closed conn then 1
    else 2 + (parseBuf.length - parsedBytes) * (parseBuf.length + 2) +
      (parseBuf.length + 1 - expectedBytes)
  | _ => 0

theorem iteration_moves (answers : Answers lib closed) {parseBuf : Bytes} {conn : C}
    (ends : ClosedAtEnd lib closed parseBuf conn) (s : LoopState C)
    (feeds : Feeds lib parseBuf conn s) (going : ¬ s.finished) :
    stepsLeft closed parseBuf (iteration lib parseBuf s) < stepsLeft closed parseBuf s := by
  cases s with
  | head conn' parsedBytes expectedBytes =>
    obtain ⟨fed, inside, rfl⟩ := feeds
    have positive : 0 < stepsLeft closed parseBuf
        (.head conn' parsedBytes (lib.expected conn')) := by
      simp only [stepsLeft]
      split <;> omega
    rw [iteration_head inside]
    split
    next fits =>
      have «open» : closed conn' = false := by
        by_contra shut
        have beyond := ends conn' parsedBytes fed (by simpa using shut)
        omega
      cases parsed : lib.parse conn' ((parseBuf.drop parsedBytes).take (lib.expected conn')) with
      | returned bytes conn'' =>
        have short := answers.atMost _ _ _ _ parsed
        have answer := answers.opened _ _ _ _ «open» parsed
        simp only [List.length_take, List.length_drop] at short
        by_cases shut : closed conn'' = true
        next =>
          simp only [stepsLeft, shut, «open», if_true, Bool.false_eq_true, if_false]
          omega
        next =>
          simp only [stepsLeft, shut, «open», Bool.false_eq_true, if_false]
          cases answer with
          | part nothing raised =>
            simp only [List.length_take, List.length_drop] at raised
            rw [nothing, Nat.add_zero]
            omega
          | whole some =>
            have fewer : parseBuf.length - parsedBytes =
                (parseBuf.length - (parsedBytes + bytes)) + bytes := by omega
            have weight : 1 * (parseBuf.length + 2) ≤ bytes * (parseBuf.length + 2) :=
              Nat.mul_le_mul_right _ some
            rw [fewer, Nat.add_mul]
            have asked := answers.expects conn''
            omega
          | violation violated => exact absurd violated shut
      | threw what conn'' => exact positive
    next => exact positive
  | _ => exact absurd trivial going

def Spins (lib : Library C) (closed : C → Bool) (parseBuf : Bytes) : LoopState C → Prop
  | .head conn parsedBytes expectedBytes =>
    closed conn = true ∧ expectedBytes = lib.expected conn ∧
      parsedBytes + expectedBytes ≤ parseBuf.length
  | _ => False

instance (parseBuf : Bytes) (s : LoopState C) : Decidable (Spins lib closed parseBuf s) :=
  match s with
  | .head _ _ _ => inferInstanceAs (Decidable (_ ∧ _ ∧ _))
  | .exited _ _ | .threw _ _ | .undefined => inferInstanceAs (Decidable False)

theorem spins_iteration (answers : Answers lib closed) {parseBuf : Bytes} (s : LoopState C)
    (spins : Spins lib closed parseBuf s) : Spins lib closed parseBuf (iteration lib parseBuf s) := by
  cases s with
  | head conn parsedBytes expectedBytes =>
    obtain ⟨shut, rfl, fits⟩ := spins
    obtain ⟨conn', parsed, still, same⟩ :=
      answers.ignores conn ((parseBuf.drop parsedBytes).take (lib.expected conn)) shut
    rw [iteration_head (by omega), if_pos fits, parsed]
    exact ⟨still, rfl, by rw [same]; exact fits⟩
  | _ => cases spins

theorem spins_never_ends (answers : Answers lib closed) {parseBuf : Bytes} {s : LoopState C}
    {m : Nat} (spins : Spins lib closed parseBuf ((iteration lib parseBuf)^[m] s)) (n : Nat) :
    ¬ ((iteration lib parseBuf)^[n] s).finished := by
  refine Loop.diverges LoopState.finished (iteration_finished lib parseBuf)
    (spins_iteration answers) ?_ spins n
  intro s spins
  cases s with
  | head => exact not_false
  | _ => cases spins

theorem fed_reached (answers : Answers lib closed) {parseBuf : Bytes} {conn conn' : C}
    {consumed : Nat} (fed : Fed lib parseBuf conn conn' consumed) :
    consumed ≤ parseBuf.length ∧ ∃ m, (iteration lib parseBuf)^[m] (enter lib conn) =
      .head conn' consumed (lib.expected conn') := by
  induction fed with
  | start => exact ⟨Nat.zero_le _, 0, rfl⟩
  | more _ fits parsed ih =>
    obtain ⟨inside, m, here⟩ := ih
    have short := answers.atMost _ _ _ _ parsed
    simp only [List.length_take, List.length_drop] at short
    refine ⟨by omega, m + 1, ?_⟩
    rw [Function.iterate_succ_apply', here, iteration_head inside, if_pos fits, parsed]

-- What a connection has been fed of the stream is where the loop comes by.
theorem fed_iff_head (answers : Answers lib closed) {parseBuf : Bytes} {conn conn' : C}
    {consumed : Nat} :
    Fed lib parseBuf conn conn' consumed ↔ ∃ m, (iteration lib parseBuf)^[m] (enter lib conn) =
      .head conn' consumed (lib.expected conn') := by
  constructor
  · exact fun fed => (fed_reached answers fed).2
  · rintro ⟨m, here⟩
    have feeds := Loop.invariant (feeds_iteration answers) (feeds_enter conn parseBuf) m
    rw [here] at feeds
    exact feeds.1

theorem loop_finishes (answers : Answers lib closed) {conn : C} {parseBuf : Bytes}
    (ends : ClosedAtEnd lib closed parseBuf conn) :
    ∃ n, ((iteration lib parseBuf)^[n] (enter lib conn)).finished ∧
      Feeds lib parseBuf conn ((iteration lib parseBuf)^[n] (enter lib conn)) :=
  Loop.terminates LoopState.finished (stepsLeft closed parseBuf) (feeds_iteration answers)
    (iteration_moves answers ends) (feeds_enter conn parseBuf)

theorem finished_closedAtEnd (answers : Answers lib closed) {conn : C} {parseBuf : Bytes} (n : Nat)
    (finished : ((iteration lib parseBuf)^[n] (enter lib conn)).finished) :
    ClosedAtEnd lib closed parseBuf conn := by
  intro conn' consumed fed shut
  by_contra enough
  obtain ⟨m, here⟩ := (fed_iff_head answers).mp fed
  have spins : Spins lib closed parseBuf ((iteration lib parseBuf)^[m] (enter lib conn)) := by
    rw [here]
    exact ⟨shut, rfl, by omega⟩
  exact spins_never_ends answers spins n finished

theorem parse_terminates_iff (answers : Answers lib closed) (conn : C) (parseBuf : Bytes) :
    (∃ n, ((iteration lib parseBuf)^[n] (enter lib conn)).finished) ↔
      ClosedAtEnd lib closed parseBuf conn := by
  constructor
  · rintro ⟨n, finished⟩
    exact finished_closedAtEnd answers n finished
  · intro ends
    obtain ⟨n, finished, _⟩ := loop_finishes answers ends
    exact ⟨n, finished⟩

def LoopEnds (lib : Library C) (conn : C) (parseBuf : Bytes) (result : ParseEnd) : Prop :=
  ∃ fuel conn', parseLoop lib fuel conn parseBuf = some (conn', result)

theorem loop_returns (answers : Answers lib closed) {conn : C} {parseBuf : Bytes}
    (ends : ClosedAtEnd lib closed parseBuf conn) :
    ∃ result, result.fits parseBuf = true ∧ LoopEnds lib conn parseBuf result := by
  obtain ⟨n, finished, feeds⟩ := loop_finishes answers ends
  cases last : (iteration lib parseBuf)^[n] (enter lib conn) with
  | head =>
    rw [last] at finished
    cases finished
  | exited conn' parsedBytes =>
    rw [last] at feeds
    exact ⟨.parsed parsedBytes, decide_eq_true feeds, n, conn', by rw [parseLoop, last]; rfl⟩
  | threw conn' what => exact ⟨.threw what, rfl, n, conn', by rw [parseLoop, last]; rfl⟩
  | undefined =>
    rw [last] at feeds
    cases feeds

structure ClosableConnection where
  announced : Nat := 0
  closed : Bool := false
  deriving DecidableEq, Repr

def closesConnection (frame : Bytes) : Bool :=
  frame.take 3 == [1, 0, 0] && (frame.drop headerSize).take 4 == [0, 10, 0, 50]

def closableLibrary : Library ClosableConnection where
  expected conn := max headerSize conn.announced
  parse conn buff :=
    let size := Frame.announced buff
    if conn.closed then .returned 0 conn
    else if buff.length < headerSize then .returned 0 { conn with announced := 0 }
    else if buff.length < size then .returned 0 { conn with announced := size }
    else if buff[size - 1]? = some Frame.endOfFrame then
      .returned size { announced := 0, closed := closesConnection buff }
    else .returned 0 { conn with closed := true }

theorem closable_answers : Answers closableLibrary ClosableConnection.closed where
  expects conn := Nat.le_trans (by decide : 1 ≤ headerSize) (Nat.le_max_left ..)
  atMost conn buff bytes conn' parsed := by
    simp only [closableLibrary] at parsed
    split at parsed
    next => cases parsed; exact Nat.zero_le _
    split at parsed
    next => cases parsed; exact Nat.zero_le _
    split at parsed
    next => cases parsed; exact Nat.zero_le _
    next long =>
      split at parsed
      next => cases parsed; exact Nat.le_of_not_lt long
      next => cases parsed; exact Nat.zero_le _
  opened conn buff bytes conn' «open» parsed := by
    simp only [closableLibrary, «open», Bool.false_eq_true, if_false] at parsed
    split at parsed
    next short =>
      cases parsed
      exact .part rfl (Nat.lt_of_lt_of_le short (Nat.le_max_left ..))
    split at parsed
    next short =>
      cases parsed
      exact .part rfl (Nat.lt_of_lt_of_le short (Nat.le_max_right ..))
    split at parsed
    next =>
      cases parsed
      exact .whole (Nat.succ_pos _)
    next =>
      cases parsed
      exact .violation rfl
  ignores conn buff shut := ⟨conn, by simp [closableLibrary, shut], shut, rfl⟩

def closeFrame : Bytes := [1, 0, 0, 0, 0, 0, 11, 0, 10, 0, 50, 1, 64, 0, 0, 0, 0, 0, 206]

theorem close_at_end_terminates :
    Answers closableLibrary ClosableConnection.closed ∧
      ((∃ n, ((iteration closableLibrary closeFrame)^[n] (enter closableLibrary {})).finished) ↔
        ClosedAtEnd closableLibrary ClosableConnection.closed closeFrame {}) :=
  ⟨closable_answers, parse_terminates_iff closable_answers {} closeFrame⟩

theorem close_followed_by_heartbeat :
    Answers closableLibrary ClosableConnection.closed ∧
      ¬ ∃ n, ((iteration closableLibrary (closeFrame ++ [8, 0, 0, 0, 0, 0, 0, 206]))^[n]
        (enter closableLibrary {})).finished := by
  refine ⟨closable_answers, ?_⟩
  rintro ⟨n, finished⟩
  have spins : Spins closableLibrary ClosableConnection.closed
      (closeFrame ++ [8, 0, 0, 0, 0, 0, 0, 206])
      ((iteration closableLibrary (closeFrame ++ [8, 0, 0, 0, 0, 0, 0, 206]))^[2]
        (enter closableLibrary {})) := by
    decide +kernel
  exact spins_never_ends closable_answers spins n finished

end RmqMgr.Parse
