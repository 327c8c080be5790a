import Mathlib.Algebra.GroupWithZero.Nat
import RmqMgr.Tcp.State

set_option autoImplicit false

-- The bodies of `ReceivedFrame` and of `Table` are not part of the source. They are parameters
-- here, with what the comments of their headers say as hypotheses.

namespace RmqMgr.Amqp

open Tcp (Bytes)

-- `none` is an exception.
structure ReceivedFrame (F : Type) where
  nextUint8 : F → Option (UInt8 × F)
  nextUint64 : F → Option (UInt64 × F)
  nextData : F → Nat → Option (Bytes × F)

def addUint64 (value : UInt64) : Bytes :=
  ([56, 48, 40, 32, 24, 16, 8, 0] : List UInt64).map fun shift => (value >>> shift).toUInt8

/-- The values come in the order of the buffer; `unread` are the bytes from `_skip` on. -/
structure ReceivedFrame.Reads {F : Type} (frames : ReceivedFrame F) (unread : F → Bytes) : Prop where
  nextUint8 : ∀ frame byte rest, unread frame = byte :: rest →
    ∃ frame', frames.nextUint8 frame = some (byte, frame') ∧ unread frame' = rest
  nextUint64 : ∀ frame value rest, unread frame = addUint64 value ++ rest →
    ∃ frame', frames.nextUint64 frame = some (value, frame') ∧ unread frame' = rest
  nextData : ∀ frame data rest, unread frame = data ++ rest →
    ∃ frame', frames.nextData frame data.length = some (data, frame') ∧ unread frame' = rest

structure Table (T F : Type) where
  empty : T
  ofFrame : F → Option (T × F)
  size : T → Nat
  fill : T → Bytes

def Table.Recovers {T F : Type} (tables : Table T F) (unread : F → Bytes) (table : T) : Prop :=
  ∀ frame rest, unread frame = tables.fill table ++ rest →
    ∃ frame', tables.ofFrame frame = some (table, frame') ∧ unread frame' = rest

structure BooleanSet where
  byte : UInt8 := 0
  deriving DecidableEq, Repr

namespace BooleanSet

def get (bools : BooleanSet) (index : Nat) : Bool :=
  if 7 < index then false else (1 <<< UInt8.ofNat index) &&& bools.byte != 0

def set (index : Nat) (value : Bool) (bools : BooleanSet) : BooleanSet :=
  if 7 < index then bools
  else if value then ⟨bools.byte ||| (1 <<< UInt8.ofNat index)⟩
  else ⟨bools.byte &&& ~~~(1 <<< UInt8.ofNat index)⟩

def fill (bools : BooleanSet) : Bytes :=
  [bools.byte]

def bit (byte : UInt8) (index : Nat) : Bool :=
  byte.toBitVec.getLsbD index

theorem bit_mask {i : Nat} (inside : i ≤ 7) (j : Nat) :
    bit (1 <<< UInt8.ofNat i) j = decide (i = j) := by
  have mask : (1 <<< UInt8.ofNat i : UInt8).toBitVec = BitVec.twoPow 8 i := by
    match i, inside with
    | 0, _ | 1, _ | 2, _ | 3, _ | 4, _ | 5, _ | 6, _ | 7, _ => rfl
  have small : i < 8 := by omega
  simp [bit, mask, BitVec.getLsbD_twoPow, small]

theorem bit_or (first second : UInt8) (j : Nat) :
    bit (first ||| second) j = (bit first j || bit second j) := by
  simp [bit]

theorem bit_and (first second : UInt8) (j : Nat) :
    bit (first &&& second) j = (bit first j && bit second j) := by
  simp [bit]

theorem bit_not (byte : UInt8) {j : Nat} (inside : j ≤ 7) : bit (~~~byte) j = !bit byte j := by
  have small : j < 8 := by omega
  simp [bit, small]

theorem bit_zero (j : Nat) : bit 0 j = false := by
  simp [bit]

theorem get_bit (bools : BooleanSet) {index : Nat} (inside : index ≤ 7) :
    bools.get index = bit bools.byte index := by
  have masked (j : Nat) : bit (1 <<< UInt8.ofNat index &&& bools.byte) j =
      (decide (index = j) && bit bools.byte j) := by
    rw [bit_and, bit_mask inside]
  have valid : ¬ 7 < index := by omega
  simp only [get, valid, if_false]
  cases one : bit bools.byte index with
  | true =>
    rw [bne_iff_ne]
    intro zero
    have here := masked index
    rw [zero, one, bit_zero] at here
    simp at here
  | false =>
    rw [bne_eq_false_iff_eq, ← UInt8.toBitVec_inj]
    apply BitVec.eq_of_getLsbD_eq
    intro j _
    have there := masked j
    by_cases same : index = j
    · subst same
      rw [one] at there
      simpa [bit] using there
    · simpa [bit, same] using there

@[simp]
theorem get_set (bools : BooleanSet) {i j : Nat} (value : Bool) (inI : i ≤ 7) (inJ : j ≤ 7) :
    (bools.set i value).get j = if i = j then value else bools.get j := by
  have valid : ¬ 7 < i := by omega
  rw [get_bit _ inJ, get_bit _ inJ]
  cases value with
  | true =>
    simp only [set, valid, if_false, if_true, bit_or, bit_mask inI]
    by_cases same : i = j <;> simp [same]
  | false =>
    simp only [set, valid, if_false, Bool.false_eq_true, bit_and, bit_not _ inJ, bit_mask inI]
    by_cases same : i = j <;> simp [same]

end BooleanSet

namespace ShortString

def size (data : Bytes) : Nat :=
  1 + data.length

def fill (data : Bytes) : Bytes :=
  UInt8.ofNat data.length :: data

def ofFrame {F : Type} (frames : ReceivedFrame F) (frame : F) : Option (Bytes × F) :=
  (frames.nextUint8 frame).bind fun (size, frame) =>
    (frames.nextData frame size.toNat).map fun (data, frame) => (data.take size.toNat, frame)

theorem fill_length (data : Bytes) : (fill data).length = size data := by
  simp [fill, size, Nat.add_comm]

theorem ofFrame_fill {F : Type} {frames : ReceivedFrame F} {unread : F → Bytes}
    (reads : frames.Reads unread) {data rest : Bytes} {frame : F} (short : data.length ≤ 255)
    (starts : unread frame = fill data ++ rest) :
    ∃ frame', ofFrame frames frame = some (data, frame') ∧ unread frame' = rest := by
  obtain ⟨middle, first, remaining⟩ := reads.nextUint8 frame _ _ starts
  obtain ⟨last, second, final⟩ := reads.nextData middle data rest remaining
  have size : (UInt8.ofNat data.length).toNat = data.length := by
    rw [UInt8.toNat_ofNat']
    omega
  exact ⟨last, by simp [ofFrame, first, size, second], final⟩

theorem ofFrame_short {F : Type} {frames : ReceivedFrame F} {data : Bytes} {frame frame' : F}
    (read : ofFrame frames frame = some (data, frame')) : data.length ≤ 255 := by
  obtain ⟨⟨size, middle⟩, _, second⟩ := Option.bind_eq_some_iff.mp read
  obtain ⟨⟨bytes, last⟩, _, same⟩ := Option.map_eq_some_iff.mp second
  simp only [Prod.mk.injEq] at same
  have bound := size.toNat_lt
  rw [← same.1, List.length_take]
  omega

end ShortString

namespace InMemory

def nextUint64 : Bytes → Option (UInt64 × Bytes)
  | a :: b :: c :: d :: e :: f :: g :: h :: rest =>
    some (UInt64.ofNat (([a, b, c, d, e, f, g, h] : Bytes).foldl
      (fun value byte => value * 256 + byte.toNat) 0), rest)
  | _ => none

def frames : ReceivedFrame Bytes where
  nextUint8
    | [] => none
    | byte :: rest => some (byte, rest)
  nextUint64 := nextUint64
  nextData frame size :=
    if size ≤ frame.length then some (frame.take size, frame.drop size) else none

theorem octet_at (value shift : UInt64) (small : shift.toNat < 64) :
    (value >>> shift).toUInt8.toNat = value.toNat / 2 ^ shift.toNat % 256 := by
  rw [UInt64.toNat_toUInt8, UInt64.toNat_shiftRight, Nat.mod_eq_of_lt small,
    Nat.shiftRight_eq_div_pow]

theorem nextUint64_add (value : UInt64) (rest : Bytes) :
    nextUint64 (addUint64 value ++ rest) = some (value, rest) := by
  have step (n : Nat) : value.toNat / 2 ^ (n + 8) * 256 + value.toNat / 2 ^ n % 256 =
      value.toNat / 2 ^ n := by
    rw [Nat.pow_add, ← Nat.div_div_eq_div_mul]
    omega
  have above : value.toNat / 2 ^ (56 + 8) = 0 := Nat.div_eq_of_lt value.toNat_lt
  have first := step 56
  rw [above] at first
  have shifts : ((56 : UInt64).toNat = 56 ∧ (48 : UInt64).toNat = 48 ∧ (40 : UInt64).toNat = 40 ∧
      (32 : UInt64).toNat = 32) ∧ (24 : UInt64).toNat = 24 ∧ (16 : UInt64).toNat = 16 ∧
      (8 : UInt64).toNat = 8 ∧ (0 : UInt64).toNat = 0 := by decide
  simp only [addUint64, nextUint64, List.map_cons, List.map_nil, List.cons_append,
    List.nil_append, List.foldl_cons, List.foldl_nil]
  rw [octet_at value 56 (by decide), octet_at value 48 (by decide), octet_at value 40 (by decide),
    octet_at value 32 (by decide), octet_at value 24 (by decide), octet_at value 16 (by decide),
    octet_at value 8 (by decide), octet_at value 0 (by decide)]
  simp only [shifts]
  rw [first, step 48, step 40, step 32, step 24, step 16, step 8, step 0]
  simp

theorem reads : frames.Reads id where
  nextUint8 frame byte rest starts := by
    simp only [id_eq] at starts
    exact ⟨rest, by rw [starts]; rfl, rfl⟩
  nextUint64 frame value rest starts := by
    simp only [id_eq] at starts
    exact ⟨rest, by rw [starts]; exact nextUint64_add value rest, rfl⟩
  nextData frame data rest starts := by
    simp only [id_eq] at starts
    exact ⟨rest, by simp [starts, frames], rfl⟩

end InMemory

end RmqMgr.Amqp
