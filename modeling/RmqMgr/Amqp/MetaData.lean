import RmqMgr.Amqp.Fields
import RmqMgr.Shared.Slots

set_option autoImplicit false

namespace RmqMgr.Amqp

open Tcp (Bytes)
open Slots

structure MetaData (T : Type) where
  bools1 : BooleanSet := {}
  bools2 : BooleanSet := {}
  contentType : Bytes := []
  contentEncoding : Bytes := []
  headers : T
  deliveryMode : UInt8 := 0
  priority : UInt8 := 0
  correlationID : Bytes := []
  replyTo : Bytes := []
  expiration : Bytes := []
  messageID : Bytes := []
  timestamp : UInt64 := 0
  typeName : Bytes := []
  userID : Bytes := []
  appID : Bytes := []
  clusterID : Bytes := []
  deriving DecidableEq, Repr

namespace MetaData

variable {T F : Type}

@[simp]
def hasExpiration (m : MetaData T) : Bool := m.bools1.get 0

@[simp]
def hasReplyTo (m : MetaData T) : Bool := m.bools1.get 1

@[simp]
def hasCorrelationID (m : MetaData T) : Bool := m.bools1.get 2

@[simp]
def hasPriority (m : MetaData T) : Bool := m.bools1.get 3

@[simp]
def hasDeliveryMode (m : MetaData T) : Bool := m.bools1.get 4

@[simp]
def hasHeaders (m : MetaData T) : Bool := m.bools1.get 5

@[simp]
def hasContentEncoding (m : MetaData T) : Bool := m.bools1.get 6

@[simp]
def hasContentType (m : MetaData T) : Bool := m.bools1.get 7

@[simp]
def hasClusterID (m : MetaData T) : Bool := m.bools2.get 2

@[simp]
def hasAppID (m : MetaData T) : Bool := m.bools2.get 3

@[simp]
def hasUserID (m : MetaData T) : Bool := m.bools2.get 4

@[simp]
def hasTypeName (m : MetaData T) : Bool := m.bools2.get 5

@[simp]
def hasTimestamp (m : MetaData T) : Bool := m.bools2.get 6

@[simp]
def hasMessageID (m : MetaData T) : Bool := m.bools2.get 7

def setExpiration (value : Bytes) (m : MetaData T) : MetaData T :=
  { m with expiration := value, bools1 := m.bools1.set 0 true }

def setReplyTo (value : Bytes) (m : MetaData T) : MetaData T :=
  { m with replyTo := value, bools1 := m.bools1.set 1 true }

def setCorrelationID (value : Bytes) (m : MetaData T) : MetaData T :=
  { m with correlationID := value, bools1 := m.bools1.set 2 true }

def setPriority (value : UInt8) (m : MetaData T) : MetaData T :=
  { m with priority := value, bools1 := m.bools1.set 3 true }

def setDeliveryMode (value : UInt8) (m : MetaData T) : MetaData T :=
  { m with deliveryMode := value, bools1 := m.bools1.set 4 true }

def setHeaders (value : T) (m : MetaData T) : MetaData T :=
  { m with headers := value, bools1 := m.bools1.set 5 true }

def setContentEncoding (value : Bytes) (m : MetaData T) : MetaData T :=
  { m with contentEncoding := value, bools1 := m.bools1.set 6 true }

def setContentType (value : Bytes) (m : MetaData T) : MetaData T :=
  { m with contentType := value, bools1 := m.bools1.set 7 true }

def setClusterID (value : Bytes) (m : MetaData T) : MetaData T :=
  { m with clusterID := value, bools2 := m.bools2.set 2 true }

def setAppID (value : Bytes) (m : MetaData T) : MetaData T :=
  { m with appID := value, bools2 := m.bools2.set 3 true }

def setUserID (value : Bytes) (m : MetaData T) : MetaData T :=
  { m with userID := value, bools2 := m.bools2.set 4 true }

def setTypeName (value : Bytes) (m : MetaData T) : MetaData T :=
  { m with typeName := value, bools2 := m.bools2.set 5 true }

def setTimestamp (value : UInt64) (m : MetaData T) : MetaData T :=
  { m with timestamp := value, bools2 := m.bools2.set 6 true }

def setMessageID (value : Bytes) (m : MetaData T) : MetaData T :=
  { m with messageID := value, bools2 := m.bools2.set 7 true }

def setPersistent (value : Bool) (m : MetaData T) : MetaData T :=
  if value then setDeliveryMode 2 m
  else { m with deliveryMode := 0, bools1 := m.bools1.set 4 false }

variable (frames : ReceivedFrame F) (tables : Table T F)

-- `if (has...()) _field.fill(buffer);`
def sentIf (has : Bool) (data : Bytes) : Bytes :=
  if has then data else []

def fill (m : MetaData T) : Bytes :=
  m.bools1.fill ++ m.bools2.fill ++
    sentIf m.hasContentType (ShortString.fill m.contentType) ++
    sentIf m.hasContentEncoding (ShortString.fill m.contentEncoding) ++
    sentIf m.hasHeaders (tables.fill m.headers) ++
    sentIf m.hasDeliveryMode [m.deliveryMode] ++
    sentIf m.hasPriority [m.priority] ++
    sentIf m.hasCorrelationID (ShortString.fill m.correlationID) ++
    sentIf m.hasReplyTo (ShortString.fill m.replyTo) ++
    sentIf m.hasExpiration (ShortString.fill m.expiration) ++
    sentIf m.hasMessageID (ShortString.fill m.messageID) ++
    sentIf m.hasTimestamp (addUint64 m.timestamp) ++
    sentIf m.hasTypeName (ShortString.fill m.typeName) ++
    sentIf m.hasUserID (ShortString.fill m.userID) ++
    sentIf m.hasAppID (ShortString.fill m.appID) ++
    sentIf m.hasClusterID (ShortString.fill m.clusterID)

-- `if (has...()) result += (uint32_t)_field.size();`
def sizeIf (has : Bool) (size : Nat) (result : UInt32) : UInt32 :=
  if has then result + UInt32.ofNat size else result

def size (m : MetaData T) : UInt32 :=
  let result := sizeIf m.hasExpiration (ShortString.size m.expiration) 2
  let result := sizeIf m.hasReplyTo (ShortString.size m.replyTo) result
  let result := sizeIf m.hasCorrelationID (ShortString.size m.correlationID) result
  let result := sizeIf m.hasPriority 1 result
  let result := sizeIf m.hasDeliveryMode 1 result
  let result := sizeIf m.hasHeaders (tables.size m.headers) result
  let result := sizeIf m.hasContentEncoding (ShortString.size m.contentEncoding) result
  let result := sizeIf m.hasContentType (ShortString.size m.contentType) result
  let result := sizeIf m.hasClusterID (ShortString.size m.clusterID) result
  let result := sizeIf m.hasAppID (ShortString.size m.appID) result
  let result := sizeIf m.hasUserID (ShortString.size m.userID) result
  let result := sizeIf m.hasTypeName (ShortString.size m.typeName) result
  let result := sizeIf m.hasTimestamp 8 result
  sizeIf m.hasMessageID (ShortString.size m.messageID) result

def readIf {A : Type} (has : MetaData T → Bool) (read : F → Option (A × F))
    (put : A → MetaData T → MetaData T) (state : MetaData T × F) : Option (MetaData T × F) :=
  if has state.1 then (read state.2).map fun (value, frame) => (put value state.1, frame)
  else some state

def ofFrame (frame : F) : Option (MetaData T × F) := do
  let string := ShortString.ofFrame frames
  let (bools1, frame) ← frames.nextUint8 frame
  let (bools2, frame) ← frames.nextUint8 frame
  let state ← readIf hasContentType string (fun value m => { m with contentType := value })
    ({ bools1 := ⟨bools1⟩, bools2 := ⟨bools2⟩, headers := tables.empty }, frame)
  let state ← readIf hasContentEncoding string
    (fun value m => { m with contentEncoding := value }) state
  let state ← readIf hasHeaders tables.ofFrame (fun value m => { m with headers := value }) state
  let state ← readIf hasDeliveryMode frames.nextUint8
    (fun value m => { m with deliveryMode := value }) state
  let state ← readIf hasPriority frames.nextUint8 (fun value m => { m with priority := value }) state
  let state ← readIf hasCorrelationID string (fun value m => { m with correlationID := value }) state
  let state ← readIf hasReplyTo string (fun value m => { m with replyTo := value }) state
  let state ← readIf hasExpiration string (fun value m => { m with expiration := value }) state
  let state ← readIf hasMessageID string (fun value m => { m with messageID := value }) state
  let state ← readIf hasTimestamp frames.nextUint64
    (fun value m => { m with timestamp := value }) state
  let state ← readIf hasTypeName string (fun value m => { m with typeName := value }) state
  let state ← readIf hasUserID string (fun value m => { m with userID := value }) state
  let state ← readIf hasAppID string (fun value m => { m with appID := value }) state
  readIf hasClusterID string (fun value m => { m with clusterID := value }) state

abbrev Flags := BooleanSet × BooleanSet

def flags (m : MetaData T) : Flags :=
  (m.bools1, m.bools2)

def slot {A : Type} (present : Flags → Bool) (get : MetaData T → A)
    (put : A → MetaData T → MetaData T) (write : A → Bytes) (read : F → Option (A × F)) :
    Slot (MetaData T) Flags F UInt8 where
  present := present
  write m := write (get m)
  read frame m := (read frame).map fun (value, frame) => (put value m, frame)
  copy m into := put (get m) into

def string (present : Flags → Bool) (get : MetaData T → Bytes)
    (put : Bytes → MetaData T → MetaData T) : Slot (MetaData T) Flags F UInt8 :=
  slot present get put ShortString.fill (ShortString.ofFrame frames)

def octet (present : Flags → Bool) (get : MetaData T → UInt8)
    (put : UInt8 → MetaData T → MetaData T) : Slot (MetaData T) Flags F UInt8 :=
  slot present get put (fun value => [value]) frames.nextUint8

def slots : List (Slot (MetaData T) Flags F UInt8) :=
  [string frames (·.1.get 7) contentType fun value m => { m with contentType := value },
    string frames (·.1.get 6) contentEncoding fun value m => { m with contentEncoding := value },
    slot (·.1.get 5) headers (fun value m => { m with headers := value }) tables.fill tables.ofFrame,
    octet frames (·.1.get 4) deliveryMode fun value m => { m with deliveryMode := value },
    octet frames (·.1.get 3) priority fun value m => { m with priority := value },
    string frames (·.1.get 2) correlationID fun value m => { m with correlationID := value },
    string frames (·.1.get 1) replyTo fun value m => { m with replyTo := value },
    string frames (·.1.get 0) expiration fun value m => { m with expiration := value },
    string frames (·.2.get 7) messageID fun value m => { m with messageID := value },
    slot (·.2.get 6) timestamp (fun value m => { m with timestamp := value }) addUint64
      frames.nextUint64,
    string frames (·.2.get 5) typeName fun value m => { m with typeName := value },
    string frames (·.2.get 4) userID fun value m => { m with userID := value },
    string frames (·.2.get 3) appID fun value m => { m with appID := value },
    string frames (·.2.get 2) clusterID fun value m => { m with clusterID := value }]

theorem fill_slots (m : MetaData T) :
    fill tables m = m.bools1.byte :: m.bools2.byte :: Slots.fill flags (slots frames tables) m := by
  simp only [fill, BooleanSet.fill, sentIf, Slots.fill, slots, List.flatMap_cons, List.flatMap_nil,
    string, octet, slot, flags, List.append_assoc, List.append_nil, List.cons_append,
    List.nil_append]
  rfl

theorem parse_slot {A : Type} (present : Flags → Bool) (get : MetaData T → A)
    (put : A → MetaData T → MetaData T) (write : A → Bytes) (read : F → Option (A × F))
    (others : List (Slot (MetaData T) Flags F UInt8)) (m : MetaData T) (frame : F) :
    Slots.parse flags (slot present get put write read :: others) m frame =
      (readIf (fun m => present (flags m)) read put (m, frame)).bind fun next =>
        Slots.parse flags others next.1 next.2 := by
  unfold readIf
  by_cases sent : present (flags m) = true
  · simp only [Slots.parse, slot, sent, if_true]
  · simp only [Slots.parse, slot, sent, if_false, Option.bind_some, Bool.false_eq_true]

theorem parse_nil (state : MetaData T × F) :
    Slots.parse flags ([] : List (Slot (MetaData T) Flags F UInt8)) state.1 state.2 = some state :=
  rfl

theorem ofFrame_slots (frame : F) : ofFrame frames tables frame =
    (frames.nextUint8 frame).bind fun (bools1, frame) =>
      (frames.nextUint8 frame).bind fun (bools2, frame) =>
        Slots.parse flags (slots frames tables)
          { bools1 := ⟨bools1⟩, bools2 := ⟨bools2⟩, headers := tables.empty } frame := by
  simp only [ofFrame, slots, string, octet, parse_slot, parse_nil, Option.bind_eq_bind,
    Option.bind_fun_some]
  rfl

inductive Setting (T : Type)
  | expiration (value : Bytes)
  | replyTo (value : Bytes)
  | correlationID (value : Bytes)
  | priority (value : UInt8)
  | deliveryMode (value : UInt8)
  | headers (value : T)
  | contentEncoding (value : Bytes)
  | contentType (value : Bytes)
  | clusterID (value : Bytes)
  | appID (value : Bytes)
  | userID (value : Bytes)
  | typeName (value : Bytes)
  | timestamp (value : UInt64)
  | messageID (value : Bytes)
  | persistent (value : Bool)

def apply : Setting T → MetaData T → MetaData T
  | .expiration value => setExpiration value
  | .replyTo value => setReplyTo value
  | .correlationID value => setCorrelationID value
  | .priority value => setPriority value
  | .deliveryMode value => setDeliveryMode value
  | .headers value => setHeaders value
  | .contentEncoding value => setContentEncoding value
  | .contentType value => setContentType value
  | .clusterID value => setClusterID value
  | .appID value => setAppID value
  | .userID value => setUserID value
  | .typeName value => setTypeName value
  | .timestamp value => setTimestamp value
  | .messageID value => setMessageID value
  | .persistent value => setPersistent value

-- Objects start empty or received, and are then set.
inductive Built : MetaData T → Prop
  | empty : Built { headers := tables.empty }
  | received {m : MetaData T} {frame frame' : F} :
      ofFrame frames tables frame = some (m, frame') → Built m
  | set {m : MetaData T} (setting : Setting T) : Built m → Built (apply setting m)

def kept {A : Type} (has : Bool) (value initial : A) : A :=
  if has then value else initial

@[simp]
theorem kept_true {A : Type} (value initial : A) : kept true value initial = value :=
  rfl

@[simp]
theorem kept_same {A : Type} (has : Bool) (initial : A) : kept has initial initial = initial := by
  cases has <;> rfl

def cleared (m : MetaData T) : MetaData T where
  bools1 := m.bools1
  bools2 := m.bools2
  contentType := kept m.hasContentType m.contentType []
  contentEncoding := kept m.hasContentEncoding m.contentEncoding []
  headers := kept m.hasHeaders m.headers tables.empty
  deliveryMode := kept m.hasDeliveryMode m.deliveryMode 0
  priority := kept m.hasPriority m.priority 0
  correlationID := kept m.hasCorrelationID m.correlationID []
  replyTo := kept m.hasReplyTo m.replyTo []
  expiration := kept m.hasExpiration m.expiration []
  messageID := kept m.hasMessageID m.messageID []
  timestamp := kept m.hasTimestamp m.timestamp 0
  typeName := kept m.hasTypeName m.typeName []
  userID := kept m.hasUserID m.userID []
  appID := kept m.hasAppID m.appID []
  clusterID := kept m.hasClusterID m.clusterID []

theorem cleared_apply (setting : Setting T) (m : MetaData T) :
    cleared tables (apply setting m) = apply setting (cleared tables m) := by
  cases setting with
  | persistent value => cases value <;> simp [apply, cleared, setPersistent, setDeliveryMode]
  | _ => simp [apply, cleared, setExpiration, setReplyTo, setCorrelationID, setPriority,
      setDeliveryMode, setHeaders, setContentEncoding, setContentType, setClusterID, setAppID,
      setUserID, setTypeName, setTimestamp, setMessageID]

theorem sent_slot {A : Type} (present : Flags → Bool) (get : MetaData T → A)
    (put : A → MetaData T → MetaData T) (write : A → Bytes) (read : F → Option (A × F))
    (others : List (Slot (MetaData T) Flags F UInt8)) (m into : MetaData T)
    (same : put (get into) into = into) :
    Slots.sent flags (slot present get put write read :: others) m into =
      Slots.sent flags others m (put (kept (present (flags m)) (get m) (get into)) into) := by
  by_cases sent : present (flags m) = true
  · simp only [Slots.sent, List.foldl_cons, slot, kept, sent, if_true]
  · simp only [Slots.sent, List.foldl_cons, slot, kept, sent, if_false, same, Bool.false_eq_true]

theorem sent_slots (m : MetaData T) : Slots.sent flags (slots frames tables) m
    { bools1 := m.bools1, bools2 := m.bools2, headers := tables.empty } = cleared tables m := by
  simp only [slots, string, octet, sent_slot]
  rfl

theorem ofFrame_invariant {P : MetaData T → Prop}
    (initial : ∀ bools1 bools2, P { bools1, bools2, headers := tables.empty })
    (kept : ∀ slot ∈ slots frames tables, ∀ frame m m' frame', slot.present (flags m) = true →
      slot.read frame m = some (m', frame') → P m → P m')
    {m : MetaData T} {frame frame' : F} (read : ofFrame frames tables frame = some (m, frame')) :
    P m := by
  rw [ofFrame_slots] at read
  obtain ⟨⟨bools1, middle⟩, _, read⟩ := Option.bind_eq_some_iff.mp read
  obtain ⟨⟨bools2, last⟩, _, read⟩ := Option.bind_eq_some_iff.mp read
  exact Slots.parse_invariant kept (initial ⟨bools1⟩ ⟨bools2⟩) read

theorem slot_read {A : Type} {present : Flags → Bool} {get : MetaData T → A}
    {put : A → MetaData T → MetaData T} {write : A → Bytes} {read : F → Option (A × F)}
    {m m' : MetaData T} {frame frame' : F}
    (done : (slot present get put write read).read frame m = some (m', frame')) :
    ∃ value, m' = put value m := by
  obtain ⟨⟨value, next⟩, _, same⟩ := Option.map_eq_some_iff.mp done
  simp only [Prod.mk.injEq] at same
  exact ⟨value, same.1.symm⟩

theorem received_cleared {m : MetaData T} {frame frame' : F}
    (read : ofFrame frames tables frame = some (m, frame')) : cleared tables m = m := by
  apply ofFrame_invariant (P := fun m => cleared tables m = m) frames tables ?_ ?_ read
  · intro bools1 bools2
    simp [cleared]
  · have own {A : Type} {present : Flags → Bool} {get : MetaData T → A}
        {put : A → MetaData T → MetaData T} {write : A → Bytes} {read : F → Option (A × F)}
        (commutes : ∀ value m, present (flags m) = true →
          cleared tables (put value m) = put value (cleared tables m)) (frame : F)
        (m m' : MetaData T) (frame' : F) :
        (slot present get put write read).present (flags m) = true →
          (slot present get put write read).read frame m = some (m', frame') →
            cleared tables m = m → cleared tables m' = m' := by
      intro sent done clear
      obtain ⟨value, rfl⟩ := slot_read done
      rw [commutes value m sent, clear]
    simp only [slots, string, octet, List.forall_mem_cons]
    refine ⟨own ?_, own ?_, own ?_, own ?_, own ?_, own ?_, own ?_, own ?_, own ?_, own ?_,
      own ?_, own ?_, own ?_, own ?_, ?_⟩
    case refine_15 => simp
    all_goals
      intro value m sent
      simp only [flags] at sent
      simp [cleared, sent]

theorem built_cleared {m : MetaData T} (built : Built frames tables m) : cleared tables m = m := by
  induction built with
  | empty => simp [cleared]
  | received read => exact received_cleared frames tables read
  | set setting _ ih => rw [cleared_apply, ih]

def strings (m : MetaData T) : List Bytes :=
  [m.contentType, m.contentEncoding, m.correlationID, m.replyTo, m.expiration, m.messageID,
    m.typeName, m.userID, m.appID, m.clusterID]

theorem received_short {m : MetaData T} {frame frame' : F}
    (read : ofFrame frames tables frame = some (m, frame')) :
    ∀ data ∈ strings m, data.length ≤ 255 := by
  apply ofFrame_invariant (P := fun m => ∀ data ∈ strings m, data.length ≤ 255) frames tables
    ?_ ?_ read
  · intro bools1 bools2
    simp [strings]
  · have own (i : Nat) {present : Flags → Bool} {get : MetaData T → Bytes}
        {put : Bytes → MetaData T → MetaData T}
        (puts : ∀ value m, strings (put value m) = (strings m).set i value)
        (frame : F) (m m' : MetaData T) (frame' : F) :
        (string frames present get put).present (flags m) = true →
          (string frames present get put).read frame m = some (m', frame') →
            (∀ data ∈ strings m, data.length ≤ 255) → ∀ data ∈ strings m', data.length ≤ 255 := by
      intro _ done short data member
      obtain ⟨⟨value, next⟩, reading, same⟩ := Option.map_eq_some_iff.mp done
      simp only [Prod.mk.injEq] at same
      rw [← same.1, puts] at member
      cases List.mem_or_eq_of_mem_set member with
      | inl old => exact short data old
      | inr new =>
        rw [new]
        exact ShortString.ofFrame_short reading
    have other {A : Type} {present : Flags → Bool} {get : MetaData T → A}
        {put : A → MetaData T → MetaData T} {write : A → Bytes} {read : F → Option (A × F)}
        (puts : ∀ value m, strings (put value m) = strings m)
        (frame : F) (m m' : MetaData T) (frame' : F) :
        (slot present get put write read).present (flags m) = true →
          (slot present get put write read).read frame m = some (m', frame') →
            (∀ data ∈ strings m, data.length ≤ 255) → ∀ data ∈ strings m', data.length ≤ 255 := by
      intro _ done short
      obtain ⟨value, rfl⟩ := slot_read done
      rw [puts]
      exact short
    simp only [slots, octet, List.forall_mem_cons]
    refine ⟨own 0 ?_, own 1 ?_, other ?_, other ?_, other ?_, own 2 ?_, own 3 ?_, own 4 ?_,
      own 5 ?_, other ?_, own 6 ?_, own 7 ?_, own 8 ?_, own 9 ?_, ?_⟩
    case refine_15 => simp
    all_goals
      intros
      rfl

theorem slot_recovers {A : Type} {present : Flags → Bool} {get : MetaData T → A}
    {put : A → MetaData T → MetaData T} {write : A → Bytes} {read : F → Option (A × F)}
    {unread : F → Bytes} {m : MetaData T}
    (reads : ∀ frame rest, unread frame = write (get m) ++ rest →
      ∃ frame', read frame = some (get m, frame') ∧ unread frame' = rest)
    (same : ∀ value m, flags (put value m) = flags m) :
    (slot present get put write read).Recovers flags unread m where
  reads frame rest into starts := by
    obtain ⟨frame', done, remaining⟩ := reads frame rest starts
    exact ⟨frame', by simp [slot, done], remaining⟩
  flags into := same (get m) into

theorem slots_recover {unread : F → Bytes} (reads : frames.Reads unread) {m : MetaData T}
    (headers : m.hasHeaders = true → tables.Recovers unread m.headers)
    (short : ∀ data ∈ strings m, data.length ≤ 255) :
    ∀ slot ∈ slots frames tables, slot.present (flags m) = true → slot.Recovers flags unread m := by
  have own (i : Nat) {present : Flags → Bool} {get : MetaData T → Bytes}
      {put : Bytes → MetaData T → MetaData T} (at_i : (strings m)[i]? = some (get m))
      (same : ∀ value m, flags (put value m) = flags m) :
      (string frames present get put).present (flags m) = true →
        (string frames present get put).Recovers flags unread m := by
    intro _
    have bound := short _ (List.mem_of_getElem? at_i)
    exact slot_recovers (fun _ _ => ShortString.ofFrame_fill reads bound) same
  have other {A : Type} {present : Flags → Bool} {get : MetaData T → A}
      {put : A → MetaData T → MetaData T} {write : A → Bytes} {read : F → Option (A × F)}
      (done : present (flags m) = true → ∀ frame rest, unread frame = write (get m) ++ rest →
        ∃ frame', read frame = some (get m, frame') ∧ unread frame' = rest)
      (same : ∀ value m, flags (put value m) = flags m) :
      (slot present get put write read).present (flags m) = true →
        (slot present get put write read).Recovers flags unread m := by
    intro sent
    exact slot_recovers (done sent) same
  have octets {value : UInt8} (frame : F) (rest : Bytes) := reads.nextUint8 frame value rest
  simp only [slots, octet, List.forall_mem_cons]
  refine ⟨own 0 rfl ?_, own 1 rfl ?_, other headers ?_, other (fun _ => octets) ?_,
    other (fun _ => octets) ?_, own 2 rfl ?_, own 3 rfl ?_, own 4 rfl ?_, own 5 rfl ?_,
    other (fun _ frame rest => reads.nextUint64 frame _ rest) ?_, own 6 rfl ?_, own 7 rfl ?_,
    own 8 rfl ?_, own 9 rfl ?_, ?_⟩
  case refine_15 => simp
  all_goals
    intros
    rfl

-- The strings are the only fields whose wire format does not hold every value.
theorem meta_data_round_trip {unread : F → Bytes} (reads : frames.Reads unread) {m : MetaData T}
    (built : Built frames tables m)
    (headers : m.hasHeaders = true → tables.Recovers unread m.headers)
    {frame : F} {rest : Bytes} (starts : unread frame = fill tables m ++ rest) :
    (∃ frame', ofFrame frames tables frame = some (m, frame') ∧ unread frame' = rest) ↔
      ∀ data ∈ strings m, data.length ≤ 255 := by
  constructor
  · rintro ⟨frame', read, _⟩
    exact received_short frames tables read
  · intro short
    rw [fill_slots frames tables] at starts
    obtain ⟨middle, first, remaining⟩ := reads.nextUint8 frame _ _ starts
    obtain ⟨next, second, fields⟩ := reads.nextUint8 middle _ _ remaining
    have recovers := slots_recover frames tables reads headers short
    have begun : flags { bools1 := m.bools1, bools2 := m.bools2, headers := tables.empty } =
      flags m := rfl
    obtain ⟨last, parsed, final⟩ := Slots.parse_fill recovers begun fields
    rw [sent_slots, built_cleared frames tables built] at parsed
    refine ⟨last, ?_, final⟩
    simp only [ofFrame_slots, first, second, Option.bind_some]
    exact parsed

def noHeaders : Table Unit Bytes where
  empty := ()
  ofFrame
    | 0 :: 0 :: 0 :: 0 :: rest => some ((), rest)
    | _ => none
  size _ := 4
  fill _ := [0, 0, 0, 0]

theorem persistent_text_read_back :
    ∃ frame', ofFrame InMemory.frames noHeaders
      (fill noHeaders (apply (.timestamp 1700000000) (apply (.persistent true)
        (apply (.contentType [116, 101, 120, 116]) (apply (.headers ()) { headers := () })))) ++
          [206]) =
      some (apply (.timestamp 1700000000) (apply (.persistent true)
        (apply (.contentType [116, 101, 120, 116]) (apply (.headers ()) { headers := () }))),
        frame') ∧ frame' = [206] :=
  (meta_data_round_trip InMemory.frames noHeaders InMemory.reads
    (.set _ (.set _ (.set _ (.set _ .empty))))
    (fun _ frame rest starts => ⟨rest, by rw [show frame = _ from starts]; rfl, rfl⟩) rfl).mpr (by decide)

theorem sizeIf_ofNat (has : Bool) (data : Bytes) (result : Nat) :
    sizeIf has data.length (UInt32.ofNat result) =
      UInt32.ofNat (result + (sentIf has data).length) := by
  cases has with
  | true => simp [sizeIf, sentIf]
  | false => simp [sizeIf, sentIf]

theorem size_fill {m : MetaData T}
    (headers : m.hasHeaders = true → tables.size m.headers = (tables.fill m.headers).length) :
    size tables m = UInt32.ofNat (fill tables m).length := by
  have table (result : Nat) : sizeIf m.hasHeaders (tables.size m.headers) (UInt32.ofNat result) =
      UInt32.ofNat (result + (sentIf m.hasHeaders (tables.fill m.headers)).length) := by
    rw [← sizeIf_ofNat]
    cases sent : m.hasHeaders with
    | true => rw [headers sent]
    | false => rfl
  have string (has : Bool) (data : Bytes) (result : Nat) :
      sizeIf has (ShortString.size data) (UInt32.ofNat result) =
        UInt32.ofNat (result + (sentIf has (ShortString.fill data)).length) := by
    rw [← ShortString.fill_length, sizeIf_ofNat]
  have octet (has : Bool) (value : UInt8) (result : Nat) :
      sizeIf has 1 (UInt32.ofNat result) = UInt32.ofNat (result + (sentIf has [value]).length) :=
    sizeIf_ofNat has [value] result
  have timestamp (result : Nat) : sizeIf m.hasTimestamp 8 (UInt32.ofNat result) =
      UInt32.ofNat (result + (sentIf m.hasTimestamp (addUint64 m.timestamp)).length) :=
    sizeIf_ofNat m.hasTimestamp (addUint64 m.timestamp) result
  have start : (2 : UInt32) = UInt32.ofNat (m.bools1.fill.length + m.bools2.fill.length) := rfl
  have priority := octet m.hasPriority m.priority
  have deliveryMode := octet m.hasDeliveryMode m.deliveryMode
  simp only [size, start, string, priority, deliveryMode, table, timestamp]
  apply congrArg UInt32.ofNat
  simp only [fill, List.length_append]
  omega

theorem persistent_text_size :
    size noHeaders (apply (.persistent true) (apply (.contentType [116, 101, 120, 116])
        (apply (.headers ()) { headers := () }))) =
      UInt32.ofNat (fill noHeaders (apply (.persistent true)
        (apply (.contentType [116, 101, 120, 116]) (apply (.headers ()) { headers := () })))).length :=
  size_fill noHeaders fun _ => rfl

end MetaData

end RmqMgr.Amqp
