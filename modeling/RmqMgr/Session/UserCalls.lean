import RmqMgr.Session.Callbacks

set_option autoImplicit false

namespace RmqMgr.Session

variable {lib : Library}

def Call.quiet : Call → Bool
  | .channel _ _ _ => false
  | .setUp _ _ _ _ => false
  | _ => true

structure Frame (s t : RmqMgrBase) : Prop where
  mqInfo : t.mqInfo = s.mqInfo
  connection : t.connection = s.connection
  channel : t.channel = s.channel
  channelPub : t.channelPub = s.channelPub
  pTcpMgr : t.pTcpMgr = s.pTcpMgr
  channelCount : t.channelCount = s.channelCount
  handling : t.handling = s.handling
  status : t.status = s.status
  startsItself : t.startsItself = s.startsItself
  connections : ∀ k, (t.connections k).ready = (s.connections k).ready ∧
    ((t.connections k).usable = true → (s.connections k).usable = true)
  identity : ∀ d, (t.channels d).connection = (s.channels d).connection ∧
    (t.channels d).role = (s.channels d).role ∧ (t.channels d).opened = (s.channels d).opened
  stillOpen : ∀ d, (t.channels d).usable = true → (s.channels d).usable = true ∧
    ∀ operation ∈ (t.channels d).pending, operation ∈ (s.channels d).pending
  calls : ∃ more, t.calls = s.calls ++ more ∧ ∀ call ∈ more, call.quiet = true

theorem Frame.refl (s : RmqMgrBase) : Frame s s :=
  ⟨rfl, rfl, rfl, rfl, rfl, rfl, rfl, rfl, rfl, fun _ => ⟨rfl, id⟩, fun _ => ⟨rfl, rfl, rfl⟩,
    fun _ able => ⟨able, fun _ => id⟩, [], by simp, by simp⟩

theorem Frame.trans {s t u : RmqMgrBase} (first : Frame s t) (second : Frame t u) : Frame s u where
  mqInfo := second.mqInfo.trans first.mqInfo
  connection := second.connection.trans first.connection
  channel := second.channel.trans first.channel
  channelPub := second.channelPub.trans first.channelPub
  pTcpMgr := second.pTcpMgr.trans first.pTcpMgr
  channelCount := second.channelCount.trans first.channelCount
  handling := second.handling.trans first.handling
  status := second.status.trans first.status
  startsItself := second.startsItself.trans first.startsItself
  connections k := by
    obtain ⟨ready, usable⟩ := first.connections k
    obtain ⟨ready', usable'⟩ := second.connections k
    exact ⟨ready'.trans ready, usable ∘ usable'⟩
  identity d := by
    obtain ⟨connection, role, opened⟩ := first.identity d
    obtain ⟨connection', role', opened'⟩ := second.identity d
    exact ⟨connection'.trans connection, role'.trans role, opened'.trans opened⟩
  stillOpen d able := by
    obtain ⟨before, pending⟩ := second.stillOpen d able
    obtain ⟨earlier, pending'⟩ := first.stillOpen d before
    exact ⟨earlier, fun operation member => pending' operation (pending operation member)⟩
  calls := by
    obtain ⟨more, same, quiet⟩ := first.calls
    obtain ⟨more', same', quiet'⟩ := second.calls
    refine ⟨more ++ more', by rw [same', same, List.append_assoc], ?_⟩
    intro call member
    rcases List.mem_append.mp member with earlier | later
    · exact quiet call earlier
    · exact quiet' call later

theorem frame_told (errMsgs : List String) (fault : Bool) (s : RmqMgrBase) :
    Frame s { s with errMsgs, fault } :=
  ⟨rfl, rfl, rfl, rfl, rfl, rfl, rfl, rfl, rfl, fun _ => ⟨rfl, id⟩, fun _ => ⟨rfl, rfl, rfl⟩,
    fun _ able => ⟨able, fun _ => id⟩, [],
    by simp, by simp⟩

theorem frame_faulted (s : RmqMgrBase) : Frame s (dereferencesNull s) :=
  frame_told s.errMsgs true s

theorem frame_setUsable (k : ConnId) (s : RmqMgrBase) :
    Frame s { s with
      connections := Function.update s.connections k { s.connections k with usable := false } } := by
  refine ⟨rfl, rfl, rfl, rfl, rfl, rfl, rfl, rfl, rfl, fun j => ?_, fun _ => ⟨rfl, rfl, rfl⟩,
    fun _ able => ⟨able, fun _ => id⟩, [],
    by simp, by simp⟩
  by_cases same : j = k
  · subst same
    simp
  · simp [Function.update_of_ne same]

theorem frame_record {call : Call} (quiet : call.quiet = true) (s : RmqMgrBase) :
    Frame s (record call s) :=
  ⟨rfl, rfl, rfl, rfl, rfl, rfl, rfl, rfl, rfl, fun _ => ⟨rfl, id⟩, fun _ => ⟨rfl, rfl, rfl⟩,
    fun _ able => ⟨able, fun _ => id⟩, [call], rfl,
    by simpa using quiet⟩

theorem frame_setChannel {c : Nat} {channel : Channel} {s : RmqMgrBase}
    (connection : channel.connection = (s.channels c).connection)
    (role : channel.role = (s.channels c).role) (opened : channel.opened = (s.channels c).opened)
    (stillOpen : channel.usable = true → (s.channels c).usable = true ∧
      ∀ operation ∈ channel.pending, operation ∈ (s.channels c).pending) :
    Frame s (setChannel c channel s) := by
  refine ⟨rfl, rfl, rfl, rfl, rfl, rfl, rfl, rfl, rfl, fun _ => ⟨rfl, id⟩, fun d => ?_, fun d => ?_,
    [], by simp [setChannel], by simp⟩
  · by_cases same : d = c
    · subst same
      simp [connection, role, opened]
    · simp [setChannel_other same]
  · by_cases same : d = c
    · subst same
      simpa using stillOpen
    · rw [setChannel_other same]
      exact fun able => ⟨able, fun _ => id⟩

theorem Frame.usable {s t : RmqMgrBase} (frame : Frame s t) (usable : connectionUsable t = true) :
    connectionUsable s = true := by
  unfold connectionUsable at usable ⊢
  rw [frame.connection] at usable
  cases some : s.connection with
  | none => simp [some] at usable
  | some k =>
    simp only [some] at usable ⊢
    exact (frame.connections k).2 usable

theorem Frame.of_result {call : RmqMgrBase → RmqMgrBase × Option String} {s t : RmqMgrBase}
    {err : Option String} (framed : ∀ s, Frame s (call s).1) (result : call s = (t, err)) :
    Frame s t := by
  have frame := framed s
  rw [result] at frame
  exact frame

theorem startClose_frame (operation : Operation) (c : Nat) (s : RmqMgrBase) :
    Frame s (startClose operation c s) := by
  rw [startClose_eq]
  have closing : Frame s (setChannel c { s.channels c with
      state := .closing, pending := (s.channels c).pending ++ [operation] } s) :=
    frame_setChannel rfl rfl rfl fun able => (by simp [Channel.usable] at able)
  exact closing.trans (frame_record rfl _)

theorem closeUsable_frame (c : Nat) (s : RmqMgrBase) : Frame s (closeUsable lib c s).1 := by
  have refused : Frame s (record (.closeChannel c) s) := frame_record rfl s
  unfold closeUsable
  split
  next =>
    split
    next => exact refused
    next => exact startClose_frame .close c s
    next =>
      split
      next => exact startClose_frame .close c s
      next => exact refused.trans (frame_told _ _ _)
  next => exact .refl s

theorem closeMqChannel_frame (s : RmqMgrBase) : Frame s (closeMqChannel lib s).1 := by
  unfold closeMqChannel
  split
  next => exact frame_faulted s
  next c _ =>
    have first : Frame s (closeUsable lib c s).1 := closeUsable_frame c s
    split
    next t err closed =>
      rw [closed] at first
      exact first
    next t closed =>
      rw [closed] at first
      split
      next => exact first.trans (frame_faulted t)
      next d _ => exact first.trans (closeUsable_frame d t)

theorem closeMqConnection_frame (s : RmqMgrBase) : Frame s (closeMqConnection lib s).1 := by
  unfold closeMqConnection
  split
  next => exact frame_faulted s
  next k _ =>
    have called : Frame s (record (.closeConnection k) s) := frame_record rfl s
    split
    next =>
      simp only
      split
      next => exact called
      next => exact called
      next => exact called.trans (frame_setUsable k _)
    next => exact .refl s

theorem publishMsg_frame (msg : List UInt8) (s : RmqMgrBase) : Frame s (publishMsg lib msg s).1 := by
  unfold publishMsg
  split
  next => exact frame_faulted s
  next => simp only; split <;> exact frame_record rfl s

theorem consumeRecvedCb_frame (thrown : Option String) (deliveryTag : Nat) (s : RmqMgrBase) :
    Frame s (consumeRecvedCb thrown deliveryTag s) := by
  unfold consumeRecvedCb
  split
  next => exact .refl s
  next => exact frame_faulted s
  next => exact frame_record rfl s

theorem publishMsg_objects (msg : List UInt8) (s : RmqMgrBase) :
    (publishMsg lib msg s).1.connections = s.connections ∧
      (publishMsg lib msg s).1.channels = s.channels := by
  unfold publishMsg
  split
  next => exact ⟨rfl, rfl⟩
  next => simp only; split <;> exact ⟨rfl, rfl⟩

theorem consumeRecvedCb_objects (thrown : Option String) (deliveryTag : Nat) (s : RmqMgrBase) :
    (consumeRecvedCb thrown deliveryTag s).connections = s.connections ∧
      (consumeRecvedCb thrown deliveryTag s).channels = s.channels := by
  unfold consumeRecvedCb
  split <;> exact ⟨rfl, rfl⟩

theorem closeUsable_fault (c : Nat) (s : RmqMgrBase) : (closeUsable lib c s).1.fault = s.fault := by
  unfold closeUsable
  split
  next =>
    split
    next => rfl
    next => rfl
    next => split <;> rfl
  next => rfl

theorem closeMqChannel_fault {s : RmqMgrBase} (channel : s.channel ≠ none)
    (channelPub : s.channelPub ≠ none) : (closeMqChannel lib s).1.fault = s.fault := by
  obtain ⟨c, some⟩ := Option.ne_none_iff_exists'.mp channel
  obtain ⟨d, somePub⟩ := Option.ne_none_iff_exists'.mp channelPub
  have first : (closeUsable lib c s).1.fault = s.fault := closeUsable_fault c s
  have frame : Frame s (closeUsable lib c s).1 := closeUsable_frame c s
  simp only [closeMqChannel, some]
  generalize closeUsable lib c s = result at first frame ⊢
  obtain ⟨t, err⟩ := result
  cases err with
  | some err => exact first
  | none =>
    have somePub : t.channelPub = Option.some d := frame.channelPub.trans somePub
    simp only [somePub]
    exact (closeUsable_fault d t).trans first

theorem closeMqConnection_fault {s : RmqMgrBase} (connection : s.connection ≠ none) :
    (closeMqConnection lib s).1.fault = s.fault := by
  obtain ⟨k, some⟩ := Option.ne_none_iff_exists'.mp connection
  simp only [closeMqConnection, some]
  split
  next => split <;> rfl
  next => rfl

theorem publishMsg_fault {msg : List UInt8} {s : RmqMgrBase} (channelPub : s.channelPub ≠ none) :
    (publishMsg lib msg s).1.fault = s.fault := by
  obtain ⟨c, some⟩ := Option.ne_none_iff_exists'.mp channelPub
  simp only [publishMsg, some]
  split <;> rfl

theorem consumeRecvedCb_fault {thrown : Option String} {deliveryTag : Nat} {s : RmqMgrBase}
    (channel : s.channel ≠ none) :
    (consumeRecvedCb thrown deliveryTag s).fault = s.fault := by
  obtain ⟨c, some⟩ := Option.ne_none_iff_exists'.mp channel
  cases thrown with
  | some what => rfl
  | none => simp only [consumeRecvedCb, some]; rfl

end RmqMgr.Session
