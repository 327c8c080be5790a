import RmqMgr.Session.OwnSetUp
import RmqMgr.Tcp.Connection

set_option autoImplicit false

namespace RmqMgr.Session

open Transition

variable {lib : Library} {getConnection : Nat → Option Nat}

def CloseFree (s : RmqMgrBase) : Prop :=
  ∀ c, (s.channels c).usable = true →
    ∀ operation ∈ (s.channels c).pending, operation.isSetUp = true

theorem closeFree_replaces {s : RmqMgrBase} {role : Role} {pointer : Option Nat} {k : ConnId}
    {channels : Nat → Channel} {calls : List Call} (free : CloseFree s)
    (inside : ∀ c, pointer = some c → c < s.channelCount)
    (replaces : Replaces role pointer k s channels calls) (c : Nat)
    (usable : (channels c).usable = true) :
    ∀ operation ∈ (channels c).pending, operation.isSetUp = true := by
  by_cases new : c = s.channelCount
  · subst new
    rw [replaces.new inside]
    simp
  · by_cases hit : pointer = some c
    · rw [replaces.replaced c new hit] at usable
      cases usable
    · rw [replaces.others c new hit] at usable ⊢
      exact free c usable

theorem closeFree_effect (s t : RmqMgrBase) (effect : Effect getConnection s t)
    (held : Roles s ∧ CloseFree s) : Roles t ∧ CloseFree t := by
  obtain ⟨roles, free⟩ := held
  refine ⟨roles_effect s t effect roles, ?_⟩
  cases effect with
  | consumerMade _ replaces =>
    exact closeFree_replaces free (fun c same => (roles.channel c same).1) replaces
  | publishMade _ replaces =>
    exact closeFree_replaces free (fun c same => (roles.channelPub c same).1) replaces
  | pushed operation d _ _ notClose notDestruct =>
    intro c usable
    have before : (s.channels c).usable = true := by
      rw [Channel.usable, (push_identity operation d c s).2.1] at usable
      exact usable
    by_cases same : c = d
    · subst same
      intro other member
      simp only [push, setChannel_self, List.mem_append, List.mem_singleton] at member
      rcases member with earlier | rfl
      · exact free c before other earlier
      · cases other <;> simp [Operation.isSetUp] at notClose notDestruct ⊢
    · simp only [push, setChannel_other same]
      exact free c before
  | _ => exact free

theorem CloseFree.setChannel {s : RmqMgrBase} (free : CloseFree s) (c : Nat) {channel : Channel}
    (kept : channel.usable = true → (s.channels c).usable = true ∧
      ∀ operation ∈ channel.pending, operation ∈ (s.channels c).pending)
    (handling : Option Nat) : CloseFree { setChannel c channel s with handling } := by
  intro d
  by_cases same : d = c
  · subst same
    intro usable operation member
    simp only [setChannel_self] at usable member
    obtain ⟨before, pending⟩ := kept usable
    exact free d before operation (pending operation member)
  · simp only [setChannel_other same]
    exact free d

theorem confirmOpen_usable (c d : Nat) (s : RmqMgrBase) :
    ((confirmOpen c s).channels d).usable = (s.channels d).usable := by
  by_cases same : d = c
  · subst same
    cases state : (s.channels d).state <;> simp [confirmOpen, Channel.usable, state]
  · rw [confirmOpen, setChannel_other same]

theorem closeFree_step {w v : World} {e : Event} (roles : Roles w.ses) (free : CloseFree w.ses)
    (taken : step lib w e = some v) : CloseFree v.ses := by
  refine (session_step (fun s => Roles s ∧ CloseFree s) ?_ (fun _ => closeFree_effect) ?_ ?_
    ⟨roles, free⟩ taken).2
  · rintro s t frame ⟨roles, free⟩
    refine ⟨roles.framed frame, fun c usable operation member => ?_⟩
    obtain ⟨before, pending⟩ := frame.stillOpen c usable
    exact free c before operation (pending operation member)
  · rintro c s ⟨roles, free⟩
    refine ⟨roles.setChannel c (by rfl) s.handling, free.setChannel c ?_ s.handling⟩
    have kept := confirmOpen_usable c c s
    rw [confirmOpen, setChannel_self] at kept
    exact fun usable => ⟨kept.symm.trans usable, fun _ => id⟩
  · rintro s _ _ _ _ _ ⟨roles, free⟩
    exact ⟨⟨roles.channel, roles.channelPub⟩, free⟩

theorem reachable_closeFree {mqInfo : MqInfo} {w : World}
    (reached : Reachable (step lib) (World.start mqInfo) w) : CloseFree w.ses := by
  apply reached.invariant fun w => CloseFree w.ses
  · exact fun c usable => (by simp [World.start, Channel.usable] at usable)
  · intro w e v before free _ taken
    exact closeFree_step (reachable_roles before) free taken

def Up (w : World) : Prop :=
  ∃ i ∈ w.ses.pTcpMgr, (w.tcps i).up = true ∧
    w.ses.connection = (w.getConnection i).map (ConnId.mk i) ∧ connectionUsable w.ses = true

instance (w : World) : Decidable (Up w) :=
  inferInstanceAs (Decidable (∃ _ ∈ _, _ ∧ _ ∧ _))

def usableAt (pointer : Option Nat) (s : RmqMgrBase) : Prop :=
  ∃ c ∈ pointer, (s.channels c).usable = true

instance (pointer : Option Nat) (s : RmqMgrBase) : Decidable (usableAt pointer s) :=
  inferInstanceAs (Decidable (∃ _ ∈ _, _))

def StatusSound (w : World) : Prop :=
  w.ses.status = some true →
    Up w ∧ usableAt w.ses.channel w.ses ∧ usableAt w.ses.channelPub w.ses

instance (w : World) : Decidable (StatusSound w) :=
  inferInstanceAs (Decidable (_ → _ ∧ _ ∧ _))

def Event.ends : Event → Option ConnId
  | .onError k _ => some k
  | .onClosed k => some k
  | _ => none

def Event.leaves : Event → Bool
  | .startMqInstance none => true
  | .releaseMqInstance => true
  | .closeMqConnection => true
  | _ => false

-- What ends the TCP connection, its connection object or the instance, and is not reported.
def Lowers (w : World) (e : Event) : Prop :=
  (∃ moved ∈ w.target e, w.ses.pTcpMgr = some moved.1 ∧ Tcp.Drops (w.tcps moved.1) moved.2) ∨
    (∃ k ∈ w.ses.connection, e.ends = some k) ∨ e.leaves = true

instance (w : World) (e : Event) : Decidable (Lowers w e) :=
  inferInstanceAs (Decidable ((∃ _ ∈ _, _ ∧ _) ∨ (∃ _ ∈ _, _) ∨ _))

/-- While the reported status is true nothing ends without a report, and true is reported only while
everything is up. -/
def statusHolds (w : World) (e : Event) : Prop :=
  (w.ses.status = some true → ¬ Lowers w e) ∧
    ∀ c ∈ e.readies, (w.ses.channels c).role = .consumer →
      Up w ∧ ∃ d ∈ w.ses.channel, sends d w.ses = true

instance (w : World) (e : Event) : Decidable (statusHolds w e) :=
  inferInstanceAs (Decidable ((_ → ¬ _) ∧ ∀ _ ∈ _, _ → _ ∧ ∃ _ ∈ _, _))

theorem transport_kept {w v : World} {e : Event} {i : Nat} (taken : step lib w e = some v)
    (kept : ∀ te, w.target e = some (i, te) → ¬ Tcp.Drops (w.tcps i) te)
    (up : (w.tcps i).up = true) :
    (v.tcps i).up = true ∧ v.getConnection i = w.getConnection i := by
  rcases step_tcp i taken with same | ⟨te, target, stepped⟩
  · rw [World.getConnection, World.getConnection, same]
    exact ⟨up, rfl⟩
  · exact Tcp.up_kept stepped (kept te target) up

theorem Up.kept {w v : World} {e : Event} (up : Up w) (taken : step lib w e = some v)
    (quiet : ¬ Lowers w e) (pTcpMgr : v.ses.pTcpMgr = w.ses.pTcpMgr)
    (connection : v.ses.connection = w.ses.connection)
    (usable : connectionUsable w.ses = true → connectionUsable v.ses = true) : Up v := by
  obtain ⟨i, current, established, same, able⟩ := up
  have steady := transport_kept taken (fun te target drops =>
    quiet (.inl ⟨(i, te), target, current, drops⟩)) established
  refine ⟨i, pTcpMgr.trans current, steady.1, ?_, usable able⟩
  rw [connection, steady.2]
  exact same

theorem StatusSound.kept {w v : World} {e : Event} (sound : StatusSound w)
    (taken : step lib w e = some v) (quiet : w.ses.status = some true → ¬ Lowers w e)
    (status : v.ses.status = w.ses.status) (pTcpMgr : v.ses.pTcpMgr = w.ses.pTcpMgr)
    (connection : v.ses.connection = w.ses.connection) (channel : v.ses.channel = w.ses.channel)
    (channelPub : v.ses.channelPub = w.ses.channelPub)
    (usable : w.ses.status = some true →
      connectionUsable w.ses = true → connectionUsable v.ses = true)
    (channels : ∀ c, w.ses.channel = some c ∨ w.ses.channelPub = some c →
      (w.ses.channels c).usable = true → (v.ses.channels c).usable = true) : StatusSound v := by
  intro told
  have before : w.ses.status = some true := status.symm.trans told
  obtain ⟨up, ⟨c, some, able⟩, d, somePub, ablePub⟩ := sound before
  refine ⟨up.kept taken (quiet before) pTcpMgr connection (usable before), ?_, ?_⟩
  · exact ⟨c, channel.trans some, channels c (.inl some) able⟩
  · exact ⟨d, channelPub.trans somePub, channels d (.inr somePub) ablePub⟩

theorem setUsable_other {k : ConnId} {s : RmqMgrBase} (other : s.connection ≠ some k)
    (usable : connectionUsable s = true) : connectionUsable (setUsable k false s) = true := by
  unfold connectionUsable at usable ⊢
  cases some : s.connection with
  | none => simp [some] at usable
  | some j =>
    have different : j ≠ k := fun same => other (by rw [some, same])
    simpa [setUsable, some, Function.update_of_ne different] using usable

theorem errCb_status (text msg : String) (s : RmqMgrBase) :
    (errCb lib getConnection text msg s).status = some false :=
  createMqChannel_status _

theorem reportError_status (c : Nat) (message : String) (s : RmqMgrBase) :
    (reportError lib getConnection c message s).status = some false := by
  unfold reportError
  cases (s.channels c).role with
  | consumer => exact errCb_status _ message _
  | publish => rfl

theorem connectionUsable_congr {s t : RmqMgrBase} (connection : t.connection = s.connection)
    (connections : t.connections = s.connections) : connectionUsable t = connectionUsable s := by
  rw [connectionUsable, connectionUsable, connection, connections]

theorem fresh_usable {s : RmqMgrBase} {role : Role} {pointer : Option Nat} {k : ConnId}
    {channels : Nat → Channel} {calls : List Call}
    (replaces : Replaces role pointer k s channels calls)
    (inside : ∀ c, pointer = some c → c < s.channelCount) :
    (channels s.channelCount).usable = true := by
  rw [replaces.new inside]
  rfl

theorem reportReady_sound {w : World} {c : Nat} (roles : Roles w.ses)
    (role : (w.ses.channels c).role = .consumer) (up : Up w)
    (able : ∃ d ∈ w.ses.channel, sends d w.ses = true) :
    StatusSound { w with ses := reportReady lib w.getConnection c w.ses } := by
  intro told
  obtain ⟨d, channel, able⟩ := able
  have pTcpMgr : (reportReady lib w.getConnection c w.ses).pTcpMgr = w.ses.pTcpMgr :=
    reportReady_pTcpMgr c w.ses
  obtain ⟨start, p, t, startEq, created, made, done, same⟩ :=
    reportReady_setsUp lib w.getConnection roles role channel able
  obtain ⟨i, current, established, connected, usable⟩ := up
  have connection : t.connection = w.ses.connection := by
    rw [done.connection, made.connection, startEq]
    rfl
  have connections : t.connections = w.ses.connections := by
    rw [done.connections, made.connections, startEq]
    rfl
  have usable' : connectionUsable t = true :=
    (connectionUsable_congr connection connections).trans usable
  rw [same] at told pTcpMgr ⊢
  refine ⟨⟨i, pTcpMgr.trans current, established, connection.trans connected, usable'⟩, ?_, ?_⟩
  · have kept : sends d p = true := by
      rw [made.able, startEq]
      exact (confirmOpen_sends c d w.ses).trans able
    have open_ : (p.channels d).usable = true := (Bool.and_eq_true_iff.mp kept).1
    refine ⟨d, ?_, ?_⟩
    · rw [Option.mem_def, done.channel, made.channel, startEq]
      exact channel
    · rw [Channel.usable, (done.channels d).2.2.1]
      exact open_
  · have pub : PubCreated start p := created ▸ createMqPubChannel_created start
    have status : p.status = some true := done.status.symm.trans told
    have rolesStart : Roles start := by
      rw [startEq]
      have opened : Roles { confirmOpen c w.ses with handling := some c } :=
        roles.setChannel c (by rfl) _
      exact ⟨opened.channel, opened.channelPub⟩
    cases pub with
    | faulted none =>
      rw [made.connection.symm.trans (done.connection.symm.trans connection)] at none
      simp [connectionUsable, none] at usable
    | refused => cases status
    | made some replaces =>
      refine ⟨_, done.channelPub, ?_⟩
      rw [Channel.usable, (done.channels _).2.2.1]
      exact fresh_usable replaces fun c same => (rolesStart.channelPub c same).1

theorem statusSound_step {w v : World} {e : Event} (roles : Roles w.ses) (free : CloseFree w.ses)
    (sound : StatusSound w) (holds : statusHolds w e) (taken : step lib w e = some v) :
    StatusSound v := by
  have quiet := holds.1
  cases step_took taken with
  | transport | onData | waited | timedOut | startFailed | waitFaulted | finitClose | finitStop
  | finitJoin | finitFaulted =>
    exact sound.kept taken quiet rfl rfl rfl rfl rfl (fun _ => id) fun _ _ => id
  | onReady =>
    exact sound.kept taken quiet rfl rfl rfl rfl rfl
      (fun _ usable => (setReady_usable _ _).trans usable) fun _ _ => id
  | @onError k | @onClosed k =>
    refine sound.kept taken quiet rfl rfl rfl rfl rfl (fun up => ?_) fun _ _ => id
    exact setUsable_other fun some => quiet up (.inr (.inl ⟨k, some, rfl⟩))
  | @reportReady c =>
    cases role : (w.ses.channels c).role with
    | consumer =>
      obtain ⟨up, able⟩ := holds.2 c rfl role
      exact reportReady_sound roles role up able
    | publish =>
      have same : reportReady lib w.getConnection c w.ses = confirmOpen c w.ses := by
        simp only [reportReady, role]
      rw [same] at taken ⊢
      exact sound.kept taken quiet rfl rfl rfl rfl rfl (fun _ => id) fun d _ usable =>
        (confirmOpen_usable c d w.ses).trans usable
  | reportError =>
    intro told
    simp only [reportError_status] at told
    cases told
  | @reportSuccess c =>
    apply sound.kept taken quiet rfl rfl rfl rfl rfl (fun _ => id)
    intro d _ usable
    by_cases same : d = c
    · subst same
      rw [reportSuccess, setChannel_self]
      exact usable
    · rw [reportSuccess, setChannel_other same]
      exact usable
  | @reportClosed c _ closing =>
    apply sound.kept taken quiet rfl rfl rfl rfl rfl (fun _ => id)
    intro d _ usable
    have other : d ≠ c := by
      rintro rfl
      have set := free d usable
      rcases closing with pending | pending <;> simp [pending, Operation.isSetUp] at set
    simpa [reportClosed, endChannel, setChannel_other other] using usable
  | @consumeRecvedCb c thrown deliveryTag =>
    have frame := consumeRecvedCb_frame thrown deliveryTag w.ses
    obtain ⟨connections, channels⟩ := consumeRecvedCb_objects thrown deliveryTag w.ses
    refine sound.kept taken quiet frame.status frame.pTcpMgr frame.connection frame.channel
      frame.channelPub (fun _ usable => ?_) fun d _ usable => ?_
    · exact (connectionUsable_congr frame.connection connections).trans usable
    · simpa only [channels] using usable
  | started => exact fun told => absurd (.inr (.inr rfl)) (quiet told)
  | getMqConnection =>
    intro told
    have before : w.ses.status = some true := (getMqConnection_status w.ses).symm.trans told
    obtain ⟨⟨i, current, established, connected, usable⟩, channel, channelPub⟩ := sound before
    have same : getMqConnection w.getConnection w.ses = w.ses := by
      unfold getMqConnection
      split
      next none => rw [Option.mem_def, none] at current; cases current
      next j some =>
        obtain rfl := Option.some.inj (some.symm.trans current)
        rw [← connected]
    simp only [same]
    exact ⟨⟨i, current, established, connected, usable⟩, channel, channelPub⟩
  | @startSucceeded s _ result =>
    intro told
    have status : (createMqChannel lib w.getConnection w.ses).1.status = w.ses.status :=
      createMqChannel_status w.ses
    rw [result] at status
    obtain ⟨⟨i, current, established, connected, usable⟩, _, d, somePub, ablePub⟩ :=
      sound (status.symm.trans told)
    cases Created.of_result result with
    | @faulted t fetched none =>
      obtain rfl := (fetched_recreates fetched).2 usable
      simp [connectionUsable, none] at usable
    | @made t k channels calls fetched some replaces =>
      obtain rfl := (fetched_recreates fetched).2 usable
      refine ⟨⟨i, current, established, connected, usable⟩, ?_, ?_⟩
      · exact ⟨_, rfl, fresh_usable replaces fun c same => (roles.channel c same).1⟩
      · -- The publish channel is neither the new channel nor the one that it replaces.
        obtain ⟨inside, publish⟩ := roles.channelPub d somePub
        have apart : w.ses.channel ≠ Option.some d := by
          intro same
          rw [(roles.channel d same).2] at publish
          cases publish
        have same : channels d = w.ses.channels d :=
          replaces.others d (Nat.ne_of_lt inside) apart
        exact ⟨d, somePub, (congrArg Channel.usable same).trans ablePub⟩
  | channelFailed => exact fun told => (by cases told)
  | @publishMsg msg s _ _ result =>
    have frame := Frame.of_result (publishMsg_frame msg) result
    have objects : (publishMsg lib msg w.ses).1.connections = w.ses.connections ∧
        (publishMsg lib msg w.ses).1.channels = w.ses.channels := publishMsg_objects msg w.ses
    rw [result] at objects
    obtain ⟨connections, channels⟩ := objects
    refine sound.kept taken quiet frame.status frame.pTcpMgr frame.connection frame.channel
      frame.channelPub (fun _ usable => ?_) fun d _ usable => ?_
    · exact (connectionUsable_congr frame.connection connections).trans usable
    · exact (congrArg Channel.usable (congrFun channels d)).trans usable
  | releaseMqInstance _ result =>
    have frame := Frame.of_result closeMqChannel_frame result
    exact fun told => absurd (.inr (.inr rfl)) (quiet (frame.status.symm.trans told))
  | closeMqConnection _ result =>
    have frame := Frame.of_result closeMqConnection_frame result
    exact fun told => absurd (.inr (.inr rfl)) (quiet (frame.status.symm.trans told))

theorem status_sound {mqInfo : MqInfo} {w : World}
    (reached : Reach (step lib) statusHolds (World.start mqInfo) w) : StatusSound w := by
  apply reached.invariant StatusSound
  · exact fun told => (by cases told)
  · intro w e v before sound holds taken
    exact statusSound_step (reachable_roles before.reachable) (reachable_closeFree before.reachable)
      sound holds taken

open Run

theorem sound_after_ready :
    ∃ w, (Reach (step accepting) statusHolds (World.start fanout) w ∧
        w.ses.status = some true) ∧
      StatusSound w := by
  have ran : ∃ w, Reach (step accepting) statusHolds (World.start fanout) w ∧
      w.ses.status = some true :=
    run_reaches (startAndLogIn ++ channelOpens 0) (by decide +kernel)
  obtain ⟨w, reached, told⟩ := ran
  exact ⟨w, ⟨reached, told⟩, status_sound reached⟩

theorem socket_failure_unreported :
    ∃ w, Reach (step accepting) anyStep (World.start fanout) w ∧
      (w.tcps 0).strand = [] ∧ (w.tcps 0).phase = .idle ∧ ¬ StatusSound w :=
  run_reaches (startAndLogIn ++ channelOpens 0 ++ readFails) (by decide +kernel)

end RmqMgr.Session
