import RmqMgr.Session.Status

set_option autoImplicit false

namespace RmqMgr.Session

open Transition

variable {lib : Library} {getConnection : Nat → Option Nat}

theorem fetched_channelPub {s t : RmqMgrBase} (fetched : Fetched getConnection s t) :
    t.channelPub = s.channelPub := by
  rcases fetched with ⟨_, rfl⟩ | ⟨_, rfl⟩
  · rfl
  · unfold getMqConnection
    split <;> rfl

theorem createMqChannel_channelPub (s : RmqMgrBase) :
    (createMqChannel lib getConnection s).1.channelPub = s.channelPub := by
  have created : Created lib getConnection s (createMqChannel lib getConnection s) :=
    createMqChannel_created s
  generalize createMqChannel lib getConnection s = result at created ⊢
  cases created with
  | faulted fetched | refused fetched | made fetched =>
    have same := fetched_channelPub fetched
    exact same

theorem operationErrCb_channelPub (operation : Operation) (msg : String) (s : RmqMgrBase) :
    (operationErrCb lib getConnection operation msg s).channelPub = s.channelPub := by
  cases operation with
  | close | destruct => rfl
  | _ => exact createMqChannel_channelPub _

theorem setUp_channelPub (operation : Operation) (arguments : List String) (text : String)
    (s : RmqMgrBase) :
    (setUp lib getConnection operation arguments text s).1.channelPub = s.channelPub := by
  unfold setUp
  split
  next => rfl
  next c _ =>
    simp only
    split
    next => rfl
    next => split <;> rfl
    next =>
      split
      next => rfl
      next => exact operationErrCb_channelPub operation _ _

theorem reportFailed_channelPub (result : RmqMgrBase × Option String) :
    (reportFailed result).channelPub = result.1.channelPub := by
  unfold reportFailed
  split <;> rfl

theorem createMqExchange_channelPub (exchangeName exchangeType : String) (s : RmqMgrBase) :
    (createMqExchange lib getConnection exchangeName exchangeType s).1.channelPub =
      s.channelPub := by
  unfold createMqExchange
  split
  next => exact setUp_channelPub _ _ _ s
  next => rfl

theorem channelOkCb_channelPub (s : RmqMgrBase) :
    (channelOkCb lib getConnection s).channelPub =
      (createMqPubChannel lib (onStatusChange true s)).channelPub := by
  simp only [channelOkCb, startConsumeMsg, bindQueue, createMqQueue, reportFailed_channelPub,
    setUp_channelPub, createMqExchange_channelPub]

theorem pendingErrCbs_channelPub (pending : List Operation) (message : String) (s : RmqMgrBase) :
    (pendingErrCbs lib getConnection pending message s).channelPub = s.channelPub := by
  induction pending generalizing s with
  | nil => rfl
  | cons operation rest ih => exact (ih _).trans (operationErrCb_channelPub operation message s)

theorem reportError_channelPub (c : Nat) (message : String) (s : RmqMgrBase) :
    (reportError lib getConnection c message s).channelPub = s.channelPub := by
  have pending : (pendingErrCbs lib getConnection (s.channels c).pending message
      (endChannel c s)).channelPub = s.channelPub := pendingErrCbs_channelPub _ message _
  unfold reportError
  cases (s.channels c).role with
  | consumer => exact (createMqChannel_channelPub _).trans pending
  | publish => exact pending

structure PubKept (s t : RmqMgrBase) : Prop where
  channelPub : t.channelPub = s.channelPub
  usable : ∀ c, s.channelPub = some c → (t.channels c).usable = (s.channels c).usable
  identity : ∀ c, s.channelPub = some c → (t.channels c).connection = (s.channels c).connection
  connection : ∀ c, s.channelPub = some c →
    (t.connections (s.channels c).connection).usable =
      (s.connections (s.channels c).connection).usable
  pTcpMgr : ∀ c, s.channelPub = some c → t.pTcpMgr = s.pTcpMgr

theorem PubKept.refl (s : RmqMgrBase) : PubKept s s :=
  ⟨rfl, fun _ _ => rfl, fun _ _ => rfl, fun _ _ => rfl, fun _ _ => rfl⟩

theorem pubKept_record (call : Call) (s : RmqMgrBase) : PubKept s (record call s) :=
  ⟨rfl, fun _ _ => rfl, fun _ _ => rfl, fun _ _ => rfl, fun _ _ => rfl⟩

theorem PubKept.of_objects {s t : RmqMgrBase} (frame : Frame s t)
    (objects : t.connections = s.connections ∧ t.channels = s.channels) : PubKept s t := by
  obtain ⟨connections, channels⟩ := objects
  exact ⟨frame.channelPub, fun _ _ => by rw [channels], fun _ _ => by rw [channels],
    fun _ _ => by rw [connections], fun _ _ => frame.pTcpMgr⟩

theorem PubKept.trans {s t u : RmqMgrBase} (first : PubKept s t) (second : PubKept t u) :
    PubKept s u where
  channelPub := second.channelPub.trans first.channelPub
  usable c pub := (second.usable c (first.channelPub.trans pub)).trans (first.usable c pub)
  identity c pub := (second.identity c (first.channelPub.trans pub)).trans (first.identity c pub)
  connection c pub := by
    have later := second.connection c (first.channelPub.trans pub)
    rw [first.identity c pub] at later
    exact later.trans (first.connection c pub)
  pTcpMgr c pub := (second.pTcpMgr c (first.channelPub.trans pub)).trans (first.pTcpMgr c pub)

theorem pubKept_setChannel {c : Nat} {channel : Channel} {s : RmqMgrBase} (handling : Option Nat)
    (same : s.channelPub = some c → channel.usable = (s.channels c).usable ∧
      channel.connection = (s.channels c).connection) :
    PubKept s { setChannel c channel s with handling } := by
  have kept (d : Nat) (pub : s.channelPub = some d) :
      ((setChannel c channel s).channels d).usable = (s.channels d).usable ∧
        ((setChannel c channel s).channels d).connection = (s.channels d).connection := by
    by_cases hit : d = c
    · subst hit
      simpa using same pub
    · simp [setChannel_other hit]
  exact ⟨rfl, fun d pub => (kept d pub).1, fun d pub => (kept d pub).2, fun _ _ => rfl,
    fun _ _ => rfl⟩

-- A chain of effects that ends with the same publish channel has never replaced it, since every
-- new channel gets a number of its own.
theorem effects_channelPub {s t : RmqMgrBase} {c : Nat} (roles : Roles s)
    (effects : Effects getConnection s t) (same : t.channelPub = s.channelPub)
    (pub : s.channelPub = some c) :
    (t.channels c).usable = (s.channels c).usable ∧
      (t.channels c).connection = (s.channels c).connection := by
  have chain : Roles t ∧ (t.channelPub = some c ∧
      ((t.channels c).usable = (s.channels c).usable ∧
        (t.channels c).connection = (s.channels c).connection) ∨
      ∃ d, t.channelPub = some d ∧ c < d) := by
    refine effects.invariant (fun t => Roles t ∧ (t.channelPub = some c ∧
      ((t.channels c).usable = (s.channels c).usable ∧
        (t.channels c).connection = (s.channels c).connection) ∨
      ∃ d, t.channelPub = some d ∧ c < d)) ?_ ⟨roles, .inl ⟨pub, rfl, rfl⟩⟩
    rintro u v effect ⟨roles, held⟩
    refine ⟨roles_effect u v effect roles, ?_⟩
    have inside {d : Nat} (pub : u.channelPub = some d) := (roles.channelPub d pub).1
    rcases held with ⟨pub, kept⟩ | ⟨d, pub, later⟩
    · cases effect with
      | consumerMade _ replaces =>
        have other : u.channel ≠ some c := by
          intro both
          have consumer := (roles.channel c both).2
          rw [(roles.channelPub c pub).2] at consumer
          cases consumer
        refine .inl ⟨pub, ?_⟩
        simp only [replaces.others c (Nat.ne_of_lt (inside pub)) other]
        exact kept
      | publishMade => exact .inr ⟨_, rfl, inside pub⟩
      | pushed operation d =>
        refine .inl ⟨pub, ?_⟩
        by_cases hit : c = d
        · subst hit
          simpa [push, Channel.usable] using kept
        · simpa [push, setChannel_other hit] using kept
      | _ => exact .inl ⟨pub, kept⟩
    · cases effect with
      | publishMade => exact .inr ⟨_, rfl, Nat.lt_trans later (inside pub)⟩
      | _ => exact .inr ⟨d, pub, later⟩
  rcases chain.2 with ⟨_, kept⟩ | ⟨d, moved, later⟩
  · exact kept
  · rw [same, pub] at moved
    obtain rfl := Option.some.inj moved
    exact absurd later (Nat.lt_irrefl _)

theorem effects_pubKept {s t : RmqMgrBase} (roles : Roles s) (effects : Effects getConnection s t)
    (same : t.channelPub = s.channelPub) : PubKept s t := by
  have kept (c : Nat) (pub : s.channelPub = some c) :
      (t.channels c).usable = (s.channels c).usable ∧
        (t.channels c).connection = (s.channels c).connection :=
    effects_channelPub roles effects same pub
  exact ⟨same, fun c pub => (kept c pub).1, fun c pub => (kept c pub).2,
    fun c _ => by rw [effects.connections], fun _ _ => effects.pTcpMgr⟩

theorem startClose_other {c d : Nat} (other : d ≠ c) (operation : Operation) (s : RmqMgrBase) :
    (startClose operation c s).channels d = s.channels d := by
  rw [startClose_eq]
  exact setChannel_other other _ _

theorem startClose_sends (operation : Operation) (c : Nat) (s : RmqMgrBase) :
    sends c (startClose operation c s) = false := by
  simp [startClose_eq, sends, record, setChannel, Channel.usable]

theorem closeUsable_other {c d : Nat} (other : d ≠ c) (s : RmqMgrBase) :
    (closeUsable lib c s).1.channels d = s.channels d ∧
      (closeUsable lib c s).1.connections = s.connections := by
  unfold closeUsable
  split
  next =>
    split
    next => exact ⟨rfl, rfl⟩
    next => exact ⟨startClose_other other .close s, rfl⟩
    next =>
      split
      next => exact ⟨startClose_other other .close s, rfl⟩
      next => exact ⟨rfl, rfl⟩
  next => exact ⟨rfl, rfl⟩

theorem closeUsable_failed {c : Nat} {s t : RmqMgrBase} {err : String}
    (failed : closeUsable lib c s = (t, some err)) : t = record (.closeChannel c) s := by
  unfold closeUsable at failed
  split at failed
  next =>
    split at failed
    next => exact (Prod.mk.inj failed).1.symm
    next => cases failed
    next => split at failed <;> cases failed
  next => cases failed

theorem closeUsable_closed {c : Nat} {s t : RmqMgrBase}
    (closed : closeUsable lib c s = (t, none)) : sends c t = false := by
  unfold closeUsable at closed
  split at closed
  next =>
    split at closed
    next => cases closed
    next =>
      obtain ⟨rfl, _⟩ := Prod.mk.inj closed
      exact startClose_sends .close c s
    next =>
      split at closed
      next =>
        obtain ⟨rfl, _⟩ := Prod.mk.inj closed
        exact startClose_sends .close c s
      next able =>
        obtain ⟨rfl, _⟩ := Prod.mk.inj closed
        exact Bool.eq_false_iff.mpr able
  next unusable =>
    obtain ⟨rfl, _⟩ := Prod.mk.inj closed
    simp [sends, unusable]

theorem closeMqChannel_failed {s t : RmqMgrBase} {err : String} (roles : Roles s)
    (failed : closeMqChannel lib s = (t, some err)) : PubKept s t := by
  unfold closeMqChannel at failed
  split at failed
  next => cases failed
  next c channel =>
    have frame : Frame s (closeUsable lib c s).1 := closeUsable_frame c s
    have kept : PubKept s (closeUsable lib c s).1 := by
      have other (d : Nat) (pub : s.channelPub = some d) : d ≠ c := by
        rintro rfl
        have consumer := (roles.channel d channel).2
        rw [(roles.channelPub d pub).2] at consumer
        cases consumer
      have same (d : Nat) (pub : s.channelPub = some d) := @closeUsable_other lib c d (other d pub) s
      exact ⟨frame.channelPub, fun d pub => by rw [(same d pub).1],
        fun d pub => by rw [(same d pub).1], fun d pub => by rw [(same d pub).2],
        fun _ _ => frame.pTcpMgr⟩
    split at failed
    next u err closed =>
      rw [closed] at kept
      obtain ⟨rfl, _⟩ := Prod.mk.inj failed
      exact kept
    next u closed =>
      rw [closed] at kept
      split at failed
      next => cases failed
      next d _ =>
        rw [closeUsable_failed failed]
        exact PubKept.trans kept (pubKept_record _ u)

theorem closeMqChannel_closed {s t : RmqMgrBase} {d : Nat} (closed : closeMqChannel lib s = (t, none))
    (running : t.fault = false) (pub : s.channelPub = some d) : sends d t = false := by
  unfold closeMqChannel at closed
  split at closed
  next =>
    obtain ⟨rfl, _⟩ := Prod.mk.inj closed
    cases running
  next c _ =>
    have frame : Frame s (closeUsable lib c s).1 := closeUsable_frame c s
    split at closed
    next => cases closed
    next u first =>
      rw [first] at frame
      rw [frame.channelPub, pub] at closed
      exact closeUsable_closed closed

theorem closeMqConnection_failed {s t : RmqMgrBase} {err : String}
    (failed : closeMqConnection lib s = (t, some err)) : PubKept s t := by
  unfold closeMqConnection at failed
  split at failed
  next => cases failed
  next k _ =>
    split at failed
    next =>
      simp only at failed
      split at failed
      next =>
        obtain ⟨rfl, _⟩ := Prod.mk.inj failed
        exact pubKept_record _ s
      next =>
        obtain ⟨rfl, _⟩ := Prod.mk.inj failed
        exact pubKept_record _ s
      next => cases failed
    next => cases failed

theorem closeMqConnection_closed {s t : RmqMgrBase} {k : ConnId}
    (closed : closeMqConnection lib s = (t, none)) (connection : s.connection = some k) :
    (t.connections k).usable = false := by
  simp only [closeMqConnection, connection] at closed
  split at closed
  next =>
    split at closed
    next => cases closed
    next => cases closed
    next => obtain ⟨rfl, _⟩ := Prod.mk.inj closed; simp
  next unusable =>
    obtain ⟨rfl, _⟩ := Prod.mk.inj closed
    exact Bool.eq_false_iff.mpr unusable

theorem closeMqConnection_other {s : RmqMgrBase} {j : ConnId} (other : s.connection ≠ some j) :
    (closeMqConnection lib s).1.channels = s.channels ∧
      ((closeMqConnection lib s).1.connections j) = s.connections j := by
  unfold closeMqConnection
  split
  next => exact ⟨rfl, rfl⟩
  next k connection =>
    have different : j ≠ k := fun same => other (by rw [connection, same])
    split
    next => simp only; split <;> simp [record, Function.update_of_ne different]
    next => exact ⟨rfl, rfl⟩

end RmqMgr.Session
