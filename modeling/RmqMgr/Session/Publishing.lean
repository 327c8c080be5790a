import RmqMgr.Session.Generations
import RmqMgr.Session.PubChannel
import RmqMgr.Shared.History

set_option autoImplicit false

namespace RmqMgr.Session

open Transition

variable {lib : Library} {getConnection : Nat → Option Nat}

def World.current (w : World) (k : ConnId) : Prop :=
  w.ses.pTcpMgr = some k.tcpMgr ∧ w.getConnection k.tcpMgr = some k.number

instance (w : World) (k : ConnId) : Decidable (w.current k) :=
  inferInstanceAs (Decidable (_ ∧ _))

def Sendable (w : World) : Prop :=
  ∃ c ∈ w.ses.channelPub, sends c w.ses = true ∧ w.current (w.ses.channels c).connection

instance (w : World) : Decidable (Sendable w) :=
  inferInstanceAs (Decidable (∃ _ ∈ _, _ ∧ _))

structure PublishOk (lib : Library) (msg : List UInt8) (w : World) : Prop where
  returns : (publishMsg lib msg w.ses).1.fault = false
  succeeds : (publishMsg lib msg w.ses).2 = none → Sendable w
  fails : ∀ err, (publishMsg lib msg w.ses).2 = some err → err ≠ ""

-- What ends the publish channel `c` on the connection object `k`: an end of the channel, an end or
-- a close of the object, the close of the channel by `CloseMqChannel`, the next connection object
-- of its `TcpMgr`, and the next `TcpMgr`.
def endsChannel (lib : Library) (w : World) (c : Nat) (k : ConnId) : Event → Bool
  | .reportError d _ => d = c
  | .reportClosed d => d = c
  | .onError j _ => j = k
  | .onClosed j => j = k
  | .closeMqConnection => w.ses.connection = some k ∧ (closeMqConnection lib w.ses).2 = none
  | .releaseMqInstance => (closeMqChannel lib w.ses).2 = none
  | .transport i e => i = k.tcpMgr ∧ e = .created
  | .startMqInstance thrown => thrown = none
  | _ => false

def endsPublish (lib : Library) (w : World) (e : Event) : Bool :=
  w.ses.channelPub.any fun c => endsChannel lib w c (w.ses.channels c).connection e

/-- The record of a run: whether the publish channel was made on the connection object of the
current `TcpMgr` while that was usable, and nothing has ended it since. -/
def notePublish (lib : Library) (w : World) (e : Event) (_ : World) (stands : Bool) : Bool :=
  let kept := stands && !endsPublish lib w e
  match e with
  | .reportReady c =>
    match (w.ses.channels c).role, w.ses.connection, lib w.ses.calls.length with
    | .consumer, some _, .threw _ => kept
    | .consumer, some k, _ => connectionUsable w.ses && decide (w.current k)
    | _, _, _ => kept
  | _ => kept

theorem sendable_kept {w v : World} (kept : PubKept w.ses v.ses)
    (steady : ∀ c, w.ses.channelPub = some c →
      v.getConnection (w.ses.channels c).connection.tcpMgr =
        w.getConnection (w.ses.channels c).connection.tcpMgr) :
    Sendable v ↔ Sendable w := by
  have same (c : Nat) (pub : w.ses.channelPub = some c) :
      sends c v.ses = sends c w.ses ∧
        (v.current (v.ses.channels c).connection ↔ w.current (w.ses.channels c).connection) := by
    have connection := kept.identity c pub
    refine ⟨by rw [sends, sends, kept.usable c pub, connection, kept.connection c pub], ?_⟩
    rw [World.current, World.current, connection, kept.pTcpMgr c pub, steady c pub]
  constructor
  · rintro ⟨c, pub, able, current⟩
    have pub : w.ses.channelPub = some c := kept.channelPub.symm.trans pub
    obtain ⟨sending, currently⟩ := same c pub
    exact ⟨c, pub, sending.symm.trans able, currently.mp current⟩
  · rintro ⟨c, pub, able, current⟩
    obtain ⟨sending, currently⟩ := same c pub
    exact ⟨c, kept.channelPub.trans pub, sending.trans able, currently.mpr current⟩

theorem ended_unsendable {w v : World} {e : Event} (fetches : Fetches w.getConnection w.ses)
    (older : ∀ i, Tcp.Older (w.tcps i)) (unstarted : Unstarted w)
    (taken : step lib w e = some v) (running : v.ses.fault = false)
    (ended : endsPublish lib w e = true) : ¬ Sendable v := by
  obtain ⟨c, pub, ends⟩ := (Option.any_eq_true _ _).mp ended
  have roles := fetches.roles
  have inside := (roles.channelPub c pub).1
  cases step_took taken with
  | @reportError d message =>
    obtain rfl : d = c := of_decide_eq_true ends
    have rolesEnded : Roles (endChannel d w.ses) := roles.setChannel d (by rfl) w.ses.handling
    have kept : PubKept (endChannel d w.ses) (reportError lib w.getConnection d message w.ses) :=
      effects_pubKept rolesEnded (reportError_effects d message w.ses)
        (reportError_channelPub d message w.ses)
    rintro ⟨c, pub', able, _⟩
    obtain rfl := Option.some.inj (pub.symm.trans (kept.channelPub.symm.trans pub'))
    have unusable := kept.usable d pub
    simp only [sends, Bool.and_eq_true] at able
    rw [able.1] at unusable
    simp [endChannel, Channel.usable] at unusable
  | @reportClosed d =>
    obtain rfl : d = c := of_decide_eq_true ends
    rintro ⟨c, pub', able, _⟩
    obtain rfl := Option.some.inj (pub.symm.trans pub')
    simp [sends, reportClosed, endChannel, Channel.usable] at able
  | @onError j | @onClosed j =>
    obtain rfl : j = (w.ses.channels c).connection := of_decide_eq_true ends
    rintro ⟨d, pub', able, _⟩
    obtain rfl := Option.some.inj (pub.symm.trans pub')
    simp [sends, setUsable] at able
  | @closeMqConnection s result _ _ _ closed =>
    obtain ⟨connection, none⟩ := of_decide_eq_true ends
    rw [closed] at none
    obtain rfl : result = Option.none := none
    have frame := Frame.of_result closeMqConnection_frame closed
    have unusable := closeMqConnection_closed closed connection
    rintro ⟨d, pub', able, _⟩
    obtain rfl := Option.some.inj (pub.symm.trans (frame.channelPub.symm.trans pub'))
    simp only [sends, (frame.identity _).1, Bool.and_eq_true] at able
    rw [unusable] at able
    cases able.2
  | @releaseMqInstance s result _ _ _ closed =>
    have none : (closeMqChannel lib w.ses).2 = Option.none := of_decide_eq_true ends
    rw [closed] at none
    obtain rfl : result = Option.none := none
    have frame := Frame.of_result closeMqChannel_frame closed
    rintro ⟨d, pub', able, _⟩
    have pub' : w.ses.channelPub = some d := frame.channelPub.symm.trans pub'
    rw [closeMqChannel_closed closed running pub'] at able
    cases able
  | @transport i te t _ _ stepped =>
    obtain ⟨rfl, rfl⟩ := of_decide_eq_true ends
    rintro ⟨d, pub', _, _, made⟩
    obtain rfl := Option.some.inj (pub.symm.trans pub')
    obtain ⟨n, before, atMost⟩ := fetches.channels c inside
    cases Tcp.step_took stepped with
    | created constructing =>
      have new := (older _ n before).2 constructing
      simp [World.getConnection, World.setTcp, Tcp.getConnection] at made
      omega
  | started =>
    rintro ⟨d, pub', _, current, made⟩
    obtain rfl := Option.some.inj (pub.symm.trans pub')
    have fresh := unstarted.later _ (Nat.le_of_eq (Option.some.inj current))
    simp only [World.getConnection, fresh] at made
    cases made
  | finitFaulted finit =>
    rcases finit with ⟨rfl, _⟩ | ⟨rfl, _⟩ | ⟨rfl, _⟩ <;> cases ends
  | _ => cases ends

theorem steady_unended {w v : World} {e : Event} (taken : step lib w e = some v)
    (unended : endsPublish lib w e = false) (c : Nat) (pub : w.ses.channelPub = some c) :
    v.getConnection (w.ses.channels c).connection.tcpMgr =
      w.getConnection (w.ses.channels c).connection.tcpMgr := by
  rcases getConnection_step (w.ses.channels c).connection.tcpMgr taken with same | rfl
  · exact same
  · simp [endsPublish, pub, endsChannel] at unended

theorem confirmOpen_pubKept (c : Nat) (s : RmqMgrBase) : PubKept s (confirmOpen c s) := by
  refine pubKept_setChannel s.handling fun _ => ⟨?_, rfl⟩
  have same := confirmOpen_usable c c s
  rwa [confirmOpen, setChannel_self] at same

theorem unended_kept {w v : World} {e : Event} (roles : Roles w.ses)
    (taken : step lib w e = some v) (unended : endsPublish lib w e = false)
    (makes : ∀ c, e = .reportReady c → (w.ses.channels c).role = .publish) :
    PubKept w.ses v.ses := by
  have spares (c : Nat) (pub : w.ses.channelPub = some c) :
      endsChannel lib w c (w.ses.channels c).connection e = false := by
    simpa [endsPublish, pub] using unended
  cases step_took taken with
  | transport | onData | waited | finitClose | finitStop | finitJoin => exact .refl w.ses
  | startFailed | timedOut | waitFaulted | finitFaulted =>
    exact ⟨rfl, fun _ _ => rfl, fun _ _ => rfl, fun _ _ => rfl, fun _ _ => rfl⟩
  | @onReady k =>
    refine ⟨rfl, fun _ _ => rfl, fun _ _ => rfl, fun c _ => ?_, fun _ _ => rfl⟩
    by_cases same : (w.ses.channels c).connection = k
    · simp [setReady, same]
    · simp [setReady, Function.update_of_ne same]
  | @onError k | @onClosed k =>
    refine ⟨rfl, fun _ _ => rfl, fun _ _ => rfl, fun c pub => ?_, fun _ _ => rfl⟩
    have other : (w.ses.channels c).connection ≠ k := Ne.symm (of_decide_eq_false (spares c pub))
    simp [setUsable, Function.update_of_ne other]
  | @reportReady c =>
    simp only [reportReady, makes c rfl]
    exact confirmOpen_pubKept c w.ses
  | @reportError c message =>
    have other (d : Nat) (pub : w.ses.channelPub = some d) : c ≠ d := of_decide_eq_false (spares d pub)
    have ended : PubKept w.ses (endChannel c w.ses) :=
      pubKept_setChannel w.ses.handling fun pub => absurd rfl (other c pub)
    have rolesEnded : Roles (endChannel c w.ses) := roles.setChannel c (by rfl) w.ses.handling
    exact ended.trans (effects_pubKept rolesEnded (reportError_effects c message w.ses)
      (reportError_channelPub c message w.ses))
  | @reportSuccess c => exact pubKept_setChannel w.ses.handling fun _ => ⟨rfl, rfl⟩
  | @reportClosed c =>
    exact pubKept_setChannel w.ses.handling fun pub =>
      absurd rfl (of_decide_eq_false (spares c pub) : c ≠ c)
  | @consumeRecvedCb c thrown deliveryTag =>
    exact .of_objects (consumeRecvedCb_frame thrown deliveryTag w.ses)
      (consumeRecvedCb_objects thrown deliveryTag w.ses)
  | started =>
    refine ⟨rfl, fun _ _ => rfl, fun _ _ => rfl, fun _ _ => rfl, fun c pub => ?_⟩
    have ends := spares c pub
    simp [endsChannel] at ends
  | getMqConnection =>
    simp only [getMqConnection]
    split <;> exact ⟨rfl, fun _ _ => rfl, fun _ _ => rfl, fun _ _ => rfl, fun _ _ => rfl⟩
  | startSucceeded _ result | channelFailed _ result =>
    have same : (createMqChannel lib w.getConnection w.ses).1.channelPub = w.ses.channelPub :=
      createMqChannel_channelPub w.ses
    rw [result] at same
    have kept := effects_pubKept roles (createMqChannel_result result) same
    exact ⟨kept.channelPub, kept.usable, kept.identity, kept.connection, kept.pTcpMgr⟩
  | @publishMsg msg s _ _ result =>
    have objects := @publishMsg_objects lib msg w.ses
    rw [result] at objects
    exact .of_objects (Frame.of_result (publishMsg_frame msg) result) objects
  | @releaseMqInstance s result _ _ _ closed =>
    cases result with
    | some err => exact closeMqChannel_failed roles closed
    | none =>
      have frame := Frame.of_result closeMqChannel_frame closed
      refine ⟨frame.channelPub, fun c pub => ?_, fun c _ => (frame.identity c).1, fun c pub => ?_,
        fun _ _ => frame.pTcpMgr⟩ <;>
      · have ends := spares c pub
        simp [endsChannel, closed] at ends
  | @closeMqConnection s result _ _ _ closed =>
    cases result with
    | some err => exact closeMqConnection_failed closed
    | none =>
      have frame := Frame.of_result closeMqConnection_frame closed
      have other (c : Nat) (pub : w.ses.channelPub = some c) :
          w.ses.connection ≠ some (w.ses.channels c).connection := by
        have ends := spares c pub
        simpa [endsChannel, closed] using ends
      have same (c : Nat) (pub : w.ses.channelPub = some c) :=
        @closeMqConnection_other lib _ _ (other c pub)
      rw [closed] at same
      exact ⟨frame.channelPub, fun c pub => by rw [(same c pub).1],
        fun c pub => by rw [(same c pub).1],
        fun c pub => by rw [(same c pub).2], fun _ _ => frame.pTcpMgr⟩

theorem fault_effects {s t : RmqMgrBase} (effects : Effects getConnection s t)
    (running : t.fault = false) : s.fault = false := by
  by_contra faulted
  have kept : t.fault = true := by
    refine effects.invariant (fun t => t.fault = true) ?_ (by simpa using faulted)
    intro u v effect before
    cases effect with
    | faulted => rfl
    | _ => exact before
  rw [running] at kept
  cases kept

theorem createMqPubChannel_makes {s : RmqMgrBase} {k : ConnId} (roles : Roles s)
    (connection : s.connection = some k) (opens : ∀ what, lib s.calls.length ≠ .threw what) :
    ∃ c, (createMqPubChannel lib s).channelPub = some c ∧
      ((createMqPubChannel lib s).channels c).usable = true ∧
      ((createMqPubChannel lib s).channels c).connection = k ∧
      (createMqPubChannel lib s).connections = s.connections ∧
      (createMqPubChannel lib s).pTcpMgr = s.pTcpMgr := by
  obtain ⟨channels, calls, replaces, made⟩ := construct_replaces .publish s.channelPub k s
  have created : createMqPubChannel lib s =
      { destruct s.channelPub (construct .publish k s) with channelPub := some s.channelCount } := by
    simp only [createMqPubChannel, connection]
  have new := replaces.new fun c same => (roles.channelPub c same).1
  have usable : (channels s.channelCount).usable = true := by rw [new]; rfl
  have same : (channels s.channelCount).connection = k := by rw [new]
  rw [created, made]
  exact ⟨s.channelCount, rfl, usable, same, rfl, rfl⟩

theorem createMqPubChannel_refused {s : RmqMgrBase} {k : ConnId} {what : String}
    (connection : s.connection = some k) (threw : lib s.calls.length = .threw what) :
    PubKept s (createMqPubChannel lib s) := by
  simp only [createMqPubChannel, connection, threw]
  exact ⟨rfl, fun _ _ => rfl, fun _ _ => rfl, fun _ _ => rfl, fun _ _ => rfl⟩

theorem reportReady_pub {c : Nat} {s : RmqMgrBase} (roles : Roles s)
    (consumer : (s.channels c).role = .consumer) :
    ∃ start p, start = onStatusChange true { confirmOpen c s with handling := some c } ∧
      p = createMqPubChannel lib start ∧ PubKept s start ∧ Roles start ∧
      PubKept p (reportReady lib getConnection c s) ∧
      ((reportReady lib getConnection c s).fault = false → p.fault = false) := by
  have rolesStart : Roles (onStatusChange true { confirmOpen c s with handling := some c }) := by
    have opened : Roles { confirmOpen c s with handling := some c } :=
      roles.setChannel c (by rfl) _
    exact ⟨opened.channel, opened.channelPub⟩
  have effects : Effects getConnection
      (createMqPubChannel lib (onStatusChange true { confirmOpen c s with handling := some c }))
      (channelOkCb lib getConnection { confirmOpen c s with handling := some c }) :=
    channelOkCb_setUps _
  have rolesMade := rolesStart.through (@createMqPubChannel_effects lib getConnection _)
  have kept := effects_pubKept rolesMade effects (channelOkCb_channelPub _)
  refine ⟨_, _, rfl, rfl, ?_, rolesStart, ?_, ?_⟩
  · have opened := confirmOpen_pubKept c s
    exact ⟨opened.channelPub, opened.usable, opened.identity, opened.connection, opened.pTcpMgr⟩
  · simp only [reportReady, consumer]
    exact ⟨kept.channelPub, kept.usable, kept.identity, kept.connection, kept.pTcpMgr⟩
  · simp only [reportReady, consumer]
    exact fault_effects effects

theorem notePublish_ready {w v : World} {c : Nat} {stands : Bool} (roles : Roles w.ses)
    (consumer : (w.ses.channels c).role = .consumer) (before : stands = true ↔ Sendable w)
    (taken : step lib w (.reportReady c) = some v) (running : v.ses.fault = false) :
    notePublish lib w (.reportReady c) v stands = true ↔ Sendable v := by
  have steady (i : Nat) : v.getConnection i = w.getConnection i :=
    (getConnection_step i taken).resolve_right (by simp)
  have sesV : v.ses = reportReady lib w.getConnection c w.ses := by
    cases step_took taken with
    | reportReady => rfl
    | finitFaulted finit => simp at finit
  obtain ⟨start, p, startEq, pEq, toStart, rolesStart, toEnd, faults⟩ :=
    @reportReady_pub lib w.getConnection c w.ses roles consumer
  rw [← sesV] at toEnd faults
  have unended : endsPublish lib w (.reportReady c) = false := by
    simp [endsPublish, endsChannel]
  have connection : start.connection = w.ses.connection := by rw [startEq]; rfl
  have calls : start.calls = w.ses.calls := by rw [startEq]; rfl
  cases some : w.ses.connection with
  | none =>
    have faulted : p.fault = true := by
      rw [pEq, createMqPubChannel, connection, some]
      rfl
    rw [faults running] at faulted
    cases faulted
  | some k =>
    rw [some] at connection
    by_cases threw : ∃ what, lib w.ses.calls.length = .threw what
    · obtain ⟨what, threw⟩ := threw
      have kept : PubKept w.ses v.ses := by
        refine (toStart.trans ?_).trans toEnd
        rw [pEq]
        exact createMqPubChannel_refused connection (calls ▸ threw)
      simp only [notePublish, consumer, some, threw, unended, Bool.not_false, Bool.and_true]
      exact before.trans (sendable_kept kept fun _ _ => steady _).symm
    · have opens : ∀ what, lib start.calls.length ≠ .threw what := by
        rw [calls]
        exact fun what same => threw ⟨what, same⟩
      obtain ⟨d, pub, usable, made, connections, pTcpMgr⟩ :=
        createMqPubChannel_makes rolesStart connection opens
      rw [← pEq] at pub usable made connections pTcpMgr
      have noted : notePublish lib w (.reportReady c) v stands =
          (connectionUsable w.ses && decide (w.current k)) := by
        simp only [notePublish, consumer, some]
        split <;> simp_all
      have usableK : connectionUsable w.ses = (w.ses.connections k).usable := by
        simp only [connectionUsable, some]
      have able : sends d v.ses = (w.ses.connections k).usable := by
        have objects : start.connections = w.ses.connections := by rw [startEq]; rfl
        have later := toEnd.connection d pub
        rw [made, connections, objects] at later
        rw [sends, toEnd.usable d pub, usable, toEnd.identity d pub, made, later, Bool.true_and]
      have currently : v.current (v.ses.channels d).connection ↔ w.current k := by
        have same : v.ses.pTcpMgr = w.ses.pTcpMgr := by
          rw [toEnd.pTcpMgr d pub, pTcpMgr, startEq]
          rfl
        rw [toEnd.identity d pub, made, World.current, World.current, same, steady]
      rw [noted, Bool.and_eq_true, decide_eq_true_eq, usableK, ← able, ← currently]
      constructor
      · rintro ⟨able, current⟩
        exact ⟨d, toEnd.channelPub.trans pub, able, current⟩
      · rintro ⟨d', pub', able, current⟩
        obtain rfl := Option.some.inj (pub.symm.trans (toEnd.channelPub.symm.trans pub'))
        exact ⟨able, current⟩

theorem notePublish_step {w v : World} {e : Event} {stands : Bool}
    (fetches : Fetches w.getConnection w.ses) (older : ∀ i, Tcp.Older (w.tcps i))
    (unstarted : Unstarted w) (taken : step lib w e = some v) (running : v.ses.fault = false)
    (before : stands = true ↔ Sendable w) :
    notePublish lib w e v stands = true ↔ Sendable v := by
  have carried (makes : ∀ c, e = .reportReady c → (w.ses.channels c).role = .publish) :
      (stands && !endsPublish lib w e) = true ↔ Sendable v := by
    cases ended : endsPublish lib w e with
    | true =>
      have lost := ended_unsendable fetches older unstarted taken running ended
      simp [lost]
    | false =>
      have kept := unended_kept fetches.roles taken ended makes
      simp only [Bool.not_false, Bool.and_true]
      exact before.trans (sendable_kept kept (steady_unended taken ended)).symm
  cases e with
  | reportReady c =>
    cases role : (w.ses.channels c).role with
    | consumer => exact notePublish_ready fetches.roles role before taken running
    | publish =>
      have noted : notePublish lib w (.reportReady c) v stands =
          (stands && !endsPublish lib w (.reportReady c)) := by
        simp only [notePublish, role]
      rw [noted]
      exact carried fun d same => (by cases same; exact role)
  | _ => exact carried fun d same => nomatch same

structure Recorded (t : Traced World Bool) : Prop where
  fetches : Fetches t.now.getConnection t.now.ses
  unstarted : Unstarted t.now
  stands : t.now.ses.fault = false → (t.past = true ↔ Sendable t.now)

theorem reachable_recorded {mqInfo : MqInfo} {t : Traced World Bool}
    (reached : Reachable (traced (step lib) (notePublish lib)) ⟨World.start mqInfo, false⟩ t) :
    Recorded t := by
  refine reached.invariant Recorded ?_ ?_
  · refine ⟨⟨⟨?_, ?_⟩, ?_, ?_⟩, ⟨fun _ _ => rfl, ?_⟩, ?_⟩
    · exact fun c some => nomatch some
    · exact fun c some => nomatch some
    · exact fun k some => nomatch some
    · exact fun c inside => absurd inside (Nat.not_lt_zero c)
    · exact fun i some => nomatch some
    · simp [Sendable, World.start]
  · intro t e u reached held _ taken
    obtain ⟨stepped, noted⟩ := traced_step taken
    have older (i : Nat) : Tcp.Older (t.now.tcps i) :=
      Tcp.reachable_older (reach_transport (fun _ _ _ _ _ _ => trivial) reached.untraced i)
    refine ⟨fetches_step older held.fetches stepped, unstarted_step held.unstarted stepped, ?_⟩
    intro running
    rw [noted]
    exact notePublish_step held.fetches older held.unstarted stepped running
      (held.stands (step_running stepped))

theorem publishOk_iff {msg : List UInt8} {w : World} (running : w.ses.fault = false) :
    PublishOk lib msg w ↔
      (w.ses.channelPub ≠ none ∧ ∃ what, lib w.ses.calls.length = .threw what) ∨ Sendable w := by
  constructor
  · rintro ⟨returns, succeeds, _⟩
    cases pub : w.ses.channelPub with
    | none =>
      simp only [publishMsg, pub] at returns
      cases returns
    | some c =>
      by_cases threw : ∃ what, lib w.ses.calls.length = .threw what
      · exact .inl ⟨by simp, threw⟩
      · refine .inr (succeeds ?_)
        simp only [publishMsg, pub]
        split
        next what same => exact absurd ⟨what, same⟩ threw
        next => rfl
  · intro able
    have channelPub : w.ses.channelPub ≠ none := by
      rcases able with ⟨pub, _⟩ | ⟨c, pub, _⟩
      · exact pub
      · rw [show w.ses.channelPub = some c from pub]
        simp
    obtain ⟨c, pub⟩ := Option.ne_none_iff_exists'.mp channelPub
    refine ⟨(publishMsg_fault channelPub).trans running, fun succeeded => ?_, fun err failed => ?_⟩
    · rcases able with ⟨_, what, threw⟩ | sendable
      · simp [publishMsg, pub, threw] at succeeded
      · exact sendable
    · simp only [publishMsg, pub] at failed
      split at failed
      next what _ =>
        obtain rfl := Option.some.inj failed
        simp
      next => cases failed

theorem publish_reports {mqInfo : MqInfo} {t : Traced World Bool}
    (reached : Reachable (traced (step lib) (notePublish lib)) ⟨World.start mqInfo, false⟩ t)
    (running : t.now.ses.fault = false) (msg : List UInt8) :
    PublishOk lib msg t.now ↔
      (t.now.ses.channelPub ≠ none ∧ ∃ what, lib t.now.ses.calls.length = .threw what) ∨
        t.past = true := by
  rw [publishOk_iff running, (reachable_recorded reached).stands running]

open Run

theorem set_up_publishes :
    ∃ t, (Reachable (traced (step accepting) (notePublish accepting))
        ⟨World.start fanout, false⟩ t ∧ t.past = true) ∧ PublishOk accepting [7] t.now := by
  have ran : ∃ t, Reachable (traced (step accepting) (notePublish accepting))
      ⟨World.start fanout, false⟩ t ∧ t.past = true ∧ t.now.ses.fault = false :=
    run_reaches (startAndLogIn ++ channelOpens 0) (by decide +kernel)
  obtain ⟨t, reached, stands, running⟩ := ran
  exact ⟨t, ⟨reached, stands⟩, (publish_reports reached running [7]).mpr (.inr stands)⟩

def publishChannelFails : List Event :=
  parsing ++ [.reportError 1 "PRECONDITION_FAILED", parsed, runs]

theorem publish_on_ended_channel :
    ∃ w, Reachable (step accepting) (World.start fanout) w ∧
      (step accepting w (.publishMsg [7])).isSome = true ∧
      (publishMsg accepting [7] w.ses).2 = none ∧ ¬ PublishOk accepting [7] w := by
  have ran : ∃ w, Reachable (step accepting) (World.start fanout) w ∧
      (step accepting w (.publishMsg [7])).isSome = true ∧
      (publishMsg accepting [7] w.ses).2 = none ∧ ¬ Sendable w :=
    run_reaches (startAndLogIn ++ channelOpens 0 ++ publishChannelFails) (by decide +kernel)
  obtain ⟨w, reached, called, succeeded, unsendable⟩ := ran
  exact ⟨w, reached, called, succeeded, fun held => unsendable (held.succeeds succeeded)⟩

end RmqMgr.Session
