import RmqMgr.Session.SessionStep
import RmqMgr.Shared.History
import RmqMgr.Tcp.Written

set_option autoImplicit false

-- `Finit` posts the close of the socket and stops the worker without waiting for it, so what the
-- worker had done by then decides what was written.

namespace RmqMgr.Session

open Transition
open Tcp (TcpMgr)

variable {lib : Library}

structure Handed where
  tcpMgr : Nat
  posting : Tcp.Posting
  msg : Tcp.Message
  deriving DecidableEq, Repr

/-- The record of a run: the messages handed to `onData`, those handed before the latest `Finit`,
whether a `StartCloseSocket` has run since, and whether `m_ios.stop()` was called in a settled
state. -/
structure Finit where
  handed : List Handed := []
  before : List Handed := []
  closed : Bool := false
  settled : Bool := false

def handedTo (i : Nat) (handed : List Handed) : List Tcp.Message :=
  (handed.filter fun m => m.tcpMgr = i).map Handed.msg

def left (h : Finit) (i : Nat) (s : TcpMgr) : Nat :=
  (handedTo i h.before).length - s.finished.length

/-- All messages from before `Finit` were posted and one of them at most is left, and a
`StartCloseSocket` has run and left no socket open. -/
def Settles (h : Finit) (i : Nat) (s : TcpMgr) : Prop :=
  (∀ m ∈ h.before, m.tcpMgr = i → m.posting = .posted) ∧ left h i s ≤ 1 ∧ h.closed = true ∧
    s.socketStarted = false

instance (h : Finit) (i : Nat) (s : TcpMgr) : Decidable (Settles h i s) :=
  inferInstanceAs (Decidable (_ ∧ _ ∧ _ ∧ _))

def noteFinit (w : World) (e : Event) (_ : World) (h : Finit) : Finit :=
  match e with
  | .onData k posting data =>
    { h with handed := h.handed ++ [⟨k.tcpMgr, posting, ⟨k.number, data⟩⟩] }
  | .finitClose => { h with before := h.handed, closed := false }
  | .transport i e =>
    { h with
      closed := h.closed ||
        decide (w.ses.pTcpMgr = some i ∧ Tcp.Runs (w.tcps i) e .startCloseSocket) }
  | .finitStop => { h with settled := w.ses.pTcpMgr.any fun i => Settles h i (w.tcps i) }
  | _ => h

structure Flushed (h : Finit) (i : Nat) (s : TcpMgr) : Prop where
  posted : ∀ m ∈ h.before, m.tcpMgr = i → m.posting = .posted
  written : handedTo i h.before <+: s.written
  closed : h.closed = true
  socket : s.socketStarted = false

def postedTo (i : Nat) (handed : List Handed) : List Tcp.Message :=
  handedTo i (handed.filter fun m => m.posting = .posted)

structure Released (t : Traced World Finit) : Prop where
  posted : ∀ i, (t.now.tcps i).posted = postedTo i t.past.handed
  before : t.past.before <+: t.past.handed
  stopped : ∀ i, t.now.user = .finitJoin → t.now.ses.pTcpMgr = some i →
    (t.now.tcps i).stopped = true ∧
      (t.past.settled = true ↔ Settles t.past i (t.now.tcps i))

theorem target_onData {w v : World} {e : Event} {i : Nat} {posting : Tcp.Posting}
    {msg : Tcp.Message} (taken : step lib w e = some v)
    (target : w.target e = some (i, .onData posting msg)) :
    ∃ k data, e = .onData k posting data := by
  cases e with
  | onData k posting' data =>
    obtain ⟨_, same⟩ := Prod.mk.inj (Option.some.inj target)
    obtain ⟨rfl, _⟩ := Tcp.Event.onData.inj same
    exact ⟨k, data, rfl⟩
  | transport j te =>
    obtain ⟨rfl, rfl⟩ := Prod.mk.inj (Option.some.inj target)
    cases step_took taken with
    | transport _ moves => cases moves
    | finitFaulted finit => simp at finit
  | _ => simp [World.target] at target

theorem handed_step {w v : World} {e : Event} {h : Finit}
    (posted : ∀ i, (w.tcps i).posted = postedTo i h.handed) (taken : step lib w e = some v)
    (i : Nat) : (v.tcps i).posted = postedTo i (noteFinit w e v h).handed := by
  have moved := step_target taken
  cases e with
  | onData k posting data =>
    obtain ⟨t, stepped, tcps⟩ := moved
    have grown := Tcp.posted_of_step stepped
    rw [tcps]
    by_cases same : i = k.tcpMgr
    · subst same
      rw [Function.update_self, grown, posted]
      cases posting <;> simp [noteFinit, postedTo, handedTo]
    · rw [Function.update_of_ne same, posted]
      cases posting <;> simp [noteFinit, postedTo, handedTo, Ne.symm same]
  | _ =>
    have kept : (v.tcps i).posted = (w.tcps i).posted := by
      rcases step_tcp i taken with same | ⟨te, target, stepped⟩
      · rw [same]
      · rw [Tcp.posted_of_step stepped]
        cases te with
        | onData =>
          obtain ⟨k, data, other⟩ := target_onData taken target
          cases other
        | _ => exact List.append_nil _
    rw [kept, posted]
    rfl

theorem before_step {w v : World} {e : Event} {h : Finit} (before : h.before <+: h.handed) :
    (noteFinit w e v h).before <+: (noteFinit w e v h).handed := by
  cases e with
  | onData => exact before.trans (List.prefix_append _ _)
  | finitClose => exact List.prefix_rfl
  | _ => exact before

theorem joining_step {w v : World} {e : Event} {i : Nat} (taken : step lib w e = some v)
    (joining : v.user = .finitJoin) (current : v.ses.pTcpMgr = some i) :
    e = .finitStop ∨
      w.user = .finitJoin ∧ w.ses.pTcpMgr = some i ∧ e ≠ .finitClose ∧ e ≠ .finitStop := by
  have same : v.ses.pTcpMgr = w.ses.pTcpMgr ∨ e = .startMqInstance none :=
    (pTcpMgr_step taken).imp_right And.left
  cases step_took taken with
  | finitStop => exact .inl rfl
  | finitFaulted finit none =>
    rw [show w.ses.pTcpMgr = some i from current] at none
    cases none
  | startFailed | started | waited | timedOut | getMqConnection | startSucceeded | channelFailed
  | publishMsg | finitClose | finitJoin => cases joining
  | releaseMqInstance _ _ next | closeMqConnection _ _ next =>
    rcases next with rfl | rfl <;> cases joining
  | waitFaulted waiting =>
    rw [show w.user = .finitJoin from joining] at waiting
    cases waiting
  | _ => exact .inr ⟨joining, (same.resolve_right (by simp)).symm.trans current, by simp, by simp⟩

theorem settles_kept {h : Finit} {i : Nat} {s t : TcpMgr} {closed : Bool} (settled : Bool)
    (kept : t.finished = s.finished ∧ t.socketStarted = s.socketStarted) (same : closed = h.closed)
    (handed : List Handed) :
    Settles ⟨handed, h.before, closed, settled⟩ i t ↔ Settles h i s := by
  rw [Settles, Settles, left, left, kept.1, kept.2, same]

theorem released_step {t u : Traced World Finit} {e : Event} (released : Released t)
    (taken : traced (step lib) noteFinit t e = some u) : Released u := by
  obtain ⟨stepped, noted⟩ := traced_step taken
  obtain ⟨posted, before, stopped⟩ := released
  refine ⟨?_, ?_, ?_⟩
  · rw [noted]
    exact handed_step posted stepped
  · rw [noted]
    exact before_step before
  · intro i joining current
    rw [noted]
    rcases joining_step stepped joining current with rfl | ⟨joining, current, opens, stops⟩
    · have same : t.now.ses.pTcpMgr = some i := by
        rcases pTcpMgr_step stepped with same | ⟨other, _⟩
        · exact same.symm.trans current
        · cases other
      have moved := step_target stepped
      simp only [World.target, same, Option.map_some] at moved
      obtain ⟨s, stops, tcps⟩ := moved
      obtain rfl := Option.some.inj stops
      simp only [tcps, Function.update_self, noteFinit, same, Option.any_some, decide_eq_true_eq,
        true_and]
      exact (settles_kept _ ⟨rfl, rfl⟩ rfl _).symm
    · obtain ⟨halted, settled⟩ := stopped i joining current
      have kept : (u.now.tcps i).stopped = true ∧
          (u.now.tcps i).finished = (t.now.tcps i).finished ∧
          (u.now.tcps i).socketStarted = (t.now.tcps i).socketStarted := by
        rcases step_tcp i stepped with same | ⟨te, _, moved⟩
        · exact ⟨by rw [same]; exact halted, by rw [same], by rw [same]⟩
        · exact ⟨(Tcp.stopped_step moved halted).1, Tcp.stopped_kept moved halted⟩
      refine ⟨kept.1, ?_⟩
      cases e with
      | finitClose => exact absurd rfl opens
      | finitStop => exact absurd rfl stops
      | transport j te =>
        have waits :
            ¬ (t.now.ses.pTcpMgr = some j ∧ Tcp.Runs (t.now.tcps j) te .startCloseSocket) := by
          rintro ⟨same, run, _⟩
          obtain rfl := Option.some.inj (current.symm.trans same)
          obtain ⟨s, moved, _⟩ := step_target stepped
          rw [Tcp.run_unstopped moved run] at halted
          cases halted
        have closed : (noteFinit t.now (.transport j te) u.now t.past).closed = t.past.closed := by
          simp [noteFinit, waits]
        exact settled.trans (settles_kept _ kept.2 closed _).symm
      | _ => exact settled.trans (settles_kept _ kept.2 rfl _).symm

theorem reachable_released {mqInfo : MqInfo} {t : Traced World Finit}
    (reached : Reachable (traced (step lib) noteFinit) ⟨World.start mqInfo, {}⟩ t) : Released t := by
  refine reached.invariant Released ⟨fun _ => rfl, List.prefix_rfl, ?_⟩
    fun _ _ _ _ released _ taken => released_step released taken
  exact fun i joining => nomatch joining

theorem Released.handed {t : Traced World Finit} {i : Nat} (released : Released t)
    (posted : ∀ m ∈ t.past.before, m.tcpMgr = i → m.posting = .posted) :
    handedTo i t.past.before <+: (t.now.tcps i).posted := by
  have all : postedTo i t.past.before = handedTo i t.past.before := by
    unfold postedTo handedTo
    rw [List.filter_filter]
    refine congrArg _ (List.filter_congr fun m member => ?_)
    by_cases same : m.tcpMgr = i <;> simp [same, posted m member]
  rw [released.posted, ← all]
  exact ((released.before.filter _).filter _).map _

theorem release_flushes {mqInfo : MqInfo} {t : Traced World Finit} {v : World} {i : Nat}
    (reached : Reachable (traced (step lib) noteFinit) ⟨World.start mqInfo, {}⟩ t)
    (returned : step lib t.now .finitJoin = some v) (current : t.now.ses.pTcpMgr = some i) :
    Flushed t.past i (v.tcps i) ↔
      t.past.settled = true ∧ left t.past i (t.now.tcps i) ≤ Tcp.landed (t.now.tcps i) := by
  have released := reachable_released reached
  have transport : Reachable Tcp.step .started (t.now.tcps i) :=
    reach_transport (fun _ _ _ _ _ _ => trivial) reached.untraced i
  have one := Tcp.landed_one (Tcp.reachable_inFlight transport)
  have same : v.tcps = t.now.tcps := step_target returned
  have joining : t.now.user = .finitJoin := by
    cases step_took returned with
    | finitJoin joining => exact joining
    | finitFaulted finit => simpa using finit
  obtain ⟨_, settled⟩ := released.stopped i joining current
  rw [settled, same]
  constructor
  · rintro ⟨posted, written, closed, socket⟩
    have popped := (Tcp.written_iff transport (released.handed posted)).mp written
    have few : left t.past i (t.now.tcps i) ≤ Tcp.landed (t.now.tcps i) := by
      unfold left
      omega
    exact ⟨⟨posted, Nat.le_trans few one, closed, socket⟩, few⟩
  · rintro ⟨⟨posted, _, closed, socket⟩, few⟩
    refine ⟨posted, (Tcp.written_iff transport (released.handed posted)).mpr ?_, closed, socket⟩
    unfold left at few
    omega

open Run

def releases : List Event :=
  [.onData ⟨0, 1⟩ .posted [7], .releaseMqInstance, .closeMqConnection, .finitClose]

def worksOff : List Event :=
  [runs, .transport 0 (.writeDone ⟨1, ⟨1, [7]⟩⟩ none),
    .transport 0 (.runNext [.handleRecv Tcp.operationAborted 0]), runs]

theorem settled_release_flushes :
    ∃ t v, (Reachable (traced (step accepting) noteFinit) ⟨World.start fanout, {}⟩ t ∧
        step accepting t.now .finitJoin = some v ∧ t.now.ses.pTcpMgr = some 0 ∧
        t.past.before = [⟨0, .posted, ⟨1, [7]⟩⟩]) ∧ Flushed t.past 0 (v.tcps 0) := by
  have ran : ∃ t, Reachable (traced (step accepting) noteFinit) ⟨World.start fanout, {}⟩ t ∧
      ((step accepting t.now .finitJoin).isSome = true ∧ t.now.ses.pTcpMgr = some 0 ∧
        t.past.before = [⟨0, .posted, ⟨1, [7]⟩⟩]) ∧
      t.past.settled = true ∧ left t.past 0 (t.now.tcps 0) ≤ Tcp.landed (t.now.tcps 0) :=
    run_reaches (startAndLogIn ++ channelOpens 0 ++ releases ++ worksOff ++ [.finitStop])
      (by decide +kernel)
  obtain ⟨t, reached, ⟨enabled, current, handed⟩, settled⟩ := ran
  obtain ⟨v, returned⟩ := Option.isSome_iff_exists.mp enabled
  exact ⟨t, v, ⟨reached, returned, current, handed⟩,
    (release_flushes reached returned current).mpr settled⟩

theorem release_drops_message :
    ∃ t v, Reachable (traced (step accepting) noteFinit) ⟨World.start fanout, {}⟩ t ∧
      step accepting t.now .finitJoin = some v ∧ (t.now.tcps 0).up = true ∧
      t.past.before = [⟨0, .posted, ⟨1, [7]⟩⟩] ∧ (v.tcps 0).written = [] ∧
      ¬ Flushed t.past 0 (v.tcps 0) := by
  have ran : ∃ t, Reachable (traced (step accepting) noteFinit) ⟨World.start fanout, {}⟩ t ∧
      (step accepting t.now .finitJoin).any (fun v => (v.tcps 0).written = []) = true ∧
      (t.now.tcps 0).up = true ∧ t.past.before = [⟨0, .posted, ⟨1, [7]⟩⟩] ∧
      t.past.closed = false :=
    run_reaches (startAndLogIn ++ channelOpens 0 ++ releases ++ [.finitStop]) (by decide +kernel)
  obtain ⟨t, reached, returns, up, handed, unclosed⟩ := ran
  obtain ⟨v, returned, written⟩ := (Option.any_eq_true _ _).mp returns
  refine ⟨t, v, reached, returned, up, handed, of_decide_eq_true written, fun flushed => ?_⟩
  rw [flushed.closed] at unclosed
  cases unclosed

end RmqMgr.Session
