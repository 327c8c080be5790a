import RmqMgr.Tcp.InFlight

set_option autoImplicit false

namespace RmqMgr.Tcp

open HeadQueue Transition

def Handler.message : Handler → Option Message
  | .sendMsg pmsg => some pmsg
  | _ => none

def Handler.isSend : Handler → Bool
  | .sendMsg _ => true
  | .handleWrite _ => true
  | _ => false

def queued (s : TcpMgr) : List Message :=
  s.strand.filterMap Handler.message

theorem aborted_messages (s : TcpMgr) : (aborted s).filterMap Handler.message = [] := by
  rw [List.filterMap_eq_nil_iff]
  intro h member
  simp only [aborted, List.mem_append, List.mem_map, List.mem_replicate] at member
  rcases member with (⟨_, _, rfl⟩ | ⟨_, _, rfl⟩) | ⟨_, rfl⟩ <;> rfl

theorem posted_step {s t : TcpMgr} {e : Event} (ordered : s.posted = s.accepted ++ queued s)
    (taken : step s e = some t) : t.posted = t.accepted ++ queued t := by
  cases step_took taken with
  | closed waiting idle live abort =>
    have none : List.filterMap Handler.message _ = [] :=
      List.Perm.eq_nil (aborted_messages s ▸ abort.filterMap Handler.message)
    simp [ordered, queued, waiting, none, Handler.message, List.filterMap_cons]
  | _ => simp [queued, Handler.message, List.filterMap_cons, *]

theorem reachable_posted {s : TcpMgr} (reached : Reachable step .started s) :
    s.posted = s.accepted ++ queued s :=
  reached.invariant (fun s => s.posted = s.accepted ++ queued s) rfl
    fun _ _ _ _ ordered _ taken => posted_step ordered taken

theorem passed_fifo {s : TcpMgr} (reached : Reachable step .started s) :
    s.passed.map WriteOp.msg <+: s.posted := by
  have accepted : s.passed.map WriteOp.msg <+: s.accepted :=
    (reachable_inFlight reached).ordered.started_fifo
  rw [reachable_posted reached]
  exact accepted.trans (List.prefix_append _ _)

def Event.failsWrite : Event → Bool
  | .writeDone _ (some _) => true
  | _ => false

def Closes (s : TcpMgr) (e : Event) : Prop :=
  Runs s e .startCloseSocket ∧ s.socketStarted = true

instance (s : TcpMgr) (e : Event) : Decidable (Closes s e) :=
  inferInstanceAs (Decidable (_ ∧ _))

def writesHold (s : TcpMgr) (e : Event) : Prop :=
  e.failsWrite = false ∧ ¬ Closes s e

instance (s : TcpMgr) (e : Event) : Decidable (writesHold s e) :=
  inferInstanceAs (Decidable (_ ∧ _))

structure Writing (s : TcpMgr) : Prop where
  intact : ∀ message, Handler.handleWrite (some message) ∉ s.strand
  flowing : ¬ (sendLedger s).Stuck
  once : s.written ++ s.writes.map WriteOp.msg = s.passed.map WriteOp.msg

theorem intact_step {s t : TcpMgr} {e : Event}
    (intact : ∀ message, Handler.handleWrite (some message) ∉ s.strand)
    (holds : writesHold s e) (taken : step s e = some t) (message : String) :
    Handler.handleWrite (some message) ∉ t.strand := by
  have before := intact message
  cases step_took taken with
  | closed waiting idle live =>
    exact absurd ⟨.of_strand waiting, live⟩ holds.2
  | @writeDone op err outstanding =>
    cases err with
    | none => simpa using before
    | some failure => cases holds.1
  | _ => simp_all

theorem writes_one {s : TcpMgr} {op : WriteOp} (flight : InFlight s) (outstanding : op ∈ s.writes) :
    s.writes.length = 1 := by
  have some := List.length_pos_of_mem outstanding
  have bound := flight.oneWrite
  unfold writesInFlight at bound
  omega

theorem once_step {s t : TcpMgr} {e : Event} (flight : InFlight s)
    (once : s.written ++ s.writes.map WriteOp.msg = s.passed.map WriteOp.msg)
    (holds : writesHold s e) (taken : step s e = some t) :
    t.written ++ t.writes.map WriteOp.msg = t.passed.map WriteOp.msg := by
  cases step_took taken with
  | sendStarted | sendNext => simp [← once]
  | closed waiting idle live =>
    exact absurd ⟨.of_strand waiting, live⟩ holds.2
  | @writeDone op err outstanding =>
    have only : s.writes = [op] := by
      obtain ⟨w, single⟩ := List.length_eq_one_iff.mp (writes_one flight outstanding)
      rw [single] at outstanding ⊢
      rw [List.mem_singleton.mp outstanding]
    cases err with
    | none => simp [← once, only]
    | some failure => cases holds.1
  | _ => exact once

theorem flowing_step {s t : TcpMgr} {e : Event} (flight : InFlight s) (writing : Writing s)
    (taken : step s e = some t) : ¬ (sendLedger t).Stuck := by
  intro stuck
  have failed := (send_step flight.oneWrite flight.sendHead taken).stuck writing.flowing stuck
  -- A failure is the run of a failing `HandleWrite`, and there is none on the strand.
  cases step_took taken with
  | sendFailed waiting =>
    have absent := writing.intact
    rw [waiting] at absent
    exact absent _ (List.mem_cons_self ..)
  | _ => simp [sendOp, *] at failed

theorem writing_step {s t : TcpMgr} {e : Event} (flight : InFlight s) (writing : Writing s)
    (holds : writesHold s e) (taken : step s e = some t) : Writing t where
  intact := intact_step writing.intact holds taken
  flowing := flowing_step flight writing taken
  once := once_step flight writing.once holds taken

theorem guarded_writing {s : TcpMgr} (reached : Reach step writesHold .started s) :
    Writing s := by
  refine reached.invariant Writing ?_ fun _ _ _ before writing holds taken =>
    writing_step (reachable_inFlight before.reachable) writing holds taken
  refine ⟨?_, by decide, rfl⟩
  intro message posted
  cases posted

structure FifoOnce (s : TcpMgr) : Prop where
  fifo : s.passed.map WriteOp.msg <+: s.posted
  once : s.written ++ s.writes.map WriteOp.msg = s.passed.map WriteOp.msg
  single : s.writes.length ≤ 1
  drained : (∀ h ∈ s.strand, h.isSend = false) → s.writes = [] →
    s.pendingSends = [] ∧ s.passed.map WriteOp.msg = s.posted ∧ s.written = s.posted

theorem at_rest {s : TcpMgr} (quiet : ∀ h ∈ s.strand, h.isSend = false) (none : s.writes = []) :
    queued s = [] ∧ (sendLedger s).active = false := by
  have messages : queued s = [] := by
    unfold queued
    rw [List.filterMap_eq_nil_iff]
    intro h posted
    have other := quiet h posted
    cases h with
    | sendMsg pmsg => cases other
    | _ => rfl
  have handlers : s.strand.countP Handler.isWrite = 0 := by
    rw [List.countP_eq_zero]
    intro h posted
    have other := quiet h posted
    cases h with
    | handleWrite err => cases other
    | _ => simp [Handler.isWrite]
  refine ⟨messages, ?_⟩
  simp [sendLedger, Queue.counted, writesInFlight, none, handlers]

theorem sends_fifo_once {s : TcpMgr} (reached : Reach step writesHold .started s) :
    FifoOnce s := by
  have flight := reachable_inFlight reached.reachable
  have writing := guarded_writing reached
  refine ⟨passed_fifo reached.reachable, writing.once, ?_, ?_⟩
  · have bound := flight.oneWrite
    unfold writesInFlight at bound
    omega
  · intro quiet none
    obtain ⟨messages, inactive⟩ := at_rest quiet none
    obtain ⟨empty, started, _⟩ := flight.ordered.drained writing.flowing inactive
    have posted : s.accepted = s.posted := by
      rw [reachable_posted reached.reachable, messages, List.append_nil]
    have passed : s.passed.map WriteOp.msg = s.posted := started.trans posted
    have written := writing.once
    rw [none, List.map_nil, List.append_nil] at written
    exact ⟨empty, passed, written.trans passed⟩

def twoMessages : List Event :=
  [.connectDone none, .runNext [], .onData .posted ⟨1, [1, 2]⟩, .created, .runNext [],
    .onData .posted ⟨1, [3]⟩, .runNext [], .runNext [], .writeDone ⟨1, ⟨1, [1, 2]⟩⟩ none,
    .runNext [], .writeDone ⟨1, ⟨1, [3]⟩⟩ none, .runNext []]

theorem two_messages_fifo_once :
    ∃ s, (Reach step writesHold .started s ∧ s.written = [⟨1, [1, 2]⟩, ⟨1, [3]⟩]) ∧
      FifoOnce s := by
  have ran : ∃ s, Reach step writesHold .started s ∧ s.written = [⟨1, [1, 2]⟩, ⟨1, [3]⟩] :=
    run_reaches twoMessages (by decide +kernel)
  obtain ⟨s, reached, written⟩ := ran
  exact ⟨s, ⟨reached, written⟩, sends_fifo_once reached⟩

end RmqMgr.Tcp
