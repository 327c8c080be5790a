import RmqMgr.Tcp.Liveness
import RmqMgr.Tcp.SendOrder

set_option autoImplicit false

-- The lists survive a reconnect, and `onData` may be called on any connection object.

namespace RmqMgr.Tcp

open HeadQueue Transition

def unwritten (s : TcpMgr) : List Message :=
  s.pendingSends.tail ++ queued s

abbrev Blocked (s : TcpMgr) : Prop := (sendLedger s).Stuck

def Event.data : Event → Option Message
  | .onData _ msg => some msg
  | _ => none

/-- Only the current connection object hands over data, and a reconnect finds none left. -/
def ownData (s : TcpMgr) (e : Event) : Prop :=
  Blocked s ∨
    (∀ msg ∈ e.data, msg.producer = s.generation) ∧ (Connects s e → unwritten s = [])

instance (s : TcpMgr) (e : Event) : Decidable (ownData s e) :=
  inferInstanceAs (Decidable (_ ∨ _ ∧ _))

structure Isolated (s : TcpMgr) : Prop where
  passed : ∀ w ∈ s.passed, w.msg.producer = w.tcp
  own : ¬ Blocked s → ∀ m ∈ unwritten s, m.producer = s.generation

theorem blocked_stays {s t : TcpMgr} {e : Event} (flight : InFlight s) (taken : step s e = some t)
    (blocked : Blocked s) : Blocked t ∧ t.passed = s.passed := by
  have inactive := blocked.2
  constructor
  · exact (send_step flight.oneWrite flight.sendHead taken).keeps (fun l => l.Stuck)
      (fun _ _ stepped => (Queue.stuck_step blocked (Ledger.toQueue_step stepped)).1) blocked
  · cases step_took taken with
    | sendStarted waiting idle empty => exact absurd empty blocked.1
    | sendNext waiting idle next =>
      -- The queued `HandleWrite` would be in flight for the head.
      simp [sendLedger, Queue.counted, writesInFlight, waiting, Handler.isWrite] at inactive
    | _ => rfl

theorem unwritten_step {s t : TcpMgr} {e : Event} (taken : step s e = some t) :
    (unwritten t).Sublist (unwritten s ++ e.data.toList) := by
  cases step_took taken with
  | sendStarted waiting idle empty =>
    simp [unwritten, queued, waiting, empty, Handler.message, Event.data]
  | sendQueued waiting idle nonempty =>
    obtain ⟨head, rest, pending⟩ := List.exists_cons_of_ne_nil nonempty
    simp [unwritten, queued, waiting, pending, Handler.message, Event.data]
  | sendNext waiting idle next =>
    simp [unwritten, queued, waiting, next, Handler.message, List.filterMap_cons, Event.data]
  | posted => simp [unwritten, queued, Handler.message, Event.data]
  | closed waiting idle live abort =>
    have none : List.filterMap Handler.message _ = [] :=
      List.Perm.eq_nil (aborted_messages s ▸ abort.filterMap Handler.message)
    simp [unwritten, queued, waiting, none, Handler.message, List.filterMap_cons, Event.data]
  | _ => simp [unwritten, queued, Handler.message, List.filterMap_cons, Event.data, *]

theorem passed_step {s t : TcpMgr} {e : Event} (taken : step s e = some t) :
    t.passed = s.passed ∨ ∃ pmsg ∈ unwritten s, t.passed = s.passed ++ [⟨s.generation, pmsg⟩] := by
  cases step_took taken with
  | sendStarted waiting =>
    exact .inr ⟨_, by simp [unwritten, queued, waiting, Handler.message], rfl⟩
  | sendNext waiting idle next =>
    exact .inr ⟨_, by simp [unwritten, next], rfl⟩
  | _ => exact .inl rfl

theorem generation_step {s t : TcpMgr} {e : Event} (taken : step s e = some t) :
    t.generation = s.generation ∨ Connects s e := by
  cases step_took taken with
  | connected waiting idle opened => exact .inr ⟨.of_strand waiting, opened⟩
  | _ => exact .inl rfl

theorem isolated_step {s t : TcpMgr} {e : Event} (flight : InFlight s) (isolated : Isolated s)
    (own : ownData s e) (taken : step s e = some t) : Isolated t := by
  by_cases blocked : Blocked s
  · obtain ⟨blocked', passed⟩ := blocked_stays flight taken blocked
    exact ⟨passed ▸ isolated.passed, fun free => absurd blocked' free⟩
  rcases own with blocked' | ⟨handed, clean⟩
  · exact absurd blocked' blocked
  have before := isolated.own blocked
  constructor
  · rcases passed_step taken with same | ⟨pmsg, member, more⟩
    · rw [same]
      exact isolated.passed
    · intro w passed
      rw [more] at passed
      rcases List.mem_append.mp passed with earlier | last
      · exact isolated.passed w earlier
      · rw [List.mem_singleton.mp last]
        exact before pmsg member
  · intro _ m left
    have origin := (unwritten_step taken).subset left
    rcases generation_step taken with same | connected
    · rw [same]
      rcases List.mem_append.mp origin with waited | data
      · exact before m waited
      · exact handed m (Option.mem_toList.mp data)
    · -- A reconnect hands nothing over itself, so the lists were empty and still are.
      rw [clean connected, List.nil_append] at origin
      obtain ⟨⟨run, _⟩, _⟩ := connected
      cases e with
      | runNext => cases origin
      | _ => cases run

theorem guarded_isolated {s : TcpMgr} (reached : Reach step ownData .started s) : Isolated s := by
  refine reached.invariant Isolated ?_ fun _ _ _ before isolated own taken =>
    isolated_step (reachable_inFlight before.reachable) isolated own taken
  constructor
  · intro w passed
    cases passed
  · intro _ m left
    cases left

end RmqMgr.Tcp
