import RmqMgr.Tcp.InFlight

set_option autoImplicit false

namespace RmqMgr.Tcp

open HeadQueue Transition

structure Constructed (s : TcpMgr) : Prop where
  asked : s.pConnect = none → s.pendingRecvs = [] ∧ ∀ total, Handler.dispatchRecv total ∉ s.strand
  ready : s.isReady = true → s.pConnect ≠ none
  latest : s.phase ≠ .constructing →
    s.pConnect = if s.generation = 0 then none else some s.generation
  counted : s.phase = .constructing → 0 < s.generation

theorem parsing_pending {s : TcpMgr} (flight : InFlight s) (parsing : s.phase = .parsing) :
    s.pendingRecvs ≠ [] := by
  apply flight.recvs_pending
  simp [readsInFlight, parsing, Phase.recvs]

theorem handling_pending {s : TcpMgr} {err : ErrorCode} {bytes : Nat} {rest : List Handler}
    (flight : InFlight s) (waiting : s.strand = .handleRecv err bytes :: rest) :
    s.pendingRecvs ≠ [] := by
  apply flight.recvs_pending
  simp only [readsInFlight, waiting, Handler.isRecv, List.countP_cons, if_true]
  omega

theorem constructed_step {s t : TcpMgr} {e : Event} (flight : InFlight s)
    (constructed : Constructed s) (taken : step s e = some t) : Constructed t := by
  obtain ⟨asked, ready, latest, counted⟩ := constructed
  cases step_took taken with
  | connected waiting idle opened =>
    refine ⟨?_, ready, fun other => absurd rfl other, fun _ => Nat.succ_pos _⟩
    intro none
    have before := asked none
    rw [waiting] at before
    exact ⟨before.1, fun total posted => before.2 total (List.mem_cons_of_mem _ posted)⟩
  | created constructing =>
    have positive := counted constructing
    refine ⟨fun none => (by cases none), fun _ => (by simp), ?_, fun other => (by cases other)⟩
    intro _
    rw [if_neg (Nat.ne_of_gt positive)]
  | ready parsing =>
    refine ⟨asked, fun _ none => ?_, latest, counted⟩
    exact parsing_pending flight parsing (asked none).1
  | recvStarted waiting | recvQueued waiting =>
    refine ⟨fun none => ?_, ready, latest, counted⟩
    have before := (asked none).2
    rw [waiting] at before
    exact absurd (List.mem_cons_self ..) (before _)
  | parsedLast parsing | parsedNext parsing =>
    refine ⟨fun none => ?_, ready, fun _ => latest (by rw [parsing]; decide),
      fun other => (by cases other)⟩
    exact absurd (asked none).1 (parsing_pending flight parsing)
  | received waiting idle =>
    refine ⟨fun none => ?_, ready, fun _ => latest (by rw [idle]; decide),
      fun other => (by cases other)⟩
    exact absurd (asked none).1 (handling_pending flight waiting)
  | closed waiting idle live abort =>
    refine ⟨fun none => ?_, ready, latest, counted⟩
    have before := asked none
    rw [waiting] at before
    refine ⟨before.1, ?_⟩
    intro total posted
    rcases List.mem_append.mp posted with later | ordered
    · exact before.2 total (List.mem_cons_of_mem _ later)
    · have aborts := abort.subset ordered
      simp [aborted] at aborts
  | _ =>
    refine ⟨fun none => ?_, ready, latest, counted⟩
    have before := asked none
    simp_all

theorem reachable_constructed {s : TcpMgr} (reached : Reachable step .started s) :
    Constructed s := by
  refine reached.invariant Constructed ?_ fun _ _ _ before constructed _ taken =>
    constructed_step (reachable_inFlight before) constructed taken
  exact ⟨fun _ => ⟨rfl, fun _ posted => (by cases posted)⟩, fun ready => (by cases ready),
    fun _ => rfl, fun constructing => (by cases constructing)⟩

structure ConnectionSet (s : TcpMgr) : Prop where
  parsing : s.phase = .parsing → s.pConnect ≠ none
  ready : s.isReady = true → s.pConnect ≠ none

theorem reachable_connectionSet {s : TcpMgr} (reached : Reachable step .started s) :
    ConnectionSet s := by
  have constructed := reachable_constructed reached
  refine ⟨fun parsing none => ?_, constructed.ready⟩
  exact parsing_pending (reachable_inFlight reached) parsing (constructed.asked none).1

theorem connection_step {s t : TcpMgr} {e : Event} (taken : step s e = some t) :
    t.pConnect = s.pConnect ∨ e = .created ∧ t.pConnect = some s.generation := by
  cases step_took taken with
  | created => exact .inr ⟨rfl, rfl⟩
  | _ => exact .inl rfl

def Older (s : TcpMgr) : Prop :=
  ∀ n, s.pConnect = some n → n ≤ s.generation ∧ (s.phase = .constructing → n < s.generation)

theorem older_step {s t : TcpMgr} {e : Event} (older : Older s) (taken : step s e = some t) :
    Older t := by
  cases step_took taken with
  | connected =>
    intro n made
    obtain ⟨before, _⟩ := older n made
    exact ⟨Nat.le_succ_of_le before, fun _ => Nat.lt_succ_of_le before⟩
  | created =>
    intro n made
    obtain rfl := Option.some.inj made
    exact ⟨Nat.le_refl _, fun constructing => (by cases constructing)⟩
  | parsedLast | parsedNext | received =>
    exact fun n made => ⟨(older n made).1, fun constructing => (by cases constructing)⟩
  | _ => exact older

theorem reachable_older {s : TcpMgr} (reached : Reachable step .started s) : Older s :=
  reached.invariant Older (fun n made => (by cases made)) fun _ _ _ _ older _ taken =>
    older_step older taken

theorem isReady_step {s t : TcpMgr} {e : Event} (taken : step s e = some t)
    (ready : s.isReady = true) : t.isReady = true := by
  cases step_took taken with
  | ready => rfl
  | _ => exact ready

def Event.loses : Event → Bool
  | .readDone _ err _ => err.isSome
  | .writeDone _ err => err.isSome
  | .created => true
  | _ => false

def Handler.ends (s : TcpMgr) : Handler → Bool
  | .onConnect err => err.isSome || !s.sockOpen
  | .startCloseSocket => s.socketStarted
  | _ => false

-- The connection fails or is closed, or another connection object takes its place.
def Drops (s : TcpMgr) (e : Event) : Prop :=
  e.loses = true ∨ e.isRun = true ∧ ∃ h ∈ s.strand.head?, h.ends s = true

instance (s : TcpMgr) (e : Event) : Decidable (Drops s e) :=
  inferInstanceAs (Decidable (_ ∨ _ ∧ ∃ _ ∈ _, _))

theorem drops_run {s : TcpMgr} {order rest : List Handler} {h : Handler}
    (waiting : s.strand = h :: rest) (ends : h.ends s = true) : Drops s (.runNext order) := by
  refine .inr ⟨rfl, h, ?_, ends⟩
  rw [waiting]
  rfl

theorem up_kept {s t : TcpMgr} {e : Event} (taken : step s e = some t) (kept : ¬ Drops s e)
    (up : s.up = true) : t.up = true ∧ t.pConnect = s.pConnect := by
  cases step_took taken with
  | connected => exact ⟨rfl, rfl⟩
  | @connectFailed _ _ err _ waiting _ failed =>
    refine absurd (drops_run waiting ?_) kept
    cases err with
    | none => simpa [Handler.ends] using failed
    | some message => rfl
  | closed waiting _ started => exact absurd (drops_run waiting started) kept
  | created => exact absurd (.inl rfl) kept
  | @readDone op err data _ | @writeDone op err _ =>
    cases err with
    | none => simp [up]
    | some message => exact absurd (.inl rfl) kept
  | _ => exact ⟨up, rfl⟩

end RmqMgr.Tcp
