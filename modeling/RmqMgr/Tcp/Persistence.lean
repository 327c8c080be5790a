import Mathlib.Algebra.BigOperators.Group.List.Basic
import Mathlib.Algebra.GroupWithZero.Nat
import Mathlib.Data.Prod.Lex
import RmqMgr.Tcp.CloseOrder
import RmqMgr.Tcp.Liveness

set_option autoImplicit false

-- Every failure starts a connect, and the close that comes with it runs before the `OnConnect`
-- of that connect. So a close never leaves the transport without one.

namespace RmqMgr.Tcp

open Transition

def withoutFinit (_ : TcpMgr) (e : Event) : Prop :=
  e ≠ .finitClose ∧ e ≠ .finitStop

instance (s : TcpMgr) (e : Event) : Decidable (withoutFinit s e) :=
  inferInstanceAs (Decidable (_ ∧ _))

def Followed : List Handler → Prop
  | [] => True
  | h :: rest => (h.isClose = true → 0 < rest.countP Handler.isConnect) ∧ Followed rest

theorem followed_append {first second : List Handler} (before : Followed first)
    (after : Followed second) : Followed (first ++ second) := by
  induction first with
  | nil => exact after
  | cons h rest ih =>
    obtain ⟨covered, later⟩ := before
    simp only [List.cons_append, Followed, List.countP_append]
    exact ⟨fun closes => Nat.add_pos_left (covered closes) _, ih later⟩

theorem followed_connects {second : List Handler} (first : List Handler)
    (connects : 0 < second.countP Handler.isConnect) (after : Followed second) :
    Followed (first ++ second) := by
  induction first with
  | nil => exact after
  | cons h rest ih =>
    simp only [List.cons_append, Followed, List.countP_append]
    exact ⟨fun _ => Nat.add_pos_right _ connects, ih⟩

theorem followed_closeless {handlers : List Handler}
    (none : handlers.countP Handler.isClose = 0) : Followed handlers := by
  induction handlers with
  | nil => trivial
  | cons h rest ih =>
    rw [List.countP_cons, Nat.add_eq_zero_iff] at none
    refine ⟨fun closes => ?_, ih none.1⟩
    simp [closes] at none

structure Persists (s : TcpMgr) : Prop where
  followed : 0 < s.connects ∨ Followed s.strand
  alive : s.socketStarted = true ∨ 0 < connecting s
  retries : s.up = true ∨ 0 < connecting s ∨ s.strand.any Handler.failed = true
  opened : 0 < s.connects → s.sockOpen = true
  running : s.stopped = false

theorem persists_step {s t : TcpMgr} {e : Event} (persists : Persists s)
    (free : withoutFinit s e) (taken : step s e = some t) : Persists t := by
  obtain ⟨followed, alive, retries, opened, running⟩ := persists
  unfold connecting at alive retries
  cases step_took taken with
  | connected waiting idle opened' =>
    rw [waiting] at followed
    exact ⟨followed.imp_right And.right, .inl rfl, .inl rfl, opened, running⟩
  | connectFailed | recvFailed | sendFailed =>
    have more : 0 < s.connects + 1 := Nat.succ_pos _
    exact ⟨.inl more, .inr (Nat.add_pos_left more _), .inr (.inl (Nat.add_pos_left more _)),
      fun _ => rfl, running⟩
  | recvStarted waiting | recvQueued waiting | received waiting | sendStarted waiting
  | sendQueued waiting | sendFinished waiting | sendNext waiting | closeSkipped waiting =>
    simp only [waiting, List.countP_cons, List.any_cons, Handler.isConnect, Handler.failed,
      Bool.false_eq_true, if_false, Nat.add_zero, Bool.false_or] at followed alive retries
    exact ⟨followed.imp_right And.right, alive, retries, opened, running⟩
  | @closed order rest waiting idle live abort =>
    have counted := abort.countP_eq Handler.isConnect
    rw [aborted_connects] at counted
    have closeless : Followed order :=
      followed_closeless ((abort.countP_eq Handler.isClose).trans (aborted_closes s))
    rw [waiting] at followed
    have behind : 0 < (rest ++ order).countP Handler.isConnect ∧ Followed (rest ++ order) := by
      rw [List.countP_append]
      rcases followed with outstanding | ⟨covered, later⟩
      · exact ⟨by omega, followed_connects rest (by omega) closeless⟩
      · exact ⟨Nat.add_pos_left (covered rfl) _, followed_append later closeless⟩
    have pending : 0 < 0 + (rest ++ order).countP Handler.isConnect := by omega
    exact ⟨.inr behind.2, .inr pending, .inr (.inl pending),
      fun none => absurd none (Nat.lt_irrefl 0), running⟩
  | @connectDone err outstanding =>
    have waits : 0 < [Handler.onConnect err].countP Handler.isConnect := by
      simp [Handler.isConnect]
    have pending : 0 < s.connects - 1 +
        (s.strand ++ [Handler.onConnect err]).countP Handler.isConnect := by
      rw [List.countP_append]
      omega
    exact ⟨.inr (followed_connects s.strand waits (followed_closeless rfl)), .inr pending,
      .inr (.inl pending), fun _ => opened outstanding, running⟩
  | @readDone op err data | @writeDone op err =>
    refine ⟨followed.imp_right fun kept => followed_append kept (followed_closeless rfl), ?_, ?_,
      opened, running⟩
    · simpa [connecting, Handler.isConnect] using alive
    · cases err with
      | none => simpa [connecting, Handler.isConnect, Handler.failed] using retries
      | some message => exact .inr (.inr (by simp [Handler.failed]))
  | created | parsedLast | posted =>
    refine ⟨followed.imp_right fun kept => followed_append kept (followed_closeless rfl), ?_, ?_,
      opened, running⟩
    · simpa [connecting, Handler.isConnect] using alive
    · simpa [connecting, Handler.isConnect, Handler.failed] using retries
  | parsedNext | ready | postFailed | errorReported | closeReported =>
    exact ⟨followed, alive, retries, opened, running⟩
  | closePosted => exact absurd rfl free.1
  | stopped => exact absurd rfl free.2

theorem guarded_persists {s : TcpMgr} (reached : Reach step withoutFinit .started s) :
    Persists s := by
  refine reached.invariant Persists ?_ fun _ _ _ _ persists free taken =>
    persists_step persists free taken
  exact ⟨.inl (by decide), .inr (by decide), .inr (.inl (by decide)), fun _ => rfl, rfl⟩

theorem never_gives_up {s : TcpMgr} (reached : Reach step withoutFinit .started s) :
    (s.socketStarted = true ∨ 0 < connecting s) ∧
      (s.up = true ∨ 0 < connecting s ∨ s.strand.any Handler.failed = true) :=
  have persists := guarded_persists reached
  ⟨persists.alive, persists.retries⟩

def readFailed : List Event :=
  connectAndRead ++ readFailsAndReconnects.take 3

theorem aborted_connect_pending :
    ∃ s, (Reach step withoutFinit .started s ∧ s.up = false ∧ s.connects = 0 ∧
        s.strand.any Handler.failed = false) ∧
      (s.socketStarted = true ∨ 0 < connecting s) ∧
        (s.up = true ∨ 0 < connecting s ∨ s.strand.any Handler.failed = true) := by
  have ran : ∃ s, Reach step withoutFinit .started s ∧ s.up = false ∧ s.connects = 0 ∧
      s.strand.any Handler.failed = false := run_reaches readFailed (by decide +kernel)
  obtain ⟨s, reached, lost⟩ := ran
  exact ⟨s, ⟨reached, lost⟩, never_gives_up reached⟩

-- What the strand still has to do. An outstanding operation may be aborted by a close, and the
-- handlers of that are less than the operation.
def Handler.work : Handler → Nat
  | .onConnect none => 9
  | .onConnect (some _) => 0
  | .dispatchRecv _ => 4
  | .handleRecv none _ => 7
  | .handleRecv (some _) _ => 2
  | .sendMsg _ => 4
  | .handleWrite none => 4
  | .handleWrite (some _) => 2
  | .startCloseSocket => 1

def Phase.work : Phase → Nat
  | .idle => 0
  | .constructing => 8
  | .parsing => 6

def strandWork (strand : List Handler) : Nat :=
  (strand.map Handler.work).sum

def work (s : TcpMgr) : Nat :=
  strandWork s.strand + s.phase.work + 3 * s.reads.length + 3 * s.writes.length

@[simp]
theorem strandWork_nil : strandWork [] = 0 := rfl

@[simp]
theorem strandWork_cons (h : Handler) (rest : List Handler) :
    strandWork (h :: rest) = h.work + strandWork rest := rfl

@[simp]
theorem strandWork_append (first second : List Handler) :
    strandWork (first ++ second) = strandWork first + strandWork second := by
  simp [strandWork]

theorem aborted_work (s : TcpMgr) :
    strandWork (aborted s) = 2 * s.reads.length + 2 * s.writes.length := by
  simp [aborted, strandWork, Handler.work, operationAborted, Nat.mul_comm]

def Event.worker : Event → Bool
  | .runNext _ => true
  | .created => true
  | .parsed _ => true
  | _ => false

-- A failed `OnConnect` does nothing but start a connect; everything else is work done.
def Nearer : Nat × Nat → Nat × Nat → Prop :=
  Prod.Lex (· < ·) (· < ·)

def left (s : TcpMgr) : Nat × Nat :=
  (work s, s.strand.length)

theorem worker_step {s t : TcpMgr} {e : Event} (worker : e.worker = true)
    (taken : step s e = some t) : Nearer (left t) (left s) := by
  rw [left, left, Nearer, Prod.lex_def]
  simp only [work]
  cases step_took taken with
  | @connectFailed order rest err msgs waiting =>
    simp only [waiting, strandWork_cons, List.length_cons]
    omega
  | @closed order rest waiting idle live abort =>
    have counted : strandWork order = strandWork (aborted s) := (abort.map Handler.work).sum_nat
    rw [aborted_work] at counted
    simp only [waiting, strandWork_cons, strandWork_append, counted, Handler.work, List.length_nil]
    omega
  | created phase | parsedLast phase | parsedNext phase =>
    simp only [phase, strandWork_append, strandWork_cons, strandWork_nil, Handler.work, Phase.work,
      List.length_append, List.length_singleton]
    omega
  | connectDone | readDone | writeDone | posted | ready | closePosted | stopped | postFailed
  | errorReported | closeReported => cases worker
  | _ waiting idle =>
    simp only [waiting, idle, strandWork_append, strandWork_cons, strandWork_nil, Handler.work,
      Phase.work, List.length_append, List.length_singleton]
    omega

def Drained (s : TcpMgr) : Prop :=
  s.strand = [] ∧ s.phase = .idle

theorem worker_progress {s : TcpMgr} {ends : ParseEnd → Prop} (running : s.stopped = false)
    (loop : s.phase = .parsing → ∃ result, result.fits s.parseBuf = true ∧ ends result)
    (busy : ¬ Drained s) :
    ∃ e t, e.worker = true ∧ (∀ result, e = .parsed result → ends result) ∧
      step s e = some t := by
  cases phase : s.phase with
  | constructing =>
    exact ⟨.created, onConnectCreated s, rfl, fun _ same => (by cases same), by simp [step, phase]⟩
  | parsing =>
    obtain ⟨result, fits, ended⟩ := loop phase
    refine ⟨.parsed result, handleRecvParsed result s, rfl, fun other same => ?_, ?_⟩
    · cases same
      exact ended
    · simp [step, phase, fits]
  | idle =>
    cases waiting : s.strand with
    | nil => exact absurd ⟨waiting, phase⟩ busy
    | cons h rest =>
      exact ⟨.runNext (abortedBy h s), runHandler (abortedBy h s) h { s with strand := rest }, rfl,
        fun _ same => (by cases same), by simp [step, waiting, phase, running]⟩

theorem worker_free (s : TcpMgr) {e : Event} (worker : e.worker = true) : withoutFinit s e := by
  constructor <;> rintro rfl <;> cases worker

end RmqMgr.Tcp
