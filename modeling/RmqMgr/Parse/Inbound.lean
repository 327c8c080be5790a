import RmqMgr.Parse.ParseAmqpData
import RmqMgr.Tcp.Connection
import RmqMgr.Tcp.Liveness

set_option autoImplicit false

namespace RmqMgr.Parse

open HeadQueue Tcp Transition

-- A transport whose calls of `parse` are steps of their own. A read is handled after the
-- `OnConnect` of its connection, which was queued before it, so that `received` and `consumed` are
-- counted by the latest successful `OnConnect`. `handed` has an entry for every call of `parse`:
-- the object, and what it had consumed followed by the bytes of the call.
structure Inbound where
  tcp : TcpMgr := .started
  parsedBytes : Nat := 0
  received : Nat → Bytes := fun _ => []
  consumed : Nat → Bytes := fun _ => []
  handed : List (Nat × Bytes) := []

inductive InboundEvent where
  | event (e : Event)
  | parse (size bytes : Nat)
  | parseThrew (size : Nat) (what : String)
  deriving DecidableEq, Repr

namespace Inbound

def slice (size : Nat) (t : Inbound) : Bytes :=
  (t.tcp.parseBuf.drop t.parsedBytes).take size

def canParse (size : Nat) (t : Inbound) : Prop :=
  t.tcp.phase = .parsing ∧ t.parsedBytes + size ≤ t.tcp.parseBuf.length

instance (size : Nat) (t : Inbound) : Decidable (t.canParse size) :=
  inferInstanceAs (Decidable (_ ∧ _))

def hand (k size : Nat) (t : Inbound) : Inbound :=
  { t with handed := t.handed ++ [(k, t.consumed k ++ t.slice size)] }

def consume (k size bytes : Nat) (t : Inbound) : Inbound :=
  { t with
    consumed := Function.update t.consumed k (t.consumed k ++ (t.slice size).take bytes)
    parsedBytes := t.parsedBytes + bytes }

def arriving (s : TcpMgr) : Event → Bytes
  | .runNext _ =>
    match s.strand with
    | .handleRecv none bytes :: _ => resize s.recvBuffer bytes
    | _ => []
  | _ => []

def receive (e : Event) (t : Inbound) : Inbound :=
  let k := t.tcp.generation
  { t with received := Function.update t.received k (t.received k ++ arriving t.tcp e) }

def step (t : Inbound) : InboundEvent → Option Inbound
  | .event (.parsed result) =>
    if result = .parsed t.parsedBytes then
      (Tcp.step t.tcp (.parsed result)).map fun s => { t with tcp := s, parsedBytes := 0 }
    else none
  | .event e => (Tcp.step t.tcp e).map fun s => { t.receive e with tcp := s }
  | .parse size bytes =>
    t.tcp.pConnect.bind fun k =>
      if t.canParse size ∧ bytes ≤ size then some ((t.hand k size).consume k size bytes) else none
  | .parseThrew size what =>
    t.tcp.pConnect.bind fun k =>
      if t.canParse size then
        (Tcp.step t.tcp (.parsed (.threw what))).map fun s =>
          { t.hand k size with tcp := s, parsedBytes := 0 }
      else none

end Inbound

theorem iteration_taken {C : Type} {lib : Library C} {t : Inbound} {k : Nat}
    (atMost : ∀ conn buff bytes conn',
      lib.parse conn buff = .returned bytes conn' → bytes ≤ buff.length)
    (current : t.tcp.pConnect = some k) (parsing : t.tcp.phase = .parsing)
    (inside : t.parsedBytes ≤ t.tcp.parseBuf.length) (conn : C) (expectedBytes : Nat) :
    match iteration lib t.tcp.parseBuf (.head conn t.parsedBytes expectedBytes) with
    | .head _ parsedBytes _ => ∃ bytes u, t.step (.parse expectedBytes bytes) = some u ∧
        u.tcp = t.tcp ∧ u.parsedBytes = parsedBytes
    | .exited _ parsedBytes => ∃ u, t.step (.event (.parsed (.parsed parsedBytes))) = some u
    | .threw _ what => ∃ u, t.step (.parseThrew expectedBytes what) = some u
    | .undefined => False := by
  rw [iteration_head inside]
  by_cases fits : t.parsedBytes + expectedBytes ≤ t.tcp.parseBuf.length
  next =>
    simp only [fits, if_true]
    cases parsed : lib.parse conn ((t.tcp.parseBuf.drop t.parsedBytes).take expectedBytes) with
    | returned bytes conn' =>
      have short := atMost _ _ _ _ parsed
      rw [List.length_take] at short
      have within : bytes ≤ expectedBytes := by omega
      simp [Inbound.step, Inbound.canParse, Inbound.hand, Inbound.consume, current, parsing, fits,
        within]
    | threw what conn' =>
      simp [Inbound.step, Inbound.canParse, Tcp.step, ParseEnd.fits, current, parsing, fits]
  next => simp [fits, Inbound.step, Tcp.step, ParseEnd.fits, parsing, inside]

def OwnStream (t : Inbound) : Prop :=
  ∀ given ∈ t.handed, given.2 <+: t.received given.1

instance (t : Inbound) : Decidable (OwnStream t) :=
  inferInstanceAs (Decidable (∀ _ ∈ _, _))

/-- `OnConnect` succeeds only when `m_parseBuf` is empty or nothing will be read any more, and no
exception leaves the loop after an earlier call of `parse` in it consumed bytes. -/
def ownBytes (t : Inbound) : InboundEvent → Prop
  | .event e => Connects t.tcp e → t.tcp.parseBuf = [] ∨ (recvQueue t.tcp).Stuck
  | .parse _ _ => True
  | .parseThrew _ _ => t.parsedBytes = 0

instance (t : Inbound) (e : InboundEvent) : Decidable (ownBytes t e) :=
  match e with
  | .event _ => inferInstanceAs (Decidable (_ → _))
  | .parse _ _ => inferInstanceAs (Decidable True)
  | .parseThrew _ _ => inferInstanceAs (Decidable (_ = _))

structure Aligned (t : Inbound) : Prop where
  own : OwnStream t
  fresh : ∀ k, t.tcp.generation < k → t.received k = [] ∧ t.consumed k = []
  inside : t.parsedBytes ≤ t.tcp.parseBuf.length
  atRest : t.tcp.phase ≠ .parsing → t.parsedBytes = 0
  stream : ¬ (recvQueue t.tcp).Stuck → ∃ base,
    t.consumed t.tcp.generation = base ++ t.tcp.parseBuf.take t.parsedBytes ∧
      t.received t.tcp.generation = base ++ t.tcp.parseBuf

theorem buffer_step {s t : TcpMgr} {e : Event} (taken : Tcp.step s e = some t)
    (goesOn : ∀ result, e ≠ .parsed result) :
    t.parseBuf = s.parseBuf ++ Inbound.arriving s e ∧
      (s.phase = .parsing → t.phase = .parsing) ∧
      (t.generation = s.generation ∨ Connects s e ∧ t.generation = s.generation + 1) := by
  cases step_took taken with
  | connected waiting idle opened =>
    refine ⟨by simp [Inbound.arriving, waiting], ?_, .inr ⟨⟨.of_strand waiting, opened⟩, rfl⟩⟩
    simp [idle]
  | created constructing =>
    refine ⟨by simp [Inbound.arriving], ?_, .inl rfl⟩
    simp [constructing]
  | parsedLast | parsedNext => exact absurd rfl (goesOn _)
  | _ => simp [Inbound.arriving, *]

theorem connects_arrives {s : TcpMgr} {e : Event} (connects : Connects s e) :
    Inbound.arriving s e = [] := by
  obtain ⟨⟨run, head⟩, _⟩ := connects
  cases e with
  | runNext order =>
    obtain ⟨rest, waiting⟩ := List.head?_eq_some_iff.mp head
    simp [Inbound.arriving, waiting]
  | _ => cases run

theorem parsing_unstuck {s : TcpMgr} (parsing : s.phase = .parsing) : ¬ (recvQueue s).Stuck := by
  intro stuck
  have inactive := stuck.2
  simp [recvQueue, Queue.counted, readsInFlight, parsing, Phase.recvs] at inactive

theorem event_aligned {t : Inbound} {e : Event} {s : TcpMgr} (flight : InFlight t.tcp)
    (aligned : Aligned t) (own : ownBytes t (.event e)) (goesOn : ∀ result, e ≠ .parsed result)
    (taken : Tcp.step t.tcp e = some s) : Aligned { t.receive e with tcp := s } := by
  obtain ⟨handed, fresh, inside, atRest, stream⟩ := aligned
  obtain ⟨grown, stays, counted⟩ := buffer_step taken goesOn
  refine ⟨?_, ?_, ?_, fun resting => atRest fun parsing => resting (stays parsing), ?_⟩
  · intro given member
    refine (handed given member).trans ?_
    simp only [Inbound.receive, Function.update_apply]
    split
    next same => exact same ▸ List.prefix_append _ _
    next => exact List.prefix_rfl
  · intro k later
    have beyond : t.tcp.generation < k := by
      rcases counted with same | ⟨_, next⟩ <;> simp only at later <;> omega
    simp only [Inbound.receive, Function.update_of_ne (Nat.ne_of_gt beyond)]
    exact fresh k beyond
  · simp only [grown, List.length_append]
    exact Nat.le_add_right_of_le inside
  · intro reads
    have reading : ¬ (recvQueue t.tcp).Stuck := fun stuck => reads (stuck_stays flight taken stuck)
    rcases counted with same | ⟨connects, next⟩
    · obtain ⟨base, consumed, received⟩ := stream reading
      refine ⟨base, ?_, ?_⟩
      · simp only [Inbound.receive, same, grown, List.take_append_of_le_length inside, consumed]
      · simp only [Inbound.receive, same, grown, Function.update_self, received, List.append_assoc]
    · have empty := (own connects).resolve_right reading
      obtain ⟨received, consumed⟩ := fresh s.generation (by omega)
      have bare : s.parseBuf = [] := by simp [grown, empty, connects_arrives connects]
      refine ⟨[], ?_, ?_⟩
      · simp [Inbound.receive, consumed, bare]
      · simp [Inbound.receive, received, bare, connects_arrives connects]

theorem ended_aligned {t : Inbound} {s : TcpMgr} {result : ParseEnd} (flight : InFlight t.tcp)
    (aligned : Aligned t) (taken : Tcp.step t.tcp (.parsed result) = some s)
    (left : s.parseBuf = t.tcp.parseBuf.drop t.parsedBytes) :
    Aligned { t with tcp := s, parsedBytes := 0 } := by
  obtain ⟨handed, fresh, inside, _, stream⟩ := aligned
  have counted : s.generation = t.tcp.generation := by
    cases step_took taken <;> rfl
  refine ⟨handed, counted.symm ▸ fresh, Nat.zero_le _, fun _ => rfl, fun reads => ?_⟩
  have reading : ¬ (recvQueue t.tcp).Stuck := fun stuck => reads (stuck_stays flight taken stuck)
  obtain ⟨base, consumed, received⟩ := stream reading
  refine ⟨t.consumed t.tcp.generation, ?_, ?_⟩
  · simp only [counted, List.take_zero, List.append_nil]
  · simp only [counted, left]
    rw [received, consumed, List.append_assoc, List.take_append_drop]

theorem handed_aligned {t : Inbound} {k size : Nat} (constructed : Constructed t.tcp)
    (aligned : Aligned t) (can : t.canParse size) (current : t.tcp.pConnect = some k) :
    k = t.tcp.generation ∧ Aligned (t.hand k size) := by
  obtain ⟨parsing, fits⟩ := can
  obtain ⟨handed, fresh, inside, atRest, stream⟩ := aligned
  have latest : k = t.tcp.generation := by
    have made := constructed.latest (by simp [parsing])
    rw [current] at made
    split at made
    next => cases made
    next => exact Option.some.inj made
  obtain ⟨base, consumed, received⟩ := stream (parsing_unstuck parsing)
  refine ⟨latest, ⟨?_, fresh, inside, atRest, stream⟩⟩
  intro given member
  rcases List.mem_append.mp member with earlier | last
  · exact handed given earlier
  · obtain rfl := List.mem_singleton.mp last
    simp only [Inbound.hand, Inbound.slice, latest, consumed, received, List.append_assoc,
      ← List.take_add]
    exact (List.prefix_append_right_inj base).mpr (List.take_prefix _ _)

theorem consumed_aligned {t : Inbound} {size bytes : Nat} (aligned : Aligned t)
    (can : t.canParse size) (atMost : bytes ≤ size) :
    Aligned (t.consume t.tcp.generation size bytes) := by
  obtain ⟨parsing, fits⟩ := can
  obtain ⟨handed, fresh, inside, atRest, stream⟩ := aligned
  refine ⟨handed, ?_, ?_, fun resting => absurd parsing resting, fun reads => ?_⟩
  · intro k later
    have other : k ≠ t.tcp.generation := Nat.ne_of_gt later
    simp only [Inbound.consume, Function.update_of_ne other]
    exact fresh k later
  · simp only [Inbound.consume]
    omega
  · obtain ⟨base, consumed, received⟩ := stream reads
    refine ⟨base, ?_, received⟩
    simp only [Inbound.consume, Inbound.slice, Function.update_self, consumed, List.append_assoc,
      List.take_take, Nat.min_eq_left atMost, ← List.take_add]

theorem step_event {t : Inbound} {e : Event} (goesOn : ∀ result, e ≠ .parsed result) :
    t.step (.event e) = (Tcp.step t.tcp e).map fun s => { t.receive e with tcp := s } := by
  cases e with
  | parsed result => exact absurd rfl (goesOn result)
  | _ => rfl

theorem step_transport {t u : Inbound} {e : InboundEvent} (taken : t.step e = some u) :
    Reachable Tcp.step t.tcp u.tcp := by
  cases e with
  | event e =>
    have stepped : Tcp.step t.tcp e = some u.tcp := by
      by_cases ends : ∃ result, e = .parsed result
      next =>
        obtain ⟨result, rfl⟩ := ends
        simp only [Inbound.step, Option.ite_none_right_eq_some, Option.map_eq_some_iff] at taken
        obtain ⟨_, s, stepped, rfl⟩ := taken
        exact stepped
      next =>
        rw [step_event fun result same => ends ⟨result, same⟩] at taken
        obtain ⟨s, stepped, rfl⟩ := Option.map_eq_some_iff.mp taken
        exact stepped
    exact .single trivial stepped
  | parse size bytes =>
    simp only [Inbound.step, Option.bind_eq_some_iff, Option.ite_none_right_eq_some,
      Option.some.injEq] at taken
    obtain ⟨k, _, _, rfl⟩ := taken
    exact .start
  | parseThrew size what =>
    simp only [Inbound.step, Option.bind_eq_some_iff, Option.ite_none_right_eq_some,
      Option.map_eq_some_iff] at taken
    obtain ⟨k, _, _, s, stepped, rfl⟩ := taken
    exact .single trivial stepped

theorem aligned_step {t u : Inbound} {e : InboundEvent} (flight : InFlight t.tcp)
    (constructed : Constructed t.tcp) (aligned : Aligned t) (own : ownBytes t e)
    (taken : t.step e = some u) : Aligned u := by
  cases e with
  | event e =>
    by_cases ends : ∃ result, e = .parsed result
    next =>
      obtain ⟨result, rfl⟩ := ends
      simp only [Inbound.step, Option.ite_none_right_eq_some, Option.map_eq_some_iff] at taken
      obtain ⟨rfl, s, taken, rfl⟩ := taken
      refine ended_aligned flight aligned taken ?_
      simp only [Tcp.step, Option.ite_none_right_eq_some, Option.some.injEq] at taken
      obtain ⟨_, rfl⟩ := taken
      rw [(handleRecvParsed_keeps _ _).1]
      rfl
    next =>
      have goesOn : ∀ result, e ≠ .parsed result := fun result same => ends ⟨result, same⟩
      rw [step_event goesOn] at taken
      obtain ⟨s, stepped, rfl⟩ := Option.map_eq_some_iff.mp taken
      exact event_aligned flight aligned own goesOn stepped
  | parse size bytes =>
    simp only [Inbound.step, Option.bind_eq_some_iff, Option.ite_none_right_eq_some,
      Option.some.injEq] at taken
    obtain ⟨k, current, ⟨can, atMost⟩, rfl⟩ := taken
    obtain ⟨rfl, handed⟩ := handed_aligned constructed aligned can current
    exact consumed_aligned handed can atMost
  | parseThrew size what =>
    simp only [Inbound.step, Option.bind_eq_some_iff, Option.ite_none_right_eq_some,
      Option.map_eq_some_iff] at taken
    obtain ⟨k, current, can, s, taken, rfl⟩ := taken
    obtain ⟨rfl, handed⟩ := handed_aligned constructed aligned can current
    refine ended_aligned flight handed taken ?_
    simp only [Tcp.step, Option.ite_none_right_eq_some, Option.some.injEq] at taken
    obtain ⟨_, rfl⟩ := taken
    rw [(handleRecvParsed_keeps _ _).1, Inbound.hand, show t.parsedBytes = 0 from own]
    rfl

theorem own_stream {t : Inbound} (reached : Reach Inbound.step ownBytes {} t) : OwnStream t := by
  have aligned : Aligned t := by
    apply reached.invariant Aligned
    · exact ⟨fun _ member => (by cases member), fun _ _ => ⟨rfl, rfl⟩, Nat.le_refl 0, fun _ => rfl,
        fun _ => ⟨[], rfl, rfl⟩⟩
    · intro t e u before aligned own taken
      have transport : Reachable Tcp.step .started t.tcp :=
        before.project Inbound.tcp fun _ _ _ _ taken => step_transport taken
      exact aligned_step (reachable_inFlight transport) (reachable_constructed transport) aligned
        own taken
  exact aligned.own

def heartbeat : Bytes := [8, 0, 0, 0, 0, 0, 0, 206]

def connects : List InboundEvent :=
  [.event (.connectDone none), .event (.runNext []), .event .created, .event (.runNext [])]

theorem first_stream_own :
    ∃ t, (Reach Inbound.step ownBytes {} t ∧ t.handed = [(1, heartbeat)]) ∧ OwnStream t := by
  have ran : ∃ t, Reach Inbound.step ownBytes {} t ∧ t.handed = [(1, heartbeat)] :=
    run_reaches (connects ++ [.event (.readDone (.readSome 4096) none heartbeat),
      .event (.runNext []), .parse 8 8]) (by decide +kernel)
  obtain ⟨t, reached, handed⟩ := ran
  exact ⟨t, ⟨reached, handed⟩, own_stream reached⟩

theorem leftover_parsed_by_next :
    ∃ t, Reachable Inbound.step {} t ∧ (2, [8, 0, 0] ++ heartbeat.take 4) ∈ t.handed ∧
      t.received 2 = heartbeat ∧ ¬ OwnStream t :=
  run_reaches (connects ++
    [.event (.onData .posted ⟨1, [7]⟩), .event (.runNext []),
      .event (.writeDone ⟨1, ⟨1, [7]⟩⟩ (some "Broken pipe")), .event (.runNext []),
      .event (.readDone (.readSome 4096) none [8, 0, 0]),
      .event (.runNext [.onConnect operationAborted]), .event (.runNext []),
      .event (.parsed (.parsed 0)), .event (.runNext []), .event (.connectDone none),
      .event (.runNext []), .event (.runNext []), .event .created, .event (.runNext []),
      .event (.readDone (.readSome 4096) none heartbeat), .event (.runNext []), .parse 7 0])
    (by decide +kernel)

end RmqMgr.Parse
