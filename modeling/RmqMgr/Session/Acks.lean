import RmqMgr.Session.SetUp
import RmqMgr.Shared.History

set_option autoImplicit false

-- The callback is bound to the manager and acknowledges on `m_channel`, which is always the
-- latest consumer channel that was made. An earlier one still delivers until its close is
-- confirmed.

namespace RmqMgr.Session

open Transition

variable {lib : Library} {getConnection : Nat → Option Nat}

def Call.acks : Call → Option (Nat × Nat)
  | .ack c deliveryTag => some (c, deliveryTag)
  | _ => none

def acks (s : RmqMgrBase) : List (Nat × Nat) :=
  s.calls.filterMap Call.acks

theorem acks_record {call : Call} (other : call.acks = none) (s : RmqMgrBase) :
    acks (record call s) = acks s := by
  simp [acks, record, other]

theorem acks_effect (s t : RmqMgrBase) (effect : Effect getConnection s t) : acks t = acks s := by
  cases effect with
  | called call plain =>
    apply acks_record
    cases call <;> simp [Call.plain, Call.acks] at plain ⊢
  | consumerMade _ replaces | publishMade _ replaces =>
    rcases replaces.calls with rfl | ⟨d, rfl⟩ <;> simp [acks, Call.acks]
  | _ => rfl

theorem acks_effects {s t : RmqMgrBase} (effects : Effects getConnection s t) :
    acks t = acks s :=
  effects.invariant (fun t => acks t = acks s)
    (fun _ _ effect same => (acks_effect _ _ effect).trans same) rfl

theorem reportReady_acks (c : Nat) (s : RmqMgrBase) :
    acks (reportReady lib getConnection c s) = acks s := by
  obtain ⟨before, t, after, effects, same⟩ := reportReady_effects c s
  have kept := acks_effects effects
  rw [same]
  exact kept

theorem reportError_acks (c : Nat) (message : String) (s : RmqMgrBase) :
    acks (reportError lib getConnection c message s) = acks s := by
  have effects : Effects getConnection (endChannel c s)
      (reportError lib getConnection c message s) := reportError_effects c message s
  exact (acks_effects effects).trans rfl

theorem startClose_acks (operation : Operation) (c : Nat) (s : RmqMgrBase) :
    acks (startClose operation c s) = acks s := by
  rw [startClose_eq]
  exact acks_record rfl _

theorem closeUsable_acks (c : Nat) (s : RmqMgrBase) : acks (closeUsable lib c s).1 = acks s := by
  unfold closeUsable
  split
  next =>
    split
    next => exact acks_record rfl s
    next => exact startClose_acks .close c s
    next =>
      split
      next => exact startClose_acks .close c s
      next => exact acks_record rfl s
  next => rfl

theorem closeMqChannel_acks (s : RmqMgrBase) : acks (closeMqChannel lib s).1 = acks s := by
  unfold closeMqChannel
  split
  next => rfl
  next c _ =>
    have first : acks (closeUsable lib c s).1 = acks s := closeUsable_acks c s
    split
    next t err closed =>
      rw [closed] at first
      exact first
    next t closed =>
      rw [closed] at first
      split
      next => exact first
      next d _ => exact (closeUsable_acks d t).trans first

theorem closeMqConnection_acks (s : RmqMgrBase) : acks (closeMqConnection lib s).1 = acks s := by
  unfold closeMqConnection
  split
  next => rfl
  next k _ =>
    have called : acks (record (.closeConnection k) s) = acks s := acks_record rfl s
    split
    next =>
      simp only
      split <;> exact called
    next => rfl

theorem publishMsg_acks (msg : List UInt8) (s : RmqMgrBase) :
    acks (publishMsg lib msg s).1 = acks s := by
  unfold publishMsg
  split
  next => rfl
  next => simp only; split <;> exact acks_record rfl s

theorem consumeRecvedCb_acks (thrown : Option String) (deliveryTag : Nat) (s : RmqMgrBase) :
    acks (consumeRecvedCb thrown deliveryTag s) = acks s ++
      if thrown = none then s.channel.toList.map fun c => (c, deliveryTag) else [] := by
  unfold consumeRecvedCb
  split
  next => simp
  next none => simp [none, acks, dereferencesNull]
  next c some => simp [some, acks, record, Call.acks]

def Event.delivers : Event → Option (Nat × Nat × Option String)
  | .consumeRecvedCb c thrown deliveryTag => some (c, deliveryTag, thrown)
  | _ => none

theorem acks_step {w v : World} {e : Event} (taken : step lib w e = some v) :
    acks v.ses = acks w.ses ++ match e.delivers with
      | some (_, deliveryTag, none) => w.ses.channel.toList.map fun c => (c, deliveryTag)
      | _ => [] := by
  have same {t : RmqMgrBase} (unchanged : acks t = acks w.ses) : acks t = acks w.ses ++ [] := by
    rw [unchanged, List.append_nil]
  cases step_took taken with
  | @consumeRecvedCb c thrown deliveryTag =>
    rw [consumeRecvedCb_acks]
    cases thrown <;> rfl
  | @reportReady c => exact same (reportReady_acks c w.ses)
  | @reportError c message => exact same (reportError_acks c message w.ses)
  | getMqConnection =>
    refine same ?_
    simp only [getMqConnection]
    split <;> rfl
  | startSucceeded _ result | channelFailed _ result =>
    have made := acks_effects (createMqChannel_result result)
    exact same made
  | @publishMsg msg _ _ _ result =>
    have published := @publishMsg_acks lib msg w.ses
    rw [result] at published
    exact same published
  | releaseMqInstance _ result =>
    have closed := @closeMqChannel_acks lib w.ses
    rw [result] at closed
    exact same closed
  | closeMqConnection _ result =>
    have closed := @closeMqConnection_acks lib w.ses
    rw [result] at closed
    exact same closed
  | finitFaulted finit =>
    rcases finit with ⟨rfl, _⟩ | ⟨rfl, _⟩ | ⟨rfl, _⟩ <;> exact same rfl
  | _ => exact same rfl

def Newest (s : RmqMgrBase) : Prop :=
  ∀ d, d < s.channelCount → (s.channels d).role = .consumer → ∃ c, s.channel = some c ∧ d ≤ c

theorem newest_effect (s t : RmqMgrBase) (effect : Effect getConnection s t)
    (held : Roles s ∧ Newest s) : Roles t ∧ Newest t := by
  obtain ⟨roles, newest⟩ := held
  refine ⟨roles_effect s t effect roles, ?_⟩
  cases effect with
  | consumerMade =>
    intro d inside _
    exact ⟨s.channelCount, rfl, Nat.le_of_lt_succ inside⟩
  | @publishMade k channels calls _ replaces =>
    intro d inside consumer
    have consumer : (channels d).role = .consumer := consumer
    by_cases new : d = s.channelCount
    · subst new
      rw [replaces.new fun c same => (roles.channelPub c same).1] at consumer
      cases consumer
    · rw [(replaces.identity d new).2.1] at consumer
      exact newest d (Nat.lt_of_le_of_ne (Nat.le_of_lt_succ inside) new) consumer
  | pushed operation c =>
    intro d inside consumer
    rw [(push_identity operation c d s).1] at consumer
    exact newest d inside consumer
  | _ => exact newest

theorem reachable_newest {mqInfo : MqInfo} {w : World}
    (reached : Reachable (step lib) (World.start mqInfo) w) : Roles w.ses ∧ Newest w.ses := by
  apply reached.invariant fun w => Roles w.ses ∧ Newest w.ses
  · refine ⟨⟨by simp [World.start], by simp [World.start]⟩, ?_⟩
    intro d inside
    cases inside
  · intro w e v _ held _ taken
    refine session_step (fun s => Roles s ∧ Newest s) ?_ (fun _ => newest_effect) ?_ ?_ held taken
    · rintro s t frame ⟨roles, newest⟩
      refine ⟨roles.framed frame, fun d inside consumer => ?_⟩
      rw [frame.channelCount] at inside
      rw [(frame.identity d).2.1] at consumer
      rw [frame.channel]
      exact newest d inside consumer
    · rintro c s ⟨roles, newest⟩
      refine ⟨roles.setChannel c (by rfl) s.handling, fun d inside consumer => ?_⟩
      refine newest d inside ?_
      by_cases same : d = c
      · subst same
        simpa [confirmOpen] using consumer
      · rwa [confirmOpen, setChannel_other same] at consumer
    · exact fun _ _ _ _ _ _ held => ⟨⟨held.1.channel, held.1.channelPub⟩, held.2⟩

structure Delivery where
  channel : Nat
  deliveryTag : Nat
  acks : List (Nat × Nat)
  deriving DecidableEq, Repr

def noteDelivery (w : World) (e : Event) (v : World) (past : List Delivery) : List Delivery :=
  match e.delivers with
  | some (c, deliveryTag, _) =>
    past ++ [⟨c, deliveryTag, (acks v.ses).drop (acks w.ses).length⟩]
  | none => past

structure AcksOwn (t : Traced World (List Delivery)) : Prop where
  own : ∀ d ∈ t.past, ∀ ack ∈ d.acks, ack = (d.channel, d.deliveryTag)
  delivered : ∀ ack ∈ acks t.now.ses, ∃ d ∈ t.past, ack = (d.channel, d.deliveryTag)

instance (t : Traced World (List Delivery)) : Decidable (AcksOwn t) :=
  decidable_of_iff ((∀ d ∈ t.past, ∀ ack ∈ d.acks, ack = (d.channel, d.deliveryTag)) ∧
      ∀ ack ∈ acks t.now.ses, ∃ d ∈ t.past, ack = (d.channel, d.deliveryTag))
    ⟨fun ⟨own, delivered⟩ => ⟨own, delivered⟩, fun ⟨own, delivered⟩ => ⟨own, delivered⟩⟩

/-- A message that `OnRecvedData` takes arrives on a channel after which no consumer channel was
made. -/
def unreplaced (w : World) (e : Event) : Prop :=
  ∀ delivery ∈ e.delivers, delivery.2.2 = none →
    ∀ d < w.ses.channelCount, delivery.1 < d → (w.ses.channels d).role ≠ .consumer

instance (w : World) (e : Event) : Decidable (unreplaced w e) :=
  inferInstanceAs (Decidable (∀ _ ∈ _, _ → ∀ _ < _, _ → _))

theorem delivery_enabled {w v : World} {c deliveryTag : Nat} {thrown : Option String}
    (taken : step lib w (.consumeRecvedCb c thrown deliveryTag) = some v) :
    w.hears c ∧ (w.ses.channels c).role = .consumer := by
  simp only [step, step_running taken, callback, Bool.false_eq_true, if_false,
    Option.ite_none_right_eq_some] at taken
  obtain ⟨⟨hears, _, role⟩, _⟩ := taken
  exact ⟨hears, role⟩

theorem unreplaced_iff {w v : World} {c deliveryTag : Nat} (roles : Roles w.ses)
    (newest : Newest w.ses) (taken : step lib w (.consumeRecvedCb c none deliveryTag) = some v) :
    ∃ m, w.ses.channel = some m ∧
      (unreplaced w (.consumeRecvedCb c none deliveryTag) ↔ m = c) := by
  obtain ⟨hears, role⟩ := delivery_enabled taken
  obtain ⟨m, some, older⟩ := newest c hears.1 role
  obtain ⟨inside, consumer⟩ := roles.channel m some
  refine ⟨m, some, ?_, ?_⟩
  · intro last
    by_contra other
    exact last _ rfl rfl m inside (by simp only; omega) consumer
  · rintro rfl delivery same _ d inside later consumer
    obtain rfl := Option.some.inj same
    obtain ⟨m', same, older⟩ := newest d inside consumer
    obtain rfl := Option.some.inj (some.symm.trans same)
    simp only at later
    omega

abbrev deliveriesTraced (lib : Library) :
    Traced World (List Delivery) → Event → Option (Traced World (List Delivery)) :=
  traced (step lib) noteDelivery

theorem noted_delivery {t u : Traced World (List Delivery)} {c deliveryTag : Nat}
    {thrown : Option String}
    (taken : deliveriesTraced lib t (.consumeRecvedCb c thrown deliveryTag) = some u) :
    ∃ issued, acks u.now.ses = acks t.now.ses ++ issued ∧
      u.past = t.past ++ [⟨c, deliveryTag, issued⟩] ∧
      issued = if thrown = none then t.now.ses.channel.toList.map fun c => (c, deliveryTag) else [] := by
  obtain ⟨stepped, past⟩ := traced_step taken
  have issued := acks_step stepped
  refine ⟨_, issued, ?_, ?_⟩
  · rw [past, noteDelivery, Event.delivers, issued, List.drop_left]
    rfl
  · cases thrown <;> rfl

theorem acksOwn_step {t u : Traced World (List Delivery)} {e : Event} (roles : Roles t.now.ses)
    (newest : Newest t.now.ses) (held : AcksOwn t) (last : unreplaced t.now e)
    (taken : deliveriesTraced lib t e = some u) : AcksOwn u := by
  obtain ⟨own, delivered⟩ := held
  obtain ⟨stepped, past⟩ := traced_step taken
  cases e with
  | consumeRecvedCb c thrown deliveryTag =>
    obtain ⟨issued, acked, past, which⟩ := noted_delivery taken
    have right : ∀ ack ∈ issued, ack = (c, deliveryTag) := by
      cases thrown with
      | some what => simp [which]
      | none =>
        obtain ⟨m, some, same⟩ := unreplaced_iff roles newest stepped
        obtain rfl := same.mp last
        simp [which, some]
    constructor
    · rw [past]
      intro d member ack issued
      rcases List.mem_append.mp member with earlier | new
      · exact own d earlier ack issued
      · obtain rfl := List.mem_singleton.mp new
        exact right ack issued
    · rw [past, acked]
      intro ack member
      rcases List.mem_append.mp member with earlier | new
      · obtain ⟨d, before, same⟩ := delivered ack earlier
        exact ⟨d, List.mem_append_left _ before, same⟩
      · exact ⟨_, List.mem_append_right _ (List.mem_singleton.mpr rfl), right ack new⟩
  | _ =>
    have acked := acks_step stepped
    simp only [Event.delivers, List.append_nil] at acked
    simp only [noteDelivery, Event.delivers] at past
    exact ⟨by rw [past]; exact own, by rw [past, acked]; exact delivered⟩

theorem delivery_own_ack {mqInfo : MqInfo} (t : Traced World (List Delivery)) :
    (Reach (deliveriesTraced lib) (fun t => unreplaced t.now) ⟨World.start mqInfo, []⟩ t →
        AcksOwn t) ∧
      ∀ e u, Reachable (deliveriesTraced lib) ⟨World.start mqInfo, []⟩ t →
        deliveriesTraced lib t e = some u → ¬ unreplaced t.now e → ¬ AcksOwn u := by
  constructor
  · intro reached
    apply reached.invariant AcksOwn
    · constructor <;> intro _ member <;> cases member
    · intro t e u before held last taken
      obtain ⟨roles, newest⟩ := reachable_newest before.untraced
      exact acksOwn_step roles newest held last taken
  · intro e u reached taken replaced held
    obtain ⟨roles, newest⟩ := reachable_newest reached.untraced
    cases e with
    | consumeRecvedCb c thrown deliveryTag =>
      obtain ⟨issued, _, past, which⟩ := noted_delivery taken
      cases thrown with
      | some what =>
        refine replaced ?_
        rintro delivery same threw
        obtain rfl := Option.some.inj same
        cases threw
      | none =>
        obtain ⟨m, some, same⟩ := unreplaced_iff roles newest (traced_step taken).1
        have acked : (m, deliveryTag) ∈ issued := by simp [which, some]
        have own := held.own ⟨c, deliveryTag, issued⟩ (by rw [past]; simp) _ acked
        exact replaced (same.mpr (Prod.mk.inj own).1)
    | _ => exact replaced fun delivery none => (by cases none)

open Run

def delivers (c deliveryTag : Nat) : List Event :=
  parsing ++ [.consumeRecvedCb c none deliveryTag, parsed, runs]

def startAgain : List Event :=
  [.startMqInstance none, .transport 1 (.connectDone none), .transport 1 (.runNext []),
    .transport 1 .created, .transport 1 (.runNext []),
    .transport 1 (.readDone (.readSome 4096) none [1]), .transport 1 (.runNext []),
    .onReady ⟨1, 1⟩, .transport 1 (.parsed (.parsed 1)), .waitForReady, .getMqConnection,
    .createMqChannel]

theorem first_delivery_own_ack :
    (∃ t, (Reach (deliveriesTraced accepting) (fun t => unreplaced t.now)
          ⟨World.start fanout, []⟩ t ∧ t.past = [⟨0, 1, [(0, 1)]⟩]) ∧ AcksOwn t) ∧
      ∃ t u, (Reachable (deliveriesTraced accepting) ⟨World.start fanout, []⟩ t ∧
          deliveriesTraced accepting t (.consumeRecvedCb 0 none 2) = some u ∧
          ¬ unreplaced t.now (.consumeRecvedCb 0 none 2)) ∧ ¬ AcksOwn u := by
  constructor
  · have ran : ∃ t, Reach (deliveriesTraced accepting) (fun t => unreplaced t.now)
        ⟨World.start fanout, []⟩ t ∧ t.past = [⟨0, 1, [(0, 1)]⟩] :=
      run_reaches (startAndLogIn ++ channelOpens 0 ++ delivers 0 1) (by decide +kernel)
    obtain ⟨t, reached, delivered⟩ := ran
    exact ⟨t, ⟨reached, delivered⟩, (delivery_own_ack t).1 reached⟩
  · have ran : ∃ t, Reach (deliveriesTraced accepting) anyStep ⟨World.start fanout, []⟩ t ∧
        (deliveriesTraced accepting t (.consumeRecvedCb 0 none 2)).isSome = true ∧
        ¬ unreplaced t.now (.consumeRecvedCb 0 none 2) :=
      run_reaches (startAndLogIn ++ channelOpens 0 ++ startAgain ++ parsing) (by decide +kernel)
    obtain ⟨t, reached, enabled, replaced⟩ := ran
    obtain ⟨u, taken⟩ := Option.isSome_iff_exists.mp enabled
    exact ⟨t, u, ⟨reached, taken, replaced⟩, (delivery_own_ack t).2 _ u reached taken replaced⟩

theorem restart_acks_other_channel :
    ∃ t, Reachable (deliveriesTraced accepting) ⟨World.start fanout, []⟩ t ∧
      t.past = [⟨0, 1, [(2, 1)]⟩] ∧ ¬ AcksOwn t :=
  run_reaches (startAndLogIn ++ channelOpens 0 ++ startAgain ++ delivers 0 1) (by decide +kernel)

end RmqMgr.Session
