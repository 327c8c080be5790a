import Mathlib.Data.List.Nodup
import RmqMgr.Session.Replacement

set_option autoImplicit false

namespace RmqMgr.Session

open Transition

variable {lib : Library} {getConnection : Nat → Option Nat}

def OwnSetUps (s : RmqMgrBase) : Prop :=
  (∀ call ∈ setUpCalls s, call.2.2 = some call.2.1) ∧
    ((setUpCalls s).map fun call => (call.1, call.2.1)).Nodup

instance (s : RmqMgrBase) : Decidable (OwnSetUps s) :=
  inferInstanceAs (Decidable (_ ∧ _))

structure SetUpOnce (s : RmqMgrBase) : Prop where
  own : ∀ call ∈ setUpCalls s, call.2.2 = some call.2.1
  opened : ∀ call ∈ setUpCalls s,
    call.2.1 < s.channelCount ∧ (s.channels call.2.1).opened = true
  once : (setUpCalls s).Nodup

theorem SetUpOnce.ownSetUps {s : RmqMgrBase} (setUp : SetUpOnce s) : OwnSetUps s := by
  refine ⟨setUp.own, List.Nodup.map_on ?_ setUp.once⟩
  intro x inX y inY same
  have ownX := setUp.own x inX
  have ownY := setUp.own y inY
  obtain ⟨operation, c, owner⟩ := x
  obtain ⟨operation', c', owner'⟩ := y
  simp_all

theorem opened_effects {s t : RmqMgrBase} (effects : Effects getConnection s t) :
    ∀ d, d < s.channelCount →
      d < t.channelCount ∧ (t.channels d).opened = (s.channels d).opened := by
  refine effects.invariant (fun t => ∀ d, d < s.channelCount →
    d < t.channelCount ∧ (t.channels d).opened = (s.channels d).opened) ?_ fun d inside => ⟨inside, rfl⟩
  intro t u effect kept d inside
  obtain ⟨before, same⟩ := kept d inside
  cases effect with
  | consumerMade _ replaces | publishMade _ replaces =>
    have identity := replaces.identity d (Nat.ne_of_lt before)
    exact ⟨Nat.lt_succ_of_lt before, identity.2.2.trans same⟩
  | pushed operation c =>
    exact ⟨before, (push_identity operation c d t).2.2.trans same⟩
  | _ => exact ⟨before, same⟩

theorem SetUpOnce.kept {s t : RmqMgrBase} (setUp : SetUpOnce s)
    (calls : setUpCalls t = setUpCalls s)
    (opened : ∀ d, d < s.channelCount → (s.channels d).opened = true →
      d < t.channelCount ∧ (t.channels d).opened = true) : SetUpOnce t := by
  refine ⟨by rw [calls]; exact setUp.own, ?_, by rw [calls]; exact setUp.once⟩
  rw [calls]
  intro call member
  obtain ⟨inside, before⟩ := setUp.opened call member
  exact opened _ inside before

theorem SetUpOnce.through {s t : RmqMgrBase} (setUp : SetUpOnce s)
    (calls : setUpCalls t = setUpCalls s) (effects : Effects getConnection s t) : SetUpOnce t := by
  apply setUp.kept calls
  intro d inside before
  obtain ⟨after, same⟩ := opened_effects effects d inside
  exact ⟨after, same.trans before⟩

theorem confirmOpen_opened (c d : Nat) (s : RmqMgrBase)
    (before : d = c ∨ (s.channels d).opened = true) :
    ((confirmOpen c s).channels d).opened = true := by
  by_cases same : d = c
  · subst same
    simp [confirmOpen]
  · rw [confirmOpen, setChannel_other same]
    exact before.resolve_left same

theorem endChannel_opened (c d : Nat) (s : RmqMgrBase) :
    ((endChannel c s).channels d).opened = (s.channels d).opened := by
  by_cases same : d = c
  · subst same
    simp [endChannel]
  · rw [endChannel, setChannel_other same]

def readyOwn (w : World) (e : Event) : Prop :=
  ∀ c ∈ e.readies, (w.ses.channels c).role = .consumer →
    w.ses.channel = some c ∧ sends c w.ses = true

instance (w : World) (e : Event) : Decidable (readyOwn w e) :=
  inferInstanceAs (Decidable (∀ _ ∈ _, _ → _ ∧ _))

theorem setUpOperations_nodup (mqInfo : MqInfo) : (setUpOperations mqInfo).Nodup := by
  unfold setUpOperations
  split <;> decide

theorem reportReady_opened {c d : Nat} {s : RmqMgrBase} (inside : d < s.channelCount)
    (before : d = c ∨ (s.channels d).opened = true) :
    d < (reportReady lib getConnection c s).channelCount ∧
      ((reportReady lib getConnection c s).channels d).opened = true := by
  obtain ⟨handling, t, after, effects, same⟩ := reportReady_effects c s
  obtain ⟨counted, kept⟩ := opened_effects effects d inside
  rw [same]
  exact ⟨counted, kept.trans (confirmOpen_opened c d s before)⟩

theorem reportReady_setUpOnce {c : Nat} {s : RmqMgrBase} (roles : Roles s) (setUp : SetUpOnce s)
    (inside : c < s.channelCount) (fresh : (s.channels c).opened = false)
    (own : (s.channels c).role = .consumer → s.channel = some c ∧ sends c s = true) :
    SetUpOnce (reportReady lib getConnection c s) := by
  cases role : (s.channels c).role with
  | publish =>
    have calls : setUpCalls (reportReady lib getConnection c s) = setUpCalls s := by
      simp only [reportReady, role]
      rfl
    exact setUp.kept calls fun d inside before => reportReady_opened inside (.inr before)
  | consumer =>
    obtain ⟨channel, able⟩ := own role
    obtain ⟨start, p, t, rfl, _, made, done, same⟩ :=
      reportReady_setsUp lib getConnection roles role channel able
    have calls : setUpCalls (reportReady lib getConnection c s) = setUpCalls s ++
        (setUpOperations s.mqInfo).map fun operation => (operation, c, some c) := by
      have asked : setUpCalls t = setUpCalls p ++ _ := done.calls
      rw [made.calls, made.handling] at asked
      rw [same]
      exact asked
    -- The channel was not open before, so nothing was asked of it.
    have unasked : ∀ call ∈ setUpCalls s, call.2.1 ≠ c := by
      intro call member hit
      have before := (setUp.opened call member).2
      rw [hit, fresh] at before
      cases before
    refine ⟨?_, ?_, ?_⟩
    · rw [calls]
      intro call member
      rcases List.mem_append.mp member with earlier | asked
      · exact setUp.own call earlier
      · obtain ⟨operation, _, rfl⟩ := List.mem_map.mp asked
        rfl
    · intro call member
      rw [calls] at member
      rcases List.mem_append.mp member with earlier | asked
      · obtain ⟨inside, before⟩ := setUp.opened call earlier
        exact reportReady_opened inside (.inr before)
      · obtain ⟨operation, _, rfl⟩ := List.mem_map.mp asked
        exact reportReady_opened inside (.inl rfl)
    · rw [calls]
      apply List.Nodup.append setUp.once
      · apply (setUpOperations_nodup s.mqInfo).map
        intro x y equal
        exact congrArg Prod.fst equal
      · intro call earlier asked
        obtain ⟨operation, _, rfl⟩ := List.mem_map.mp asked
        exact unasked _ earlier rfl

theorem setUpOnce_step {w v : World} {e : Event} (roles : Roles w.ses) (setUp : SetUpOnce w.ses)
    (own : readyOwn w e) (taken : step lib w e = some v) : SetUpOnce v.ses := by
  have moved := step_moved taken
  generalize v.ses = s at moved ⊢
  cases moved with
  | framed frame =>
    apply setUp.kept frame.setUpCalls
    intro d inside before
    rw [frame.channelCount, (frame.identity d).2.2]
    exact ⟨inside, before⟩
  | onReady | started => exact setUp.kept rfl fun d inside before => ⟨inside, before⟩
  | reportReady hears fresh =>
    exact reportReady_setUpOnce roles setUp hears.1 fresh (own _ rfl)
  | @reportError c message =>
    have ended : SetUpOnce (endChannel c w.ses) :=
      setUp.kept rfl fun d inside before => ⟨inside, (endChannel_opened c d w.ses).trans before⟩
    have recreates : Recreates lib _ w.ses (reportError lib w.getConnection c message w.ses) :=
      reportError_recreates c message w.ses
    exact ended.through recreates.calls (reportError_effects c message w.ses)
  | fetched =>
    unfold getMqConnection
    split <;> exact setUp.kept rfl fun d inside before => ⟨inside, before⟩
  | created _ result | notCreated _ result =>
    have recreates : Recreates lib 1 w.ses (createMqChannel lib w.getConnection w.ses).1 :=
      createMqChannel_recreates w.ses
    have after : SetUpOnce (createMqChannel lib w.getConnection w.ses).1 :=
      setUp.through recreates.calls (createMqChannel_effects w.ses)
    rw [result] at after
    exact after.kept rfl fun d inside before => ⟨inside, before⟩

theorem set_up_by_own_ready {mqInfo : MqInfo} {w : World}
    (reached : Reach (step lib) readyOwn (World.start mqInfo) w) : OwnSetUps w.ses := by
  have setUp : SetUpOnce w.ses := by
    apply reached.invariant fun w => SetUpOnce w.ses
    · exact ⟨by simp [World.start, setUpCalls], by simp [World.start, setUpCalls],
        by simp [World.start, setUpCalls]⟩
    · intro w e v before setUp own taken
      exact setUpOnce_step (reachable_roles before.reachable) setUp own taken
  exact setUp.ownSetUps

open Run

theorem first_channel_set_up :
    ∃ w, (Reach (step accepting) readyOwn (World.start fanout) w ∧
        (setUpCalls w.ses).map Prod.fst = [.exchange, .queue, .bind, .consume]) ∧
      OwnSetUps w.ses := by
  have ran : ∃ w, Reach (step accepting) readyOwn (World.start fanout) w ∧
      (setUpCalls w.ses).map Prod.fst = [.exchange, .queue, .bind, .consume] :=
    run_reaches (startAndLogIn ++ channelOpens 0) (by decide +kernel)
  obtain ⟨w, reached, asked⟩ := ran
  exact ⟨w, ⟨reached, asked⟩, set_up_by_own_ready reached⟩

theorem replaced_channels_set_up :
    ∃ w, Reach (step accepting) anyStep (World.start fanout) w ∧
      w.ses.channel = some 6 ∧ ¬ OwnSetUps w.ses :=
  run_reaches (startAndLogIn ++ channelOpens 0 ++ parsing ++
    [.reportError 0 failing, .reportReady 2, .reportReady 3]) (by decide +kernel)

end RmqMgr.Session
