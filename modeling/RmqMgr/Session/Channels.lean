import RmqMgr.Session.Status

set_option autoImplicit false

-- Every failure makes a new channel, and a start makes one beside the channels of the session
-- before it. The channel that loses its pointer is closed with it, so none is left open.

namespace RmqMgr.Session

open Transition

variable {lib : Library} {getConnection : Nat → Option Nat}

def pointer (s : RmqMgrBase) : Role → Option Nat
  | .consumer => s.channel
  | .publish => s.channelPub

def NoStray (s : RmqMgrBase) : Prop :=
  ∀ c, (s.channels c).usable = true → pointer s (s.channels c).role = some c

theorem noStray_effect (s t : RmqMgrBase) (effect : Effect getConnection s t)
    (held : Roles s ∧ NoStray s) : Roles t ∧ NoStray t := by
  obtain ⟨roles, noStray⟩ := held
  refine ⟨roles_effect s t effect roles, ?_⟩
  cases effect with
  | @consumerMade k channels _ _ replaces =>
    intro c usable
    have usable : (channels c).usable = true := usable
    by_cases new : c = s.channelCount
    · subst new
      simp only [replaces.new fun c same => (roles.channel c same).1]
      rfl
    · have other : s.channel ≠ some c := by
        intro replaced
        rw [replaces.replaced c new replaced] at usable
        cases usable
      rw [replaces.others c new other] at usable
      have before := noStray c usable
      simp only [replaces.others c new other]
      cases role : (s.channels c).role with
      | consumer => exact absurd (by simpa [role, pointer] using before) other
      | publish => simpa [role, pointer] using before
  | @publishMade k channels _ _ replaces =>
    intro c usable
    have usable : (channels c).usable = true := usable
    by_cases new : c = s.channelCount
    · subst new
      simp only [replaces.new fun c same => (roles.channelPub c same).1]
      rfl
    · have other : s.channelPub ≠ some c := by
        intro replaced
        rw [replaces.replaced c new replaced] at usable
        cases usable
      rw [replaces.others c new other] at usable
      have before := noStray c usable
      simp only [replaces.others c new other]
      cases role : (s.channels c).role with
      | consumer => simpa [role, pointer] using before
      | publish => exact absurd (by simpa [role, pointer] using before) other
  | pushed operation d =>
    intro c usable
    rw [Channel.usable, (push_identity operation d c s).2.1] at usable
    rw [(push_identity operation d c s).1]
    exact noStray c usable
  | _ => exact noStray

theorem reachable_noStray {mqInfo : MqInfo} {w : World}
    (reached : Reachable (step lib) (World.start mqInfo) w) : NoStray w.ses := by
  have held := reached.invariant (fun w => Roles w.ses ∧ NoStray w.ses) ?_ ?_
  · exact held.2
  · refine ⟨⟨by simp [World.start], by simp [World.start]⟩, fun c usable => ?_⟩
    simp [World.start, Channel.usable] at usable
  · intro w e v _ held _ taken
    refine session_step (fun s => Roles s ∧ NoStray s) ?_ (fun _ => noStray_effect) ?_ ?_ held taken
    · rintro s t frame ⟨roles, noStray⟩
      refine ⟨roles.framed frame, fun c usable => ?_⟩
      have before := noStray c (frame.stillOpen c usable).1
      rw [(frame.identity c).2.1]
      cases role : (s.channels c).role with
      | consumer => simpa [pointer, role, frame.channel] using before
      | publish => simpa [pointer, role, frame.channelPub] using before
    · rintro d s ⟨roles, noStray⟩
      refine ⟨roles.setChannel d (by rfl) s.handling, fun c usable => ?_⟩
      have before := noStray c ((confirmOpen_usable d c s).symm.trans usable)
      have role : ((confirmOpen d s).channels c).role = (s.channels c).role := by
        by_cases same : c = d
        · subst same
          simp [confirmOpen]
        · rw [confirmOpen, setChannel_other same]
      rw [role]
      exact before
    · exact fun s _ _ _ _ _ held => ⟨⟨held.1.channel, held.1.channelPub⟩, held.2⟩

def Ended (c : Nat) (s : RmqMgrBase) : Prop :=
  c < s.channelCount ∧ (s.channels c).usable = false

theorem ended_replaces {s : RmqMgrBase} {role : Role} {held : Option Nat} {k : ConnId}
    {channels : Nat → Channel} {calls : List Call} {c : Nat} (ended : Ended c s)
    (replaces : Replaces role held k s channels calls) :
    c < s.channelCount + 1 ∧ (channels c).usable = false := by
  obtain ⟨inside, unusable⟩ := ended
  refine ⟨Nat.lt_succ_of_lt inside, ?_⟩
  by_cases hit : held = some c
  · exact replaces.replaced c (Nat.ne_of_lt inside) hit
  · rw [replaces.others c (Nat.ne_of_lt inside) hit]
    exact unusable

theorem ended_effect (c : Nat) (s t : RmqMgrBase) (effect : Effect getConnection s t)
    (ended : Ended c s) : Ended c t := by
  cases effect with
  | consumerMade _ replaces | publishMade _ replaces => exact ended_replaces ended replaces
  | pushed operation d =>
    refine ⟨ended.1, ?_⟩
    rw [Channel.usable, (push_identity operation d c s).2.1]
    exact ended.2
  | _ => exact ended

theorem ended_step {c : Nat} {w v : World} {e : Event} (ended : Ended c w.ses)
    (taken : step lib w e = some v) : Ended c v.ses := by
  refine session_step (Ended c) ?_ (fun _ => ended_effect c) ?_ ?_ ended taken
  · rintro s t frame ⟨inside, unusable⟩
    refine ⟨frame.channelCount ▸ inside, Bool.eq_false_iff.mpr fun usable => ?_⟩
    rw [(frame.stillOpen c usable).1] at unusable
    cases unusable
  · rintro d s ⟨inside, unusable⟩
    exact ⟨inside, (confirmOpen_usable d c s).trans unusable⟩
  · exact fun _ _ _ _ _ _ ended => ended

structure OneEach (lib : Library) (w : World) : Prop where
  held : NoStray w.ses
  one : ∀ c d, (w.ses.channels c).usable = true → (w.ses.channels d).usable = true →
    (w.ses.channels c).role = (w.ses.channels d).role → c = d
  final : ∀ c, Ended c w.ses → ∀ v, Reachable (step lib) w v → Ended c v.ses

theorem channels_one_each {mqInfo : MqInfo} {w : World}
    (reached : Reachable (step lib) (World.start mqInfo) w) : OneEach lib w := by
  have noStray := reachable_noStray reached
  refine ⟨noStray, fun c d first second same => ?_, fun c ended v later => ?_⟩
  · have holdsC := noStray c first
    rw [same, noStray d second] at holdsC
    exact (Option.some.inj holdsC).symm
  · exact later.invariant (fun v => Ended c v.ses) ended fun _ _ _ _ ended _ taken =>
      ended_step ended taken

open Run

theorem replaced_one_each :
    ∃ w, (Reachable (step accepting) (World.start fanout) w ∧ w.ses.channelCount = 7 ∧
        w.ses.channel = some 6 ∧ w.ses.channelPub = some 1) ∧ OneEach accepting w := by
  have ran : ∃ w, Reachable (step accepting) (World.start fanout) w ∧ w.ses.channelCount = 7 ∧
      w.ses.channel = some 6 ∧ w.ses.channelPub = some 1 :=
    run_reaches (startAndLogIn ++ channelOpens 0 ++ parsing ++ [.reportError 0 failing])
      (by decide +kernel)
  obtain ⟨w, reached, replaced⟩ := ran
  exact ⟨w, ⟨reached, replaced⟩, channels_one_each reached⟩

end RmqMgr.Session
