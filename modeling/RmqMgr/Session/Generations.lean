import RmqMgr.Session.Status

set_option autoImplicit false

-- `GetMqConnection` fetches the object that its `TcpMgr` has at that moment, and `OnConnect` may
-- make the next one after it. The session never holds a later object than the `TcpMgr`.

namespace RmqMgr.Session

open Transition

variable {lib : Library} {getConnection : Nat → Option Nat}

def NotAhead (getConnection : Nat → Option Nat) (k : ConnId) : Prop :=
  ∃ n, getConnection k.tcpMgr = some n ∧ k.number ≤ n

structure Fetches (getConnection : Nat → Option Nat) (s : RmqMgrBase) : Prop where
  roles : Roles s
  connection : ∀ k, s.connection = some k → NotAhead getConnection k
  channels : ∀ c < s.channelCount, NotAhead getConnection (s.channels c).connection

theorem fetches_replaces {s : RmqMgrBase} {role : Role} {pointer : Option Nat} {k : ConnId}
    {channels : Nat → Channel} {calls : List Call} (fetches : Fetches getConnection s)
    (some : s.connection = some k) (replaces : Replaces role pointer k s channels calls)
    (inside : ∀ c, pointer = Option.some c → c < s.channelCount) (c : Nat)
    (made : c < s.channelCount + 1) : NotAhead getConnection (channels c).connection := by
  by_cases new : c = s.channelCount
  · subst new
    rw [replaces.new inside]
    exact fetches.connection k some
  · rw [(replaces.identity c new).1]
    exact fetches.channels c (Nat.lt_of_le_of_ne (Nat.le_of_lt_succ made) new)

theorem fetches_effect (s t : RmqMgrBase) (effect : Effect getConnection s t)
    (fetches : Fetches getConnection s) : Fetches getConnection t := by
  obtain ⟨roles, connection, channels⟩ := fetches
  have after := roles_effect s t effect roles
  cases effect with
  | fetched i _ _ =>
    refine ⟨after, fun k some => ?_, channels⟩
    obtain ⟨n, made, rfl⟩ := Option.map_eq_some_iff.mp some
    exact ⟨n, made, Nat.le_refl n⟩
  | consumerMade some replaces =>
    exact ⟨after, connection, fetches_replaces ⟨roles, connection, channels⟩ some replaces
      fun c same => (roles.channel c same).1⟩
  | publishMade some replaces =>
    exact ⟨after, connection, fetches_replaces ⟨roles, connection, channels⟩ some replaces
      fun c same => (roles.channelPub c same).1⟩
  | pushed operation d =>
    refine ⟨after, connection, fun c inside => ?_⟩
    by_cases hit : c = d
    · subst hit
      simpa [push] using channels c inside
    · simpa [push, setChannel_other hit] using channels c inside
  | _ => exact ⟨after, connection, channels⟩

theorem connection_grows {w v : World} {e : Event} {i n : Nat} (older : Tcp.Older (w.tcps i))
    (taken : step lib w e = some v) (made : w.getConnection i = some n) :
    ∃ m, v.getConnection i = some m ∧ n ≤ m := by
  rcases step_tcp i taken with same | ⟨te, _, stepped⟩
  · exact ⟨n, by rw [World.getConnection, same]; exact made, Nat.le_refl n⟩
  · rcases Tcp.connection_step stepped with kept | ⟨_, next⟩
    · exact ⟨n, kept.trans made, Nat.le_refl n⟩
    · exact ⟨_, next, (older n made).1⟩

theorem Fetches.framed {s t : RmqMgrBase} (fetches : Fetches getConnection s) (frame : Frame s t) :
    Fetches getConnection t := by
  refine ⟨fetches.roles.framed frame, ?_, ?_⟩
  · rw [frame.connection]
    exact fetches.connection
  · intro c inside
    rw [frame.channelCount] at inside
    rw [(frame.identity c).1]
    exact fetches.channels c inside

theorem Fetches.confirmed {s : RmqMgrBase} (fetches : Fetches getConnection s) (c : Nat)
    (handling : Option Nat) : Fetches getConnection { confirmOpen c s with handling } := by
  refine ⟨fetches.roles.setChannel c (by rfl) handling, fetches.connection, fun d inside => ?_⟩
  by_cases hit : d = c
  · subst hit
    simpa [confirmOpen] using fetches.channels d inside
  · simpa [confirmOpen, setChannel_other hit] using fetches.channels d inside

theorem getMqConnection_fetches {s : RmqMgrBase} (fetches : Fetches getConnection s) :
    Fetches getConnection (Session.getMqConnection getConnection s) := by
  obtain ⟨roles, connection, channels⟩ := fetches
  unfold Session.getMqConnection
  split
  next => exact ⟨⟨roles.channel, roles.channelPub⟩, connection, channels⟩
  next i _ =>
    refine ⟨⟨roles.channel, roles.channelPub⟩, fun k some => ?_, channels⟩
    obtain ⟨n, made, rfl⟩ := Option.map_eq_some_iff.mp some
    exact ⟨n, made, Nat.le_refl n⟩

theorem fetches_step {w v : World} {e : Event} (older : ∀ i, Tcp.Older (w.tcps i))
    (fetches : Fetches w.getConnection w.ses) (taken : step lib w e = some v) :
    Fetches v.getConnection v.ses := by
  have through {s t : RmqMgrBase} (fetches : Fetches w.getConnection s)
      (effects : Effects w.getConnection s t) : Fetches w.getConnection t :=
    effects.invariant _ fetches_effect fetches
  have after : Fetches w.getConnection v.ses := by
    have moved := step_moved taken
    generalize v.ses = s at moved ⊢
    cases moved with
    | framed frame => exact fetches.framed frame
    | onReady | started =>
      exact ⟨⟨fetches.roles.channel, fetches.roles.channelPub⟩, fetches.connection, fetches.channels⟩
    | @reportReady c =>
      obtain ⟨before, t, after, effects, same⟩ := reportReady_effects c w.ses
      have done := through (fetches.confirmed c before) effects
      rw [same]
      exact ⟨⟨done.roles.channel, done.roles.channelPub⟩, done.connection, done.channels⟩
    | @reportError c message =>
      have ended : Frame w.ses (endChannel c w.ses) :=
        frame_setChannel rfl rfl rfl fun able => (by simp [Channel.usable] at able)
      exact through (fetches.framed ended) (reportError_effects c message w.ses)
    | fetched => exact getMqConnection_fetches fetches
    | created _ result => exact through fetches (createMqChannel_result result)
    | notCreated _ result =>
      have done := through fetches (createMqChannel_result result)
      exact ⟨⟨done.roles.channel, done.roles.channelPub⟩, done.connection, done.channels⟩
  have grown (k : ConnId) (notAhead : NotAhead w.getConnection k) :
      NotAhead v.getConnection k := by
    obtain ⟨n, made, before⟩ := notAhead
    obtain ⟨m, next, later⟩ := connection_grows (older _) taken made
    exact ⟨m, next, Nat.le_trans before later⟩
  exact ⟨after.roles, fun k some => grown k (after.connection k some),
    fun c inside => grown _ (after.channels c inside)⟩

structure Unstarted (w : World) : Prop where
  later : ∀ i, w.tcpCount ≤ i → w.tcps i = .started
  current : ∀ i, w.ses.pTcpMgr = some i → i < w.tcpCount

theorem target_inside {w v : World} {e : Event} {i : Nat} {te : Tcp.Event}
    (unstarted : Unstarted w) (taken : step lib w e = some v)
    (target : w.target e = some (i, te)) : i < w.tcpCount := by
  cases step_took taken with
  | transport inside =>
    obtain ⟨rfl, _⟩ := Prod.mk.inj (Option.some.inj target)
    exact inside
  | onData made =>
    obtain ⟨rfl, _⟩ := Prod.mk.inj (Option.some.inj target)
    exact made.1
  | onReady parses | onError parses | onClosed parses =>
    obtain ⟨rfl, _⟩ := Prod.mk.inj (Option.some.inj target)
    exact parses.1
  | finitClose _ some | finitStop _ some =>
    simp only [World.target, some, Option.map_some, Option.some.injEq, Prod.mk.injEq] at target
    obtain ⟨rfl, _⟩ := target
    exact unstarted.current _ some
  | finitFaulted finit none =>
    rcases finit with ⟨rfl, _⟩ | ⟨rfl, _⟩ | ⟨rfl, _⟩ <;> simp [World.target, none] at target
  | _ => cases target

theorem tcpCount_step {w v : World} {e : Event} (taken : step lib w e = some v) :
    v.tcpCount = w.tcpCount ∨ e = .startMqInstance none ∧ v.tcpCount = w.tcpCount + 1 := by
  cases step_took taken with
  | started => exact .inr ⟨rfl, rfl⟩
  | _ => exact .inl rfl

theorem unstarted_step {w v : World} {e : Event} (unstarted : Unstarted w)
    (taken : step lib w e = some v) : Unstarted v := by
  have count := tcpCount_step taken
  constructor
  · intro i beyond
    have beyond : w.tcpCount ≤ i := by
      rcases count with same | ⟨_, next⟩ <;> omega
    rcases step_tcp i taken with same | ⟨te, target, _⟩
    · rw [same]
      exact unstarted.later i beyond
    · exact absurd (target_inside unstarted taken target) (Nat.not_lt.mpr beyond)
  · intro i current
    rcases pTcpMgr_step taken with same | ⟨rfl, new⟩
    · have inside := unstarted.current i (same.symm.trans current)
      rcases count with same | ⟨_, next⟩ <;> omega
    · obtain rfl := Option.some.inj (new.symm.trans current)
      cases step_took taken with
      | started => exact Nat.lt_succ_self _
      | finitFaulted finit => simp at finit

end RmqMgr.Session
