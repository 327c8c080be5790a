import RmqMgr.Session.SessionStep
import RmqMgr.Tcp.Connection

set_option autoImplicit false

namespace RmqMgr.Session

open Transition

variable {lib : Library} {getConnection : Nat → Option Nat}

def Current (getConnection : Nat → Option Nat) (s : RmqMgrBase) : Prop :=
  ∀ i n, s.pTcpMgr = some i → getConnection i = some n → s.connection = some ⟨i, n⟩

def Attached (s : RmqMgrBase) : Prop :=
  ∃ c k, s.channel = some c ∧ s.connection = some k ∧ (s.channels c).connection = k

structure Joined (getConnection : Nat → Option Nat) (live fetched : Prop) (s : RmqMgrBase) : Prop where
  current : live → Current getConnection s
  attached : live → (s.pTcpMgr.bind getConnection).isSome = true → Attached s
  inside : ∀ c, s.channel = some c → c < s.channelCount
  fetched : fetched → connectionUsable s = true → Current getConnection s

variable {live fetched : Prop}

theorem getMqConnection_current (s : RmqMgrBase) :
    Current getConnection (getMqConnection getConnection s) := by
  unfold getMqConnection
  split
  next none =>
    intro i n some
    exact absurd (none.symm.trans some) (by simp)
  next i some =>
    intro j n some' made
    obtain rfl := Option.some.inj (some.symm.trans some')
    simp [made]

theorem getMqConnection_joined {s : RmqMgrBase} (fetched' : Prop)
    (joined : Joined getConnection live fetched s) :
    Joined getConnection live fetched' (getMqConnection getConnection s) := by
  have current : Current getConnection (getMqConnection getConnection s) :=
    getMqConnection_current s
  refine ⟨fun _ => current, ?_, ?_, fun _ _ => current⟩
  · intro alive
    unfold getMqConnection
    split
    next none => simp [none]
    next i some =>
      -- The connection fetched is the one that `m_channel` is on already.
      intro up
      obtain ⟨c, k, channel, connection, attached⟩ := joined.attached alive up
      refine ⟨c, k, channel, ?_, attached⟩
      simp only [some, Option.bind_some] at up
      obtain ⟨n, made⟩ := Option.isSome_iff_exists.mp up
      rw [← connection, joined.current alive i n some made]
      simp [made]
  · unfold getMqConnection
    split <;> exact joined.inside

theorem consumer_attached {s : RmqMgrBase} {pointer : Option Nat} {k : ConnId}
    {channels : Nat → Channel} {calls : List Call} (some : s.connection = some k)
    (inside : ∀ c, pointer = Option.some c → c < s.channelCount)
    (replaces : Replaces .consumer pointer k s channels calls) :
    Attached { s with
      channel := Option.some s.channelCount, channelCount := s.channelCount + 1, channels, calls } := by
  refine ⟨s.channelCount, k, rfl, some, ?_⟩
  simp only [replaces.new inside]

theorem joined_effect (s t : RmqMgrBase) (effect : Effect getConnection s t)
    (joined : Joined getConnection live fetched s) : Joined getConnection live fetched t := by
  cases effect with
  | fetched i unusable some =>
    have same : getMqConnection getConnection s =
        { s with connection := (getConnection i).map (ConnId.mk i) } := by
      simp only [getMqConnection, some]
    rw [← same]
    exact getMqConnection_joined fetched joined
  | consumerMade some replaces =>
    refine ⟨joined.current, fun _ _ => consumer_attached some joined.inside replaces, ?_,
      joined.fetched⟩
    intro c same
    obtain rfl := Option.some.inj same
    exact Nat.lt_succ_self _
  | publishMade _ replaces =>
    refine ⟨joined.current, ?_, fun c same => Nat.lt_succ_of_lt (joined.inside c same),
      joined.fetched⟩
    intro alive up
    obtain ⟨c, k, channel, connection, attached⟩ := joined.attached alive up
    have older : c ≠ s.channelCount := Nat.ne_of_lt (joined.inside c channel)
    exact ⟨c, k, channel, connection, (replaces.identity c older).1.trans attached⟩
  | pushed operation d some =>
    refine ⟨joined.current, ?_, joined.inside, joined.fetched⟩
    intro alive up
    obtain ⟨c, k, channel, connection, attached⟩ := joined.attached alive up
    obtain rfl := Option.some.inj (channel.symm.trans some)
    refine ⟨c, k, channel, connection, ?_⟩
    simpa [push, setChannel] using attached
  | _ => exact ⟨joined.current, joined.attached, joined.inside, joined.fetched⟩

theorem Joined.through {s t : RmqMgrBase} (joined : Joined getConnection live fetched s)
    (effects : Effects getConnection s t) : Joined getConnection live fetched t :=
  effects.invariant (Joined getConnection live fetched) joined_effect joined

theorem Joined.setChannel {s : RmqMgrBase} (joined : Joined getConnection live fetched s) (c : Nat)
    {channel : Channel} (same : channel.connection = (s.channels c).connection)
    (handling : Option Nat) :
    Joined getConnection live fetched { setChannel c channel s with handling } := by
  refine ⟨joined.current, fun alive up => ?_, joined.inside, joined.fetched⟩
  obtain ⟨d, k, some, connection, attached⟩ := joined.attached alive up
  refine ⟨d, k, some, connection, ?_⟩
  by_cases hit : d = c
  · subst hit
    simpa [same] using attached
  · rw [← attached]
    exact congrArg Channel.connection (setChannel_other hit ..)

theorem reportReady_joined {s : RmqMgrBase} (c : Nat) (joined : Joined getConnection live fetched s) :
    Joined getConnection live fetched (reportReady lib getConnection c s) := by
  obtain ⟨before, t, after, effects, same⟩ := reportReady_effects c s
  rw [same]
  obtain ⟨current, attached, inside, fetched⟩ :=
    Joined.through (joined.setChannel c (by rfl) before) effects
  exact ⟨current, attached, inside, fetched⟩

theorem reportError_joined {s : RmqMgrBase} (c : Nat) (message : String)
    (joined : Joined getConnection live fetched s) :
    Joined getConnection live fetched (reportError lib getConnection c message s) :=
  Joined.through (joined.setChannel c (by rfl) s.handling) (reportError_effects c message s)

/-- No connection object is replaced between the return of `StartMqInstance` and the call of
`ReleaseMqInstance`, nor after `StartMqInstance` has fetched it, as long as it is usable. -/
def connectionStays (w : World) (e : Event) : Prop :=
  ∀ i ∈ w.ses.pTcpMgr, e = .transport i .created →
    w.live = false ∧ (w.user = .createMqChannel → connectionUsable w.ses = false)

instance (w : World) (e : Event) : Decidable (connectionStays w e) :=
  inferInstanceAs (Decidable (∀ _ ∈ _, _))

abbrev Agreement (w : World) : Prop :=
  Joined w.getConnection (w.live = true) (w.user = .createMqChannel) w.ses

theorem Joined.moved {getConnection' : Nat → Option Nat} {s : RmqMgrBase}
    {connections : ConnId → Connection} (joined : Joined getConnection live fetched s)
    (steady : ∀ i, s.pTcpMgr = some i → live ∨ fetched ∧ connectionUsable s = true →
      getConnection' i = getConnection i)
    (weaker : connectionUsable { s with connections } = true → connectionUsable s = true) :
    Joined getConnection' live fetched { s with connections } where
  current alive i n some made := by
    rw [steady i some (.inl alive)] at made
    exact joined.current alive i n some made
  attached alive up := by
    apply joined.attached alive
    obtain ⟨n, up⟩ := Option.isSome_iff_exists.mp up
    obtain ⟨i, some, made⟩ := Option.bind_eq_some_iff.mp up
    rw [steady i some (.inl alive)] at made
    exact Option.isSome_iff_exists.mpr ⟨n, Option.bind_eq_some_iff.mpr ⟨i, some, made⟩⟩
  inside := joined.inside
  fetched user usable i n some made := by
    rw [steady i some (.inr ⟨user, weaker usable⟩)] at made
    exact joined.fetched user (weaker usable) i n some made

theorem Fetched.joined {s t : RmqMgrBase} (step : Fetched getConnection s t)
    (joined : Joined getConnection live True s) :
    Current getConnection t ∧ ∀ c, t.channel = some c → c < t.channelCount := by
  rcases step with ⟨usable, rfl⟩ | ⟨_, rfl⟩
  · exact ⟨joined.fetched trivial usable, joined.inside⟩
  · have after : Joined getConnection live True (getMqConnection getConnection s) :=
      getMqConnection_joined True joined
    exact ⟨getMqConnection_current s, after.inside⟩

theorem createMqChannel_joined {s t : RmqMgrBase} (joined : Joined getConnection live True s)
    (created : createMqChannel lib getConnection s = (t, none)) :
    Joined getConnection True False t := by
  cases Created.of_result created with
  | @faulted t step none =>
    obtain ⟨current, inside⟩ := step.joined joined
    refine ⟨fun _ => current, ?_, inside, fun never => never.elim⟩
    intro _ up
    obtain ⟨n, up⟩ := Option.isSome_iff_exists.mp up
    obtain ⟨i, some, made⟩ := Option.bind_eq_some_iff.mp up
    have connection : t.connection = Option.some ⟨i, n⟩ := current i n some made
    rw [none] at connection
    cases connection
  | made step some replaces =>
    obtain ⟨current, inside⟩ := step.joined joined
    refine ⟨fun _ => current, fun _ _ => consumer_attached some inside replaces, ?_,
      fun never => never.elim⟩
    intro c same
    obtain rfl := Option.some.inj same
    exact Nat.lt_succ_self _

theorem Joined.weaken {s : RmqMgrBase} (joined : Joined getConnection live fetched s)
    {live' fetched' : Prop} (alive : live' → live) (user : fetched' → fetched) :
    Joined getConnection live' fetched' s where
  current alive' := joined.current (alive alive')
  attached alive' := joined.attached (alive alive')
  inside := joined.inside
  fetched user' := joined.fetched (user user')

theorem Joined.framed {s t : RmqMgrBase} (joined : Joined getConnection live fetched s)
    (frame : Frame s t) :
    Joined getConnection live fetched t := by
  have current (held : Current getConnection s) : Current getConnection t := by
    intro i n some made
    rw [frame.pTcpMgr] at some
    rw [frame.connection]
    exact held i n some made
  refine ⟨fun alive => current (joined.current alive), ?_, ?_,
    fun user usable => current (joined.fetched user (frame.usable usable))⟩
  · intro alive up
    rw [frame.pTcpMgr] at up
    obtain ⟨c, k, channel, connection, attached⟩ := joined.attached alive up
    exact ⟨c, k, frame.channel.trans channel, frame.connection.trans connection,
      (frame.identity c).1.trans attached⟩
  · rw [frame.channel, frame.channelCount]
    exact joined.inside

theorem agreement_step {w v : World} {e : Event} (agreement : Agreement w)
    (stays : connectionStays w e) (taken : step lib w e = some v) : Agreement v := by
  have steady : ∀ i, w.ses.pTcpMgr = some i →
      w.live = true ∨ w.user = .createMqChannel ∧ connectionUsable w.ses = true →
      v.getConnection i = w.getConnection i := by
    intro i current held
    rcases getConnection_step i taken with same | rfl
    · exact same
    · obtain ⟨released, unusable⟩ := stays i current rfl
      rcases held with live | ⟨user, usable⟩
      · rw [released] at live
        cases live
      · rw [unusable user] at usable
        cases usable
  cases step_took taken with
  | transport | onData => exact agreement.moved steady fun usable => usable
  | onReady =>
    apply agreement.moved steady
    intro usable
    exact (setReady_usable _ _).symm.trans usable
  | onError | onClosed => exact agreement.moved steady (frame_setUsable _ _).usable
  | reportReady => exact reportReady_joined _ agreement
  | reportError => exact reportError_joined _ _ agreement
  | reportSuccess | reportClosed => exact agreement.setChannel _ (by rfl) w.ses.handling
  | consumeRecvedCb => exact agreement.framed (consumeRecvedCb_frame _ _ w.ses)
  | startFailed | started => exact ⟨by simp, by simp, agreement.inside, by simp⟩
  | waited | timedOut | finitJoin =>
    exact ⟨agreement.current, agreement.attached, agreement.inside, by simp⟩
  | waitFaulted | finitFaulted => exact agreement.framed (frame_faulted w.ses)
  | @finitClose i t | @finitStop i t =>
    have moved : Joined (w.setTcp i t).getConnection (w.live = true) (w.user = .createMqChannel)
        w.ses := agreement.moved steady id
    exact moved.weaken id (by simp)
  | getMqConnection waiting => exact getMqConnection_joined _ agreement
  | startSucceeded waiting result =>
    have joined := createMqChannel_joined (agreement.weaken id fun _ => waiting) result
    exact joined.weaken (fun _ => trivial) (by simp)
  | channelFailed waiting result =>
    have joined := agreement.through (createMqChannel_result result)
    exact ⟨joined.current, joined.attached, joined.inside, by simp⟩
  | @publishMsg msg s _ idle result =>
    have frame := Frame.of_result (publishMsg_frame msg) result
    exact (agreement.framed frame).weaken id (by simp)
  | @releaseMqInstance s _ user _ idle result next =>
    have frame := Frame.of_result closeMqChannel_frame result
    apply (agreement.framed frame).weaken (by simp)
    rcases next with rfl | rfl <;> simp
  | @closeMqConnection s _ user _ waiting result next =>
    have frame := Frame.of_result closeMqConnection_frame result
    apply (agreement.framed frame).weaken (by simp)
    rcases next with rfl | rfl <;> simp

theorem ready_step {w v : World} {e : Event} (taken : step lib w e = some v) (k : ConnId)
    (ready : (v.ses.connections k).ready = true) :
    (w.ses.connections k).ready = true ∨ w.parses k := by
  have moved := step_moved taken
  generalize v.ses = s at moved ready
  cases moved with
  | framed frame => exact .inl ((frame.connections k).1 ▸ ready)
  | @onReady j parses =>
    by_cases same : k = j
    · subst same
      exact .inr parses
    · exact .inl (by simpa [setReady, Function.update_of_ne same] using ready)
  | @reportReady c =>
    obtain ⟨before, t, after, effects, same⟩ := reportReady_effects c w.ses
    rw [same] at ready
    have kept : t.connections = w.ses.connections := effects.connections
    exact .inl (kept ▸ ready)
  | reportError =>
    rw [(reportError_effects _ _ _).connections] at ready
    exact .inl ready
  | started => exact .inl ready
  | fetched =>
    unfold getMqConnection at ready
    split at ready <;> exact .inl ready
  | created _ result | notCreated _ result =>
    have same := (createMqChannel_result result).connections
    exact .inl (same ▸ ready)

/-- The session and the transport in a live run: once the newest connection object has reported
ready and no handler is pending, `m_connection` is that object, and `m_channel` is on it. -/
def Agreed (w : World) : Prop :=
  ∀ i, w.live = true → w.ses.pTcpMgr = some i →
    (w.ses.connections ⟨i, (w.tcps i).generation⟩).ready = true →
    (w.tcps i).strand = [] → (w.tcps i).phase = .idle →
    w.getConnection i = some (w.tcps i).generation ∧
      w.ses.connection = some ⟨i, (w.tcps i).generation⟩ ∧
      ∃ c, w.ses.channel = some c ∧
        (w.ses.channels c).connection = ⟨i, (w.tcps i).generation⟩

theorem reachable_ready {mqInfo : MqInfo} {w : World}
    (reached : Reachable (step lib) (World.start mqInfo) w) :
    ∀ k, (w.ses.connections k).ready = true → k.number ≠ 0 := by
  apply reached.invariant fun w => ∀ k, (w.ses.connections k).ready = true → k.number ≠ 0
  · exact fun k ready => (by cases ready)
  · intro w e v before held _ taken k ready
    rcases ready_step taken k ready with earlier | ⟨_, parsing, current⟩
    · exact held k earlier
    · intro zero
      have latest := (reachable_constructed before k.tcpMgr).latest (by simp [parsing])
      have current : (w.tcps k.tcpMgr).pConnect = some k.number := current
      rw [current, zero] at latest
      split at latest
      next => cases latest
      next positive => exact positive (Option.some.inj latest).symm

theorem sessions_agree {mqInfo : MqInfo} {w : World}
    (reached : Reach (step lib) connectionStays (World.start mqInfo) w) : Agreed w := by
  have agreement : Agreement w := by
    refine reached.invariant Agreement ?_ fun _ _ _ _ agreement stays taken =>
      agreement_step agreement stays taken
    exact ⟨by simp [World.start], by simp [World.start], by simp [World.start],
      by simp [World.start]⟩
  intro i live some ready _ idle
  have constructed := reachable_constructed reached.reachable i
  have positive : (w.tcps i).generation ≠ 0 := reachable_ready reached.reachable _ ready
  have made : w.getConnection i = Option.some (w.tcps i).generation := by
    have latest := constructed.latest (by simp [idle])
    rwa [if_neg positive] at latest
  have current := agreement.current live i _ some made
  obtain ⟨c, k, channel, connection, attached⟩ :=
    agreement.attached live (by simp [some, made])
  obtain rfl := Option.some.inj (connection.symm.trans current)
  exact ⟨made, current, c, channel, attached⟩

open Run

def livesReady (n : Nat) (w : World) : Prop :=
  w.live = true ∧ w.ses.pTcpMgr = some 0 ∧ (w.tcps 0).generation = n ∧
    (w.ses.connections ⟨0, n⟩).ready = true ∧ (w.tcps 0).strand = [] ∧ (w.tcps 0).phase = .idle

instance (n : Nat) (w : World) : Decidable (livesReady n w) :=
  inferInstanceAs (Decidable (_ ∧ _ ∧ _ ∧ _ ∧ _ ∧ _))

theorem first_session_agrees :
    ∃ w, (Reach (step accepting) connectionStays (World.start fanout) w ∧ livesReady 1 w) ∧
      Agreed w := by
  have ran : ∃ w, Reach (step accepting) connectionStays (World.start fanout) w ∧
      livesReady 1 w :=
    run_reaches startAndLogIn (by decide +kernel)
  obtain ⟨w, reached, ready⟩ := ran
  exact ⟨w, ⟨reached, ready⟩, sessions_agree reached⟩

def reconnectsReading : List Event :=
  [.onData ⟨0, 1⟩ .posted [7], runs,
    .transport 0 (.writeDone ⟨1, ⟨1, [7]⟩⟩ (some "Broken pipe")), runs,
    .transport 0 (.readDone (.readSome 4096) none [1]),
    .transport 0 (.runNext [.onConnect Tcp.operationAborted]), runs, parsed, runs,
    .transport 0 (.connectDone none), runs, runs, .transport 0 .created, runs]

theorem reconnect_disagrees :
    ∃ w, Reach (step accepting) anyStep (World.start fanout) w ∧ ¬ Agreed w := by
  have ran : ∃ w, Reach (step accepting) anyStep (World.start fanout) w ∧
      livesReady 2 w ∧ w.ses.connection = some ⟨0, 1⟩ :=
    run_reaches (startAndLogIn ++ reconnectsReading ++ parsing ++ [.onReady ⟨0, 2⟩, parsed])
      (by decide +kernel)
  obtain ⟨w, reached, ⟨live, current, second, ready, strand, idle⟩, connection⟩ := ran
  refine ⟨w, reached, fun agreed => ?_⟩
  rw [← second] at ready
  obtain ⟨_, same, _⟩ := agreed 0 live current ready strand idle
  rw [connection, second] at same
  simp at same

end RmqMgr.Session
