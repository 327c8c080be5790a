import RmqMgr.Session.Publishing
import RmqMgr.Tcp.Liveness

set_option autoImplicit false

-- Nothing mends a transport or a channel that failed, and `StartMqInstance` makes new ones
-- beside them.

namespace RmqMgr.Session

open Transition
open Tcp (TcpMgr)

variable {lib : Library} {getConnection : Nat → Option Nat}

def Untouched (w : World) : Prop :=
  ∀ k : ConnId, w.tcpCount ≤ k.tcpMgr → (w.ses.connections k).usable = true

theorem closeMqChannel_connections (s : RmqMgrBase) :
    (closeMqChannel lib s).1.connections = s.connections := by
  have closed (c : Nat) (s : RmqMgrBase) : (closeUsable lib c s).1.connections = s.connections :=
    (closeUsable_other (Nat.succ_ne_self c) s).2
  unfold closeMqChannel
  split
  next => rfl
  next c _ =>
    have first := closed c s
    split
    next t _ result =>
      rw [result] at first
      exact first
    next t result =>
      rw [result] at first
      split
      next => exact first
      next d _ => exact (closed d t).trans first

theorem untouched_step {w v : World} {e : Event} (fetches : Fetches w.getConnection w.ses)
    (unstarted : Unstarted w) (untouched : Untouched w) (taken : step lib w e = some v) :
    Untouched v := by
  intro k beyond
  have beyond : w.tcpCount ≤ k.tcpMgr := by
    rcases tcpCount_step taken with same | ⟨_, next⟩ <;> omega
  have usable := untouched k beyond
  have apart {j : ConnId} (parses : w.parses j) : k ≠ j := by
    rintro rfl
    exact absurd parses.1 (Nat.not_lt.mpr beyond)
  have kept {s : RmqMgrBase} (same : s.connections = w.ses.connections) :
      (s.connections k).usable = true := by
    rw [same]
    exact usable
  cases step_took taken with
  | onReady parses | onError parses | onClosed parses =>
    simpa only [setReady, setUsable, Function.update_of_ne (apart parses)] using usable
  | @reportReady c =>
    obtain ⟨_, t, _, effects, same⟩ := @reportReady_effects lib w.getConnection c w.ses
    rw [same]
    exact kept effects.connections
  | @reportError c message => exact kept (reportError_effects c message w.ses).connections
  | consumeRecvedCb => exact kept (consumeRecvedCb_objects _ _ _).1
  | getMqConnection =>
    apply kept
    unfold getMqConnection
    split <;> rfl
  | startSucceeded _ result | channelFailed _ result =>
    exact kept (createMqChannel_result result).connections
  | @publishMsg msg s _ _ result =>
    have objects := @publishMsg_objects lib msg w.ses
    rw [result] at objects
    exact kept objects.1
  | @releaseMqInstance s _ _ _ _ result =>
    have same := @closeMqChannel_connections lib w.ses
    rw [result] at same
    exact kept same
  | @closeMqConnection s _ _ _ _ result =>
    have other : w.ses.connection ≠ some k := by
      intro current
      obtain ⟨n, made, _⟩ := fetches.connection k current
      simp [World.getConnection, unstarted.later k.tcpMgr beyond, Tcp.getConnection,
        TcpMgr.started] at made
    have same := (@closeMqConnection_other lib w.ses k other).2
    rw [result] at same
    rw [same]
    exact usable
  | _ => exact usable

structure Prepared (w : World) : Prop where
  fetches : Fetches w.getConnection w.ses
  unstarted : Unstarted w
  untouched : Untouched w

theorem reachable_prepared {mqInfo : MqInfo} {w : World}
    (reached : Reachable (step lib) (World.start mqInfo) w) : Prepared w := by
  have recorded {v : World} (before : Reachable (step lib) (World.start mqInfo) v) :
      Fetches v.getConnection v.ses ∧ Unstarted v := by
    have traced : ∃ past, Reachable (traced (step lib) (notePublish lib))
        ⟨World.start mqInfo, false⟩ ⟨v, past⟩ := before.recorded false
    obtain ⟨past, traced⟩ := traced
    exact ⟨(reachable_recorded traced).fetches, (reachable_recorded traced).unstarted⟩
  obtain ⟨fetches, unstarted⟩ := recorded reached
  refine ⟨fetches, unstarted, reached.invariant Untouched (fun _ _ => rfl) ?_⟩
  intro v e u before untouched _ taken
  obtain ⟨fetches, unstarted⟩ := recorded before
  exact untouched_step fetches unstarted untouched taken

theorem transport_runs {w : World} {i : Nat} {t : TcpMgr} (events : List Tcp.Event)
    (running : w.ses.fault = false) (inside : i < w.tcpCount)
    (own : ∀ e ∈ events, isTransport e = true)
    (ran : run Tcp.step anyStep (w.tcps i) events = some t) :
    Reachable (step lib) w (w.setTcp i t) := by
  induction events generalizing w with
  | nil =>
    obtain rfl := Option.some.inj ran
    have same : w.setTcp i (w.tcps i) = w := by simp [World.setTcp]
    rw [same]
    exact .start
  | cons e rest ih =>
    simp only [run, anyStep, if_true, Option.bind_eq_some_iff] at ran
    obtain ⟨s, stepped, continued⟩ := ran
    have taken : step lib w (.transport i e) = some (w.setTcp i s) := by
      simp [step, running, inside, own e (List.mem_cons_self ..), World.transports, stepped]
    have moved : (w.setTcp i s).tcps i = s := Function.update_self ..
    have later : Reachable (step lib) (w.setTcp i s) ((w.setTcp i s).setTcp i t) :=
      ih running inside (fun e member => own e (List.mem_cons_of_mem _ member))
        (by rw [moved]; exact continued)
    have same : (w.setTcp i s).setTcp i t = w.setTcp i t := by simp [World.setTcp]
    rw [same] at later
    exact (Reach.single trivial taken).trans later

def reads : List Tcp.Event :=
  [.readDone (.readSome 4096) none [1], .runNext []]

def readsOn : List Tcp.Event :=
  [.parsed (.parsed 1), .runNext []]

/-- A transport from its start on: in the `parse` that ends the login, after that, in the next
`parse`, and after that. -/
structure LoginRun (login loggedIn parsing atRest : TcpMgr) : Prop where
  first : run Tcp.step anyStep .started (Tcp.connectAndRead ++ reads) = some login
  second : run Tcp.step anyStep (Tcp.setLoginReady login) readsOn = some loggedIn
  third : run Tcp.step anyStep loggedIn reads = some parsing
  fourth : run Tcp.step anyStep parsing readsOn = some atRest
  inParse : login.phase = .parsing ∧ parsing.phase = .parsing
  made : login.pConnect = some 1 ∧ loggedIn.pConnect = some 1 ∧ parsing.pConnect = some 1 ∧
    atRest.pConnect = some 1
  ready : loggedIn.isReady = true
  quiet : Tcp.Quiet atRest
  flows : Tcp.Flowing atRest

theorem loginRun_exists : ∃ login loggedIn parsing atRest, LoginRun login loggedIn parsing atRest := by
  have ran : (run Tcp.step anyStep .started (Tcp.connectAndRead ++ reads)).any (fun login =>
      login.phase = .parsing ∧ login.pConnect = some 1 ∧
      (run Tcp.step anyStep (Tcp.setLoginReady login) readsOn).any (fun loggedIn =>
        loggedIn.isReady = true ∧ loggedIn.pConnect = some 1 ∧
        (run Tcp.step anyStep loggedIn reads).any (fun parsing =>
          parsing.phase = .parsing ∧ parsing.pConnect = some 1 ∧
          (run Tcp.step anyStep parsing readsOn).any (fun atRest =>
            atRest.pConnect = some 1 ∧ Tcp.Quiet atRest ∧ Tcp.Flowing atRest)))) = true := by
    decide +kernel
  obtain ⟨login, first, ran⟩ := (Option.any_eq_true _ _).mp ran
  obtain ⟨loginParses, loginMade, ran⟩ := of_decide_eq_true ran
  obtain ⟨loggedIn, second, ran⟩ := (Option.any_eq_true _ _).mp ran
  obtain ⟨ready, loggedInMade, ran⟩ := of_decide_eq_true ran
  obtain ⟨parsing, third, ran⟩ := (Option.any_eq_true _ _).mp ran
  obtain ⟨parses, parsingMade, ran⟩ := of_decide_eq_true ran
  obtain ⟨atRest, fourth, ran⟩ := (Option.any_eq_true _ _).mp ran
  obtain ⟨atRestMade, quiet, flows⟩ := of_decide_eq_true ran
  exact ⟨login, loggedIn, parsing, atRest, first, second, third, fourth, ⟨loginParses, parses⟩,
    ⟨loginMade, loggedInMade, parsingMade, atRestMade⟩, ready, quiet, flows⟩

structure Arrived (w v : World) (t : TcpMgr) : Prop where
  user : v.user = .createMqChannel
  ses : v.ses = { setReady ⟨w.tcpCount, 1⟩ w.ses with
    pTcpMgr := some w.tcpCount
    connection := some ⟨w.tcpCount, 1⟩ }
  tcp : v.tcps w.tcpCount = t
  count : v.tcpCount = w.tcpCount + 1
  returns : v.returns = w.returns

theorem login_arrives {w : World} {login loggedIn parsing atRest : TcpMgr}
    (runs : LoginRun login loggedIn parsing atRest) (unstarted : Unstarted w)
    (idle : w.user = .idle) (running : w.ses.fault = false) :
    ∃ v, Reachable (step lib) w v ∧ Arrived w v loggedIn := by
  let i := w.tcpCount
  let started := startMqInstance none w
  let inLogin := started.setTcp i login
  let ready := { inLogin with ses := setReady ⟨i, 1⟩ inLogin.ses }.setTcp i (Tcp.setLoginReady login)
  let after := ready.setTcp i loggedIn
  let waited := { after with user := .getMqConnection }
  let fetched := { waited with
    ses := getMqConnection waited.getConnection waited.ses, user := .createMqChannel }
  have start : step lib w (.startMqInstance none) = some started := by
    simp [step, running, idle, started]
  have connects : Reachable (step lib) started inLogin := by
    refine transport_runs (Tcp.connectAndRead ++ reads) running (Nat.lt_succ_self i) (by decide) ?_
    rw [show started.tcps i = .started from unstarted.later i (Nat.le_refl i)]
    exact runs.first
  have reports : step lib inLogin (.onReady ⟨i, 1⟩) = some ready := by
    have now : inLogin.tcps i = login := Function.update_self ..
    have parses : inLogin.parses ⟨i, 1⟩ := by
      refine ⟨Nat.lt_succ_self i, ?_, ?_⟩
      · rw [now]
        exact runs.inParse.1
      · rw [World.getConnection, now]
        exact runs.made.1
    have taken : Tcp.step (inLogin.tcps i) .onReady = some (Tcp.setLoginReady login) := by
      simp [Tcp.step, now, runs.inParse.1]
    simp only [step, show inLogin.ses.fault = false from running, Bool.false_eq_true, if_false,
      parses, if_true, World.transports]
    rw [taken]
    rfl
  have goesOn : Reachable (step lib) ready after := by
    refine transport_runs readsOn running (Nat.lt_succ_self i) (by decide) ?_
    rw [show ready.tcps i = Tcp.setLoginReady login from Function.update_self ..]
    exact runs.second
  have now : after.tcps i = loggedIn := Function.update_self ..
  have waits : step lib after .waitForReady = some waited := by
    have current : after.ses.pTcpMgr = some i := rfl
    simp [step, show after.ses.fault = false from running, show after.user = .waitForReady from rfl,
      waitForReady, current, now, runs.ready, waited]
  have fetches : step lib waited .getMqConnection = some fetched := by
    simp [step, show after.ses.fault = false from running, fetched, waited]
  refine ⟨fetched, ?_, rfl, ?_, now, rfl, rfl⟩
  · exact (Reach.single trivial start).trans <| connects.trans <|
      (Reach.single trivial reports).trans <| goesOn.trans <|
      (Reach.single trivial waits).trans (Reach.single trivial fetches)
  · have made : waited.getConnection i = some 1 := by
      rw [World.getConnection, show waited.tcps i = loggedIn from now]
      exact runs.made.2.1
    simp only [fetched, getMqConnection, show waited.ses.pTcpMgr = some i from rfl, made]
    rfl

theorem arrived_creates {w v : World} {t : TcpMgr} (arrived : Arrived w v t)
    (untouched : Untouched w) (opens : ∀ what, lib w.ses.calls.length ≠ .threw what) :
    ∃ channels calls,
      createMqChannel lib v.getConnection v.ses = ({ v.ses with
        channel := some w.ses.channelCount
        channelCount := w.ses.channelCount + 1, channels, calls }, none) ∧
      Replaces .consumer w.ses.channel ⟨w.tcpCount, 1⟩ w.ses channels calls := by
  have usable : connectionUsable v.ses = true := by
    have fresh := untouched ⟨w.tcpCount, 1⟩ (Nat.le_refl _)
    simpa [connectionUsable, arrived.ses, setReady] using fresh
  have created : Created lib v.getConnection v.ses (createMqChannel lib v.getConnection v.ses) :=
    createMqChannel_created v.ses
  have same {s : RmqMgrBase} (fetched : Fetched v.getConnection v.ses s) : s = v.ses := by
    rcases fetched with ⟨_, same⟩ | ⟨unusable, _⟩
    · exact same
    · rw [usable] at unusable
      cases unusable
  generalize createMqChannel lib v.getConnection v.ses = result at created ⊢
  cases created with
  | faulted fetched none =>
    rw [same fetched, arrived.ses] at none
    cases none
  | refused fetched _ threw =>
    rw [same fetched, arrived.ses] at threw
    exact absurd threw (opens _)
  | @made s k channels calls fetched some replaces =>
    obtain rfl := same fetched
    rw [arrived.ses] at some replaces ⊢
    obtain rfl := Option.some.inj some
    exact ⟨channels, calls, rfl, replaces.made, replaces.others, replaces.replaced,
      replaces.identity, replaces.calls⟩

theorem effects_running {s t : RmqMgrBase} (usable : connectionUsable s = true)
    (channel : s.channel ≠ none) (effects : Effects getConnection s t) : t.fault = s.fault := by
  have kept := effects.invariant (fun t => connectionUsable t = true ∧ t.channel ≠ none ∧
    t.fault = s.fault) ?_ ⟨usable, channel, rfl⟩
  · exact kept.2.2
  · rintro t u effect ⟨usable, channel, same⟩
    cases effect with
    | fetched _ unusable =>
      rw [usable] at unusable
      cases unusable
    | faulted none =>
      rcases none with none | none
      · simp [connectionUsable, none] at usable
      · exact absurd none channel
    | consumerMade => exact ⟨usable, Option.some_ne_none _, same⟩
    | _ => exact ⟨usable, channel, same⟩

theorem createMqPubChannel_status {s : RmqMgrBase} {k : ConnId} (connection : s.connection = some k)
    (opens : ∀ what, lib s.calls.length ≠ .threw what) :
    (createMqPubChannel lib s).status = s.status := by
  obtain ⟨channels, calls, _, made⟩ := construct_replaces .publish s.channelPub k s
  have created : createMqPubChannel lib s =
      { destruct s.channelPub (construct .publish k s) with channelPub := some s.channelCount } := by
    simp only [createMqPubChannel, connection]
  rw [created, made]

structure IsSetUp (c : Nat) (k : ConnId) (s t : RmqMgrBase) : Prop where
  status : t.status = some true
  connection : t.connection = some k
  connections : t.connections = s.connections
  pTcpMgr : t.pTcpMgr = s.pTcpMgr
  fault : t.fault = s.fault
  channel : t.channel = some c
  sends : Session.sends c t = true
  calls : setUpCalls t = setUpCalls s ++
    (setUpOperations s.mqInfo).map fun operation => (operation, c, some c)
  publishes : ∃ d, t.channelPub = some d ∧ Session.sends d t = true ∧
    (t.channels d).connection = k

theorem reportReady_isSetUp {s : RmqMgrBase} {c : Nat} {k : ConnId} (roles : Roles s)
    (connection : s.connection = some k) (usable : (s.connections k).usable = true)
    (channel : s.channel = some c) (able : sends c s = true)
    (opens : ∀ what, lib s.calls.length ≠ .threw what) :
    IsSetUp c k s (reportReady lib getConnection c s) := by
  have consumer := (roles.channel c channel).2
  obtain ⟨_, p, t, rfl, rfl, made, done, same⟩ :=
    reportReady_setsUp lib getConnection roles consumer channel able
  obtain ⟨_, _, rfl, rfl, _, rolesStart, kept, _⟩ :=
    @reportReady_pub lib getConnection c s roles consumer
  obtain ⟨d, pub, usablePub, madeOn, _, _⟩ := createMqPubChannel_makes rolesStart connection opens
  have able' := made.able.trans ((confirmOpen_sends c c s).trans able)
  have usableNow : connectionUsable s = true := by
    simpa only [connectionUsable, connection] using usable
  have some : s.channel ≠ none := by simp [channel]
  obtain ⟨before, u, after, effects, ended⟩ := @reportReady_effects lib getConnection c s
  have connections : (reportReady lib getConnection c s).connections = s.connections := by
    rw [ended]
    exact effects.connections
  have onK : ((reportReady lib getConnection c s).channels d).connection = k :=
    (kept.identity d pub).trans madeOn
  refine ⟨?_, ?_, connections, reportReady_pTcpMgr c s, ?_, ?_, ?_, ?_, d, ?_, ?_, onK⟩
  · rw [same]
    exact done.status.trans (createMqPubChannel_status connection opens)
  · rw [same]
    exact (done.connection.trans made.connection).trans connection
  · have running : u.fault = s.fault :=
      @effects_running getConnection { confirmOpen c s with handling := before } u usableNow some
        effects
    rw [ended]
    exact running
  · rw [same]
    exact (done.channel.trans made.channel).trans channel
  · rw [same]
    exact done.sends.trans able'
  · rw [same]
    have asked := done.calls
    rw [made.handling, made.calls] at asked
    exact asked
  · exact kept.channelPub.trans pub
  · rw [sends, kept.usable d pub, usablePub, onK, connections, usable]
    rfl

structure InParse (w v : World) (c : Nat) (k : ConnId) (t : TcpMgr) : Prop where
  idle : v.user = .idle
  live : v.live = true
  returned : v.returns = w.returns ++ [(.startMqInstance, none)]
  count : v.tcpCount = k.tcpMgr + 1 ∧ k.tcpMgr = w.tcpCount
  tcp : v.tcps k.tcpMgr = t
  current : v.ses.pTcpMgr = some k.tcpMgr
  connection : v.ses.connection = some k
  usable : (v.ses.connections k).usable = true
  channel : v.ses.channel = some c
  fresh : v.ses.channels c = { connection := k, role := .consumer, state := .connected }
  mqInfo : v.ses.mqInfo = w.ses.mqInfo
  running : v.ses.fault = w.ses.fault
  setUps : setUpCalls v.ses = setUpCalls w.ses
  later : w.ses.calls.length ≤ v.ses.calls.length

theorem arrived_parses {w v : World} {login loggedIn parsing atRest : TcpMgr}
    (runs : LoginRun login loggedIn parsing atRest) (arrived : Arrived w v loggedIn)
    (roles : Roles w.ses) (untouched : Untouched w) (running : w.ses.fault = false)
    (opens : ∀ what, lib w.ses.calls.length ≠ .threw what) :
    ∃ u, Reachable (step lib) v u ∧
      InParse w u w.ses.channelCount ⟨w.tcpCount, 1⟩ parsing := by
  obtain ⟨channels, calls, creates, replaces⟩ := arrived_creates arrived untouched opens
  let made := { v.ses with
    channel := some w.ses.channelCount
    channelCount := w.ses.channelCount + 1, channels, calls }
  let working := { v with ses := made, live := true }.returned .startMqInstance none
  have runningV : v.ses.fault = w.ses.fault := by
    rw [arrived.ses]
    rfl
  have makes : step lib v .createMqChannel = some working := by
    have called : startMqChannel lib v = working := by
      unfold startMqChannel
      rw [creates]
    simp [step, runningV, running, arrived.user, called]
  have inside : w.tcpCount < v.tcpCount := by
    have count := arrived.count
    omega
  have goesOn : Reachable (step lib) working (working.setTcp w.tcpCount parsing) := by
    refine transport_runs reads (runningV.trans running) inside (by decide) ?_
    rw [show working.tcps w.tcpCount = loggedIn from arrived.tcp]
    exact runs.third
  refine ⟨_, (Reach.single trivial makes).trans goesOn, {
    idle := rfl
    live := rfl
    returned := by rw [← arrived.returns]; rfl
    count := ⟨arrived.count, rfl⟩
    tcp := Function.update_self ..
    current := ?_
    connection := ?_
    usable := ?_
    channel := rfl
    fresh := replaces.new fun d same => (roles.channel d same).1
    mqInfo := ?_
    running := runningV
    setUps := ?_
    later := ?_ }⟩
  · have current : v.ses.pTcpMgr = some w.tcpCount := by rw [arrived.ses]
    exact current
  · have connection : v.ses.connection = some ⟨w.tcpCount, 1⟩ := by rw [arrived.ses]
    exact connection
  · have same : v.ses.connections = (setReady ⟨w.tcpCount, 1⟩ w.ses).connections := by
      rw [arrived.ses]
    rw [show (working.setTcp w.tcpCount parsing).ses.connections = _ from same]
    simpa [setReady] using untouched ⟨w.tcpCount, 1⟩ (Nat.le_refl _)
  · have same : v.ses.mqInfo = w.ses.mqInfo := by
      rw [arrived.ses]
      rfl
    exact same
  · rcases replaces.calls with same | ⟨d, same⟩ <;>
      simp [setUpCalls, World.setTcp, World.returned, working, made, same, Call.setsUp]
  · rcases replaces.calls with same | ⟨d, same⟩ <;>
      simp [World.setTcp, World.returned, working, made, same]

structure Restored (w v : World) : Prop where
  idle : v.user = .idle
  live : v.live = true
  returned : v.returns = w.returns ++ [(.startMqInstance, none)]
  count : v.tcpCount = w.tcpCount + 1
  status : v.ses.status = some true
  up : Up v
  transport : ∀ i, v.ses.pTcpMgr = some i → Tcp.Quiet (v.tcps i) ∧ Tcp.Flowing (v.tcps i)
  consumes : ∃ c, v.ses.channel = some c ∧ sends c v.ses = true ∧
    setUpCalls v.ses = setUpCalls w.ses ++
      (setUpOperations w.ses.mqInfo).map fun operation => (operation, c, some c)
  publishes : Sendable v

theorem ready_restores {w v : World} {c : Nat} {k : ConnId} {login loggedIn parsing atRest : TcpMgr}
    (runs : LoginRun login loggedIn parsing atRest) (inParse : InParse w v c k parsing)
    (first : k.number = 1) (roles : Roles v.ses) (running : w.ses.fault = false)
    (opens : ∀ what, lib v.ses.calls.length ≠ .threw what) :
    ∃ u, Reachable (step lib) v u ∧ Restored w u := by
  let ready := { v with ses := reportReady lib v.getConnection c v.ses }
  let final := ready.setTcp k.tcpMgr atRest
  have runningV := inParse.running.trans running
  have inside : k.tcpMgr < v.tcpCount := by
    have count := inParse.count
    omega
  have hears : v.hears c := by
    have parses : v.parses k := by
      refine ⟨inside, ?_⟩
      rw [World.getConnection, inParse.tcp, first]
      exact ⟨runs.inParse.2, runs.made.2.2.1⟩
    unfold World.hears
    rw [inParse.fresh]
    exact ⟨(roles.channel c inParse.channel).1, by simp, parses⟩
  have opensChannel : step lib v (.reportReady c) = some ready := by
    have opened : (v.ses.channels c).opened = false := by rw [inParse.fresh]
    simp only [step, runningV, Bool.false_eq_true, if_false, callback, hears, opened, and_self,
      if_true]
    rfl
  have able : sends c v.ses = true := by
    simp only [sends, inParse.fresh, inParse.usable]
    rfl
  have done : IsSetUp c k v.ses ready.ses :=
    reportReady_isSetUp roles inParse.connection inParse.usable inParse.channel able opens
  have rests : Reachable (step lib) ready final := by
    refine transport_runs readsOn (done.fault.trans runningV) inside (by decide) ?_
    rw [show ready.tcps k.tcpMgr = parsing from inParse.tcp]
    exact runs.fourth
  have current : final.ses.pTcpMgr = some k.tcpMgr := done.pTcpMgr.trans inParse.current
  have atEnd : final.tcps k.tcpMgr = atRest := Function.update_self ..
  have connected : final.getConnection k.tcpMgr = some k.number := by
    rw [World.getConnection, atEnd, first]
    exact runs.made.2.2.2
  refine ⟨final, (Reach.single trivial opensChannel).trans rests, {
    idle := inParse.idle
    live := inParse.live
    returned := inParse.returned
    count := inParse.count.1.trans (congrArg (· + 1) inParse.count.2)
    status := done.status
    up := ?_
    transport := ?_
    consumes := ?_
    publishes := ?_ }⟩
  · refine ⟨k.tcpMgr, current, ?_, ?_, ?_⟩
    · rw [atEnd]
      exact runs.quiet.up
    · rw [connected]
      exact done.connection
    · have usable : (final.ses.connections k).usable = true := by
        rw [show final.ses.connections = v.ses.connections from done.connections]
        exact inParse.usable
      simpa only [connectionUsable, show final.ses.connection = some k from done.connection]
        using usable
  · intro j now
    obtain rfl := Option.some.inj (current.symm.trans now)
    rw [atEnd]
    exact ⟨runs.quiet, runs.flows⟩
  · refine ⟨c, done.channel, done.sends, ?_⟩
    rw [show setUpCalls final.ses = _ from done.calls, inParse.setUps, inParse.mqInfo]
  · obtain ⟨d, pub, sending, madeOn⟩ := done.publishes
    refine ⟨d, pub, sending, ?_⟩
    rw [show (final.ses.channels d).connection = k from madeOn]
    exact ⟨current, connected⟩

theorem start_restores {mqInfo : MqInfo} {w : World}
    (reached : Reachable (step lib) (World.start mqInfo) w) (idle : w.user = .idle)
    (running : w.ses.fault = false)
    (opens : ∀ n what, w.ses.calls.length ≤ n → lib n ≠ .threw what) :
    ∃ v, Reachable (step lib) w v ∧ Restored w v := by
  obtain ⟨fetches, unstarted, untouched⟩ := reachable_prepared reached
  obtain ⟨login, loggedIn, parsing, atRest, runs⟩ := loginRun_exists
  obtain ⟨v, arrives, arrived⟩ : ∃ v, Reachable (step lib) w v ∧ Arrived w v loggedIn :=
    login_arrives runs unstarted idle running
  obtain ⟨u, parses, inParse⟩ := arrived_parses runs arrived fetches.roles untouched running
    fun what => opens _ what (Nat.le_refl _)
  have roles := reachable_roles (reached.trans (arrives.trans parses))
  obtain ⟨x, rests, restored⟩ := ready_restores runs inParse rfl roles running
    fun what => opens _ what inParse.later
  exact ⟨x, arrives.trans (parses.trans rests), restored⟩

open Run

theorem lost_session_restored :
    ∃ w, (Reachable (step accepting) (World.start fanout) w ∧ w.user = .idle ∧
        w.ses.fault = false ∧ w.ses.status = some true ∧ (w.tcps 0).up = true ∧
        (w.tcps 0).reads = []) ∧
      ∃ v, Reachable (step accepting) w v ∧ Restored w v := by
  have ran : ∃ w, Reachable (step accepting) (World.start fanout) w ∧ w.user = .idle ∧
      w.ses.fault = false ∧ w.ses.status = some true ∧ (w.tcps 0).up = true ∧
      (w.tcps 0).reads = [] :=
    run_reaches (startAndLogIn ++ channelOpens 0 ++ readFails ++ connects) (by decide +kernel)
  obtain ⟨w, reached, idle, running, lost⟩ := ran
  exact ⟨w, ⟨reached, idle, running, lost⟩,
    start_restores reached idle running fun _ _ _ threw => nomatch threw⟩

end RmqMgr.Session
