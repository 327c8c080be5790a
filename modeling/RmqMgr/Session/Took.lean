import RmqMgr.Session.Effects
import RmqMgr.Shared.Transition

set_option autoImplicit false

namespace RmqMgr.Session

open Transition

variable {lib : Library}

-- What one step of the world can do; a step of a transport is left to `Tcp.step_took`.
inductive Took (lib : Library) (w : World) : Event → World → Prop where
  | transport {i : Nat} {e : Tcp.Event} {t : Tcp.TcpMgr} :
      i < w.tcpCount → isTransport e = true → Tcp.step (w.tcps i) e = some t →
      Took lib w (.transport i e) (w.setTcp i t)
  | onData {k : ConnId} {posting : Tcp.Posting} {data : Tcp.Bytes} {t : Tcp.TcpMgr} :
      w.made k → Tcp.step (w.tcps k.tcpMgr) (.onData posting ⟨k.number, data⟩) = some t →
      Took lib w (.onData k posting data) (w.setTcp k.tcpMgr t)
  | onReady {k : ConnId} {t : Tcp.TcpMgr} :
      w.parses k → Tcp.step (w.tcps k.tcpMgr) .onReady = some t →
      Took lib w (.onReady k) { w.setTcp k.tcpMgr t with ses := setReady k w.ses }
  | onError {k : ConnId} {message : String} {t : Tcp.TcpMgr} :
      w.parses k → Tcp.step (w.tcps k.tcpMgr) (.onError message) = some t →
      Took lib w (.onError k message) { w.setTcp k.tcpMgr t with ses := setUsable k false w.ses }
  | onClosed {k : ConnId} {t : Tcp.TcpMgr} :
      w.parses k → Tcp.step (w.tcps k.tcpMgr) .onClosed = some t →
      Took lib w (.onClosed k) { w.setTcp k.tcpMgr t with ses := setUsable k false w.ses }
  | reportReady {c : Nat} :
      w.hears c → (w.ses.channels c).opened = false →
      Took lib w (.reportReady c) { w with ses := reportReady lib w.getConnection c w.ses }
  | reportError {c : Nat} {message : String} :
      w.hears c →
      Took lib w (.reportError c message) { w with
        ses := reportError lib w.getConnection c message w.ses
        failures := w.failures + if (w.ses.channels c).role = .consumer then 1 else 0 }
  | reportSuccess {c : Nat} :
      w.hears c → answerable (w.ses.channels c).pending = true →
      Took lib w (.reportSuccess c) { w with ses := reportSuccess c w.ses }
  | reportClosed {c : Nat} :
      w.hears c → ((w.ses.channels c).pending = [.close] ∨
        (w.ses.channels c).pending = [.destruct]) →
      Took lib w (.reportClosed c) { w with ses := reportClosed c w.ses }
  | consumeRecvedCb {c : Nat} {thrown : Option String} {deliveryTag : Nat} :
      w.hears c →
      Took lib w (.consumeRecvedCb c thrown deliveryTag)
        { w with ses := consumeRecvedCb thrown deliveryTag w.ses }
  | startFailed {what err : String} {msgs : List String} :
      w.user = .idle →
      Took lib w (.startMqInstance (some what)) { w with
        ses := { w.ses with errMsgs := msgs }
        starts := w.starts + 1, live := false, user := .idle
        returns := w.returns ++ [(.startMqInstance, some err)] }
  | started :
      w.user = .idle →
      Took lib w (.startMqInstance none) { w with
        ses := { w.ses with pTcpMgr := some w.tcpCount }
        tcpCount := w.tcpCount + 1, starts := w.starts + 1, live := false, user := .waitForReady }
  | waited {i : Nat} :
      w.user = .waitForReady → w.ses.pTcpMgr = some i → (w.tcps i).isReady = true →
      Took lib w .waitForReady { w with user := .getMqConnection }
  | timedOut {err : String} {msgs : List String} :
      w.user = .waitForReady →
      Took lib w .waitForReady { w with
        ses := { w.ses with errMsgs := msgs }, user := .idle
        returns := w.returns ++ [(.startMqInstance, some err)] }
  | waitFaulted :
      w.user = .waitForReady → w.ses.pTcpMgr = none →
      Took lib w .waitForReady { w with ses := dereferencesNull w.ses }
  | getMqConnection :
      w.user = .getMqConnection →
      Took lib w .getMqConnection { w with
        ses := getMqConnection w.getConnection w.ses, user := .createMqChannel }
  | startSucceeded {s : RmqMgrBase} :
      w.user = .createMqChannel → createMqChannel lib w.getConnection w.ses = (s, none) →
      Took lib w .createMqChannel { w with
        ses := s, live := true, user := .idle
        returns := w.returns ++ [(.startMqInstance, none)] }
  | channelFailed {s : RmqMgrBase} {err : String} :
      w.user = .createMqChannel → createMqChannel lib w.getConnection w.ses = (s, some err) →
      Took lib w .createMqChannel { w with
        ses := onStatusChange false (onRtnErrMsg err s), user := .idle
        returns := w.returns ++ [(.startMqInstance, some err)] }
  | publishMsg {msg : List UInt8} {s : RmqMgrBase} {result : Option String} :
      w.user = .idle → publishMsg lib msg w.ses = (s, result) →
      Took lib w (.publishMsg msg) { w with
        ses := s, user := .idle, returns := w.returns ++ [(.publishMsg, result)] }
  | releaseMqInstance {s : RmqMgrBase} {result : Option String} {user : UserPhase}
      {returns : List (Api × Option String)} :
      w.user = .idle → closeMqChannel lib w.ses = (s, result) →
      (user = .idle ∨ user = .closeMqConnection) →
      (returns = w.returns ∨ ∃ err, returns = w.returns ++ [(.releaseMqInstance, some err)]) →
      Took lib w .releaseMqInstance { w with ses := s, live := false, user, returns }
  | closeMqConnection {s : RmqMgrBase} {result : Option String} {user : UserPhase}
      {returns : List (Api × Option String)} :
      w.user = .closeMqConnection → closeMqConnection lib w.ses = (s, result) →
      (user = .idle ∨ user = .finitClose) →
      (returns = w.returns ∨ ∃ err, returns = w.returns ++ [(.releaseMqInstance, some err)]) →
      Took lib w .closeMqConnection { w with ses := s, live := false, user, returns }
  | finitClose {i : Nat} {t : Tcp.TcpMgr} :
      w.user = .finitClose → w.ses.pTcpMgr = some i →
      Tcp.step (w.tcps i) .finitClose = some t →
      Took lib w .finitClose { w.setTcp i t with user := .finitStop }
  | finitStop {i : Nat} {t : Tcp.TcpMgr} :
      w.user = .finitStop → w.ses.pTcpMgr = some i →
      Tcp.step (w.tcps i) .finitStop = some t →
      Took lib w .finitStop { w.setTcp i t with user := .finitJoin }
  | finitJoin {i : Nat} :
      w.user = .finitJoin → w.ses.pTcpMgr = some i → (w.tcps i).phase = .idle →
      Took lib w .finitJoin { w with
        user := .idle, returns := w.returns ++ [(.releaseMqInstance, none)] }
  | finitFaulted {e : Event} :
      (e = .finitClose ∧ w.user = .finitClose ∨ e = .finitStop ∧ w.user = .finitStop ∨
        e = .finitJoin ∧ w.user = .finitJoin) → w.ses.pTcpMgr = none →
      Took lib w e { w with ses := dereferencesNull w.ses }

theorem step_running {w v : World} {e : Event} (taken : step lib w e = some v) :
    w.ses.fault = false := by
  unfold step at taken
  split at taken
  next => cases taken
  next running => exact Bool.eq_false_iff.mpr running

theorem user_step {w v : World} {e : Event} (taken : step lib w e = some v) :
    match e with
    | .startMqInstance thrown => w.user = .idle ∧ v = startMqInstance thrown w
    | .waitForReady => w.user = .waitForReady ∧ v = waitForReady w
    | .getMqConnection => w.user = .getMqConnection ∧
        v = { w with ses := getMqConnection w.getConnection w.ses, user := .createMqChannel }
    | .createMqChannel => w.user = .createMqChannel ∧ v = startMqChannel lib w
    | .publishMsg msg => w.user = .idle ∧
        v = { w with ses := (publishMsg lib msg w.ses).1 }.returned .publishMsg
          (publishMsg lib msg w.ses).2
    | .releaseMqInstance => w.user = .idle ∧
        v = releaseStep (closeMqChannel lib) .closeMqConnection w
    | .closeMqConnection => w.user = .closeMqConnection ∧
        v = releaseStep (closeMqConnection lib) .finitClose w
    | _ => True := by
  have running := step_running taken
  cases e with
  | startMqInstance | waitForReady | getMqConnection | createMqChannel | publishMsg
  | releaseMqInstance | closeMqConnection =>
    simp only [step, running, Bool.false_eq_true, if_false, Option.ite_none_right_eq_some,
      Option.some.injEq] at taken
    exact ⟨taken.1, taken.2.symm⟩
  | _ => trivial

theorem finitStep_took {w v : World} {e : Tcp.Event} {next : UserPhase}
    (taken : finitStep e next w = some v) :
    w.ses.pTcpMgr = none ∧ v = { w with ses := dereferencesNull w.ses } ∨
      ∃ i t, w.ses.pTcpMgr = some i ∧ Tcp.step (w.tcps i) e = some t ∧
        v = { w.setTcp i t with user := next } := by
  unfold finitStep at taken
  split at taken
  next none => exact .inl ⟨none, (Option.some.inj taken).symm⟩
  next i some =>
    obtain ⟨t, stepped, rfl⟩ := Option.map_eq_some_iff.mp taken
    exact .inr ⟨i, t, some, stepped, rfl⟩

theorem step_took {w v : World} {e : Event} (taken : step lib w e = some v) :
    Took lib w e v := by
  have running := step_running taken
  cases e with
  | transport i e =>
    simp only [step, running, World.transports, Bool.false_eq_true, if_false,
      Option.ite_none_right_eq_some, Option.map_eq_some_iff] at taken
    obtain ⟨⟨inside, transport⟩, t, stepped, rfl⟩ := taken
    exact .transport inside transport stepped
  | onData k posting data =>
    simp only [step, running, World.transports, Bool.false_eq_true, if_false,
      Option.ite_none_right_eq_some, Option.map_eq_some_iff] at taken
    obtain ⟨made, t, stepped, rfl⟩ := taken
    exact .onData made stepped
  | onReady k =>
    simp only [step, running, World.transports, Bool.false_eq_true, if_false,
      Option.ite_none_right_eq_some, Option.map_eq_some_iff] at taken
    obtain ⟨parses, t, stepped, rfl⟩ := taken
    exact .onReady parses stepped
  | onError k message =>
    simp only [step, running, World.transports, Bool.false_eq_true, if_false,
      Option.ite_none_right_eq_some, Option.map_eq_some_iff] at taken
    obtain ⟨parses, t, stepped, rfl⟩ := taken
    exact .onError parses stepped
  | onClosed k =>
    simp only [step, running, World.transports, Bool.false_eq_true, if_false,
      Option.ite_none_right_eq_some, Option.map_eq_some_iff] at taken
    obtain ⟨parses, t, stepped, rfl⟩ := taken
    exact .onClosed parses stepped
  | reportReady c =>
    simp only [step, running, callback, Bool.false_eq_true, if_false,
      Option.ite_none_right_eq_some, Option.some.injEq] at taken
    obtain ⟨⟨hears, fresh⟩, rfl⟩ := taken
    exact .reportReady hears fresh
  | reportError c message =>
    simp only [step, running, Bool.false_eq_true, if_false,
      Option.ite_none_right_eq_some, Option.some.injEq] at taken
    obtain ⟨hears, rfl⟩ := taken
    exact .reportError hears
  | reportSuccess c =>
    simp only [step, running, callback, Bool.false_eq_true, if_false,
      Option.ite_none_right_eq_some, Option.some.injEq] at taken
    obtain ⟨⟨hears, answer⟩, rfl⟩ := taken
    exact .reportSuccess hears answer
  | reportClosed c =>
    simp only [step, running, callback, Bool.false_eq_true, if_false,
      Option.ite_none_right_eq_some, Option.some.injEq] at taken
    obtain ⟨⟨hears, last⟩, rfl⟩ := taken
    exact .reportClosed hears last
  | consumeRecvedCb c thrown deliveryTag =>
    simp only [step, running, callback, Bool.false_eq_true, if_false,
      Option.ite_none_right_eq_some, Option.some.injEq] at taken
    obtain ⟨⟨hears, _⟩, rfl⟩ := taken
    exact .consumeRecvedCb hears
  | startMqInstance thrown =>
    obtain ⟨idle, rfl⟩ := user_step taken
    cases thrown with
    | none => exact .started idle
    | some what => exact .startFailed idle
  | waitForReady =>
    obtain ⟨waiting, rfl⟩ := user_step taken
    unfold waitForReady
    split
    next none => exact .waitFaulted waiting none
    next i some =>
      split
      next ready => exact .waited waiting some ready
      next => exact .timedOut waiting
  | getMqConnection =>
    obtain ⟨waiting, rfl⟩ := user_step taken
    exact .getMqConnection waiting
  | createMqChannel =>
    obtain ⟨waiting, rfl⟩ := user_step taken
    unfold startMqChannel
    split
    next s result => exact .startSucceeded waiting result
    next s err result => exact .channelFailed waiting result
  | publishMsg msg =>
    obtain ⟨idle, rfl⟩ := user_step taken
    exact .publishMsg idle rfl
  | releaseMqInstance =>
    obtain ⟨idle, rfl⟩ := user_step taken
    unfold releaseStep
    split
    next s result => exact .releaseMqInstance idle result (.inr rfl) (.inl rfl)
    next s err result => exact .releaseMqInstance idle result (.inl rfl) (.inr ⟨err, rfl⟩)
  | closeMqConnection =>
    obtain ⟨waiting, rfl⟩ := user_step taken
    unfold releaseStep
    split
    next s result => exact .closeMqConnection waiting result (.inr rfl) (.inl rfl)
    next s err result => exact .closeMqConnection waiting result (.inl rfl) (.inr ⟨err, rfl⟩)
  | finitClose =>
    simp only [step, running, Bool.false_eq_true, if_false,
      Option.ite_none_right_eq_some] at taken
    obtain ⟨waiting, taken⟩ := taken
    rcases finitStep_took taken with ⟨none, rfl⟩ | ⟨i, t, some, stepped, rfl⟩
    · exact .finitFaulted (.inl ⟨rfl, waiting⟩) none
    · exact .finitClose waiting some stepped
  | finitStop =>
    simp only [step, running, Bool.false_eq_true, if_false,
      Option.ite_none_right_eq_some] at taken
    obtain ⟨waiting, taken⟩ := taken
    rcases finitStep_took taken with ⟨none, rfl⟩ | ⟨i, t, some, stepped, rfl⟩
    · exact .finitFaulted (.inr (.inl ⟨rfl, waiting⟩)) none
    · exact .finitStop waiting some stepped
  | finitJoin =>
    simp only [step, running, finitJoin, Bool.false_eq_true, if_false,
      Option.ite_none_right_eq_some] at taken
    obtain ⟨waiting, taken⟩ := taken
    split at taken
    next none =>
      obtain rfl := Option.some.inj taken
      exact .finitFaulted (.inr (.inr ⟨rfl, waiting⟩)) none
    next i some =>
      obtain ⟨idle, taken⟩ := Option.ite_none_right_eq_some.mp taken
      obtain rfl := Option.some.inj taken
      exact .finitJoin waiting some idle

def World.target (w : World) : Event → Option (Nat × Tcp.Event)
  | .transport i e => some (i, e)
  | .onData k posting data => some (k.tcpMgr, .onData posting ⟨k.number, data⟩)
  | .onReady k => some (k.tcpMgr, .onReady)
  | .onError k message => some (k.tcpMgr, .onError message)
  | .onClosed k => some (k.tcpMgr, .onClosed)
  | .finitClose => w.ses.pTcpMgr.map fun i => (i, .finitClose)
  | .finitStop => w.ses.pTcpMgr.map fun i => (i, .finitStop)
  | _ => none

theorem step_target {w v : World} {e : Event} (taken : step lib w e = some v) :
    match w.target e with
    | none => v.tcps = w.tcps
    | some (i, e) =>
      ∃ t, Tcp.step (w.tcps i) e = some t ∧ v.tcps = Function.update w.tcps i t := by
  cases step_took taken with
  | transport _ _ stepped | onData _ stepped | onReady _ stepped | onError _ stepped
  | onClosed _ stepped => exact ⟨_, stepped, rfl⟩
  | finitClose _ some stepped | finitStop _ some stepped =>
    simp only [World.target, some, Option.map_some]
    exact ⟨_, stepped, rfl⟩
  | finitFaulted finit none =>
    rcases finit with ⟨rfl, _⟩ | ⟨rfl, _⟩ | ⟨rfl, _⟩ <;> simp [World.target, none]
  | _ => rfl

theorem step_tcp {w v : World} {e : Event} (i : Nat) (taken : step lib w e = some v) :
    v.tcps i = w.tcps i ∨
      ∃ te, w.target e = some (i, te) ∧ Tcp.step (w.tcps i) te = some (v.tcps i) := by
  have moved := step_target taken
  cases target : w.target e with
  | none =>
    rw [target] at moved
    exact .inl (congrFun moved i)
  | some pair =>
    obtain ⟨j, te⟩ := pair
    rw [target] at moved
    obtain ⟨t, stepped, tcps⟩ := moved
    rw [tcps]
    by_cases same : i = j
    · subst same
      rw [Function.update_self]
      exact .inr ⟨te, rfl, stepped⟩
    · rw [Function.update_of_ne same]
      exact .inl rfl

theorem reach_transport {guard : World → Event → Prop} {guardT : Tcp.TcpMgr → Tcp.Event → Prop}
    {mqInfo : MqInfo} {w : World}
    (implied : ∀ w e i te, guard w e → w.target e = some (i, te) → guardT (w.tcps i) te)
    (reached : Reach (step lib) guard (World.start mqInfo) w) (i : Nat) :
    Reach Tcp.step guardT .started (w.tcps i) := by
  apply reached.project (fun w => w.tcps i)
  intro w e v met taken
  rcases step_tcp i taken with same | ⟨te, target, stepped⟩
  · simp only [same]
    exact .start
  · exact .single (implied w e i te met target) stepped

end RmqMgr.Session
