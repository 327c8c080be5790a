import RmqMgr.Session.Took
import RmqMgr.Session.UserCalls
import RmqMgr.Tcp.Connection

set_option autoImplicit false

namespace RmqMgr.Session

open Transition

variable {lib : Library}

theorem reachable_constructed {mqInfo : MqInfo} {w : World}
    (reached : Reachable (step lib) (World.start mqInfo) w) (i : Nat) :
    Tcp.Constructed (w.tcps i) :=
  Tcp.reachable_constructed (reach_transport (fun _ _ _ _ _ _ => trivial) reached i)

theorem target_created {w : World} {e : Event} {i : Nat}
    (target : w.target e = some (i, .created)) : e = .transport i .created := by
  cases e with
  | transport => simpa [World.target] using target
  | _ => simp [World.target] at target

theorem getConnection_step {w v : World} {e : Event} (i : Nat) (taken : step lib w e = some v) :
    v.getConnection i = w.getConnection i ∨ e = .transport i .created := by
  rcases step_tcp i taken with same | ⟨te, target, stepped⟩
  · exact .inl (by rw [World.getConnection, World.getConnection, same])
  · rcases Tcp.connection_step stepped with kept | ⟨rfl, _⟩
    · exact .inl kept
    · exact .inr (target_created target)

inductive Moved (lib : Library) (w : World) : Event → RmqMgrBase → Prop where
  | framed {e : Event} {s : RmqMgrBase} : Frame w.ses s → Moved lib w e s
  | onReady {k : ConnId} : w.parses k → Moved lib w (.onReady k) (setReady k w.ses)
  | reportReady {c : Nat} :
      w.hears c → (w.ses.channels c).opened = false →
      Moved lib w (.reportReady c) (reportReady lib w.getConnection c w.ses)
  | reportError {c : Nat} {message : String} :
      w.hears c →
      Moved lib w (.reportError c message) (reportError lib w.getConnection c message w.ses)
  | started :
      Moved lib w (.startMqInstance none) { w.ses with pTcpMgr := some w.tcpCount }
  | fetched :
      w.user = .getMqConnection →
      Moved lib w .getMqConnection (getMqConnection w.getConnection w.ses)
  | created {s : RmqMgrBase} :
      w.user = .createMqChannel → createMqChannel lib w.getConnection w.ses = (s, none) →
      Moved lib w .createMqChannel s
  | notCreated {s : RmqMgrBase} {err : String} :
      w.user = .createMqChannel → createMqChannel lib w.getConnection w.ses = (s, some err) →
      Moved lib w .createMqChannel (onStatusChange false (onRtnErrMsg err s))

theorem step_moved {w v : World} {e : Event} (taken : step lib w e = some v) :
    Moved lib w e v.ses := by
  cases step_took taken with
  | onReady parses => exact .onReady parses
  | onError | onClosed => exact .framed (frame_setUsable _ _)
  | reportReady hears fresh => exact .reportReady hears fresh
  | reportError hears => exact .reportError hears
  | reportSuccess =>
    exact .framed (frame_setChannel rfl rfl rfl fun able =>
      ⟨able, fun _ member => List.mem_of_mem_tail member⟩)
  | reportClosed =>
    exact .framed (frame_setChannel rfl rfl rfl fun able => (by simp [Channel.usable] at able))
  | consumeRecvedCb => exact .framed (consumeRecvedCb_frame _ _ _)
  | startFailed | timedOut => exact .framed (frame_told _ w.ses.fault w.ses)
  | started => exact .started
  | waitFaulted | finitFaulted => exact .framed (frame_faulted w.ses)
  | getMqConnection waiting => exact .fetched waiting
  | startSucceeded waiting result => exact .created waiting result
  | channelFailed waiting result => exact .notCreated waiting result
  | @publishMsg msg _ _ _ result =>
    have frame := Frame.of_result (publishMsg_frame msg) result
    exact .framed frame
  | releaseMqInstance _ result =>
    have frame := Frame.of_result closeMqChannel_frame result
    exact .framed frame
  | closeMqConnection _ result =>
    have frame := Frame.of_result closeMqConnection_frame result
    exact .framed frame
  | transport | onData | waited | finitClose | finitStop | finitJoin => exact .framed (.refl w.ses)

-- What is said of the channels, and kept by the calls and the effects, is kept by every step.
theorem session_step (P : RmqMgrBase → Prop) (framed : ∀ s t, Frame s t → P s → P t)
    (effect : ∀ getConnection s t, Effect getConnection s t → P s → P t)
    (confirmed : ∀ c s, P s → P (confirmOpen c s))
    (others : ∀ s connection pTcpMgr connections handling startsItself, P s →
      P { s with connection, pTcpMgr, connections, handling, startsItself })
    {w v : World} {e : Event} (held : P w.ses) (taken : step lib w e = some v) : P v.ses := by
  have through {s t : RmqMgrBase} (held : P s) (effects : Effects w.getConnection s t) : P t :=
    effects.invariant P (effect w.getConnection) held
  have moved := step_moved taken
  generalize v.ses = s at moved ⊢
  cases moved with
  | framed frame => exact framed _ _ frame held
  | onReady | started => exact others w.ses _ _ _ _ _ held
  | @reportReady c =>
    obtain ⟨before, t, after, effects, same⟩ := reportReady_effects c w.ses
    have opened : P { confirmOpen c w.ses with handling := before } :=
      others _ _ _ _ _ _ (confirmed c w.ses held)
    rw [same]
    exact others t _ _ _ _ _ (through opened effects)
  | @reportError c message =>
    have ended : Frame w.ses (endChannel c w.ses) :=
      frame_setChannel rfl rfl rfl fun able => (by simp [Channel.usable] at able)
    exact through (framed _ _ ended held) (reportError_effects c message w.ses)
  | fetched =>
    unfold getMqConnection
    split <;> exact others w.ses _ _ _ _ _ held
  | created _ result => exact through held (createMqChannel_result result)
  | @notCreated s err _ result =>
    have made := through held (createMqChannel_result result)
    exact effect w.getConnection s _ (.told (s.errMsgs ++ [err]) (some false)) made

theorem pTcpMgr_step {w v : World} {e : Event} (taken : step lib w e = some v) :
    v.ses.pTcpMgr = w.ses.pTcpMgr ∨ e = .startMqInstance none ∧ v.ses.pTcpMgr = some w.tcpCount := by
  have moved := step_moved taken
  generalize v.ses = s at moved ⊢
  cases moved with
  | framed frame => exact .inl frame.pTcpMgr
  | onReady => exact .inl rfl
  | reportReady => exact .inl (reportReady_pTcpMgr _ _)
  | @reportError c message => exact .inl (reportError_effects c message w.ses).pTcpMgr
  | started => exact .inr ⟨rfl, rfl⟩
  | fetched =>
    unfold getMqConnection
    split <;> exact .inl rfl
  | created _ result | notCreated _ result =>
    have same := (createMqChannel_result result).pTcpMgr
    exact .inl same

theorem setReady_usable (k : ConnId) (s : RmqMgrBase) :
    connectionUsable (setReady k s) = connectionUsable s := by
  unfold connectionUsable
  cases some : s.connection with
  | none => simp [setReady, some]
  | some j =>
    by_cases same : j = k
    · subst same
      simp [setReady, some]
    · simp [setReady, some, Function.update_of_ne same]

end RmqMgr.Session
