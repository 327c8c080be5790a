import RmqMgr.Session.UserFailures

set_option autoImplicit false

namespace RmqMgr.Session

open Transition
open scoped List

variable {lib : Library} {getConnection : Nat → Option Nat}

-- The failures of the step from `w` to `v` are reported in it exactly when all its calls are heard.
def Reported (lib : Library) (w : World) (e : Event) (v : World) : Prop :=
  failures lib w e v <+~ (reports w e v).map some ↔
    heardCalls lib (e = .createMqChannel) (newCalls w.ses v.ses) ∧ e.dropsData = false

theorem target_dropsData {w v : World} {e : Event} {i : Nat} {te : Tcp.Event}
    (taken : step lib w e = some v) (target : w.target e = some (i, te)) :
    e.dropsData = te.dropsData := by
  cases e with
  | onData k posting data =>
    obtain ⟨_, rfl⟩ := Prod.mk.inj (Option.some.inj target)
    cases posting <;> rfl
  | transport j te' =>
    obtain ⟨_, rfl⟩ := Prod.mk.inj (Option.some.inj target)
    cases step_took taken with
    | transport _ moves =>
      cases te' with
      | onData => cases moves
      | _ => rfl
    | finitFaulted finit => simp at finit
  | onReady | onError | onClosed =>
    obtain ⟨_, rfl⟩ := Prod.mk.inj (Option.some.inj target)
    rfl
  | finitClose | finitStop =>
    obtain ⟨_, _, same⟩ := Option.map_eq_some_iff.mp target
    obtain ⟨_, rfl⟩ := Prod.mk.inj same
    rfl
  | _ => cases target

theorem drop_same {A : Type} {before after : List A} (same : after = before) :
    after.drop before.length = [] := by
  rw [same, List.drop_length]

theorem transport_reported {w v : World} {e : Event} {i : Nat} {te : Tcp.Event}
    (taken : step lib w e = some v) (target : w.target e = some (i, te))
    (calls : v.ses.calls = w.ses.calls) (errMsgs : v.ses.errMsgs = w.ses.errMsgs)
    (returns : v.returns = w.returns) (others : e.failures w = []) : Reported lib w e v := by
  have moved : Tcp.step (w.tcps i) te = some (v.tcps i) := by
    have steps := step_target taken
    rw [target] at steps
    obtain ⟨t, stepped, tcps⟩ := steps
    rw [tcps, Function.update_self]
    exact stepped
  have drops := target_dropsData taken target
  have heard : heardCalls lib (e = .createMqChannel) [] := fun _ none => nomatch none
  simp only [Reported, failures, reports, told, target, others, newCalls_nil calls,
    drop_same errMsgs, drop_same returns, callFailures, List.flatMap_nil, List.filterMap_nil,
    List.append_nil, heard, true_and, drops]
  cases drop : te.dropsData with
  | false =>
    obtain ⟨msgs, told, covered⟩ := Tcp.step_heard moved drop
    rw [told, List.drop_left]
    simpa using covered
  | true =>
    cases te with
    | onData posting msg =>
      cases posting with
      | postThrew what =>
        obtain same := Option.some.inj moved
        rw [← same]
        simp [Tcp.failures, Tcp.onData, Tcp.sendData]
      | _ => cases drop
    | _ => cases drop

theorem session_reported {w v : World} {e : Event} {msgs : List String}
    (target : w.target e = none) (sends : e.dropsData = false) (reported : told w v = msgs)
    (covered : Covered lib (e = .createMqChannel) (e = .releaseMqInstance) (e.failures w)
      w.ses v.ses msgs) : Reported lib w e v := by
  simp only [Reported, failures, reports, target, List.nil_append, sends, and_true]
  rw [reported]
  exact covered

theorem callback_reported {w v : World} {e : Event} (target : w.target e = none)
    (sends : e.dropsData = false) (starting : (e = .createMqChannel) = False)
    (releasing : (e = .releaseMqInstance) = False) (returns : v.returns = w.returns)
    (accounts : Accounts lib (e.failures w) w.ses v.ses) : Reported lib w e v := by
  have reported : told w v = v.ses.errMsgs.drop w.ses.errMsgs.length := by
    rw [told, drop_same returns]
    exact List.append_nil _
  refine session_reported target sends reported ?_
  simpa only [starting, releasing, decide_false] using accounts.covered

theorem startFailed_reported {w v : World} {what : String}
    (taken : step lib w (.startMqInstance (some what)) = some v) :
    Reported lib w (.startMqInstance (some what)) v := by
  obtain ⟨_, rfl⟩ := user_step taken
  refine @session_reported lib _ _ _ ["初始化mq实例失败：" ++ what, "初始化mq实例失败：" ++ what] rfl rfl ?_ ?_
  · simp [told, startMqInstance, World.returned, onRtnErrMsg]
  · refine .of_made (List.append_nil _).symm (.inr fun _ => List.not_mem_nil) fun _ => ?_
    exact (List.sublist_append_left [_] [_]).subperm

theorem waitForReady_reported {w v : World} (taken : step lib w .waitForReady = some v) :
    Reported lib w .waitForReady v := by
  obtain ⟨_, rfl⟩ := user_step taken
  have quiet {v : World} (same : v.ses.calls = w.ses.calls ∧ v.ses.errMsgs = w.ses.errMsgs)
      (returns : v.returns = w.returns) (others : Event.waitForReady.failures w = []) :
      Reported lib w .waitForReady v := by
    refine @session_reported lib _ _ _ [] rfl rfl ?_ ?_
    · rw [told, drop_same same.2, drop_same returns]
      rfl
    · rw [others]
      exact .nothing same.1
  unfold waitForReady
  split
  next none => exact quiet ⟨rfl, rfl⟩ rfl (by simp [Event.failures, none])
  next i some =>
    split
    next ready => exact quiet ⟨rfl, rfl⟩ rfl (by simp [Event.failures, some, ready])
    next unready =>
      refine @session_reported lib _ _ _ ["Rmq登录失败", "Rmq登录失败"] rfl rfl ?_ ?_
      · simp [told, World.returned, onRtnErrMsg]
      · refine .of_made (List.append_nil _).symm (.inr fun _ => List.not_mem_nil) fun _ => ?_
        simp only [Event.failures, some, Option.all_some, unready]
        exact (List.sublist_append_left [_] [_]).subperm

theorem releaseStep_reported {w : World} {e : Event} {next : UserPhase}
    {call : RmqMgrBase → RmqMgrBase × Option String} (target : w.target e = none)
    (sends : e.dropsData = false) (starting : (e = .createMqChannel) = False)
    (others : e.failures w = [])
    (covered : Covered lib false (e = .releaseMqInstance) [] w.ses (call w.ses).1
      ((call w.ses).1.errMsgs.drop w.ses.errMsgs.length ++ (call w.ses).2.toList)) :
    Reported lib w e (releaseStep call next w) := by
  unfold releaseStep
  generalize call w.ses = result at covered
  obtain ⟨s, result⟩ := result
  cases result with
  | none =>
    refine session_reported target sends rfl ?_
    simpa [starting, others, told] using covered
  | some err =>
    refine session_reported target sends rfl ?_
    simpa [starting, others, told, World.returned] using covered

theorem publishMsg_errMsgs {msg : List UInt8} {s t : RmqMgrBase} {result : Option String}
    (published : publishMsg lib msg s = (t, result)) : t.errMsgs = s.errMsgs := by
  unfold publishMsg at published
  split at published
  next =>
    obtain ⟨rfl, _⟩ := Prod.mk.inj published
    rfl
  next =>
    simp only at published
    split at published <;>
    · obtain ⟨rfl, _⟩ := Prod.mk.inj published
      rfl

theorem step_reported {w v : World} {e : Event} (taken : step lib w e = some v) :
    Reported lib w e v := by
  cases step_took taken with
  | transport | onData | onReady | onError | onClosed =>
    exact transport_reported taken rfl rfl rfl rfl rfl
  | finitClose _ some | finitStop _ some =>
    exact transport_reported taken (by rw [World.target, some]; rfl) rfl rfl rfl rfl
  | @reportReady c =>
    exact callback_reported rfl rfl (by simp) (by simp) rfl (reportReady_accounts c w.ses)
  | @reportError c message =>
    exact callback_reported rfl rfl (by simp) (by simp) rfl (reportError_accounts c message w.ses)
  | @consumeRecvedCb c thrown deliveryTag =>
    exact callback_reported rfl rfl (by simp) (by simp) rfl
      (consumeRecvedCb_accounts thrown deliveryTag w.ses)
  | reportSuccess | reportClosed | started =>
    exact callback_reported rfl rfl (by simp) (by simp) rfl (.nothing rfl rfl rfl)
  | getMqConnection =>
    refine callback_reported rfl rfl (by simp) (by simp) rfl ?_
    simp only [getMqConnection]
    split <;> exact .nothing rfl rfl rfl
  | startFailed => exact startFailed_reported taken
  | waited | timedOut | waitFaulted => exact waitForReady_reported taken
  | startSucceeded _ made =>
    obtain ⟨errMsgs, covered⟩ := createMqChannel_succeeded made
    refine @session_reported lib _ _ _ [] rfl rfl ?_ ?_
    · simp [told, errMsgs]
    · simpa [Event.failures] using covered
  | @channelFailed s err _ failed =>
    obtain ⟨errMsgs, covered⟩ := createMqChannel_failed failed
    refine @session_reported lib _ _ _ [err, err] rfl rfl ?_ ?_
    · simp [told, onStatusChange, onRtnErrMsg, errMsgs]
    · have told : Covered lib true false [] w.ses (onStatusChange false (onRtnErrMsg err s))
          [err, err] := covered
      simpa [Event.failures] using told
  | @publishMsg msg s result _ published =>
    refine @session_reported lib _ _ _ result.toList rfl rfl ?_ ?_
    · rw [told, drop_same (publishMsg_errMsgs published)]
      cases result <;> simp
    · simpa [Event.failures] using publishMsg_covered published
  | releaseMqInstance =>
    obtain ⟨_, same⟩ := user_step taken
    rw [same]
    refine releaseStep_reported rfl rfl (by simp) rfl ?_
    have closed : Closed lib w.ses (closeMqChannel lib w.ses).1 (closeMqChannel lib w.ses).2 :=
      closeMqChannel_closes rfl
    simpa using closed.covered _
  | closeMqConnection =>
    obtain ⟨_, same⟩ := user_step taken
    rw [same]
    refine releaseStep_reported rfl rfl (by simp) rfl ?_
    have closed : (closeMqConnection lib w.ses).1.errMsgs = w.ses.errMsgs ∧
        Covered lib false false [] w.ses (closeMqConnection lib w.ses).1
          (closeMqConnection lib w.ses).2.toList :=
      closeMqConnection_covered rfl
    rw [drop_same closed.1]
    simpa using closed.2
  | finitJoin =>
    refine @session_reported lib _ _ _ [] rfl rfl (by simp [told]) ?_
    exact .nothing rfl
  | finitFaulted finit none =>
    rcases finit with ⟨rfl, _⟩ | ⟨rfl, _⟩ | ⟨rfl, _⟩ <;>
    exact callback_reported (by simp [World.target, none]) rfl (by simp) (by simp) rfl
      (.nothing rfl rfl rfl)

end RmqMgr.Session
