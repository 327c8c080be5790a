import RmqMgr.Session.StepFailures

set_option autoImplicit false

-- An exception that a callback lets out reaches the `catch` of `ParseAmqpData`. One that a
-- handler lets out elsewhere leaves the thread.

namespace RmqMgr.Session

open Transition
open scoped List

variable (lib : Library)

def mqInfoInit (thrown : Option String) (mqInfo : MqInfo) (s : RmqMgrBase) :
    RmqMgrBase × Option String :=
  match thrown with
  | none => ({ s with mqInfo }, none)
  | some what => (s, some ("初始化mqinfo失败：" ++ what))

/-- What is tried: a step of the manager, `MqInfoInit`, or a call of a handler that throws outside
of the `try` of `ParseAmqpData`. -/
inductive Attempt where
  | managed (e : ManagedEvent)
  | mqInfoInit (thrown : Option String) (mqInfo : MqInfo)
  | escapes (i : Nat) (call : Tcp.LibraryCall)
  deriving DecidableEq, Repr

structure Outcome where
  failures : List (Option String)
  reports : List String
  deriving DecidableEq, Repr

def Outcome.append (first second : Outcome) : Outcome :=
  ⟨first.failures ++ second.failures, first.reports ++ second.reports⟩

def outcome (w : World) (e : Event) (v : World) : Outcome :=
  ⟨failures lib w e v, reports w e v⟩

def Event.thrown (w : World) : Event → Option (Nat × String)
  | .consumeRecvedCb c (some what) _ => some ((w.ses.channels c).connection.tcpMgr, what)
  | .consumeRecvedCb c none _ =>
    match w.ses.channel, lib w.ses.calls.length with
    | some _, .threw what => some ((w.ses.channels c).connection.tcpMgr, what)
    | _, _ => none
  | _ => none

-- After an exception that leaves a handler nothing runs that could report it.
def attempt (m : Managed) : Attempt → Option Outcome
  | .managed (.world e) =>
    (m.step lib (.world e)).bind fun n =>
      match e.thrown lib m.world with
      | none => some (outcome lib m.world e n.world)
      | some (i, what) =>
        let caught := Event.transport i (.parsed (.threw what))
        (n.step lib (.world caught)).map fun o =>
          (outcome lib m.world e n.world).append (outcome lib n.world caught o.world)
  | .managed (.startThrew what) =>
    (m.step lib (.startThrew what)).map fun n =>
      ⟨[some ("初始化mq实例失败：" ++ what)], told m.world n.world⟩
  | .managed (.finitThrew what) =>
    (m.step lib (.finitThrew what)).map fun n =>
      ⟨[some ("释放mq实例失败：" ++ what)], told m.world n.world⟩
  | .managed .destroy => (m.step lib .destroy).map fun n => ⟨[], told m.world n.world⟩
  | .mqInfoInit thrown mqInfo =>
    some ⟨thrown.toList.map fun what => some ("初始化mqinfo失败：" ++ what),
      (mqInfoInit thrown mqInfo m.world.ses).2.toList⟩
  | .escapes i call =>
    if m.world.ses.fault = false ∧ i < m.world.tcpCount ∧
        call ∈ Tcp.unguarded (m.world.tcps i) then
      some ⟨[none], []⟩
    else none

def heard (m : Managed) : Attempt → Prop
  | .managed (.world e) =>
    ∀ n ∈ m.step lib (.world e),
      heardCalls lib (e = .createMqChannel) (newCalls m.world.ses n.world.ses) ∧
        e.dropsData = false
  | .escapes _ _ => False
  | _ => True

instance (m : Managed) (a : Attempt) : Decidable (heard lib m a) :=
  match a with
  | .managed (.world _) => inferInstanceAs (Decidable (∀ _ ∈ _, _ ∧ _))
  | .managed (.startThrew _) | .managed (.finitThrew _) | .managed .destroy | .mqInfoInit _ _ =>
    inferInstanceAs (Decidable True)
  | .escapes _ _ => inferInstanceAs (Decidable False)

variable {lib}

theorem thrown_heard {w v : World} {e : Event} {i : Nat} {what : String}
    (taken : step lib w e = some v) (thrown : e.thrown lib w = some (i, what)) :
    heardCalls lib (e = .createMqChannel) (newCalls w.ses v.ses) ∧ e.dropsData = false := by
  cases step_took taken with
  | @consumeRecvedCb c thrown' deliveryTag =>
    refine ⟨?_, rfl⟩
    cases thrown' with
    | some what' =>
      have silent : newCalls w.ses (consumeRecvedCb (some what') deliveryTag w.ses) = [] :=
        newCalls_nil rfl
      simp only [silent]
      exact fun _ none => nomatch none
    | none =>
      simp only [Event.thrown] at thrown
      split at thrown
      next d what' channel threw =>
        have made : newCalls w.ses (consumeRecvedCb none deliveryTag w.ses) =
            [(.ack d deliveryTag, w.ses.calls.length)] := by
          simp only [consumeRecvedCb, channel]
          exact @newCalls_made w.ses (record (.ack d deliveryTag) w.ses) [.ack d deliveryTag] rfl
        rw [made]
        intro call only
        rw [List.mem_singleton.mp only, threw]
        rfl
      next => cases thrown
  | finitFaulted finit =>
    rcases finit with ⟨rfl, _⟩ | ⟨rfl, _⟩ | ⟨rfl, _⟩ <;> cases thrown
  | _ => cases thrown

theorem caught_heard {w v : World} {i : Nat} {what : String}
    (taken : step lib w (.transport i (.parsed (.threw what))) = some v) :
    (outcome lib w (.transport i (.parsed (.threw what))) v).failures <+~
      (outcome lib w (.transport i (.parsed (.threw what))) v).reports.map some := by
  refine (step_reported taken).mpr ⟨?_, rfl⟩
  have same : v.ses = w.ses := by
    cases step_took taken with
    | transport => rfl
    | finitFaulted finit => simp at finit
  rw [newCalls_nil (by rw [same])]
  exact fun _ none => nomatch none

theorem Outcome.append_heard {first second : Outcome}
    (early : first.failures <+~ first.reports.map some)
    (late : second.failures <+~ second.reports.map some) :
    (first.append second).failures <+~ (first.append second).reports.map some := by
  simp only [Outcome.append, List.map_append]
  exact early.append late

theorem world_reported {m n : Managed} {e : Event} (taken : m.step lib (.world e) = some n) :
    (outcome lib m.world e n.world).failures <+~
      (outcome lib m.world e n.world).reports.map some ↔ heard lib m (.managed (.world e)) := by
  obtain ⟨v, stepped, _, rfl⟩ := world_step taken
  refine (step_reported stepped).trans ⟨fun all n' taken' => ?_, fun all => all _ taken⟩
  obtain rfl := Option.some.inj (taken.symm.trans taken')
  exact all

theorem failures_reported {m : Managed} {a : Attempt} {o : Outcome}
    (tried : attempt lib m a = some o) : o.failures <+~ o.reports.map some ↔ heard lib m a := by
  cases a with
  | mqInfoInit thrown mqInfo =>
    obtain rfl := Option.some.inj tried
    cases thrown <;> simp [heard, mqInfoInit]
  | escapes i call =>
    simp only [attempt, Option.ite_none_right_eq_some, Option.some.injEq] at tried
    obtain ⟨_, rfl⟩ := tried
    simp [heard]
  | managed e =>
    cases e with
    | world e =>
      obtain ⟨n, taken, tried⟩ := Option.bind_eq_some_iff.mp tried
      have reported := world_reported taken
      cases thrown : e.thrown lib m.world with
      | none =>
        simp only [thrown, Option.some.injEq] at tried
        rw [← tried]
        exact reported
      | some pair =>
        obtain ⟨i, what⟩ := pair
        simp only [thrown, Option.map_eq_some_iff] at tried
        obtain ⟨o', caught, rfl⟩ := tried
        have all : heard lib m (.managed (.world e)) := by
          intro n' taken'
          obtain rfl := Option.some.inj (taken.symm.trans taken')
          obtain ⟨v, stepped, _, rfl⟩ := world_step taken
          exact thrown_heard stepped thrown
        obtain ⟨v, stepped, _, rfl⟩ := world_step caught
        exact iff_of_true (Outcome.append_heard (reported.mpr all) (caught_heard stepped)) all
    | startThrew what =>
      obtain ⟨n, taken, rfl⟩ := Option.map_eq_some_iff.mp tried
      obtain ⟨_, rfl⟩ := managed_step taken
      refine iff_of_true ?_ trivial
      simp only [told, World.returned, onRtnErrMsg, List.drop_left]
      exact (List.sublist_append_left [_] [_]).subperm
    | finitThrew what =>
      obtain ⟨n, taken, rfl⟩ := Option.map_eq_some_iff.mp tried
      obtain ⟨_, rfl⟩ := managed_step taken
      refine iff_of_true ?_ trivial
      simp only [told, World.returned, List.drop_left, List.drop_length]
      exact .refl _
    | destroy =>
      obtain ⟨n, _, rfl⟩ := Option.map_eq_some_iff.mp tried
      exact iff_of_true List.nil_subperm trivial

open Run

def throwing (n : Nat) : Library := fun i => if i = n then .threw "bad_alloc" else .accepted

theorem start_failure_reported :
    ∃ m o, (attempt (throwing 0) m (.managed (.world .createMqChannel)) = some o ∧
        o.failures = [some "创建channel失败：bad_alloc"]) ∧ o.failures <+~ o.reports.map some := by
  have ran : ∃ m, Reachable (Managed.step (throwing 0)) ⟨World.start fanout, [], false⟩ m ∧
      (attempt (throwing 0) m (.managed (.world .createMqChannel))).any
        (fun o => o.failures = [some "创建channel失败：bad_alloc"]) = true ∧
      heard (throwing 0) m (.managed (.world .createMqChannel)) :=
    run_reaches (startAndLogIn.dropLast.map .world) (by decide +kernel)
  obtain ⟨m, _, tries, hears⟩ := ran
  obtain ⟨o, tried, failed⟩ := (Option.any_eq_true _ _).mp tries
  exact ⟨m, o, ⟨tried, of_decide_eq_true failed⟩, (failures_reported tried).mpr hears⟩

theorem failed_recreation_silent :
    ∃ m o, Reachable (Managed.step (throwing 6)) ⟨World.start fanout, [], false⟩ m ∧
      attempt (throwing 6) m (.managed (.world (.reportError 0 "PRECONDITION_FAILED"))) = some o ∧
      o.failures = [some "创建channel失败：bad_alloc"] ∧ ¬ o.failures <+~ o.reports.map some := by
  have ran : ∃ m, Reachable (Managed.step (throwing 6)) ⟨World.start fanout, [], false⟩ m ∧
      (attempt (throwing 6) m (.managed (.world (.reportError 0 "PRECONDITION_FAILED")))).any
        (fun o => o.failures = [some "创建channel失败：bad_alloc"] ∧
          ¬ o.failures <+~ o.reports.map some) = true :=
    run_reaches ((startAndLogIn ++ channelOpens 0 ++ parsing).map .world) (by decide +kernel)
  obtain ⟨m, reached, tries⟩ := ran
  obtain ⟨o, tried, failed⟩ := (Option.any_eq_true _ _).mp tries
  obtain ⟨failed, silent⟩ := of_decide_eq_true failed
  exact ⟨m, o, reached, tried, failed, silent⟩

end RmqMgr.Session
