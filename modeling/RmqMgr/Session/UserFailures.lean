import RmqMgr.Session.Failures

set_option autoImplicit false

namespace RmqMgr.Session

open Transition
open scoped List

variable {lib : Library} {getConnection : Nat → Option Nat}

theorem newCalls_made {s t : RmqMgrBase} {calls : List Call} (made : t.calls = s.calls ++ calls) :
    newCalls s t = calls.zipIdx s.calls.length := by
  rw [newCalls, made, List.zipIdx_append, List.drop_left' List.length_zipIdx, Nat.zero_add]

theorem newCalls_nil {s t : RmqMgrBase} (same : t.calls = s.calls) : newCalls s t = [] :=
  newCalls_made (same.trans (List.append_nil _).symm)

/-- What was `told` covers the failures from `s` to `t` exactly when all calls are heard. -/
def Covered (lib : Library) (starting releasing : Bool) (others : List (Option String))
    (s t : RmqMgrBase) (told : List String) : Prop :=
  others ++ callFailures lib releasing (newCalls s t) <+~ told.map some ↔
    heardCalls lib starting (newCalls s t)

theorem Covered.of_heard {starting releasing : Bool} {others : List (Option String)}
    {s t : RmqMgrBase} {told : List String}
    (heard : heardCalls lib starting (newCalls s t) →
      others ++ callFailures lib releasing (newCalls s t) <+~ told.map some)
    (unheard : ∀ call ∈ newCalls s t, call.1.unheard starting (lib call.2) = true →
      ∃ failure ∈ call.1.failures releasing (lib call.2), failure ∉ told.map some) :
    Covered lib starting releasing others s t told := by
  refine ⟨fun covered call made => ?_, heard⟩
  by_contra lost
  obtain ⟨failure, failed, missing⟩ := unheard call made (by simpa using lost)
  refine missing (covered.subset (List.mem_append_right _ ?_))
  exact List.mem_flatMap.mpr ⟨call, made, failed⟩

theorem unheard_failure {starting releasing : Bool} {call : Call} {answer : Answer}
    (lost : call.unheard starting answer = true) :
    none ∈ call.failures releasing answer ∨
      starting = false ∧ ∃ k what, call = .channel .consumer k false ∧
        some ("创建channel失败：" ++ what) ∈ call.failures releasing answer := by
  unfold Call.unheard at lost
  split at lost
  next k what =>
    exact .inr ⟨by simpa using lost, k, what, rfl, List.mem_singleton.mpr rfl⟩
  next => exact .inl (List.mem_singleton.mpr rfl)
  next => exact .inl (List.mem_singleton.mpr rfl)
  next => cases lost

theorem Accounts.covered {others : List (Option String)} {s t : RmqMgrBase}
    (accounts : Accounts lib others s t) :
    Covered lib false false others s t (t.errMsgs.drop s.errMsgs.length) := by
  obtain ⟨calls, msgs, account⟩ := accounts
  rw [account.told, List.drop_left]
  refine .of_heard ?_ ?_
  · rw [newCalls_made account.made]
    exact account.heard
  · rintro ⟨call, n⟩ _ lost
    have outside (what : String) : some ("创建channel失败：" ++ what) ∉ msgs.map some := by
      intro told
      obtain ⟨msg, told, same⟩ := List.mem_map.mp told
      refine account.aside msg told ?_
      rw [Option.some.inj same, String.toList_append]
      exact List.take_append_of_le_length (by decide)
    rcases @unheard_failure false false _ _ lost with unnamed | ⟨_, _, what, _, failed⟩
    · exact ⟨none, unnamed, by simp⟩
    · exact ⟨_, failed, outside what⟩

theorem Covered.of_made {starting releasing : Bool} {others : List (Option String)}
    {s t : RmqMgrBase} {calls : List Call} {told : List String} (made : t.calls = s.calls ++ calls)
    (user : starting = true ∨ ∀ k, .channel .consumer k false ∉ calls)
    (heard : heardCalls lib starting (calls.zipIdx s.calls.length) →
      others ++ callFailures lib releasing (calls.zipIdx s.calls.length) <+~ told.map some) :
    Covered lib starting releasing others s t told := by
  refine .of_heard ?_ ?_
  · rwa [newCalls_made made]
  · rw [newCalls_made made]
    rintro ⟨call, n⟩ member lost
    rcases @unheard_failure starting releasing _ _ lost with unnamed | ⟨callback, k, what, same, _⟩
    · exact ⟨none, unnamed, by simp⟩
    · rcases user with starts | other
      · rw [callback] at starts
        cases starts
      · exact absurd (same ▸ List.fst_mem_of_mem_zipIdx member) (other k)

theorem Covered.nothing {starting releasing : Bool} {s t : RmqMgrBase} {told : List String}
    (same : t.calls = s.calls) : Covered lib starting releasing [] s t told :=
  .of_made (same.trans (List.append_nil _).symm) (.inr fun _ => List.not_mem_nil)
    fun _ => List.nil_subperm

theorem publishMsg_covered {msg : List UInt8} {s t : RmqMgrBase} {result : Option String}
    (published : publishMsg lib msg s = (t, result)) :
    Covered lib false false [] s t result.toList := by
  unfold publishMsg at published
  split at published
  next =>
    obtain ⟨rfl, rfl⟩ := Prod.mk.inj published
    exact .nothing rfl
  next c _ =>
    simp only at published
    have covered (result : Option String)
        (same : ∀ what, lib s.calls.length = .threw what → result = some ("发布消息失败：" ++ what)) :
        Covered lib false false [] s
          (record (.publish c s.mqInfo.exchangeName s.mqInfo.routingKey msg) s) result.toList := by
      refine .of_made rfl (by simp) fun heard => ?_
      have answered := heard (.publish c s.mqInfo.exchangeName s.mqInfo.routingKey msg,
        s.calls.length) (by simp)
      cases answer : lib s.calls.length with
      | threw what => simp [callFailures, answer, Call.failures, same what answer]
      | accepted => simp [callFailures, answer, Call.failures]
      | refused => simp [answer, Call.unheard] at answered
    split at published
    next what threw =>
      obtain ⟨rfl, rfl⟩ := Prod.mk.inj published
      refine covered _ fun what' same => ?_
      rw [threw] at same
      rw [Answer.threw.inj same]
    next opens =>
      obtain ⟨rfl, rfl⟩ := Prod.mk.inj published
      exact covered _ fun what same => absurd same (opens what)

theorem createMqChannel_failed {s t : RmqMgrBase} {err : String}
    (failed : createMqChannel lib getConnection s = (t, some err)) :
    t.errMsgs = s.errMsgs ∧ Covered lib true false [] s t [err, err] := by
  unfold createMqChannel at failed
  have fetched := @fetches_connection getConnection s
  generalize (if connectionUsable s then s else getMqConnection getConnection s) = u at *
  obtain ⟨_, calls, errMsgs⟩ := fetched_kept fetched
  simp only at failed
  split at failed
  next => cases failed
  next k _ =>
    split at failed
    next what threw =>
      obtain ⟨rfl, same⟩ := Prod.mk.inj failed
      obtain rfl := Option.some.inj same
      have made : (record (.channel .consumer k false) u).calls =
          s.calls ++ [.channel .consumer k false] := by
        rw [← calls]
        rfl
      rw [calls] at threw
      refine ⟨errMsgs, .of_made made (.inl rfl) fun _ => ?_⟩
      simp only [callFailures, List.zipIdx_singleton, List.flatMap_singleton, threw, Call.failures]
      exact (List.sublist_append_left [_] [_]).subperm
    next => cases failed

theorem createMqChannel_succeeded {s t : RmqMgrBase}
    (made : createMqChannel lib getConnection s = (t, none)) :
    t.errMsgs = s.errMsgs ∧ Covered lib true false [] s t [] := by
  cases Created.of_result made with
  | faulted fetched =>
    obtain ⟨_, calls, errMsgs⟩ := fetched_kept fetched
    exact ⟨errMsgs, .nothing calls⟩
  | made fetched _ replaces =>
    obtain ⟨_, calls, errMsgs⟩ := fetched_kept fetched
    have constructed := replaces.calls
    rw [calls] at constructed
    refine ⟨errMsgs, ?_⟩
    rcases constructed with only | ⟨d, closes⟩
    · refine .of_made only (.inl rfl) fun _ => ?_
      simp [callFailures, failures_constructed]
    · refine .of_made closes (.inl rfl) fun _ => ?_
      simp [callFailures, failures_constructed, failures_closeChannel]

def Closed (lib : Library) (s t : RmqMgrBase) (result : Option String) : Prop :=
  ∃ calls msgs, t.calls = s.calls ++ calls ∧ t.errMsgs = s.errMsgs ++ msgs ∧
    (∀ call ∈ calls, ∃ c, call = .closeChannel c) ∧
    callFailures lib true (calls.zipIdx s.calls.length) = result.toList.map some

theorem Closed.nothing {s t : RmqMgrBase} (calls : t.calls = s.calls)
    (errMsgs : t.errMsgs = s.errMsgs) : Closed lib s t none :=
  ⟨[], [], (by rw [calls, List.append_nil]), (by rw [errMsgs, List.append_nil]),
    (fun _ none => nomatch none), rfl⟩

theorem Closed.trans {s t u : RmqMgrBase} {result : Option String} (first : Closed lib s t none)
    (second : Closed lib t u result) : Closed lib s u result := by
  obtain ⟨calls, msgs, made, told, closes, accepted⟩ := first
  obtain ⟨calls', msgs', made', told', closes', failed⟩ := second
  have count : t.calls.length = s.calls.length + calls.length := by rw [made, List.length_append]
  refine ⟨calls ++ calls', msgs ++ msgs', ?_, ?_, ?_, ?_⟩
  · rw [made', made, List.append_assoc]
  · rw [told', told, List.append_assoc]
  · intro call member
    exact (List.mem_append.mp member).elim (closes call) (closes' call)
  · rw [List.zipIdx_append, ← count, callFailures_append, accepted, failed]
    rfl

theorem closeUsable_closes {c : Nat} {s t : RmqMgrBase} {result : Option String}
    (closed : closeUsable lib c s = (t, result)) : Closed lib s t result := by
  unfold closeUsable at closed
  split at closed
  next =>
    have one (msgs : List String) (t : RmqMgrBase) (made : t.calls = s.calls ++ [.closeChannel c])
        (told : t.errMsgs = s.errMsgs ++ msgs) (result : Option String)
        (same : (Call.closeChannel c).failures true (lib s.calls.length) = result.toList.map some) :
        Closed lib s t result :=
      ⟨_, _, made, told, fun call only => ⟨c, List.mem_singleton.mp only⟩,
        (by simpa [callFailures] using same)⟩
    split at closed
    next what threw =>
      obtain ⟨rfl, rfl⟩ := Prod.mk.inj closed
      refine one [] _ ?_ ?_ _ ?_
      · rfl
      · exact (List.append_nil _).symm
      · rw [threw]
        rfl
    next accepted =>
      obtain ⟨rfl, rfl⟩ := Prod.mk.inj closed
      rw [startClose_eq]
      refine one [] _ ?_ ?_ _ ?_
      · rfl
      · exact (List.append_nil _).symm
      · rw [accepted]
        rfl
    next msg refused =>
      split at closed
      next =>
        obtain ⟨rfl, rfl⟩ := Prod.mk.inj closed
        rw [startClose_eq]
        refine one [] _ ?_ ?_ _ ?_
        · rfl
        · exact (List.append_nil _).symm
        · rw [refused]
          rfl
      next =>
        obtain ⟨rfl, rfl⟩ := Prod.mk.inj closed
        refine one ["关闭通道发生错误：" ++ msg] _ ?_ ?_ _ ?_
        · rfl
        · rfl
        · rw [refused]
          rfl
  next =>
    obtain ⟨rfl, rfl⟩ := Prod.mk.inj closed
    exact .nothing rfl rfl

theorem closeMqChannel_closes {s t : RmqMgrBase} {result : Option String}
    (closed : closeMqChannel lib s = (t, result)) : Closed lib s t result := by
  unfold closeMqChannel at closed
  split at closed
  next =>
    obtain ⟨rfl, rfl⟩ := Prod.mk.inj closed
    exact .nothing rfl rfl
  next c _ =>
    split at closed
    next u err first =>
      obtain ⟨rfl, rfl⟩ := Prod.mk.inj closed
      exact closeUsable_closes first
    next u first =>
      split at closed
      next =>
        obtain ⟨rfl, rfl⟩ := Prod.mk.inj closed
        exact (closeUsable_closes first).trans (.nothing rfl rfl)
      next d _ => exact (closeUsable_closes first).trans (closeUsable_closes closed)

theorem Closed.covered {s t : RmqMgrBase} {result : Option String} (closed : Closed lib s t result)
    (told : List String) : Covered lib false true [] s t (told ++ result.toList) := by
  obtain ⟨calls, msgs, made, _, closes, failed⟩ := closed
  refine .of_made made (.inr fun k made => ?_) fun _ => ?_
  · obtain ⟨c, same⟩ := closes _ made
    cases same
  · rw [failed, List.map_append]
    exact (List.sublist_append_right _ _).subperm

theorem closeMqConnection_covered {s t : RmqMgrBase} {result : Option String}
    (closed : closeMqConnection lib s = (t, result)) :
    t.errMsgs = s.errMsgs ∧ Covered lib false false [] s t result.toList := by
  unfold closeMqConnection at closed
  split at closed
  next =>
    obtain ⟨rfl, rfl⟩ := Prod.mk.inj closed
    exact ⟨rfl, .nothing rfl⟩
  next k _ =>
    have one (t : RmqMgrBase) (made : t.calls = s.calls ++ [.closeConnection k])
        (result : Option String)
        (same : (Call.closeConnection k).failures false (lib s.calls.length) =
          result.toList.map some) : Covered lib false false [] s t result.toList := by
      refine .of_made made (by simp) fun _ => ?_
      rw [← same]
      simp only [callFailures, List.zipIdx_singleton, List.flatMap_singleton, List.nil_append]
      exact .refl _
    split at closed
    next =>
      simp only at closed
      split at closed
      next what threw =>
        obtain ⟨rfl, rfl⟩ := Prod.mk.inj closed
        refine ⟨rfl, one _ ?_ _ ?_⟩
        · rfl
        · rw [threw]
          rfl
      next msg refused =>
        obtain ⟨rfl, rfl⟩ := Prod.mk.inj closed
        refine ⟨rfl, one _ ?_ _ ?_⟩
        · rfl
        · rw [refused]
          rfl
      next accepted =>
        obtain ⟨rfl, rfl⟩ := Prod.mk.inj closed
        refine ⟨rfl, one _ ?_ _ ?_⟩
        · rfl
        · rw [accepted]
          rfl
    next =>
      obtain ⟨rfl, rfl⟩ := Prod.mk.inj closed
      exact ⟨rfl, .nothing rfl⟩

end RmqMgr.Session
