import SmartSensorNetwork.Lib.Runs
import SmartSensorNetwork.Lib.SlidingWindow
import SmartSensorNetwork.Monitor.Logger

/-!
# The log history

The history is a sliding window over the calls of `log`. The queue beside it
takes the same messages, and what the worker does with them leaves the history
alone.
-/

namespace SmartSensorNetwork.Logger

open CppStd Runs

def entry (call : ByteString × ByteString) : ByteString :=
  ascii "[" ++ call.1 ++ ascii "] " ++ call.2

/-- The time and the message, if the step is the critical section of `log`. -/
def Event.call : Event → Option (ByteString × ByteString)
  | .enqueue time msg => some (time, msg)
  | _ => none

def calls (events : List Event) : List (ByteString × ByteString) := events.filterMap Event.call

/-- The history by the calls of `log` so far. -/
structure KeepsLast (calls : List (ByteString × ByteString)) (logger : Logger) : Prop where
  recent : logger.getRecentLogs = (calls.map entry).rtake 15
  length_eq : logger.getRecentLogs.length = min calls.length 15
  nth : ∀ k, logger.getRecentLogs[k]? = (calls[calls.length - min calls.length 15 + k]?).map entry

/-! ## One step -/

theorem history_log (logger : Logger) (time msg : ByteString) :
    (logger.log time msg).history = SlidingWindow.push 15 logger.history (entry (time, msg)) := rfl

theorem history_of_not_call {s s' : State} {e : Event} (he : e.call = none)
    (h : step s e = some s') : s'.logger.history = s.logger.history := by
  cases e with
  | enqueue time msg => cases he
  | pop =>
      obtain ⟨msg, queue, -, -, rfl⟩ := of_pop h
      rfl
  | notifyOne | startStore | createThread | stopStore | notifyAll | join | test | lock | evaluate
  | block | wakeSpuriously | unlock =>
      obtain ⟨-, rfl⟩ := of_guard h
      rfl

theorem history_step {s s' : State} {e : Event} (h : step s e = some s') :
    s'.logger.history = (e.call.toList.map entry).foldl (SlidingWindow.push 15) s.logger.history := by
  cases hcall : e.call with
  | none => exact history_of_not_call hcall h
  | some call =>
      cases e with
      | enqueue time msg =>
          cases hcall
          obtain ⟨-, rfl⟩ := of_guard h
          exact history_log s.logger time msg
      | _ => cases hcall

/-! ## A whole run -/

theorem history_run {s s' : State} {events : List Event} (h : run step s events = some s') :
    s'.logger.history =
      ((calls events).map entry).foldl (SlidingWindow.push 15) s.logger.history := by
  induction events generalizing s with
  | nil =>
      cases h
      rfl
  | cons e events ih =>
      obtain ⟨t, he, hrest⟩ := run_cons_eq_some.mp h
      have hcalls : calls (e :: events) = e.call.toList ++ calls events := by
        cases hcall : e.call with
        | none => exact List.filterMap_cons_none hcall
        | some call => exact List.filterMap_cons_some hcall
      rw [ih hrest, history_step he, hcalls, List.map_append, List.foldl_append]

/-- In every state of every run the history holds the last fifteen calls of
`log`, oldest first, and only a call of `log` changes it. -/
theorem keepsLast_of_run (events : List Event) (s : State) (hrun : run step {} events = some s) :
    KeepsLast (calls events) s.logger ∧ s.logger.history.length ≤ 15 ∧
      ∀ e s', e.call = none → step s e = some s' →
        s'.logger.getRecentLogs = s.logger.getRecentLogs := by
  have hrecent : s.logger.history = ((calls events).map entry).rtake 15 := by
    have hfold := history_run hrun
    have hwindow := SlidingWindow.foldl_push 15 [] ((calls events).map entry)
    rw [List.rtake_nil, List.nil_append] at hwindow
    exact hfold.trans hwindow
  have hlength : s.logger.history.length = min (calls events).length 15 := by
    rw [hrecent, SlidingWindow.length_rtake, List.length_map]
  refine ⟨?_, ?_, fun e s' he h ↦ history_of_not_call he h⟩
  · exact {
      recent := hrecent
      length_eq := hlength
      nth := fun k ↦ by
        rw [getRecentLogs, hrecent, SlidingWindow.getElem?_rtake, List.length_map,
          List.getElem?_map] }
  · rw [hlength]
    exact min_le_right _ _

/-- The first message is drained before sixteen more are logged. -/
def longRun : List Event :=
  [.startStore, .createThread, .enqueue (ascii "12:00:00") (ascii "start"), .test, .lock, .evaluate,
    .pop, .unlock] ++
    (List.range 16).map fun k ↦ .enqueue (ascii "12:00:01") (CppStd.to_string k)

theorem keepsLast_longRun : ∃ s, run step {} longRun = some s ∧
    KeepsLast (calls longRun) s.logger ∧ s.logger.getRecentLogs.length = 15 := by
  obtain ⟨s, hrun⟩ : ∃ s, run step {} longRun = some s := ⟨_, rfl⟩
  have hkeeps := (keepsLast_of_run longRun s hrun).1
  have hcalls : (calls longRun).length = 17 := rfl
  refine ⟨s, hrun, hkeeps, ?_⟩
  rw [hkeeps.length_eq, hcalls]
  rfl

end SmartSensorNetwork.Logger
