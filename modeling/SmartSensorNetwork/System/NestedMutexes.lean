import SmartSensorNetwork.Gateway.Threads
import SmartSensorNetwork.Lib.Mutexes
import SmartSensorNetwork.Monitor.Logger

/-!
# The mutexes of the program

The Gateway, the logger and the TCP server have a mutex each. A scan logs with
the Gateway's mutex held, so that the logger's one is taken inside it; no other
call nests two of them.
-/

namespace SmartSensorNetwork.NestedMutexes

open CppStd Gateway.Threads Mutexes

inductive Mutex where
  | gateway
  | logger
  | command
  deriving DecidableEq

instance : Fintype Mutex where
  elems := {.gateway, .logger, .command}
  complete mutex := by cases mutex <;> decide

def Mutex.rank : Mutex → ℕ
  | .gateway => 0
  | .logger => 1
  | .command => 1

structure Shared where
  gateway : Gateway := {}
  logger : Logger := {}
  lastCommand : ByteString := []

/-- What `now()` and `currentTimeString()` return. -/
structure Input where
  now : UInt64
  time : ByteString := []

/-- The calls that take a mutex. `pops` is one turn of the logger's thread:
it pops what is queued, or finds nothing and waits with the mutex released. -/
inductive Member where
  | gateway (member : Gateway.Threads.Member)
  | log (msg : ByteString)
  | pops
  | getRecentLogs
  | setLastCommand (req : ByteString)
  | getLastCommand

inductive Result where
  | gateway (r : Gateway.Threads.Result)
  | returned
  | popped (msgs : List ByteString)
  | logs (history : List ByteString)
  | command (lastCommand : ByteString)

variable {κ θ : Type}

abbrev Program (κ : Type) := κ → Option (Member × (Result → κ))

abbrev Statements (κ : Type) := Code Shared Input Mutex (Local κ)

abbrev Config (κ θ : Type) := Mutexes.Config Shared Input Mutex (Local κ) θ

/-! ## Statements -/

def load (k : Input → Shared → Statements κ) : Statements κ := .act (fun _ s ↦ s) k

/-- The notification comes after the section and takes no mutex. -/
def log (msg : ByteString) (k : Statements κ) : Statements κ :=
  .lock .logger <|
  .act (fun x s ↦ { s with logger := s.logger.log x.time msg }) fun _ _ ↦
  .unlock .logger k

def pops (k : List ByteString → Statements κ) : Statements κ :=
  .lock .logger <|
  load fun _ s ↦
  let msgs := s.logger.queue
  .act (fun _ s ↦ { s with logger := { s.logger with queue := [] } }) fun _ _ ↦
  .unlock .logger (k msgs)

def getRecentLogs (k : List ByteString → Statements κ) : Statements κ :=
  .lock .logger <| load fun _ s ↦ .unlock .logger (k s.logger.getRecentLogs)

def setLastCommand (req : ByteString) (k : Statements κ) : Statements κ :=
  .lock .command <| .act (fun _ s ↦ { s with lastCommand := req }) fun _ _ ↦ .unlock .command k

def getLastCommand (k : ByteString → Statements κ) : Statements κ :=
  .lock .command <|
  load fun _ s ↦
  .unlock .command (k (if s.lastCommand = [] then ascii "None" else s.lastCommand))

/-- A section of the Gateway logs each of its lines by a call of `log`. -/
def ofBody (k : Gateway.Threads.Result → Statements κ) :
    Gateway.Threads.Statements → Statements κ
  | .done r => k r
  | .act f rest =>
      .act (fun x s ↦ { s with gateway := (f x.now s.gateway).1 }) fun x s ↦
        (f x.now s.gateway).2.foldr log (ofBody k (rest x.now s.gateway))

def ofAction : ThreadAction κ → Option (Statements κ)
  | .halt => none
  | .own f => some <| load fun x _ ↦ (f x.now).1.foldr log (.done (f x.now).2)
  | .enter body k => some <| .lock .gateway <| ofBody (fun r ↦ .unlock .gateway (.done (k r))) body

def gatewayCalls (program : Program κ) : Gateway.Threads.Program κ := fun l ↦
  match program l with
  | some (.gateway member, k) => some (member, k ∘ .gateway)
  | _ => none

def code (program : Program κ) : Local κ → Option (Statements κ)
  | .scanning currentTime l => ofAction (action (gatewayCalls program) (.scanning currentTime l))
  | .calling l =>
      match program l with
      | none => none
      | some (.gateway _, _) => ofAction (action (gatewayCalls program) (.calling l))
      | some (.log msg, k) => some (log msg (.done (.calling (k .returned))))
      | some (.pops, k) => some (pops fun msgs ↦ .done (.calling (k (.popped msgs))))
      | some (.getRecentLogs, k) =>
          some (getRecentLogs fun history ↦ .done (.calling (k (.logs history))))
      | some (.setLastCommand req, k) => some (setLastCommand req (.done (.calling (k .returned))))
      | some (.getLastCommand, k) =>
          some (getLastCommand fun lastCommand ↦ .done (.calling (k (.command lastCommand))))

/-! ## The order of the mutexes -/

theorem ordered_log {held : List Mutex} (hheld : ∀ mutex ∈ held, mutex.rank < 1) (msg : ByteString)
    {k : Statements κ} (hk : Ordered Mutex.rank held k) : Ordered Mutex.rank held (log msg k) :=
  .lock hheld (.act fun _ _ ↦ .unlock hk)

theorem ordered_logs {held : List Mutex} (hheld : ∀ mutex ∈ held, mutex.rank < 1)
    (msgs : List ByteString) {k : Statements κ} (hk : Ordered Mutex.rank held k) :
    Ordered Mutex.rank held (msgs.foldr log k) := by
  induction msgs with
  | nil => exact hk
  | cons msg msgs ih => exact ordered_log hheld msg ih

theorem ordered_ofBody {k : Gateway.Threads.Result → Statements κ}
    (hk : ∀ r, Ordered Mutex.rank [.gateway] (k r)) (body : Gateway.Threads.Statements) :
    Ordered Mutex.rank [.gateway] (ofBody k body) := by
  induction body with
  | done r => exact hk r
  | act f rest ih =>
      refine .act fun x s ↦ ordered_logs ?_ _ (ih x.now s.gateway)
      simp [Mutex.rank]

theorem ordered_ofAction {a : ThreadAction κ} {statements : Statements κ}
    (h : ofAction a = some statements) : Ordered Mutex.rank [] statements := by
  cases a with
  | halt => cases h
  | own f =>
      cases h
      exact .act fun x _ ↦ ordered_logs (by simp) _ (.done _)
  | enter body k =>
      cases h
      exact .lock (by simp) (ordered_ofBody (fun r ↦ .unlock (.done _)) body)

theorem ordered_code {program : Program κ} {l : Local κ} {statements : Statements κ}
    (h : code program l = some statements) : Ordered Mutex.rank [] statements := by
  cases l with
  | scanning currentTime l => exact ordered_ofAction h
  | calling l =>
      rw [code] at h
      cases hprogram : program l with
      | none => simp [hprogram] at h
      | some call =>
          obtain ⟨member, k⟩ := call
          cases member with
          | gateway member =>
              simp only [hprogram] at h
              exact ordered_ofAction h
          | log msg =>
              simp only [hprogram, Option.some.injEq] at h
              exact h ▸ ordered_log (by simp) msg (.done _)
          | pops =>
              simp only [hprogram, Option.some.injEq] at h
              exact h ▸ .lock (by simp) (.act fun _ _ ↦ .act fun _ _ ↦ .unlock (.done _))
          | getRecentLogs | getLastCommand =>
              simp only [hprogram, Option.some.injEq] at h
              exact h ▸ .lock (by simp) (.act fun _ _ ↦ .unlock (.done _))
          | setLastCommand req =>
              simp only [hprogram, Option.some.injEq] at h
              exact h ▸ .lock (by simp) (.act fun _ _ ↦ .unlock (.done _))

variable [DecidableEq θ]

/-- Whatever the holders of the mutexes see and however they are scheduled,
their own statements bring all mutexes free, and some holder can always go on.
When all are free, every thread whose program is not over can go on. -/
theorem never_deadlocked {program : Program κ} {start : θ → κ} {schedule : List (θ × Input)}
    {c : Config κ θ}
    (hrun : Runs.run (step (code program)) (init {} fun t ↦ .calling (start t)) schedule =
      some c) :
    ComesFree (code program) c ∧
      ((∀ mutex, c.holder mutex = none) → ∀ t x,
        (∃ l, c.position t = .done l ∧ code program l = none) ∨
          (step (code program) c (t, x)).isSome) :=
  ⟨comesFree_of_run (fun _ _ h ↦ ordered_code h) hrun, goes_on_of_free⟩

def inTurn : Program (List Member)
  | [] => none
  | member :: members => some (member, fun _ ↦ members)

inductive Caller where
  | watchdog
  | server
  deriving DecidableEq

/-- A heartbeat and a scan, and a line to log. -/
def scanAndLine : Caller → List Member
  | .watchdog =>
      [.gateway (.call (.handlePacket (2 :: List.replicate 12 0))),
        .gateway (.call .detectOfflineSensors)]
  | .server => [.log (ascii "[TCP] Client connected")]

/-- The scan is about to log and waits for the other thread, which holds the
logger's mutex. -/
def untilBothHeld : List (Caller × Input) :=
  List.replicate 8 (.watchdog, { now := 5 }) ++ List.replicate 8 (.watchdog, { now := 20000 }) ++
    List.replicate 2 (.server, { now := 20000 })

theorem never_deadlocked_in_a_scan :
    ∃ c : Config (List Member) Caller,
      Runs.run (step (code inTurn)) (init {} fun t ↦ .calling (scanAndLine t)) untilBothHeld =
        some c ∧ c.holder .gateway = some .watchdog ∧ c.holder .logger = some .server ∧
      (step (code inTurn) c (.watchdog, { now := 20000 })).isSome = false ∧
      ComesFree (code inTurn) c ∧
        ((∀ mutex, c.holder mutex = none) → ∀ t x,
          (∃ l, c.position t = .done l ∧ code inTurn l = none) ∨
            (step (code inTurn) c (t, x)).isSome) := by
  have hseen : (Runs.run (step (code inTurn)) (init {} fun t ↦ .calling (scanAndLine t))
      untilBothHeld).map (fun c ↦ (c.holder .gateway, c.holder .logger,
        (step (code inTurn) c (.watchdog, { now := 20000 })).isSome)) =
      some (some .watchdog, some .server, false) := by decide +kernel
  obtain ⟨c, hrun, hc⟩ := Option.map_eq_some_iff.mp hseen
  have hgateway : c.holder .gateway = some .watchdog := congrArg Prod.fst hc
  have hlogger : c.holder .logger = some .server := congrArg (fun o ↦ o.2.1) hc
  have hwaits : (step (code inTurn) c (.watchdog, { now := 20000 })).isSome = false :=
    congrArg (fun o ↦ o.2.2) hc
  exact ⟨c, hrun, hgateway, hlogger, hwaits, never_deadlocked hrun⟩

end SmartSensorNetwork.NestedMutexes
