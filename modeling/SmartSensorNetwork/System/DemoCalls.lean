import SmartSensorNetwork.System.Demo

/-!
# The calls of `log` in the demo program

Every thread enters a call before it leaves it, and the logger knows exactly
the calls that are under way. A thread that holds a mutex logs or releases it,
and waits for nothing else.
-/

namespace SmartSensorNetwork.Demo

open CppStd ForkJoin

/-! ## Statements -/

/-- Whether a thread is in a call of `log`, and the mutex it holds. -/
structure Hold where
  inCall : Bool := false
  held : Option Mutex := none
  deriving DecidableEq

/-- What a statement does to what its thread holds. -/
inductive Part where
  | enters
  | leaves
  | takes (mutex : Mutex)
  | gives (mutex : Mutex)
  | within (mutex : Mutex)
  | other
  | misplaced
  deriving DecidableEq

def Part.apply (h : Hold) : Part → Option Hold
  | .enters => if h.inCall = false then some { h with inCall := true } else none
  | .leaves => if h.inCall = true then some { h with inCall := false } else none
  | .takes mutex => if h = {} then some { held := some mutex } else none
  | .gives mutex => if h = { held := some mutex } then some {} else none
  | .within mutex => if h = { held := some mutex } then some h else none
  | .other => if h = {} then some h else none
  | .misplaced => none

def Act.part : Act → Part
  | .enqueue _ => .enters
  | .notifyOne => .leaves
  | .lock mutex => .takes mutex
  | .unlock mutex => .gives mutex
  | .getRecentLogs => .other
  | .call _ => .other

/-- The copy of the registry is complete when its mutex is released. -/
def Question.part : Question → Part
  | .scan => .within .gateway
  | .rows => .gives .gateway
  | .size _ => .gives .gateway
  | .entry _ => .gives .gateway
  | _ => .other

def mainPart : Statement Thread Flag MainAct → Part
  | .act (.act a) => a.part
  | _ => .other

def startUpPart : StartUp Flag Act → Part
  | .act a => a.part
  | .store _ _ => .other

def passPart : Step → Part
  | .act a => a.part
  | .actIf _ (.call _) => .other
  | .actIf _ _ => .misplaced
  | .retest => .other
  | .ask q => q.part

/-- What a thread holds after some statements, if each of them fits. -/
def holdAfter (h : Hold) (parts : List Part) : Option Hold := parts.foldlM Part.apply h

def Paired (h : Hold) (parts : List Part) : Prop := holdAfter h parts = some {}

instance (h : Hold) (parts : List Part) : Decidable (Paired h parts) :=
  inferInstanceAs (Decidable (_ = _))

theorem holdAfter_append (h : Hold) (parts rest : List Part) :
    holdAfter h (parts ++ rest) = (holdAfter h parts).bind fun h' ↦ holdAfter h' rest :=
  List.foldlM_append

theorem paired_cons {h : Hold} {part : Part} {rest : List Part} :
    Paired h (part :: rest) ↔ ∃ h', part.apply h = some h' ∧ Paired h' rest := by
  simp [Paired, holdAfter, Option.bind_eq_some_iff]

@[simp] theorem paired_nil {h : Hold} : Paired h [] ↔ h = {} := by
  simp [Paired, holdAfter]

theorem paired_other {h : Hold} {rest : List Part} :
    Paired h (.other :: rest) ↔ h = {} ∧ Paired {} rest := by
  rw [paired_cons]
  constructor
  · rintro ⟨h', happly, hrest⟩
    obtain ⟨rfl, rfl⟩ := Runs.of_guard happly
    exact ⟨rfl, hrest⟩
  · rintro ⟨rfl, hrest⟩
    exact ⟨{}, rfl, hrest⟩

/-- The statements left to a worker, as far as they are fixed. -/
def PositionPaired (h : Hold) : Position Flag Act Question → Prop
  | .starting rest => Paired h (rest.map startUpPart)
  | .passing rest => Paired h (rest.map passPart)
  | _ => h = {}

/-- Lines are logged in any hold but a call. -/
theorem holdAfter_logs {h : Hold} (hcall : h.inCall = false) (msgs : List ByteString) :
    holdAfter h ((msgs.flatMap logInPass).map passPart) = some h := by
  induction msgs with
  | nil => rfl
  | cons msg msgs ih =>
      obtain ⟨inCall, held⟩ := h
      cases hcall
      exact ih

theorem holdAfter_accesses {α : Type} (mutex : Mutex) (items : List α) :
    holdAfter {} ((items.flatMap fun _ ↦ access mutex).map passPart) = some {} := by
  induction items with
  | nil => rfl
  | cons item items ih =>
      rw [List.flatMap_cons, List.map_append, holdAfter_append]
      cases mutex <;> exact ih

theorem paired_main : Paired {} (main.map mainPart) := by decide +kernel

theorem paired_startUp (sockets : Sockets) (thread : Thread) :
    Paired {} (((program sockets).worker thread).startUp.map startUpPart) := by
  obtain ⟨udp, tcp⟩ := sockets
  cases udp <;> cases tcp <;> cases thread <;> decide +kernel

theorem paired_pass (sockets : Sockets) (thread : Thread) :
    Paired {} (((program sockets).worker thread).pass.map passPart) := by
  cases thread <;> rfl

/-! ## Answers -/

theorem holdAfter_receivePacket {datagram : Option ByteString} {steps : List Step}
    (h : receivePacket datagram = some steps) : holdAfter {} (steps.map passPart) = some {} := by
  cases datagram with
  | none =>
      cases h
      rfl
  | some datagram =>
      simp only [receivePacket] at h
      split_ifs at h
      all_goals
        cases h
        rfl

theorem holdAfter_connect (accepted : Accepted) :
    holdAfter {} ((connect accepted).map passPart) = some {} := by
  cases accepted with
  | failed wouldBlock => rfl
  | client => rfl

theorem holdAfter_handleRequest (request : ByteString) :
    holdAfter {} ((handleRequest request).map passPart) = some {} := by
  rw [handleRequest]
  cases TcpServer.Threads.command request <;> rfl

theorem holdAfter_read (request : ByteString) :
    holdAfter {} ((read request).map passPart) = some {} := by
  rw [read]
  split_ifs
  · rfl
  · exact holdAfter_handleRequest request

theorem holdAfter_sensorList (registered : List UInt32) :
    holdAfter { held := some .gateway } ((sensorList registered).map passPart) = some {} := by
  rw [sensorList, List.map_append, List.map_append, holdAfter_append, holdAfter_append]
  have hrows := holdAfter_accesses .gateway registered
  simp only [show holdAfter { held := some .gateway }
    ([.act (.unlock .gateway)].map passPart) = some {} from rfl, Option.bind_some, hrows]
  rfl

theorem holdAfter_compareSize (registered : List UInt32) (id : UInt32) :
    holdAfter { held := some .gateway } ((compareSize registered id).map passPart) = some {} := by
  rw [compareSize]
  split_ifs <;> rfl

theorem holdAfter_sensorDetails (registered : List UInt32) (id : UInt32) :
    holdAfter { held := some .gateway } ((sensorDetails registered id).map passPart) =
      some {} := by
  rw [sensorDetails]
  split_ifs <;> rfl

theorem holdAfter_afterWrite (written : Written) :
    holdAfter {} ((afterWrite written).map passPart) = some {} := by
  cases written with
  | failed => rfl
  | sent all => cases all <;> rfl

/-- An answer leaves its thread with what the question promises. -/
theorem holdAfter_answer {x : Input} {q : Question} {steps : List Step} {h h' : Hold}
    (hsteps : answer x q = some steps) (hq : q.part.apply h = some h') :
    holdAfter h (steps.map passPart) = some h' := by
  cases q with
  | recvfrom =>
      obtain ⟨rfl, rfl⟩ := Runs.of_guard hq
      exact holdAfter_receivePacket hsteps
  | scan =>
      obtain ⟨rfl, rfl⟩ := Runs.of_guard hq
      cases hsteps
      have hlines := holdAfter_logs (h := { held := some .gateway }) rfl
        (x.offline.map Gateway.offlineMessage)
      rwa [List.flatMap_map] at hlines
  | accept =>
      obtain ⟨rfl, rfl⟩ := Runs.of_guard hq
      cases hsteps
      exact holdAfter_connect x.accepted
  | read =>
      obtain ⟨rfl, rfl⟩ := Runs.of_guard hq
      obtain ⟨request, -, rfl⟩ := Option.map_eq_some_iff.mp hsteps
      exact holdAfter_read request
  | rows =>
      obtain ⟨rfl, rfl⟩ := Runs.of_guard hq
      cases hsteps
      exact holdAfter_sensorList x.registered
  | size id =>
      obtain ⟨rfl, rfl⟩ := Runs.of_guard hq
      cases hsteps
      exact holdAfter_compareSize x.registered id
  | entry id =>
      obtain ⟨rfl, rfl⟩ := Runs.of_guard hq
      cases hsteps
      exact holdAfter_sensorDetails x.registered id
  | write =>
      obtain ⟨rfl, rfl⟩ := Runs.of_guard hq
      obtain ⟨written, -, rfl⟩ := Option.map_eq_some_iff.mp hsteps
      exact holdAfter_afterWrite written

/-! ## Calls under way -/

/-- A call is numbered when it has queued its message, and pending until it
has notified. -/
structure Calls (s : Shared) : Prop where
  mem_pending_iff : ∀ c, c ∈ s.logger.pending ↔ ∃ thread, s.calling thread = some c
  calling_inj : ∀ t u c, s.calling t = some c → s.calling u = some c → t = u
  calling_lt : ∀ t c, s.calling t = some c → c < s.logger.logged.length

theorem Calls.of_logger {s : Shared} (hs : Calls s) {logger : Logger.State}
    (hpending : logger.pending = s.logger.pending) (hlogged : logger.logged = s.logger.logged) :
    Calls { s with logger := logger } where
  mem_pending_iff c := by
    rw [hpending]
    exact hs.mem_pending_iff c
  calling_inj := hs.calling_inj
  calling_lt t c ht := by
    rw [hlogged]
    exact hs.calling_lt t c ht

/-- What a thread is in and what it holds. -/
structure Holds (s : Shared) (thread : Option Thread) (h : Hold) : Prop where
  inCall : (s.calling thread).isSome = h.inCall
  held : ∀ mutex, s.holder mutex = some thread ↔ h.held = some mutex

theorem Holds.of_logger {s : Shared} {thread : Option Thread} {h : Hold} (hs : Holds s thread h)
    (logger : Logger.State) : Holds { s with logger := logger } thread h :=
  ⟨hs.inCall, hs.held⟩

section Acts

variable {x : Input} {thread : Option Thread} {s s' : Shared} {h h' : Hold}

theorem perform_enqueue {msg : ByteString}
    (hact : perform x thread s (.enqueue msg) = some s') :
    Logger.step s.logger (.enqueue x.time msg) = some s'.logger ∧
      s'.calling = Function.update s.calling thread (some s.logger.logged.length) ∧
      s'.holder = s.holder := by
  obtain ⟨logger, hlogger, rfl⟩ := Option.map_eq_some_iff.mp hact
  exact ⟨hlogger, rfl, rfl⟩

theorem perform_notifyOne (hact : perform x thread s .notifyOne = some s') :
    ∃ c, s.calling thread = some c ∧ Logger.step s.logger (.notifyOne c) = some s'.logger ∧
      s'.calling = Function.update s.calling thread none ∧ s'.holder = s.holder := by
  obtain ⟨c, hc, hstep⟩ := Option.bind_eq_some_iff.mp hact
  obtain ⟨logger, hlogger, rfl⟩ := Option.map_eq_some_iff.mp hstep
  exact ⟨c, hc, hlogger, rfl, rfl⟩

theorem Holds.calling_eq_none (hs : Holds s thread h) (hcall : h.inCall = false) :
    s.calling thread = none := by
  have hinCall := hs.inCall
  rwa [hcall, Option.isSome_eq_false_iff, Option.isNone_iff_eq_none] at hinCall

theorem calls_perform {a : Act} (hs : Calls s) (hthread : Holds s thread h)
    (hpart : a.part.apply h = some h') (hact : perform x thread s a = some s') : Calls s' := by
  cases a with
  | call c =>
      cases hact
      exact hs
  | getRecentLogs =>
      obtain ⟨-, rfl⟩ := Runs.of_guard hact
      exact hs
  | lock mutex | unlock mutex =>
      obtain ⟨-, rfl⟩ := Runs.of_guard hact
      exact ⟨hs.mem_pending_iff, hs.calling_inj, hs.calling_lt⟩
  | enqueue msg =>
      obtain ⟨hstep, hcalling, -⟩ := perform_enqueue hact
      have hnone := hthread.calling_eq_none (Runs.of_guard hpart).1
      obtain ⟨-, hlogger⟩ := Runs.of_guard hstep
      have hpending : s'.logger.pending = insert s.logger.logged.length s.logger.pending := by
        rw [← hlogger]
      have hlogged : s'.logger.logged.length = s.logger.logged.length + 1 := by
        simp [← hlogger]
      refine ⟨fun c ↦ ?_, fun t u c ht hu ↦ ?_, fun t c ht ↦ ?_⟩
      · rw [hpending, Finset.mem_insert, hs.mem_pending_iff, hcalling]
        constructor
        · rintro (rfl | ⟨t, ht⟩)
          · exact ⟨thread, by simp⟩
          · have hne : t ≠ thread := by
              rintro rfl
              rw [hnone] at ht
              cases ht
            exact ⟨t, by simpa [hne] using ht⟩
        · rintro ⟨t, ht⟩
          rw [Function.update_apply] at ht
          split_ifs at ht
          · exact .inl (Option.some.inj ht).symm
          · exact .inr ⟨t, ht⟩
      · rw [hcalling, Function.update_apply] at ht hu
        split_ifs at ht hu with htt huu huu
        · rw [htt, huu]
        · exact absurd (hs.calling_lt u c hu) (by simp [← Option.some.inj ht])
        · exact absurd (hs.calling_lt t c ht) (by simp [← Option.some.inj hu])
        · exact hs.calling_inj t u c ht hu
      · rw [hcalling, Function.update_apply] at ht
        rw [hlogged]
        split_ifs at ht
        · exact (Option.some.inj ht) ▸ Nat.lt_succ_self _
        · exact (hs.calling_lt t c ht).trans (Nat.lt_succ_self _)
  | notifyOne =>
      obtain ⟨c, hc, hstep, hcalling, -⟩ := perform_notifyOne hact
      obtain ⟨-, hlogger⟩ := Runs.of_guard hstep
      have hpending : s'.logger.pending = s.logger.pending.erase c := by rw [← hlogger]
      have hlogged : s'.logger.logged = s.logger.logged := by rw [← hlogger]
      -- nobody else is in the call that ends
      have hkept : ∀ t d, s'.calling t = some d ↔ d ≠ c ∧ s.calling t = some d := by
        intro t d
        rw [hcalling, Function.update_apply]
        split_ifs with htt
        · subst htt
          rw [hc, Option.some.injEq]
          exact ⟨nofun, fun hd ↦ absurd hd.2.symm hd.1⟩
        · refine (and_iff_right_of_imp fun ht hd ↦ htt ?_).symm
          exact hs.calling_inj t thread d ht (hd ▸ hc)
      refine ⟨fun d ↦ ?_, fun t u d ht hu ↦ ?_, fun t d ht ↦ ?_⟩
      · rw [hpending, Finset.mem_erase, hs.mem_pending_iff]
        simp only [hkept, exists_and_left]
      · exact hs.calling_inj t u d ((hkept t d).mp ht).2 ((hkept u d).mp hu).2
      · exact hlogged ▸ hs.calling_lt t d ((hkept t d).mp ht).2

theorem holds_perform {a : Act} (hs : Holds s thread h) (hpart : a.part.apply h = some h')
    (hact : perform x thread s a = some s') : Holds s' thread h' := by
  cases a with
  | call c =>
      obtain ⟨-, rfl⟩ := Runs.of_guard hpart
      cases hact
      exact hs
  | getRecentLogs =>
      obtain ⟨-, rfl⟩ := Runs.of_guard hpart
      obtain ⟨-, rfl⟩ := Runs.of_guard hact
      exact hs
  | enqueue msg =>
      obtain ⟨-, rfl⟩ := Runs.of_guard hpart
      obtain ⟨-, hcalling, hholder⟩ := perform_enqueue hact
      exact ⟨by simp [hcalling], hholder ▸ hs.held⟩
  | notifyOne =>
      obtain ⟨-, rfl⟩ := Runs.of_guard hpart
      obtain ⟨c, -, -, hcalling, hholder⟩ := perform_notifyOne hact
      exact ⟨by simp [hcalling], hholder ▸ hs.held⟩
  | lock mutex =>
      obtain ⟨rfl, rfl⟩ := Runs.of_guard hpart
      obtain ⟨-, rfl⟩ := Runs.of_guard hact
      refine ⟨hs.inCall, fun mutex' ↦ ?_⟩
      have hnot : s.holder mutex' ≠ some thread := fun hheld ↦ by
        simpa using (hs.held mutex').mp hheld
      by_cases hm : mutex' = mutex
      · subst hm
        simp
      · simp [hm, hnot, Ne.symm hm]
  | unlock mutex =>
      obtain ⟨rfl, rfl⟩ := Runs.of_guard hpart
      obtain ⟨-, rfl⟩ := Runs.of_guard hact
      refine ⟨hs.inCall, fun mutex' ↦ ?_⟩
      by_cases hm : mutex' = mutex
      · subst hm
        simp
      · have hnot : s.holder mutex' ≠ some thread := fun hheld ↦
          hm (Option.some.inj ((hs.held mutex').mp hheld)).symm
        simp [hm, hnot]

/-- An act of one thread leaves the others alone. -/
theorem holds_perform_of_ne {a : Act} {t : Option Thread} {g : Hold} (ht : Holds s t g)
    (hne : t ≠ thread) (hact : perform x thread s a = some s') : Holds s' t g := by
  cases a with
  | call c =>
      cases hact
      exact ht
  | getRecentLogs =>
      obtain ⟨-, rfl⟩ := Runs.of_guard hact
      exact ht
  | enqueue msg =>
      obtain ⟨-, hcalling, hholder⟩ := perform_enqueue hact
      exact ⟨by simpa [hcalling, hne] using ht.inCall, hholder ▸ ht.held⟩
  | notifyOne =>
      obtain ⟨c, -, -, hcalling, hholder⟩ := perform_notifyOne hact
      exact ⟨by simpa [hcalling, hne] using ht.inCall, hholder ▸ ht.held⟩
  | lock mutex | unlock mutex =>
      obtain ⟨hbefore, rfl⟩ := Runs.of_guard hact
      refine ⟨ht.inCall, fun mutex' ↦ ?_⟩
      have hheld := ht.held mutex'
      by_cases hm : mutex' = mutex
      · subst hm
        simpa [hbefore, hne.symm] using hheld
      · simpa [hm] using hheld

end Acts

end SmartSensorNetwork.Demo
