import SmartSensorNetwork.Lib.Runs

/-!
# Fork and join with stop flags

A main thread runs through a script: it spawns workers, waits for flags,
clears the flags that stop the workers, and joins them. A worker starts up and
then repeats the passes of its loop as long as its flag is set. In a pass it
asks questions of its environment, and the answers may give it more to do.
What the acts of the threads do to the state they share is a parameter.
-/

namespace ForkJoin

universe u

variable {ι φ α γ ρ β σ ε : Type u}

/-- A statement of the main thread. `await` stands for polling a flag. -/
inductive Statement (ι φ α : Type u) where
  | act (a : α)
  | store (f : φ) (value : Bool)
  | await (f : φ)
  | spawn (i : ι)
  | join (i : ι)
  deriving DecidableEq

inductive StartUp (φ γ : Type u) where
  | act (a : γ)
  | store (f : φ) (value : Bool)
  deriving DecidableEq

/-- A statement of a pass. `retest` leaves the loop if its flag is false. -/
inductive PassStep (φ γ ρ : Type u) where
  | act (a : γ)
  | actIf (f : φ) (a : γ)
  | retest
  | ask (q : ρ)
  deriving DecidableEq

/-- A worker without a loop is finished after its start-up. -/
structure Worker (φ γ ρ : Type u) where
  startUp : List (StartUp φ γ)
  loop : Option φ
  pass : List (PassStep φ γ ρ)

/-- An act that is not enabled and a question without an answer make their
thread wait. The statements of an answer come before those left of the pass. -/
structure Program (ι φ α γ ρ β σ ε : Type u) where
  main : List (Statement ι φ α)
  worker : ι → Worker φ γ ρ
  actMain : β → α → σ → Option σ
  actWorker : β → ι → γ → σ → Option σ
  answer : β → ρ → Option (List (PassStep φ γ ρ))
  internal : ε → σ → Option σ

inductive Position (φ γ ρ : Type u) where
  | unborn
  | starting (rest : List (StartUp φ γ))
  | testing
  | passing (rest : List (PassStep φ γ ρ))
  | finished

namespace Position

instance (p : Position φ γ ρ) : Decidable (p = .unborn) :=
  match p with
  | .unborn => isTrue rfl
  | .starting _ => isFalse nofun
  | .testing => isFalse nofun
  | .passing _ => isFalse nofun
  | .finished => isFalse nofun

instance (p : Position φ γ ρ) : Decidable (p = .finished) :=
  match p with
  | .unborn => isFalse nofun
  | .starting _ => isFalse nofun
  | .testing => isFalse nofun
  | .passing _ => isFalse nofun
  | .finished => isTrue rfl

/-- The start-up statements still to be executed, once the worker is there. -/
def ahead : Position φ γ ρ → List (StartUp φ γ)
  | .starting rest => rest
  | _ => []

/-- The act that a worker is about to execute. -/
def act : Position φ γ ρ → Option γ
  | .starting (.act a :: _) => some a
  | .passing (.act a :: _) => some a
  | _ => none

/-- The question that a worker is about to ask. -/
def question : Position φ γ ρ → Option ρ
  | .passing (.ask q :: _) => some q
  | _ => none

theorem question_eq_some_iff {p : Position φ γ ρ} {q : ρ} :
    p.question = some q ↔ ∃ rest, p = .passing (.ask q :: rest) := by
  constructor
  · intro h
    cases p with
    | passing rest =>
        cases rest with
        | nil => cases h
        | cons st rest =>
            cases st with
            | ask q' =>
                cases h
                exact ⟨rest, rfl⟩
            | act a | actIf f a | retest => cases h
    | unborn | starting rest | testing | finished => cases h
  · rintro ⟨rest, rfl⟩
    rfl

end Position

/-- `main` is what is left of the script, and `passed` records the rest. -/
structure State (ι φ α γ ρ σ : Type u) where
  shared : σ
  flags : φ → Bool
  passed : List (Statement ι φ α) := []
  main : List (Statement ι φ α)
  worker : ι → Position φ γ ρ

inductive Event (ι β ε : Type u) where
  | main (x : β)
  | worker (i : ι) (x : β)
  | internal (e : ε)

namespace Program

variable [DecidableEq ι] [DecidableEq φ] (P : Program ι φ α γ ρ β σ ε)

/-- What a statement does, apart from moving on. -/
def effect (x : β) (s : State ι φ α γ ρ σ) : Statement ι φ α → Option (State ι φ α γ ρ σ)
  | .act a => (P.actMain x a s.shared).map fun shared ↦ { s with shared := shared }
  | .store f value => some { s with flags := Function.update s.flags f value }
  | .await f => if s.flags f = true then some s else none
  | .spawn i =>
      if s.worker i = .unborn then
        some { s with worker := Function.update s.worker i (.starting (P.worker i).startUp) }
      else none
  | .join i => if s.worker i = .finished then some s else none

def stepMain (x : β) (s : State ι φ α γ ρ σ) : Option (State ι φ α γ ρ σ) :=
  match s.main with
  | [] => none
  | st :: rest =>
      (P.effect x s st).map fun s' ↦ { s' with main := rest, passed := s.passed ++ [st] }

/-- Where a test of the flag leads: to the statements given, or out of the loop. -/
def tested (flags : φ → Bool) (worker : Worker φ γ ρ) (rest : List (PassStep φ γ ρ)) :
    Position φ γ ρ :=
  if ∃ f ∈ worker.loop, flags f = true then .passing rest else .finished

/-- The next position of the worker, with the shared state and the flags. -/
def advance (i : ι) (x : β) (shared : σ) (flags : φ → Bool) :
    Position φ γ ρ → Option (σ × (φ → Bool) × Position φ γ ρ)
  | .unborn => none
  | .starting [] => some (shared, flags, .testing)
  | .starting (.act a :: rest) =>
      (P.actWorker x i a shared).map fun shared' ↦ (shared', flags, .starting rest)
  | .starting (.store f value :: rest) =>
      some (shared, Function.update flags f value, .starting rest)
  | .testing => some (shared, flags, tested flags (P.worker i) (P.worker i).pass)
  | .passing [] => some (shared, flags, .testing)
  | .passing (.act a :: rest) =>
      (P.actWorker x i a shared).map fun shared' ↦ (shared', flags, .passing rest)
  | .passing (.actIf f a :: rest) =>
      some (shared, flags, .passing (if flags f = true then .act a :: rest else rest))
  | .passing (.retest :: rest) => some (shared, flags, tested flags (P.worker i) rest)
  | .passing (.ask q :: rest) =>
      (P.answer x q).map fun steps ↦ (shared, flags, .passing (steps ++ rest))
  | .finished => none

def stepWorker (i : ι) (x : β) (s : State ι φ α γ ρ σ) : Option (State ι φ α γ ρ σ) :=
  (P.advance i x s.shared s.flags (s.worker i)).map fun (shared, flags, position) ↦
    { s with shared := shared, flags := flags, worker := Function.update s.worker i position }

def step (s : State ι φ α γ ρ σ) : Event ι β ε → Option (State ι φ α γ ρ σ)
  | .main x => P.stepMain x s
  | .worker i x => P.stepWorker i x s
  | .internal e => (P.internal e s.shared).map fun shared ↦ { s with shared := shared }

def start (shared : σ) (flags : φ → Bool) : State ι φ α γ ρ σ where
  shared := shared
  flags := flags
  main := P.main
  worker _ := .unborn

/-! ## What a step does -/

section Steps

variable {P} {s s' : State ι φ α γ ρ σ}

theorem stepMain_cases {x : β} (h : P.stepMain x s = some s') :
    ∃ st rest t, s.main = st :: rest ∧ P.effect x s st = some t ∧
      s' = { t with main := rest, passed := s.passed ++ [st] } := by
  rw [stepMain] at h
  cases hmain : s.main with
  | nil =>
      rw [hmain] at h
      cases h
  | cons st rest =>
      rw [hmain] at h
      obtain ⟨t, ht, rfl⟩ := Option.map_eq_some_iff.mp h
      exact ⟨st, rest, t, rfl, ht, rfl⟩

theorem stepWorker_cases {i : ι} {x : β} (h : P.stepWorker i x s = some s') :
    ∃ shared flags position,
      P.advance i x s.shared s.flags (s.worker i) = some (shared, flags, position) ∧
      s' = { s with
        shared := shared
        flags := flags
        worker := Function.update s.worker i position } := by
  obtain ⟨⟨shared, flags, position⟩, hadvance, rfl⟩ := Option.map_eq_some_iff.mp h
  exact ⟨shared, flags, position, hadvance, rfl⟩

theorem internal_cases {e : ε} (h : P.step s (.internal e) = some s') :
    ∃ shared, P.internal e s.shared = some shared ∧ s' = { s with shared := shared } := by
  obtain ⟨shared, hshared, rfl⟩ := Option.map_eq_some_iff.mp h
  exact ⟨shared, hshared, rfl⟩

theorem flags_effect {x : β} {st : Statement ι φ α} (h : P.effect x s st = some s') (f : φ) :
    s'.flags f = s.flags f ∨ st = .store f (s'.flags f) := by
  cases st with
  | act a =>
      obtain ⟨shared, -, rfl⟩ := Option.map_eq_some_iff.mp h
      exact .inl rfl
  | store g value =>
      cases h
      by_cases hfg : f = g
      · subst hfg
        right
        simp
      · left
        simp [hfg]
  | await g | join i | spawn i =>
      obtain ⟨-, rfl⟩ := Runs.of_guard h
      exact .inl rfl

theorem worker_effect {x : β} {st : Statement ι φ α} (h : P.effect x s st = some s') (i : ι) :
    (st ≠ .spawn i ∧ s'.worker i = s.worker i) ∨
      st = .spawn i ∧ s.worker i = .unborn ∧ s'.worker i = .starting (P.worker i).startUp := by
  cases st with
  | act a =>
      obtain ⟨shared, -, rfl⟩ := Option.map_eq_some_iff.mp h
      exact .inl ⟨nofun, rfl⟩
  | store g value =>
      cases h
      exact .inl ⟨nofun, rfl⟩
  | await g | join j =>
      obtain ⟨-, rfl⟩ := Runs.of_guard h
      exact .inl ⟨nofun, rfl⟩
  | spawn j =>
      obtain ⟨hunborn, rfl⟩ := Runs.of_guard h
      by_cases hij : i = j
      · subst hij
        exact .inr ⟨rfl, hunborn, by simp⟩
      · exact .inl ⟨by simpa using Ne.symm hij, by simp [hij]⟩

/-- The flags after a statement of a start-up. -/
def startUpFlags (flags : φ → Bool) : StartUp φ γ → φ → Bool
  | .act _ => flags
  | .store f value => Function.update flags f value

omit [DecidableEq ι] in
theorem startUpFlags_cases (flags : φ → Bool) (st : StartUp φ γ) (f : φ) :
    startUpFlags flags st f = flags f ∨ st = .store f (startUpFlags flags st f) := by
  cases st with
  | act a => exact .inl rfl
  | store g value =>
      by_cases hfg : f = g
      · subst hfg
        right
        simp [startUpFlags]
      · left
        simp [startUpFlags, hfg]

omit [DecidableEq ι] in
/-- A worker moves on in its start-up, or leaves the flags alone. -/
theorem advance_cases {i : ι} {x : β} {shared shared' : σ} {flags flags' : φ → Bool}
    {p p' : Position φ γ ρ}
    (h : P.advance i x shared flags p = some (shared', flags', p')) :
    p ≠ .unborn ∧ p ≠ .finished ∧ p' ≠ .unborn ∧
      (flags' = flags ∧ p.ahead = p'.ahead ∨
        ∃ st, p.ahead = st :: p'.ahead ∧ flags' = startUpFlags flags st) := by
  cases p with
  | unborn => cases h
  | finished => cases h
  | starting rest =>
      refine ⟨nofun, nofun, ?_⟩
      cases rest with
      | nil =>
          cases h
          exact ⟨nofun, .inl ⟨rfl, rfl⟩⟩
      | cons st rest =>
          cases st with
          | act a =>
              obtain ⟨_, -, ht⟩ := Option.map_eq_some_iff.mp h
              cases ht
              exact ⟨nofun, .inr ⟨.act a, rfl, rfl⟩⟩
          | store f value =>
              cases h
              exact ⟨nofun, .inr ⟨.store f value, rfl, rfl⟩⟩
  | testing =>
      refine ⟨nofun, nofun, ?_⟩
      cases h
      rw [tested]
      split_ifs <;> exact ⟨nofun, .inl ⟨rfl, rfl⟩⟩
  | passing rest =>
      refine ⟨nofun, nofun, ?_⟩
      cases rest with
      | nil =>
          cases h
          exact ⟨nofun, .inl ⟨rfl, rfl⟩⟩
      | cons st rest =>
          cases st with
          | act a =>
              obtain ⟨_, -, ht⟩ := Option.map_eq_some_iff.mp h
              cases ht
              exact ⟨nofun, .inl ⟨rfl, rfl⟩⟩
          | actIf f a =>
              cases h
              exact ⟨nofun, .inl ⟨rfl, rfl⟩⟩
          | retest =>
              cases h
              rw [tested]
              split_ifs <;> exact ⟨nofun, .inl ⟨rfl, rfl⟩⟩
          | ask q =>
              obtain ⟨_, -, ht⟩ := Option.map_eq_some_iff.mp h
              cases ht
              exact ⟨nofun, .inl ⟨rfl, rfl⟩⟩

end Steps

/-! ## What holds in every state -/

/-- The start-up statements of a worker that lie ahead. -/
def ahead (s : State ι φ α γ ρ σ) (i : ι) : List (StartUp φ γ) :=
  if s.worker i = .unborn then (P.worker i).startUp else (s.worker i).ahead

structure Reached (s : State ι φ α γ ρ σ) : Prop where
  script : s.passed ++ s.main = P.main
  unborn_iff : ∀ i, s.worker i = .unborn ↔ .spawn i ∉ s.passed
  joined : ∀ i, .join i ∈ s.passed → s.worker i = .finished
  ahead_suffix : ∀ i, P.ahead s i <:+ (P.worker i).startUp

section Reached

variable {P} {s s' : State ι φ α γ ρ σ}

omit [DecidableEq ι] [DecidableEq φ] in
theorem reached_start (shared : σ) (flags : φ → Bool) : P.Reached (P.start shared flags) where
  script := rfl
  unborn_iff i := by simp [start]
  joined i h := by cases h
  ahead_suffix i := by simp [ahead, start]

theorem Reached.main (hs : P.Reached s) {x : β} (h : P.stepMain x s = some s') :
    P.Reached s' := by
  obtain ⟨st, rest, t, hmain, heffect, rfl⟩ := stepMain_cases h
  have hworker := worker_effect heffect
  refine ⟨?_, fun i ↦ ?_, fun i hjoin ↦ ?_, fun i ↦ ?_⟩
  · rw [← hs.script, hmain]
    simp
  · rcases hworker i with ⟨hne, hsame⟩ | ⟨rfl, -, hborn⟩
    · have hspawn : .spawn i ∉ s.passed ++ [st] ↔ .spawn i ∉ s.passed := by
        simp [hne.symm]
      exact hsame ▸ (hs.unborn_iff i).trans hspawn.symm
    · simp [hborn]
  · have hfinished : s.worker i = .finished := by
      rcases List.mem_append.mp hjoin with hjoin | hjoin
      · exact hs.joined i hjoin
      · obtain rfl := List.mem_singleton.mp hjoin
        exact (Runs.of_guard heffect).1
    rcases hworker i with ⟨-, hsame⟩ | ⟨-, hunborn, -⟩
    · exact hsame.trans hfinished
    · rw [hfinished] at hunborn
      cases hunborn
  · rcases hworker i with ⟨-, hsame⟩ | ⟨-, -, hborn⟩
    · simpa only [ahead, hsame] using hs.ahead_suffix i
    · simp [ahead, hborn, Position.ahead]

theorem Reached.worker (hs : P.Reached s) {i : ι} {x : β} (h : P.stepWorker i x s = some s') :
    P.Reached s' := by
  obtain ⟨shared, flags, position, hadvance, rfl⟩ := stepWorker_cases h
  obtain ⟨hborn, hrunning, hborn', hahead⟩ := advance_cases hadvance
  refine ⟨hs.script, fun j ↦ ?_, fun j hjoin ↦ ?_, fun j ↦ ?_⟩
  · by_cases hij : j = i
    · subst hij
      simpa [hborn'] using mt (hs.unborn_iff j).mpr hborn
    · simpa [hij] using hs.unborn_iff j
  · have hne : j ≠ i := by
      rintro rfl
      exact hrunning (hs.joined j hjoin)
    simpa [hne] using hs.joined j hjoin
  · by_cases hij : j = i
    · subst hij
      have hsuffix := hs.ahead_suffix j
      rw [ahead, if_neg hborn] at hsuffix
      simp only [ahead, Function.update_self, if_neg hborn']
      rcases hahead with ⟨-, heq⟩ | ⟨st, heq, -⟩
      · exact heq ▸ hsuffix
      · rw [heq] at hsuffix
        exact (List.suffix_cons _ _).trans hsuffix
    · simpa [ahead, hij] using hs.ahead_suffix j

theorem reached_step {e : Event ι β ε} (hs : P.Reached s) (h : P.step s e = some s') :
    P.Reached s' := by
  cases e with
  | main x => exact hs.main h
  | worker i x => exact hs.worker h
  | internal e =>
      obtain ⟨shared, -, rfl⟩ := internal_cases h
      exact ⟨hs.script, hs.unborn_iff, hs.joined, hs.ahead_suffix⟩

theorem reached_of_run {shared : σ} {flags : φ → Bool} {events : List (Event ι β ε)}
    (hrun : Runs.run P.step (P.start shared flags) events = some s) : P.Reached s :=
  Runs.invariant_run (fun _ _ _ hs h ↦ reached_step hs h) (reached_start shared flags) hrun

end Reached

end Program

end ForkJoin
