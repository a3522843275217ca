import SmartSensorNetwork.Lib.ForkJoin

/-!
# Stopping the workers of a main thread

A stop clears the flag of a worker's loop. It is kept if it does not come
before the worker's own start-up sets the flag. Once every stop is kept, what
is left to do is bounded but for the answers still given, and a disciplined
program waits for nothing but its acts and questions.
-/

namespace ForkJoin

universe u

variable {ι φ α γ ρ β σ ε : Type u}

/-- An upper bound for the steps that a statement of a pass takes. -/
def PassStep.steps : PassStep φ γ ρ → ℕ
  | .actIf _ _ => 2
  | _ => 1

/-- A step of main or of a worker. -/
def Event.IsOwn : Event ι β ε → Bool
  | .internal _ => false
  | _ => true

namespace Program

variable [DecidableEq ι] [DecidableEq φ] (P : Program ι φ α γ ρ β σ ε)

/-! ## Stops -/

/-- Some thread has still to set the flag. -/
def SetAhead (s : State ι φ α γ ρ σ) (f : φ) : Prop :=
  .store f true ∈ s.main ∨ ∃ i, .store f true ∈ P.ahead s i

/-- Main clears a flag only when nobody is left to set it. -/
def StopsInTime (s : State ι φ α γ ρ σ) (e : Event ι β ε) : Prop :=
  ∀ x f rest, e = .main x → s.main = .store f false :: rest → ¬ P.SetAhead s f

/-- The flag is false for good. -/
structure Cleared (s : State ι φ α γ ρ σ) (f : φ) : Prop where
  flag : s.flags f = false
  ahead : ¬ P.SetAhead s f

section Stops

variable {P} {s s' : State ι φ α γ ρ σ}

omit [DecidableEq ι] [DecidableEq φ] in
theorem ahead_eq {i : ι} (hborn : s.worker i ≠ .unborn) : P.ahead s i = (s.worker i).ahead :=
  if_neg hborn

theorem ahead_main {x : β} (h : P.stepMain x s = some s') (i : ι) :
    P.ahead s' i = P.ahead s i := by
  obtain ⟨st, rest, t, -, heffect, rfl⟩ := stepMain_cases h
  rcases worker_effect heffect i with ⟨-, hsame⟩ | ⟨-, hunborn, hborn⟩
  · simp only [ahead, hsame]
  · simp [ahead, hunborn, hborn, Position.ahead]

/-- A worker moves on in its start-up, and sets what it leaves behind. -/
theorem ahead_worker {i : ι} {x : β} (h : P.stepWorker i x s = some s') :
    s'.main = s.main ∧ (∀ j, P.ahead s' j <:+ P.ahead s j) ∧
      ∀ f, s'.flags f = s.flags f ∨ .store f (s'.flags f) ∈ P.ahead s i := by
  obtain ⟨shared, flags, position, hadvance, rfl⟩ := stepWorker_cases h
  obtain ⟨hborn, -, hborn', hahead⟩ := advance_cases hadvance
  refine ⟨rfl, fun j ↦ ?_, fun f ↦ ?_⟩
  · by_cases hij : j = i
    · subst hij
      simp only [ahead, Function.update_self, if_neg hborn, if_neg hborn']
      rcases hahead with ⟨-, heq⟩ | ⟨st, heq, -⟩
      · exact heq ▸ List.suffix_refl _
      · exact heq ▸ List.suffix_cons _ _
    · simp [ahead, hij]
  · rcases hahead with ⟨rfl, -⟩ | ⟨st, heq, rfl⟩
    · exact .inl rfl
    · rcases startUpFlags_cases s.flags st f with hsame | hstore
      · exact .inl hsame
      · right
        rw [ahead_eq hborn, heq]
        exact List.mem_cons.mpr (.inl hstore.symm)

theorem setAhead_of_step {e : Event ι β ε} (h : P.step s e = some s') {f : φ}
    (hf : P.SetAhead s' f) : P.SetAhead s f := by
  cases e with
  | main x =>
      have hahead := ahead_main h
      obtain ⟨st, rest, t, hmain, -, rfl⟩ := stepMain_cases h
      rcases hf with hf | ⟨i, hf⟩
      · exact .inl (hmain ▸ List.mem_cons_of_mem _ hf)
      · exact .inr ⟨i, hahead i ▸ hf⟩
  | worker i x =>
      obtain ⟨hmain, hahead, -⟩ := ahead_worker h
      rcases hf with hf | ⟨j, hf⟩
      · exact .inl (hmain ▸ hf)
      · exact .inr ⟨j, (hahead j).subset hf⟩
  | internal e =>
      obtain ⟨shared, -, rfl⟩ := internal_cases h
      exact hf

theorem flags_step {e : Event ι β ε} (h : P.step s e = some s') {f : φ}
    (hf : s'.flags f = true) : s.flags f = true ∨ P.SetAhead s f := by
  cases e with
  | main x =>
      obtain ⟨st, rest, t, hmain, heffect, rfl⟩ := stepMain_cases h
      rcases flags_effect heffect f with hsame | rfl
      · exact .inl (hsame.symm.trans hf)
      · right
        left
        rw [hmain]
        exact hf ▸ List.mem_cons_self
  | worker i x =>
      obtain ⟨-, -, hflags⟩ := ahead_worker h
      rcases hflags f with hsame | hstore
      · exact .inl (hsame.symm.trans hf)
      · exact .inr (.inr ⟨i, hf ▸ hstore⟩)
  | internal e =>
      obtain ⟨shared, -, rfl⟩ := internal_cases h
      exact .inl hf

theorem Cleared.step {e : Event ι β ε} {f : φ} (hs : P.Cleared s f) (h : P.step s e = some s') :
    P.Cleared s' f where
  flag := by
    rw [Bool.eq_false_iff]
    intro hf
    rcases flags_step h hf with hflag | hahead
    · rw [hs.flag] at hflag
      cases hflag
    · exact hs.ahead hahead
  ahead hf := hs.ahead (setAhead_of_step h hf)

theorem passed_step {e : Event ι β ε} (h : P.step s e = some s') :
    s'.passed = s.passed ∨ ∃ x st rest, e = .main x ∧ s.main = st :: rest ∧ s'.main = rest ∧
      s'.passed = s.passed ++ [st] := by
  cases e with
  | main x =>
      obtain ⟨st, rest, t, hmain, -, rfl⟩ := stepMain_cases h
      exact .inr ⟨x, st, rest, rfl, hmain, rfl, rfl⟩
  | worker i x =>
      obtain ⟨shared, flags, position, -, rfl⟩ := stepWorker_cases h
      exact .inl rfl
  | internal e =>
      obtain ⟨shared, -, rfl⟩ := internal_cases h
      exact .inl rfl

/-- A stop in time is kept. -/
theorem cleared_of_stop {x : β} {f : φ} {rest : List (Statement ι φ α)}
    (hmain : s.main = .store f false :: rest) (h : P.stepMain x s = some s')
    (hahead : ¬ P.SetAhead s f) : P.Cleared s' f where
  flag := by
    obtain ⟨st, rest', t, hmain', heffect, rfl⟩ := stepMain_cases h
    cases hmain.symm.trans hmain'
    cases heffect
    simp
  ahead hf := hahead (setAhead_of_step (e := .main x) h hf)

theorem cleared_of_run {s₀ : State ι φ α γ ρ σ} {events : List (Event ι β ε)}
    (hfresh : s₀.passed = []) (halong : Runs.Along P.step P.StopsInTime s₀ events)
    (hrun : Runs.run P.step s₀ events = some s) {f : φ} (hf : .store f false ∈ s.passed) :
    P.Cleared s f := by
  have hstep : ∀ (s : State ι φ α γ ρ σ) (e : Event ι β ε) s',
      (∀ f, .store f false ∈ s.passed → P.Cleared s f) → P.StopsInTime s e →
      P.step s e = some s' → ∀ f, .store f false ∈ s'.passed → P.Cleared s' f := by
    intro s e s' hs he h f hf
    rcases passed_step h with hsame | ⟨x, st, rest, rfl, hmain, -, hpassed⟩
    · rw [hsame] at hf
      exact (hs f hf).step h
    · rw [hpassed, List.mem_append, List.mem_singleton] at hf
      rcases hf with hf | rfl
      · exact (hs f hf).step h
      · exact cleared_of_stop hmain h (he x f rest rfl hmain)
  apply Runs.invariant_run_of_along hstep _ halong hrun f hf
  simp [hfresh]

end Stops

/-! ## Termination -/

/-- An upper bound for the steps of a thread whose loop is not entered again. -/
def remainingWorker (worker : Worker φ γ ρ) : Position φ γ ρ → ℕ
  | .unborn => worker.startUp.length + 2
  | .starting rest => rest.length + 2
  | .testing => 1
  | .passing rest => (rest.map PassStep.steps).sum + 2
  | .finished => 0

def remaining [Fintype ι] (s : State ι φ α γ ρ σ) : ℕ :=
  s.main.length + ∑ i, remainingWorker (P.worker i) (s.worker i)

/-- An upper bound for the steps that an answer asks for. -/
def answerSteps (x : β) (p : Position φ γ ρ) : ℕ :=
  ((p.question.bind (P.answer x)).map fun steps ↦ (steps.map PassStep.steps).sum).getD 0

def answered (s : State ι φ α γ ρ σ) : Event ι β ε → ℕ
  | .worker i x => P.answerSteps x (s.worker i)
  | _ => 0

/-- For all answers of a run. -/
def answers (s : State ι φ α γ ρ σ) : List (Event ι β ε) → ℕ
  | [] => 0
  | e :: events =>
      P.answered s e + ((P.step s e).map fun s' ↦ answers s' events).getD 0

/-- No loop is entered again. -/
def Closing (s : State ι φ α γ ρ σ) : Prop :=
  ∀ i, ∀ f ∈ (P.worker i).loop, P.Cleared s f

section Termination

variable {P} {s s' : State ι φ α γ ρ σ}

theorem Closing.step {e : Event ι β ε} (hs : P.Closing s) (h : P.step s e = some s') :
    P.Closing s' := fun i f hf ↦ (hs i f hf).step h

omit [DecidableEq ι] in
theorem remainingWorker_advance {i : ι} {x : β} {shared shared' : σ} {flags flags' : φ → Bool}
    {p p' : Position φ γ ρ} (h : P.advance i x shared flags p = some (shared', flags', p'))
    (hclosed : ∀ f ∈ (P.worker i).loop, flags f = false) :
    remainingWorker (P.worker i) p' < remainingWorker (P.worker i) p + P.answerSteps x p := by
  have hnot : ¬ ∃ f ∈ (P.worker i).loop, flags f = true := by
    rintro ⟨f, hloop, hf⟩
    rw [hclosed f hloop] at hf
    cases hf
  cases p with
  | unborn => cases h
  | finished => cases h
  | starting rest =>
      cases rest with
      | nil =>
          cases h
          exact Nat.lt_add_right _ (by simp [remainingWorker])
      | cons st rest =>
          cases st with
          | act a =>
              obtain ⟨_, -, ht⟩ := Option.map_eq_some_iff.mp h
              cases ht
              exact Nat.lt_add_right _ (by simp [remainingWorker])
          | store f value =>
              cases h
              exact Nat.lt_add_right _ (by simp [remainingWorker])
  | testing =>
      cases h
      rw [tested, if_neg hnot]
      exact Nat.lt_add_right _ (by simp [remainingWorker])
  | passing rest =>
      cases rest with
      | nil =>
          cases h
          exact Nat.lt_add_right _ (by simp [remainingWorker])
      | cons st rest =>
          cases st with
          | act a =>
              obtain ⟨_, -, ht⟩ := Option.map_eq_some_iff.mp h
              cases ht
              exact Nat.lt_add_right _ (by simp [remainingWorker, PassStep.steps])
          | actIf f a =>
              cases h
              apply Nat.lt_add_right
              split_ifs <;> simp [remainingWorker, PassStep.steps]
          | retest =>
              cases h
              rw [tested, if_neg hnot]
              exact Nat.lt_add_right _ (by simp [remainingWorker, PassStep.steps])
          | ask q =>
              obtain ⟨steps, hsteps, ht⟩ := Option.map_eq_some_iff.mp h
              cases ht
              simp only [remainingWorker, answerSteps, Position.question, Option.bind_some, hsteps,
                Option.map_some, Option.getD_some, List.map_append, List.sum_append,
                List.map_cons, List.sum_cons, PassStep.steps]
              omega

variable [Fintype ι]

/-- A step of a thread leaves less to do, but for the answer that it gets. -/
theorem remaining_step {e : Event ι β ε} (hs : P.Closing s) (h : P.step s e = some s') :
    P.remaining s' + (if e.IsOwn then 1 else 0) ≤ P.remaining s + P.answered s e := by
  cases e with
  | main x =>
      obtain ⟨st, rest, t, hmain, heffect, rfl⟩ := stepMain_cases h
      have hworker : ∀ i, remainingWorker (P.worker i) (t.worker i) =
          remainingWorker (P.worker i) (s.worker i) := by
        intro i
        rcases worker_effect heffect i with ⟨-, hsame⟩ | ⟨-, hunborn, hborn⟩
        · rw [hsame]
        · rw [hunborn, hborn]
          rfl
      simp only [remaining, hworker, hmain, List.length_cons, Event.IsOwn, if_true]
      omega
  | worker i x =>
      obtain ⟨shared, flags, position, hadvance, rfl⟩ := stepWorker_cases h
      have hless := remainingWorker_advance hadvance fun f hf ↦ (hs i f hf).flag
      have hothers : ∑ j ∈ Finset.univ.erase i,
            remainingWorker (P.worker j) (Function.update s.worker i position j) =
          ∑ j ∈ Finset.univ.erase i, remainingWorker (P.worker j) (s.worker j) :=
        Finset.sum_congr rfl fun j hj ↦ by rw [Function.update_of_ne (Finset.ne_of_mem_erase hj)]
      simp only [remaining, answered, Event.IsOwn, if_true,
        ← Finset.add_sum_erase Finset.univ _ (Finset.mem_univ i), hothers, Function.update_self]
      omega
  | internal e =>
      obtain ⟨shared, -, rfl⟩ := internal_cases h
      simp [remaining, Event.IsOwn]

/-- From here on the threads take a bounded number of steps, except for what
the answers that they still get ask them to do. -/
theorem countP_isOwn_le {events : List (Event ι β ε)} (hs : P.Closing s)
    (hrun : Runs.run P.step s events = some s') :
    events.countP Event.IsOwn ≤ P.remaining s + P.answers s events := by
  induction events generalizing s with
  | nil => simp
  | cons e events ih =>
      obtain ⟨t, he, hrest⟩ := Runs.run_cons_eq_some.mp hrun
      have hstep := remaining_step hs he
      have htail := ih (hs.step he) hrest
      rw [List.countP_cons, answers, he, Option.map_some, Option.getD_some]
      omega

end Termination

/-! ## Disciplined programs -/

/-- What a statement of the script asks of those before it. -/
def Fits (passed : List (Statement ι φ α)) : Statement ι φ α → Prop
  | .act _ => True
  | .store f _ => .store f false ∉ passed
  | .await f => ∃ i, .spawn i ∈ passed ∧ .store f true ∈ (P.worker i).startUp
  | .spawn i => .spawn i ∉ passed
  | .join i => .spawn i ∈ passed

instance [Fintype ι] [DecidableEq α] [DecidableEq γ] (passed : List (Statement ι φ α))
    (st : Statement ι φ α) : Decidable (P.Fits passed st) :=
  match st with
  | .act _ => isTrue trivial
  | .store f _ => inferInstanceAs (Decidable (.store f false ∉ passed))
  | .await f =>
      inferInstanceAs (Decidable (∃ i, .spawn i ∈ passed ∧ .store f true ∈ (P.worker i).startUp))
  | .spawn i => inferInstanceAs (Decidable (.spawn i ∉ passed))
  | .join i => inferInstanceAs (Decidable (.spawn i ∈ passed))

/-- Workers only set flags. A flag that main clears is set by no worker but
the one that it stops, and main does not wait for it. -/
structure Disciplined : Prop where
  ordered : ∀ k (hk : k < P.main.length), P.Fits (P.main.take k) P.main[k]
  sets : ∀ i f value, .store f value ∈ (P.worker i).startUp → value = true
  awaited : ∀ f, .await f ∈ P.main → .store f false ∉ P.main
  stopped : ∀ i f, .store f true ∈ (P.worker i).startUp → .store f false ∈ P.main →
    f ∈ (P.worker i).loop ∧ .join i ∈ P.main

/-- The worker sets the flag or has set it. -/
def Sets (s : State ι φ α γ ρ σ) (i : ι) (f : φ) : Prop :=
  s.flags f = true ∨ .store f true ∈ P.ahead s i

/-- The flags that main waits for are set or about to be. -/
def Ready (s : State ι φ α γ ρ σ) : Prop :=
  ∀ i f, .store f true ∈ (P.worker i).startUp → .store f false ∉ P.main → P.Sets s i f

/-- The worker sets its flag again after the last stop. -/
structure Lost (s : State ι φ α γ ρ σ) (i : ι) (f : φ) : Prop where
  loop : f ∈ (P.worker i).loop
  sets : P.Sets s i f
  stops : .store f false ∉ s.main
  running : s.worker i ≠ .finished

section Disciplined

variable {P} {s s' : State ι φ α γ ρ σ}

omit [DecidableEq ι] [DecidableEq φ] in
theorem Disciplined.fits (hP : P.Disciplined) {passed rest : List (Statement ι φ α)}
    {st : Statement ι φ α} (h : passed ++ st :: rest = P.main) : P.Fits passed st := by
  have hlength : passed.length < P.main.length := by simp [← h]
  have hfits := hP.ordered passed.length hlength
  simpa [← h] using hfits

omit [DecidableEq ι] [DecidableEq φ] in
/-- What a script clears it does not store again. -/
theorem Disciplined.clears (hP : P.Disciplined) {passed rest : List (Statement ι φ α)} {f : φ}
    (h : passed ++ .store f false :: rest = P.main) (value : Bool) :
    .store f value ∉ rest := by
  intro hmem
  obtain ⟨between, after, rfl⟩ := List.append_of_mem hmem
  have hlater : (passed ++ .store f false :: between) ++ .store f value :: after = P.main := by
    simpa using h
  have hfits := hP.fits hlater
  exact hfits (by simp)

theorem sets_step (hP : P.Disciplined) (hs : P.Reached s) {e : Event ι β ε}
    (h : P.step s e = some s') {i : ι} {f : φ} (hstops : .store f false ∉ s.main)
    (hsets : P.Sets s i f) : P.Sets s' i f := by
  cases e with
  | main x =>
      rcases hsets with hflag | hahead
      · left
        obtain ⟨st, rest, t, hmain, heffect, rfl⟩ := stepMain_cases h
        rcases flags_effect heffect f with hsame | rfl
        · exact hsame.trans hflag
        · by_contra hfalse
          rw [hmain, Bool.eq_false_of_not_eq_true hfalse] at hstops
          exact hstops List.mem_cons_self
      · exact .inr (ahead_main h i ▸ hahead)
  | worker j x =>
      have hkept : s.flags f = true → s'.flags f = true := by
        intro hflag
        rcases (ahead_worker h).2.2 f with hsame | hstore
        · exact hsame.trans hflag
        · exact hP.sets j f _ ((hs.ahead_suffix j).subset hstore)
      rcases hsets with hflag | hahead
      · exact .inl (hkept hflag)
      · obtain ⟨shared, flags, position, hadvance, rfl⟩ := stepWorker_cases h
        obtain ⟨hborn, -, hborn', hrest⟩ := advance_cases hadvance
        by_cases hij : i = j
        · subst hij
          rw [ahead, if_neg hborn] at hahead
          simp only [Sets, ahead, Function.update_self, if_neg hborn']
          rcases hrest with ⟨-, heq⟩ | ⟨st, heq, rfl⟩
          · exact .inr (heq ▸ hahead)
          · rw [heq, List.mem_cons] at hahead
            rcases hahead with rfl | hahead
            · left
              simp [startUpFlags]
            · exact .inr hahead
        · right
          simpa [ahead, hij] using hahead
  | internal e =>
      obtain ⟨shared, -, rfl⟩ := internal_cases h
      exact hsets

omit [DecidableEq ι] in
/-- With its flag set, a worker does not leave its loop. -/
theorem running_advance {i : ι} {x : β} {shared shared' : σ} {flags flags' : φ → Bool}
    {p p' : Position φ γ ρ} {f : φ}
    (h : P.advance i x shared flags p = some (shared', flags', p'))
    (hloop : f ∈ (P.worker i).loop) (hset : p.ahead = [] → flags f = true) : p' ≠ .finished := by
  cases p with
  | unborn => cases h
  | finished => cases h
  | starting rest =>
      cases rest with
      | nil =>
          cases h
          simp
      | cons st rest =>
          cases st with
          | act a =>
              obtain ⟨_, -, ht⟩ := Option.map_eq_some_iff.mp h
              cases ht
              simp
          | store g value =>
              cases h
              simp
  | testing =>
      cases h
      rw [tested, if_pos ⟨f, hloop, hset rfl⟩]
      simp
  | passing rest =>
      cases rest with
      | nil =>
          cases h
          simp
      | cons st rest =>
          cases st with
          | act a | ask q =>
              obtain ⟨_, -, ht⟩ := Option.map_eq_some_iff.mp h
              cases ht
              simp
          | actIf g a =>
              cases h
              simp
          | retest =>
              cases h
              rw [tested, if_pos ⟨f, hloop, hset rfl⟩]
              simp

theorem Lost.step (hP : P.Disciplined) (hs : P.Reached s) {i : ι} {f : φ} (hlost : P.Lost s i f)
    {e : Event ι β ε} (h : P.step s e = some s') : P.Lost s' i f := by
  have hsets := sets_step hP hs h hlost.stops hlost.sets
  cases e with
  | main x =>
      obtain ⟨st, rest, t, hmain, heffect, rfl⟩ := stepMain_cases h
      have hstops : .store f false ∉ rest := fun hmem ↦
        hlost.stops (hmain ▸ List.mem_cons_of_mem _ hmem)
      refine ⟨hlost.loop, hsets, hstops, fun hfinished ↦ ?_⟩
      rcases worker_effect heffect i with ⟨-, hsame⟩ | ⟨-, -, hborn⟩
      · exact hlost.running (hsame.symm.trans hfinished)
      · cases hborn.symm.trans hfinished
  | worker j x =>
      obtain ⟨shared, flags, position, hadvance, rfl⟩ := stepWorker_cases h
      by_cases hij : i = j
      · subst hij
        have hborn := (advance_cases hadvance).1
        have hset : (s.worker i).ahead = [] → s.flags f = true := by
          intro hnil
          have hsets := hlost.sets
          simpa [Sets, ahead_eq hborn, hnil] using hsets
        have hrunning := running_advance hadvance hlost.loop hset
        exact ⟨hlost.loop, hsets, hlost.stops, by simpa using hrunning⟩
      · exact ⟨hlost.loop, hsets, hlost.stops, by simpa [hij] using hlost.running⟩
  | internal e =>
      obtain ⟨shared, -, rfl⟩ := internal_cases h
      exact { hlost with sets := hsets }

/-- A stop that comes before its worker has set the flag is lost. -/
theorem lost_of_not_stopsInTime (hP : P.Disciplined) (hs : P.Reached s) {e : Event ι β ε}
    (he : ¬ P.StopsInTime s e) (h : P.step s e = some s') :
    ∃ i f, .join i ∈ P.main ∧ P.Lost s' i f := by
  simp only [StopsInTime, not_forall, not_not] at he
  obtain ⟨x, f, rest, rfl, hmain, hahead⟩ := he
  have hscript : s.passed ++ .store f false :: rest = P.main := hmain ▸ hs.script
  have hstop : .store f false ∈ P.main := hscript ▸ by simp
  have hnot : .store f true ∉ s.main := by
    rw [hmain]
    simpa using hP.clears hscript true
  obtain ⟨i, hi⟩ : ∃ i, .store f true ∈ P.ahead s i := hahead.resolve_left hnot
  obtain ⟨hloop, hjoin⟩ := hP.stopped i f ((hs.ahead_suffix i).subset hi) hstop
  refine ⟨i, f, hjoin, hloop, .inr (ahead_main h i ▸ hi), ?_, fun hfinished ↦ ?_⟩
  · obtain ⟨st, rest', t, hmain', -, rfl⟩ := stepMain_cases h
    cases hmain.symm.trans hmain'
    exact hP.clears hscript false
  · have hnil : P.ahead s' i = [] := by
      rw [ahead_eq (by simp [hfinished]), hfinished]
      rfl
    rw [← ahead_main h i, hnil] at hi
    cases hi

/-- Main comes to its end only if all its stops came in time. -/
theorem stopsInTime_of_finished (hP : P.Disciplined) {shared : σ} {flags : φ → Bool}
    {events : List (Event ι β ε)}
    (hrun : Runs.run P.step (P.start shared flags) events = some s) (hover : s.main = []) :
    Runs.Along P.step P.StopsInTime (P.start shared flags) events := by
  refine Runs.along_iff_forall_split.mpr fun pre e post hes t hpre ↦ ?_
  subst hes
  by_contra hlate
  obtain ⟨t', hpre', hrest⟩ := Runs.run_append_eq_some.mp hrun
  cases hpre.symm.trans hpre'
  obtain ⟨u, he, hpost⟩ := Runs.run_cons_eq_some.mp hrest
  have ht := reached_of_run hpre
  obtain ⟨i, f, hjoin, hlost⟩ := lost_of_not_stopsInTime hP ht hlate he
  have hend : P.Reached s ∧ P.Lost s i f :=
    Runs.invariant_run (I := fun s ↦ P.Reached s ∧ P.Lost s i f)
      (fun _ _ _ hs h ↦ ⟨reached_step hs.1 h, hs.2.step hP hs.1 h⟩)
      ⟨reached_step ht he, hlost⟩ hpost
  have hpassed : s.passed = P.main := by
    rw [← hend.1.script, hover, List.append_nil]
  exact hend.2.running (hend.1.joined i (hpassed ▸ hjoin))

omit [DecidableEq ι] [DecidableEq φ] in
theorem ready_start (shared : σ) (flags : φ → Bool) : P.Ready (P.start shared flags) := by
  intro i f hf _
  right
  simpa [ahead, start] using hf

theorem Ready.step (hP : P.Disciplined) (hs : P.Reached s) (hready : P.Ready s)
    {e : Event ι β ε} (h : P.step s e = some s') : P.Ready s' := by
  intro i f hf hnever
  apply sets_step hP hs h _ (hready i f hf hnever)
  intro hmem
  exact hnever (hs.script ▸ List.mem_append_right _ hmem)

omit [DecidableEq ι] in
theorem blocked_worker {i : ι} {x : β} {shared : σ} {flags : φ → Bool} {p : Position φ γ ρ}
    (hborn : p ≠ .unborn) (hrunning : p ≠ .finished) (h : P.advance i x shared flags p = none) :
    (∃ a ∈ p.act, P.actWorker x i a shared = none) ∨ ∃ q ∈ p.question, P.answer x q = none := by
  cases p with
  | unborn => exact absurd rfl hborn
  | finished => exact absurd rfl hrunning
  | testing => cases h
  | starting rest =>
      cases rest with
      | nil => cases h
      | cons st rest =>
          cases st with
          | act a => exact .inl ⟨a, rfl, Option.map_eq_none_iff.mp h⟩
          | store f value => cases h
  | passing rest =>
      cases rest with
      | nil => cases h
      | cons st rest =>
          cases st with
          | act a => exact .inl ⟨a, rfl, Option.map_eq_none_iff.mp h⟩
          | ask q => exact .inr ⟨q, rfl, Option.map_eq_none_iff.mp h⟩
          | actIf f a => cases h
          | retest => cases h

/-- If main cannot go on, then it has come to its end, an act of it waits, or
it waits for a worker that cannot go on or has still to start up. -/
theorem waits_of_stepMain (hP : P.Disciplined) (hs : P.Reached s) (hready : P.Ready s) {x : β}
    (hmain : P.stepMain x s = none) :
    s.main = [] ∨ (∃ a rest, s.main = .act a :: rest ∧ P.actMain x a s.shared = none) ∨
      ∃ i, s.worker i ≠ .unborn ∧ s.worker i ≠ .finished := by
  rw [stepMain] at hmain
  cases hscript : s.main with
  | nil => exact .inl rfl
  | cons st rest =>
      rw [hscript] at hmain
      have heffect : P.effect x s st = none := Option.map_eq_none_iff.mp hmain
      have hfits : P.Fits s.passed st := hP.fits (hscript ▸ hs.script)
      have hborn : ∀ i, .spawn i ∈ s.passed → s.worker i ≠ .unborn := fun i hspawn hunborn ↦
        (hs.unborn_iff i).mp hunborn hspawn
      right
      cases st with
      | act a => exact .inl ⟨a, rest, rfl, Option.map_eq_none_iff.mp heffect⟩
      | store f value => cases heffect
      | await f =>
          right
          obtain ⟨i, hspawn, hset⟩ := hfits
          have hawait : .await f ∈ P.main := hs.script ▸ by simp [hscript]
          refine ⟨i, hborn i hspawn, fun hfinished ↦ ?_⟩
          rcases hready i f hset (hP.awaited f hawait) with hflag | hahead
          · simp [effect, hflag] at heffect
          · rw [ahead_eq (hborn i hspawn), hfinished] at hahead
            cases hahead
      | spawn i =>
          have hunborn := (hs.unborn_iff i).mpr hfits
          simp [effect, hunborn] at heffect
      | join i =>
          right
          refine ⟨i, hborn i hfits, fun hfinished ↦ ?_⟩
          simp [effect, hfinished] at heffect

/-- If no thread can go on, then main has come to its end, or an act or a
question waits. -/
theorem waits (hP : P.Disciplined) (hs : P.Reached s) (hready : P.Ready s) (x : β)
    (hmain : P.stepMain x s = none) (hworker : ∀ i, P.stepWorker i x s = none) :
    s.main = [] ∨ (∃ a rest, s.main = .act a :: rest ∧ P.actMain x a s.shared = none) ∨
      (∃ i, ∃ a ∈ (s.worker i).act, P.actWorker x i a s.shared = none) ∨
      ∃ i, ∃ q ∈ (s.worker i).question, P.answer x q = none := by
  rcases waits_of_stepMain hP hs hready hmain with hover | hact | ⟨i, hborn, hrunning⟩
  · exact .inl hover
  · exact .inr (.inl hact)
  · right
    right
    rcases blocked_worker hborn hrunning (Option.map_eq_none_iff.mp (hworker i)) with hact | hask
    · exact .inl ⟨i, hact⟩
    · exact .inr ⟨i, hask⟩

end Disciplined

end Program

end ForkJoin
