import SmartSensorNetwork.Lib.Simulation

/-!
# Critical sections under one mutex

Threads alternate between statements of their own and critical sections on a
shared state. They move statement by statement, in any order, and only the
owner of the mutex is inside a section. Every such run is matched by a serial
one, in which a section is a single step, taken when its mutex is released.
-/

namespace CriticalSections

universe u v w

variable {σ ι ω β : Type u} {κ : Type v} {θ : Type w}

/-- The statements of a section. Each sees an input from outside, such as the
time, may change the shared state and may write lines. -/
inductive Body (σ ι ω β : Type u) where
  | done (b : β)
  | act (f : ι → σ → σ × List ω) (k : ι → σ → Body σ ι ω β)

inductive Action (σ ι ω β : Type u) (κ : Type v) where
  | halt
  | own (f : ι → List ω × κ)
  | enter (body : Body σ ι ω β) (k : β → κ)

inductive Position (σ ι ω β : Type u) (κ : Type v) where
  | outside (l : κ)
  | inside (rest : Body σ ι ω β) (k : β → κ)

structure Line (ω : Type u) where
  locked : Bool
  text : ω

def lines (locked : Bool) (texts : List ω) : List (Line ω) := texts.map (Line.mk locked)

/-- The texts written with the mutex held, or those written without it. -/
def texts (locked : Bool) (output : List (Line ω)) : List ω :=
  (output.filter fun line ↦ line.locked == locked).map Line.text

/-- `seen` lists the inputs that the section under way has seen; no thread
has such a variable. -/
structure Config (σ ι ω β : Type u) (κ : Type v) (θ : Type w) where
  shared : σ
  owner : Option θ := none
  position : θ → Position σ ι ω β κ
  output : List (Line ω) := []
  seen : List ι := []

variable [DecidableEq θ] (next : κ → Action σ ι ω β κ)

def step (c : Config σ ι ω β κ θ) (e : θ × ι) : Option (Config σ ι ω β κ θ) :=
  match c.position e.1 with
  | .outside l =>
      match next l with
      | .halt => none
      | .own f => some { c with
          position := Function.update c.position e.1 (.outside (f e.2).2)
          output := c.output ++ lines false (f e.2).1 }
      | .enter body k =>
          if c.owner = none then
            some { c with
              owner := some e.1
              position := Function.update c.position e.1 (.inside body k)
              seen := [] }
          else none
  | .inside (.done b) k => some { c with
      owner := none
      position := Function.update c.position e.1 (.outside (k b))
      seen := [] }
  | .inside (.act f rest) k => some { c with
      shared := (f e.2 c.shared).1
      position := Function.update c.position e.1 (.inside (rest e.2 c.shared) k)
      output := c.output ++ lines true (f e.2 c.shared).2
      seen := c.seen ++ [e.2] }

def init (shared : σ) (start : θ → κ) : Config σ ι ω β κ θ where
  shared := shared
  position t := .outside (start t)

/-! ## Serial runs -/

/-- Some statements of a body, one for each input. -/
def Body.advance : Body σ ι ω β → σ → List ι → Option (Body σ ι ω β × σ × List ω)
  | body, s, [] => some (body, s, [])
  | .done _, _, _ :: _ => none
  | .act f k, s, x :: xs =>
      ((k x s).advance (f x s).1 xs).map fun r ↦ (r.1, r.2.1, (f x s).2 ++ r.2.2)

/-- All statements of a body, with the state and the lines they leave. -/
def Body.Ends (body : Body σ ι ω β) (s : σ) (inputs : List ι) (b : β) (s' : σ) (out : List ω) :
    Prop :=
  body.advance s inputs = some (.done b, s', out)

@[simp] theorem Body.ends_done {b b' : β} {s s' : σ} {inputs : List ι} {out : List ω} :
    (.done b : Body σ ι ω β).Ends s inputs b' s' out ↔
      inputs = [] ∧ b = b' ∧ s = s' ∧ [] = out := by
  cases inputs <;> simp [Body.Ends, Body.advance]

theorem Body.ends_act {f : ι → σ → σ × List ω} {k : ι → σ → Body σ ι ω β} {b : β} {s s' : σ}
    {inputs : List ι} {out : List ω} :
    (Body.act f k).Ends s inputs b s' out ↔ ∃ x xs more, inputs = x :: xs ∧
      (k x s).Ends (f x s).1 xs b s' more ∧ out = (f x s).2 ++ more := by
  cases inputs with
  | nil => simp [Body.Ends, Body.advance]
  | cons x xs =>
      rw [Body.Ends, Body.advance, Option.map_eq_some_iff]
      constructor
      · rintro ⟨⟨rest, s₁, more⟩, hrest, heq⟩
        obtain ⟨rfl, rfl, rfl⟩ : rest = .done b ∧ s₁ = s' ∧ (f x s).2 ++ more = out := by
          simpa using heq
        exact ⟨x, xs, more, rfl, hrest, rfl⟩
      · rintro ⟨y, ys, more, heq, hrest, rfl⟩
        cases heq
        exact ⟨_, hrest, rfl⟩

/-- One statement of a thread's own, or one whole section with the inputs of
its statements. -/
inductive Atomic (ι : Type u) (θ : Type w) where
  | own (t : θ) (x : ι)
  | whole (t : θ) (inputs : List ι)

structure Serial (σ ω : Type u) (κ : Type v) (θ : Type w) where
  shared : σ
  locals : θ → κ
  output : List (Line ω) := []

def serialStep (s : Serial σ ω κ θ) : Atomic ι θ → Option (Serial σ ω κ θ)
  | .own t x =>
      match next (s.locals t) with
      | .own f => some { s with
          locals := Function.update s.locals t (f x).2
          output := s.output ++ lines false (f x).1 }
      | _ => none
  | .whole t inputs =>
      match next (s.locals t) with
      | .enter body k =>
          match body.advance s.shared inputs with
          | some (.done b, shared, out) => some {
              shared := shared
              locals := Function.update s.locals t (k b)
              output := s.output ++ lines true out }
          | _ => none
      | _ => none

/-- The serial event that a statement completes: its own one, or at the
release of the mutex the section that ends there. -/
def completes (c : Config σ ι ω β κ θ) (e : θ × ι) : List (Atomic ι θ) :=
  match c.position e.1 with
  | .outside l =>
      match next l with
      | .own _ => [.own e.1 e.2]
      | _ => []
  | .inside (.done _) _ => [.whole e.1 c.seen]
  | .inside (.act _ _) _ => []

def serialOrder (c : Config σ ι ω β κ θ) (schedule : List (θ × ι)) : List (Atomic ι θ) :=
  Runs.emitted (step next) (completes next) c schedule

def Atomic.sectionInputs : Atomic ι θ → List ι
  | .own _ _ => []
  | .whole _ inputs => inputs

/-- How far the serial run has come. A section under way has not begun there,
and the shared state is what its statements so far make of the serial one. -/
structure Simulates (c : Config σ ι ω β κ θ) (s : Serial σ ω κ θ) : Prop where
  outside : ∀ t l, c.position t = .outside l → s.locals t = l
  owner : ∀ t rest k, c.position t = .inside rest k → c.owner = some t
  unlocked : texts false c.output = texts false s.output
  free : c.owner = none → c.shared = s.shared ∧ texts true c.output = texts true s.output
  held : ∀ t, c.owner = some t → ∃ body rest k out,
    next (s.locals t) = .enter body k ∧ c.position t = .inside rest k ∧
      body.advance s.shared c.seen = some (rest, c.shared, out) ∧
        texts true c.output = texts true s.output ++ out

@[simp] theorem texts_nil (locked : Bool) : texts locked ([] : List (Line ω)) = [] := rfl

@[simp] theorem texts_append (locked : Bool) (output more : List (Line ω)) :
    texts locked (output ++ more) = texts locked output ++ texts locked more := by
  simp [texts]

@[simp] theorem texts_lines_self (locked : Bool) (out : List ω) :
    texts locked (lines locked out) = out := by
  simp [texts, lines, List.filter_map, Function.comp_def]

theorem texts_lines_of_ne {locked other : Bool} (h : other ≠ locked) (out : List ω) :
    texts locked (lines other out) = [] := by
  simp [texts, lines, List.filter_map, Function.comp_def, h]

@[simp] theorem Body.advance_nil (body : Body σ ι ω β) (s : σ) :
    body.advance s [] = some (body, s, []) := by
  cases body <;> rfl

theorem Body.advance_concat {body : Body σ ι ω β} {s s' : σ} {xs : List ι} {out : List ω}
    {f : ι → σ → σ × List ω} {k : ι → σ → Body σ ι ω β}
    (h : body.advance s xs = some (.act f k, s', out)) (x : ι) :
    body.advance s (xs ++ [x]) = some (k x s', (f x s').1, out ++ (f x s').2) := by
  induction xs generalizing body s out with
  | nil =>
      rw [Body.advance_nil] at h
      cases h
      simp [Body.advance]
  | cons y ys ih =>
      cases body with
      | done b => cases h
      | act g l =>
          rw [Body.advance, Option.map_eq_some_iff] at h
          obtain ⟨⟨rest, s₁, out₁⟩, hrest, heq⟩ := h
          obtain ⟨rfl, rfl, rfl⟩ : rest = .act f k ∧ s₁ = s' ∧ (g y s).2 ++ out₁ = out := by
            simpa using heq
          rw [List.cons_append, Body.advance, ih hrest]
          simp

variable {next} {c c' : Config σ ι ω β κ θ} {e : θ × ι}

theorem step_cases (h : step next c e = some c') :
    (∃ l f, c.position e.1 = .outside l ∧ next l = .own f ∧ c' = { c with
      position := Function.update c.position e.1 (.outside (f e.2).2)
      output := c.output ++ lines false (f e.2).1 }) ∨
    (∃ l body k, c.position e.1 = .outside l ∧ next l = .enter body k ∧ c.owner = none ∧
      c' = { c with
        owner := some e.1
        position := Function.update c.position e.1 (.inside body k)
        seen := [] }) ∨
    (∃ b k, c.position e.1 = .inside (.done b) k ∧ c' = { c with
      owner := none
      position := Function.update c.position e.1 (.outside (k b))
      seen := [] }) ∨
    (∃ f rest k, c.position e.1 = .inside (.act f rest) k ∧ c' = { c with
      shared := (f e.2 c.shared).1
      position := Function.update c.position e.1 (.inside (rest e.2 c.shared) k)
      output := c.output ++ lines true (f e.2 c.shared).2
      seen := c.seen ++ [e.2] }) := by
  rw [step] at h
  cases hposition : c.position e.1 with
  | outside l =>
      rw [hposition] at h
      cases hnext : next l with
      | halt => simp [hnext] at h
      | own f =>
          simp only [hnext, Option.some.injEq] at h
          exact .inl ⟨l, f, rfl, hnext, h.symm⟩
      | enter body k =>
          simp only [hnext] at h
          obtain ⟨howner, rfl⟩ := Runs.of_guard h
          exact .inr (.inl ⟨l, body, k, rfl, hnext, howner, rfl⟩)
  | inside rest k =>
      rw [hposition] at h
      cases rest with
      | done b => exact .inr (.inr (.inl ⟨b, k, rfl, (Option.some.inj h).symm⟩))
      | act f rest => exact .inr (.inr (.inr ⟨f, rest, k, rfl, (Option.some.inj h).symm⟩))

theorem Simulates.own {s : Serial σ ω κ θ} (hs : Simulates next c s) {l : κ}
    {f : ι → List ω × κ} (hposition : c.position e.1 = .outside l) :
    Simulates next { c with
      position := Function.update c.position e.1 (.outside (f e.2).2)
      output := c.output ++ lines false (f e.2).1 }
      { s with
        locals := Function.update s.locals e.1 (f e.2).2
        output := s.output ++ lines false (f e.2).1 } where
  outside t l' h := by
    rcases eq_or_ne t e.1 with rfl | hne
    · simpa using h
    · simp only [Function.update_of_ne hne] at h ⊢
      exact hs.outside t l' h
  owner t rest k h := by
    rcases eq_or_ne t e.1 with rfl | hne
    · simp at h
    · simp only [Function.update_of_ne hne] at h
      exact hs.owner t rest k h
  unlocked := by simp [hs.unlocked]
  free howner := by
    obtain ⟨hshared, htexts⟩ := hs.free howner
    exact ⟨hshared, by simp [htexts, texts_lines_of_ne]⟩
  held t howner := by
    obtain ⟨body, rest, k, out, hnext, hinside, hadvance, htexts⟩ := hs.held t howner
    have hne : t ≠ e.1 := by
      rintro rfl
      rw [hposition] at hinside
      cases hinside
    refine ⟨body, rest, k, out, ?_, ?_, hadvance, ?_⟩
    · simpa only [Function.update_of_ne hne] using hnext
    · simpa only [Function.update_of_ne hne] using hinside
    · simp [htexts, texts_lines_of_ne]

theorem Simulates.enter {s : Serial σ ω κ θ} (hs : Simulates next c s) {l : κ}
    {body : Body σ ι ω β} {k : β → κ} (hposition : c.position e.1 = .outside l)
    (hnext : next l = .enter body k) (howner : c.owner = none) :
    Simulates next { c with
      owner := some e.1
      position := Function.update c.position e.1 (.inside body k)
      seen := [] } s where
  outside t l' h := by
    rcases eq_or_ne t e.1 with rfl | hne
    · simp at h
    · simp only [Function.update_of_ne hne] at h
      exact hs.outside t l' h
  owner t rest k h := by
    rcases eq_or_ne t e.1 with rfl | hne
    · rfl
    · simp only [Function.update_of_ne hne] at h
      have hbusy := hs.owner t rest k h
      rw [howner] at hbusy
      cases hbusy
  unlocked := hs.unlocked
  free h := by cases h
  held t h := by
    cases h
    obtain ⟨hshared, htexts⟩ := hs.free howner
    have hlocal := hs.outside e.1 l hposition
    refine ⟨body, body, k, [], ?_, ?_, ?_, ?_⟩
    · rw [hlocal, hnext]
    · simp
    · simp [hshared]
    · simp [htexts]

theorem Simulates.act {s : Serial σ ω κ θ} (hs : Simulates next c s)
    {f : ι → σ → σ × List ω} {rest : ι → σ → Body σ ι ω β} {k : β → κ}
    (hposition : c.position e.1 = .inside (.act f rest) k) :
    Simulates next { c with
      shared := (f e.2 c.shared).1
      position := Function.update c.position e.1 (.inside (rest e.2 c.shared) k)
      output := c.output ++ lines true (f e.2 c.shared).2
      seen := c.seen ++ [e.2] } s where
  outside t l h := by
    rcases eq_or_ne t e.1 with rfl | hne
    · simp at h
    · simp only [Function.update_of_ne hne] at h
      exact hs.outside t l h
  owner t rest' k' h := by
    rcases eq_or_ne t e.1 with rfl | hne
    · exact hs.owner _ _ _ hposition
    · simp only [Function.update_of_ne hne] at h
      exact hs.owner t rest' k' h
  unlocked := by simp [hs.unlocked, texts_lines_of_ne]
  free h := by
    have hbusy := hs.owner _ _ _ hposition
    rw [hbusy] at h
    cases h
  held t h := by
    have hbusy := hs.owner _ _ _ hposition
    obtain rfl : e.1 = t := Option.some.inj (hbusy.symm.trans h)
    obtain ⟨body, rest', k', out, hnext, hinside, hadvance, htexts⟩ := hs.held e.1 h
    rw [hposition] at hinside
    cases hinside
    refine ⟨body, rest e.2 c.shared, k, out ++ (f e.2 c.shared).2, hnext, by simp, ?_, ?_⟩
    · exact Body.advance_concat hadvance e.2
    · simp [htexts]

theorem Simulates.release {s : Serial σ ω κ θ} (hs : Simulates next c s) {b : β} {k : β → κ}
    (hposition : c.position e.1 = .inside (.done b) k) :
    ∃ s', serialStep next s (.whole e.1 c.seen) = some s' ∧
      Simulates next { c with
        owner := none
        position := Function.update c.position e.1 (.outside (k b))
        seen := [] } s' := by
  have hbusy := hs.owner _ _ _ hposition
  obtain ⟨body, rest, k', out, hnext, hinside, hadvance, htexts⟩ := hs.held e.1 hbusy
  rw [hposition] at hinside
  cases hinside
  refine ⟨{
    shared := c.shared
    locals := Function.update s.locals e.1 (k b)
    output := s.output ++ lines true out }, by simp [serialStep, hnext, hadvance], ?_⟩
  constructor
  case outside =>
    intro t l h
    rcases eq_or_ne t e.1 with rfl | hne
    · simpa using h
    · simp only [Function.update_of_ne hne] at h ⊢
      exact hs.outside t l h
  case owner =>
    intro t rest k' h
    rcases eq_or_ne t e.1 with rfl | hne
    · simp at h
    · simp only [Function.update_of_ne hne] at h
      exact absurd (Option.some.inj (hbusy.symm.trans (hs.owner t rest k' h))).symm hne
  case unlocked => simp [hs.unlocked, texts_lines_of_ne]
  case free => exact fun _ ↦ ⟨rfl, by simp [htexts]⟩
  case held =>
    intro t h
    cases h

theorem simulates_step {s : Serial σ ω κ θ} (hs : Simulates next c s)
    (h : step next c e = some c') :
    ∃ s', Runs.run (serialStep next) s (completes next c e) = some s' ∧
      Simulates next c' s' := by
  obtain ⟨l, f, hposition, hnext, rfl⟩ | ⟨l, body, k, hposition, hnext, howner, rfl⟩ |
    ⟨b, k, hposition, rfl⟩ | ⟨f, rest, k, hposition, rfl⟩ := step_cases h
  · have hlocal := hs.outside e.1 l hposition
    refine ⟨_, ?_, hs.own (f := f) hposition⟩
    simp [completes, hposition, hnext, Runs.run, serialStep, hlocal]
  · exact ⟨s, by simp [completes, hposition, hnext], hs.enter hposition hnext howner⟩
  · obtain ⟨s', hserial, hs'⟩ := hs.release hposition
    exact ⟨s', by simp [completes, hposition, Runs.run, hserial], hs'⟩
  · exact ⟨s, by simp [completes, hposition], hs.act hposition⟩

omit [DecidableEq θ] in
theorem simulates_init (next : κ → Action σ ι ω β κ) (shared : σ) (start : θ → κ) :
    Simulates next (init shared start : Config σ ι ω β κ θ)
      ({ shared := shared, locals := start } : Serial σ ω κ θ) where
  outside t l h := by
    cases h
    rfl
  owner t rest k h := by cases h
  unlocked := rfl
  free _ := ⟨rfl, rfl⟩
  held t h := by cases h

/-- Every run of the threads has its serial run. -/
theorem exists_serial_run {shared : σ} {start : θ → κ} {schedule : List (θ × ι)}
    (hrun : Runs.run (step next) (init shared start) schedule = some c) :
    ∃ s, Runs.run (serialStep next) { shared := shared, locals := start }
        (serialOrder next (init shared start) schedule) = some s ∧ Simulates next c s :=
  Runs.exists_run_emitted (fun _ _ _ _ hs h ↦ simulates_step hs h)
    (simulates_init next shared start) hrun

/-! ## Order and progress -/

/-- Sections do not overlap, so what they see comes in the order in which it
was there to be seen. -/
theorem sectionInputs_sublist {schedule : List (θ × ι)}
    (hrun : Runs.run (step next) c schedule = some c') :
    ((serialOrder next c schedule).flatMap Atomic.sectionInputs ++ c'.seen).Sublist
      (c.seen ++ schedule.map Prod.snd) := by
  induction schedule generalizing c with
  | nil =>
      cases hrun
      simp [serialOrder, Runs.emitted]
  | cons e es ih =>
      obtain ⟨d, hstep, hrest⟩ := Runs.run_cons_eq_some.mp hrun
      have hlater := ih hrest
      rw [serialOrder, Runs.emitted_cons hstep, List.flatMap_append, List.append_assoc,
        List.map_cons]
      have hskip : (es.map Prod.snd).Sublist (e.2 :: es.map Prod.snd) := List.sublist_cons_self _ _
      change (_ ++ ((serialOrder next d es).flatMap _ ++ _)).Sublist _
      obtain ⟨l, f, hposition, hnext, rfl⟩ | ⟨l, body, k, hposition, hnext, howner, rfl⟩ |
        ⟨b, k, hposition, rfl⟩ | ⟨f, rest, k, hposition, rfl⟩ := step_cases hstep
      · simp only [completes, hposition, hnext]
        exact hlater.trans (hskip.append_left c.seen)
      · simp only [completes, hposition, hnext]
        exact hlater.trans (hskip.trans (List.sublist_append_right c.seen _))
      · have hsection := hlater.trans hskip
        simp only [completes, hposition, List.flatMap_singleton, Atomic.sectionInputs]
        exact hsection.append_left c.seen
      · simp only [completes, hposition]
        simpa using hlater

end CriticalSections
