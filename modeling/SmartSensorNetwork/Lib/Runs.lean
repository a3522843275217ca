import Mathlib.Tactic

/-!
# Runs of a labelled transition system

A schedule is a list of events, and an event that is not enabled ends the
run. Everything proved about all schedules is proved about all interleavings
of the threads whose steps the events are.
-/

namespace Runs

universe u v

variable {σ : Type u} {ε : Type v}

/-- The state after a schedule, if every event of it was enabled in turn. -/
def run (step : σ → ε → Option σ) : σ → List ε → Option σ
  | s, [] => some s
  | s, e :: es => (step s e).bind fun s' ↦ run step s' es

/-- `P` holds of every state and event that a run passes. -/
def Along (step : σ → ε → Option σ) (P : σ → ε → Prop) : σ → List ε → Prop
  | _, [] => True
  | s, e :: es => P s e ∧ ∀ s', step s e = some s' → Along step P s' es

/-- A guarded step that was taken found its guard true. -/
theorem of_guard {p : Prop} [Decidable p] {s t : σ}
    (h : (if p then some s else none) = some t) : p ∧ s = t := by
  rwa [Option.ite_none_right_eq_some, Option.some.injEq] at h

variable {step : σ → ε → Option σ}

@[simp] theorem run_nil (s : σ) : run step s [] = some s := rfl

theorem run_cons_eq_some {s t : σ} {e : ε} {es : List ε} :
    run step s (e :: es) = some t ↔ ∃ s', step s e = some s' ∧ run step s' es = some t := by
  simp [run, Option.bind_eq_some_iff]

theorem run_append_eq_some {s t : σ} {es fs : List ε} :
    run step s (es ++ fs) = some t ↔
      ∃ s', run step s es = some s' ∧ run step s' fs = some t := by
  induction es generalizing s with
  | nil => simp
  | cons e es ih =>
      rw [List.cons_append, run_cons_eq_some]
      constructor
      · rintro ⟨u, hu, hrest⟩
        obtain ⟨s', hs', ht⟩ := ih.mp hrest
        exact ⟨s', run_cons_eq_some.mpr ⟨u, hu, hs'⟩, ht⟩
      · rintro ⟨s', hs', ht⟩
        obtain ⟨u, hu, hs'⟩ := run_cons_eq_some.mp hs'
        exact ⟨u, hu, ih.mpr ⟨s', hs', ht⟩⟩

theorem invariant_run {I : σ → Prop} (hstep : ∀ s e s', I s → step s e = some s' → I s')
    {s t : σ} {es : List ε} (hs : I s) (hrun : run step s es = some t) : I t := by
  induction es generalizing s with
  | nil =>
      cases hrun
      exact hs
  | cons e es ih =>
      obtain ⟨s', he, hrest⟩ := run_cons_eq_some.mp hrun
      exact ih (hstep s e s' hs he) hrest

theorem along_append {P : σ → ε → Prop} {s : σ} {es fs : List ε} :
    Along step P s (es ++ fs) ↔
      Along step P s es ∧ ∀ t, run step s es = some t → Along step P t fs := by
  induction es generalizing s with
  | nil => simp [Along]
  | cons e es ih =>
      constructor
      · rintro ⟨he, hrest⟩
        refine ⟨⟨he, fun s' hs' ↦ (ih.mp (hrest s' hs')).1⟩, fun t hrun ↦ ?_⟩
        obtain ⟨s', hs', ht⟩ := run_cons_eq_some.mp hrun
        exact (ih.mp (hrest s' hs')).2 t ht
      · rintro ⟨⟨he, hrest⟩, hafter⟩
        refine ⟨he, fun s' hs' ↦ ih.mpr ⟨hrest s' hs', fun t ht ↦ ?_⟩⟩
        exact hafter t (run_cons_eq_some.mpr ⟨s', hs', ht⟩)

/-- What holds along a run holds of each event in the state it finds. -/
theorem along_iff_forall_split {P : σ → ε → Prop} {s : σ} {es : List ε} :
    Along step P s es ↔
      ∀ pre e post, es = pre ++ e :: post → ∀ t, run step s pre = some t → P t e := by
  constructor
  · rintro halong pre e post rfl t hrun
    exact ((along_append.mp halong).2 t hrun).1
  · intro hsplit
    induction es generalizing s with
    | nil => trivial
    | cons e es ih =>
        refine ⟨hsplit [] e es rfl s rfl, fun s' he ↦ ih fun pre f post hes t hrun ↦ ?_⟩
        apply hsplit (e :: pre) f post (by rw [hes, List.cons_append])
        exact run_cons_eq_some.mpr ⟨s', he, hrun⟩

/-- An invariant that the steps with `Q` keep is at hand along their runs. -/
theorem Along.imp {I : σ → Prop} {P Q : σ → ε → Prop}
    (hstep : ∀ s e s', I s → Q s e → step s e = some s' → I s')
    (hPQ : ∀ s e, I s → Q s e → P s e) {s : σ} (hs : I s) {es : List ε}
    (halong : Along step Q s es) : Along step P s es := by
  induction es generalizing s with
  | nil => trivial
  | cons e es ih =>
      refine ⟨hPQ s e hs halong.1, fun s' he ↦ ?_⟩
      apply ih
      · exact hstep s e s' hs halong.1 he
      · exact halong.2 s' he

theorem invariant_run_of_along {I : σ → Prop} {Q : σ → ε → Prop}
    (hstep : ∀ s e s', I s → Q s e → step s e = some s' → I s') {s t : σ} (hs : I s)
    {es : List ε} (halong : Along step Q s es) (hrun : run step s es = some t) : I t := by
  induction es generalizing s with
  | nil =>
      cases hrun
      exact hs
  | cons e es ih =>
      obtain ⟨s', he, hrest⟩ := run_cons_eq_some.mp hrun
      apply ih
      · exact hstep s e s' hs halong.1 he
      · exact halong.2 s' he
      · exact hrest

/-- Two properties of a step that agree wherever the invariant holds agree
along every run, if the steps with the second one keep the invariant. -/
theorem along_congr {I : σ → Prop} {P Q : σ → ε → Prop}
    (hstep : ∀ s e s', I s → Q s e → step s e = some s' → I s')
    (hPQ : ∀ s e, I s → (P s e ↔ Q s e)) {s : σ} (hs : I s) (es : List ε) :
    Along step P s es ↔ Along step Q s es := by
  induction es generalizing s with
  | nil => exact Iff.rfl
  | cons e es ih =>
      refine (and_congr_left' (hPQ s e hs)).trans (and_congr_right fun hQ ↦ ?_)
      exact forall₂_congr fun s' he ↦ ih (hstep s e s' hs hQ he)

end Runs
