import SmartSensorNetwork.Lib.Runs

/-!
# Forward simulation

A concrete system refines an abstract one if each of its steps is matched by
the abstract events it emits, none for a step that the abstract system does
not see. Runs are then matched by the events they emit in all.
-/

namespace Runs

universe u v w x

variable {σ : Type u} {ε : Type v} {τ : Type w} {δ : Type x}

/-- The abstract events of a run, step by step. -/
def emitted (step : σ → ε → Option σ) (emit : σ → ε → List δ) : σ → List ε → List δ
  | _, [] => []
  | s, e :: es => (step s e).elim [] fun s' ↦ emit s e ++ emitted step emit s' es

variable {step : σ → ε → Option σ} {emit : σ → ε → List δ}

theorem emitted_cons {s s' : σ} {e : ε} (h : step s e = some s') (es : List ε) :
    emitted step emit s (e :: es) = emit s e ++ emitted step emit s' es := by
  rw [emitted, h]
  rfl

/-- What a run has emitted so far comes first in what it emits later. -/
theorem emitted_append {s t : σ} {es : List ε} (hrun : run step s es = some t) (fs : List ε) :
    emitted step emit s (es ++ fs) = emitted step emit s es ++ emitted step emit t fs := by
  induction es generalizing s with
  | nil =>
      cases hrun
      rfl
  | cons e es ih =>
      obtain ⟨s', he, hrest⟩ := run_cons_eq_some.mp hrun
      rw [List.cons_append, emitted_cons he, emitted_cons he, ih hrest, List.append_assoc]

variable {abstractStep : τ → δ → Option τ} {R : σ → τ → Prop}

/-- If each step is matched, then so is each run. -/
theorem exists_run_emitted
    (hstep : ∀ s e s' a, R s a → step s e = some s' →
      ∃ a', run abstractStep a (emit s e) = some a' ∧ R s' a')
    {s t : σ} {a : τ} {es : List ε} (hs : R s a) (hrun : run step s es = some t) :
    ∃ b, run abstractStep a (emitted step emit s es) = some b ∧ R t b := by
  induction es generalizing s a with
  | nil =>
      cases hrun
      exact ⟨a, rfl, hs⟩
  | cons e es ih =>
      obtain ⟨s', he, hrest⟩ := run_cons_eq_some.mp hrun
      obtain ⟨a', ha', hs'⟩ := hstep s e s' a hs he
      obtain ⟨b, hb, ht⟩ := ih hs' hrest
      rw [emitted_cons he]
      exact ⟨b, run_append_eq_some.mpr ⟨a', ha', hb⟩, ht⟩

end Runs
