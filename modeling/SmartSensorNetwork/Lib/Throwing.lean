import Mathlib.Tactic

/-!
# Computations that change a state and may throw

What was changed before an exception stays changed. Two judgements say how a
computation ends, and each way of putting computations together has its rule.
-/

universe u

variable {ε σ α β : Type u}

abbrev Throwing (ε σ α : Type u) := ExceptT ε (StateM σ) α

namespace Throwing

def Returns (x : Throwing ε σ α) (s : σ) (a : α) (s' : σ) : Prop :=
  x.run.run s = (.ok a, s')

def Throws (x : Throwing ε σ α) (s : σ) (e : ε) (s' : σ) : Prop :=
  x.run.run s = (.error e, s')

/-- `catch` for the exceptions that `caught` names; others pass through. -/
def catchSome (caught : ε → Bool) (x handler : Throwing ε σ α) : Throwing ε σ α :=
  tryCatch x fun e ↦ if caught e then handler else throw e

def reads (f : σ → α) : Throwing ε σ α := f <$> get

variable {x handler : Throwing ε σ α} {f : α → Throwing ε σ β} {s s' s'' : σ} {a : α} {b : β}
  {e : ε}

theorem Returns.pure (a : α) (s : σ) : Returns (Pure.pure a : Throwing ε σ α) s a s := rfl

theorem Returns.reads (f : σ → α) (s : σ) :
    Returns (Throwing.reads f : Throwing ε σ α) s (f s) s := rfl

theorem Returns.modify (f : σ → σ) (s : σ) :
    Returns (modify f : Throwing ε σ PUnit) s ⟨⟩ (f s) := rfl

theorem Returns.ofExcept {y : Except ε α} (h : y = .ok a) (s : σ) :
    Returns (ofExcept y : Throwing ε σ α) s a s := by
  rw [h]
  rfl

theorem Throws.ofExcept {y : Except ε α} (h : y = .error e) (s : σ) :
    Throws (ofExcept y : Throwing ε σ α) s e s := by
  rw [h]
  rfl

theorem Returns.bind (hx : Returns x s a s') (hf : Returns (f a) s' b s'') :
    Returns (x >>= f) s b s'' := by
  have hrun : (x >>= f).run.run s = (f a).run.run s' := by
    simp only [ExceptT.run_bind, StateT.run_bind]
    rw [show x.run.run s = _ from hx]
    rfl
  exact hrun.trans hf

theorem Throws.bind (hx : Throws x s e s') : Throws (x >>= f) s e s' := by
  have hrun : (x >>= f).run.run s = (.error e, s') := by
    simp only [ExceptT.run_bind, StateT.run_bind]
    rw [show x.run.run s = _ from hx]
    rfl
  exact hrun

theorem Returns.mapM {l : List α} {g : α → β} (h : ∀ a ∈ l, Returns (f a) s (g a) s) :
    Returns (l.mapM f) s (l.map g) s := by
  induction l with
  | nil => exact Returns.pure [] s
  | cons a l ih =>
      rw [List.mapM_cons, List.map_cons]
      have hhead := h a List.mem_cons_self
      have htail := ih fun c hc ↦ h c (List.mem_cons_of_mem a hc)
      exact hhead.bind (htail.bind (Returns.pure _ s))

theorem Returns.mapM_attach {l : List α} {g : {a // a ∈ l} → β}
    (h : ∀ a : {a // a ∈ l}, Returns (f a.1) s (g a) s) :
    Returns (l.mapM f) s (l.attach.map g) s := by
  have hattach : l.mapM f = l.attach.mapM (f ∘ Subtype.val) := by
    rw [← List.mapM_map, List.attach_map_subtype_val]
  rw [hattach]
  apply Returns.mapM
  intro a _
  exact h a

theorem Returns.catchSome (caught : ε → Bool) (h : Returns x s a s') :
    Returns (Throwing.catchSome caught x handler) s a s' := by
  have hrun : (Throwing.catchSome caught x handler).run.run s = (.ok a, s') := by
    simp only [Throwing.catchSome, ExceptT.run_tryCatch, StateT.run_bind]
    rw [show x.run.run s = _ from h]
    rfl
  exact hrun

theorem Throws.catchSome {caught : ε → Bool} (h : Throws x s e s') (he : caught e)
    (hhandler : Returns handler s' a s'') :
    Returns (Throwing.catchSome caught x handler) s a s'' := by
  have hrun : (Throwing.catchSome caught x handler).run.run s = handler.run.run s' := by
    simp only [Throwing.catchSome, ExceptT.run_tryCatch, StateT.run_bind]
    rw [show x.run.run s = _ from h]
    change (if caught e then handler else throw e).run.run s' = _
    rw [if_pos he]
  exact hrun.trans hhandler

end Throwing
