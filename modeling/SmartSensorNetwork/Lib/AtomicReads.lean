import Mathlib.Tactic

/-!
# Programs that read a shared state

A program performs atomic reads of a state it does not own, one after the
other. Alone it sees one and the same state; among other threads, events
happen between its reads.
-/

universe u v

inductive Reads (σ β : Type u) where
  | done (b : β)
  | read (k : σ → Reads σ β)

namespace Reads

variable {σ α β : Type u} {ε : Type v}

def get (f : σ → β) : Reads σ β := .read fun s ↦ .done (f s)

def bind : Reads σ α → (α → Reads σ β) → Reads σ β
  | .done a, f => f a
  | .read k, f => .read fun s ↦ (k s).bind f

instance : Monad (Reads σ) where
  pure := .done
  bind := bind

theorem bind_done (p : Reads σ α) : p.bind .done = p := by
  induction p with
  | done a => rfl
  | read k ih => exact congrArg Reads.read (funext ih)

theorem bind_bind {γ : Type u} (p : Reads σ α) (f : α → Reads σ β) (g : β → Reads σ γ) :
    (p.bind f).bind g = p.bind fun a ↦ (f a).bind g := by
  induction p with
  | done a => rfl
  | read k ih => exact congrArg Reads.read (funext ih)

instance : LawfulMonad (Reads σ) := LawfulMonad.mk' _ bind_done (fun _ _ ↦ rfl) bind_bind

theorem mapM_map {γ δ : Type u} (f : γ → Reads σ α) (g : α → δ) (l : List γ) :
    (l.mapM fun a ↦ g <$> f a) = List.map g <$> l.mapM f := by
  induction l with
  | nil => rfl
  | cons a l ih => simp [List.mapM_cons, ih]

/-- The result when nothing happens between the reads. -/
def eval (s : σ) : Reads σ β → β
  | .done b => b
  | .read k => (k s).eval s

/-- The result when `gaps` lists the events before each read in turn; none
happen before the reads that are left over. -/
def exec (step : σ → ε → σ) : Reads σ β → σ → List (List ε) → β
  | .done b, _, _ => b
  | .read k, s, [] => (k s).exec step s []
  | .read k, s, events :: gaps =>
      (k (events.foldl step s)).exec step (events.foldl step s) gaps

@[simp] theorem eval_pure (s : σ) (b : β) : (pure b : Reads σ β).eval s = b := rfl

@[simp] theorem eval_get (s : σ) (f : σ → β) : (get f).eval s = f s := rfl

@[simp] theorem eval_bind (s : σ) (p : Reads σ α) (f : α → Reads σ β) :
    (p >>= f).eval s = (f (p.eval s)).eval s := by
  induction p with
  | done a => rfl
  | read k ih => exact ih s

@[simp] theorem eval_map (s : σ) (f : α → β) (p : Reads σ α) : (f <$> p).eval s = f (p.eval s) :=
  eval_bind s p (pure ∘ f)

@[simp] theorem eval_mapM (s : σ) {γ : Type u} (f : γ → Reads σ β) (l : List γ) :
    (l.mapM f).eval s = l.map fun a ↦ (f a).eval s := by
  rw [← List.mapM'_eq_mapM]
  induction l with
  | nil => rfl
  | cons a l ih => simp [List.mapM', ih]

theorem exec_nil (step : σ → ε → σ) (p : Reads σ β) (s : σ) : p.exec step s [] = p.eval s := by
  induction p with
  | done b => rfl
  | read k ih => exact ih s

theorem exec_get_bind (step : σ → ε → σ) (f : σ → α) (p : α → Reads σ β) (s : σ)
    (gaps : List (List ε)) :
    (get f >>= p).exec step s gaps =
      (p (f ((gaps.headD []).foldl step s))).exec step ((gaps.headD []).foldl step s)
        gaps.tail := by
  cases gaps <;> rfl

theorem exec_map (step : σ → ε → σ) (f : α → β) (p : Reads σ α) (s : σ)
    (gaps : List (List ε)) : (f <$> p).exec step s gaps = f (p.exec step s gaps) := by
  induction p generalizing s gaps with
  | done a => rfl
  | read k ih =>
      cases gaps with
      | nil => exact ih s s []
      | cons events gaps => exact ih (events.foldl step s) (events.foldl step s) gaps

/-- One read for each element: the `k`-th comes after the first `k + 1` gaps. -/
theorem exec_mapM_get {γ : Type u} (step : σ → ε → σ) (f : γ → σ → β) (l : List γ) (s : σ)
    (gaps : List (List ε)) :
    (l.mapM fun a ↦ get (f a)).exec step s gaps =
      l.mapIdx fun k a ↦ f a ((gaps.take (k + 1)).flatten.foldl step s) := by
  induction l generalizing s gaps with
  | nil => rfl
  | cons a l ih =>
      have htail : (l.mapM (fun a ↦ get (f a)) >>= fun bs ↦
          (pure (f a ((gaps.headD []).foldl step s) :: bs) : Reads σ (List β))) =
          (f a ((gaps.headD []).foldl step s) :: ·) <$> l.mapM fun a ↦ get (f a) := rfl
      rw [List.mapM_cons, exec_get_bind, htail, exec_map, ih, List.mapIdx_cons]
      cases gaps with
      | nil => simp
      | cons events gaps => simp [List.foldl_append]

/-! ## One program after another -/

/-- The gaps before the reads of a program, and those that are left. -/
def split (step : σ → ε → σ) : Reads σ β → σ → List (List ε) → List (List ε) × List (List ε)
  | .done _, _, gaps => ([], gaps)
  | .read _, _, [] => ([], [])
  | .read k, s, events :: gaps =>
      let rest := (k (events.foldl step s)).split step (events.foldl step s) gaps
      (events :: rest.1, rest.2)

theorem split_append (step : σ → ε → σ) (p : Reads σ β) (s : σ) (gaps : List (List ε)) :
    (p.split step s gaps).1 ++ (p.split step s gaps).2 = gaps := by
  induction p generalizing s gaps with
  | done b => rfl
  | read k ih =>
      cases gaps with
      | nil => rfl
      | cons events gaps => exact congrArg (events :: ·) (ih _ _ gaps)

theorem exec_bind (step : σ → ε → σ) (p : Reads σ α) (f : α → Reads σ β) (s : σ)
    (gaps : List (List ε)) :
    (p >>= f).exec step s gaps =
      (f (p.exec step s gaps)).exec step ((p.split step s gaps).1.flatten.foldl step s)
        (p.split step s gaps).2 := by
  induction p generalizing s gaps with
  | done a => rfl
  | read k ih =>
      cases gaps with
      | nil =>
          refine (ih s s []).trans ?_
          have hempty := List.append_eq_nil_iff.mp (split_append step (k s) s [])
          rw [hempty.1, hempty.2]
          rfl
      | cons events gaps =>
          refine (ih _ _ gaps).trans ?_
          simp [split, exec, List.foldl_append]

theorem split_bind_fst (step : σ → ε → σ) (p : Reads σ α) (f : α → Reads σ β) (s : σ)
    (gaps : List (List ε)) :
    ((p >>= f).split step s gaps).1 = (p.split step s gaps).1 ++
      ((f (p.exec step s gaps)).split step ((p.split step s gaps).1.flatten.foldl step s)
        (p.split step s gaps).2).1 := by
  induction p generalizing s gaps with
  | done a => rfl
  | read k ih =>
      cases gaps with
      | nil =>
          have hempty : ∀ q : Reads σ β, ∀ s', (q.split step s' []).1 = [] := fun q s' ↦
            (List.append_eq_nil_iff.mp (split_append step q s' [])).1
          simp only [split, List.nil_append, hempty]
      | cons events gaps =>
          refine (congrArg (events :: ·) (ih _ _ gaps)).trans ?_
          simp [split, exec, List.foldl_append]

/-- What holds of the result, of the events before the program and of all
events until its last read. Events stand for the state that they leave. -/
def Spans (step : σ → ε → σ) (fresh : σ) (p : Reads σ β) (R : β → List ε → List ε → Prop) :
    Prop :=
  ∀ past gaps, R (p.exec step (past.foldl step fresh) gaps) past
    (past ++ (p.split step (past.foldl step fresh) gaps).1.flatten)

/-- The result shows the state as it was at some moment of the program. -/
def Displays (step : σ → ε → σ) (fresh : σ) (p : Reads σ β) (R : β → List ε → Prop) : Prop :=
  p.Spans step fresh fun b past upto ↦ ∃ seen, past <+: seen ∧ seen <+: upto ∧ R b seen

variable {step : σ → ε → σ} {fresh : σ} {p : Reads σ α} {f : α → Reads σ β}

theorem spans_pure {b : β} {R : β → List ε → List ε → Prop} (h : ∀ past, R b past past) :
    Spans step fresh (pure b) R := by
  intro past gaps
  have hnone : past ++ ((pure b : Reads σ β).split step (past.foldl step fresh) gaps).1.flatten =
      past := List.append_nil past
  rw [hnone]
  exact h past

theorem Spans.bind {R : α → List ε → List ε → Prop} {R' : α → β → List ε → List ε → Prop}
    {S : β → List ε → List ε → Prop} (hp : p.Spans step fresh R)
    (hf : ∀ a, (f a).Spans step fresh (R' a))
    (h : ∀ a b past mid upto, past <+: mid → mid <+: upto → R a past mid → R' a b mid upto →
      S b past upto) : (p >>= f).Spans step fresh S := by
  intro past gaps
  have hrest := hf (p.exec step (past.foldl step fresh) gaps)
    (past ++ (p.split step (past.foldl step fresh) gaps).1.flatten)
    (p.split step (past.foldl step fresh) gaps).2
  rw [List.foldl_append] at hrest
  rw [exec_bind, split_bind_fst, List.flatten_append, ← List.append_assoc]
  exact h _ _ past _ _ (List.prefix_append past _) (List.prefix_append _ _) (hp past gaps) hrest

theorem spans_true (p : Reads σ α) : p.Spans step fresh fun _ _ _ ↦ True := fun _ _ ↦ trivial

theorem displays_pure {b : β} {R : β → List ε → Prop} (h : ∀ seen, R b seen) :
    (pure b : Reads σ β).Displays step fresh R :=
  spans_pure fun past ↦ ⟨past, List.prefix_rfl, List.prefix_rfl, h past⟩

theorem displays_first {f : σ → α} {k : α → Reads σ β} {R : β → List ε → Prop}
    (h : ∀ past gaps, R ((get f >>= k).exec step (past.foldl step fresh) gaps)
      (past ++ gaps.headD [])) : (get f >>= k).Displays step fresh R := by
  intro past gaps
  refine ⟨past ++ gaps.headD [], List.prefix_append past _, ?_, h past gaps⟩
  apply (List.prefix_append_right_inj past).mpr
  cases gaps with
  | nil => exact List.prefix_rfl
  | cons events gaps => exact List.prefix_append events _

theorem Displays.after {R : β → List ε → Prop} (h : ∀ a, (f a).Displays step fresh R) :
    (p >>= f).Displays step fresh R := by
  refine (spans_true p).bind h ?_
  rintro a b past mid upto hpast - - ⟨seen, hmid, hseen, hR⟩
  exact ⟨seen, hpast.trans hmid, hseen, hR⟩

theorem Displays.map {g : α → β} {R : α → List ε → Prop} {S : β → List ε → Prop}
    (h : p.Displays step fresh R) (hS : ∀ a seen, R a seen → S (g a) seen) :
    (g <$> p).Displays step fresh S := by
  have hlast : ∀ a, (pure (g a) : Reads σ β).Spans step fresh fun b past upto ↦
      b = g a ∧ past = upto := fun a ↦ spans_pure fun _ ↦ ⟨rfl, rfl⟩
  refine Spans.bind h hlast ?_
  rintro a b past mid upto - - ⟨seen, hpast, hseen, hR⟩ ⟨rfl, rfl⟩
  exact ⟨seen, hpast, hseen, hS a seen hR⟩

end Reads
