import SmartSensorNetwork.Lib.AtomicReads

/-!
# Clients of a shared state

A client asks questions and goes by the answers. Seen from the state, which
answers each question as it then is, it is a program of atomic reads.
-/

universe u v w

inductive Client (Q R β : Type u) where
  | done (b : β)
  | ask (q : Q) (k : R → Client Q R β)

namespace Client

variable {Q R α β : Type u} {σ : Type u} {ε : Type v}

def question (q : Q) : Client Q R R := .ask q .done

def bind : Client Q R α → (α → Client Q R β) → Client Q R β
  | .done a, f => f a
  | .ask q k, f => .ask q fun r ↦ (k r).bind f

instance : Monad (Client Q R) where
  pure := .done
  bind := bind

theorem bind_done (p : Client Q R α) : p.bind .done = p := by
  induction p with
  | done a => rfl
  | ask q k ih => exact congrArg (Client.ask q) (funext ih)

theorem bind_bind {γ : Type u} (p : Client Q R α) (f : α → Client Q R β)
    (g : β → Client Q R γ) : (p.bind f).bind g = p.bind fun a ↦ (f a).bind g := by
  induction p with
  | done a => rfl
  | ask q k ih => exact congrArg (Client.ask q) (funext ih)

instance : LawfulMonad (Client Q R) := LawfulMonad.mk' _ bind_done (fun _ _ ↦ rfl) bind_bind

section Reads

variable (answer : σ → Q → R)

def reads : Client Q R β → Reads σ β
  | .done b => .done b
  | .ask q k => .read fun s ↦ (k (answer s q)).reads

@[simp] theorem reads_pure (b : β) : (pure b : Client Q R β).reads answer = pure b := rfl

@[simp] theorem reads_question (q : Q) :
    (question q : Client Q R R).reads answer = .get fun s ↦ answer s q := rfl

@[simp] theorem reads_bind (p : Client Q R α) (f : α → Client Q R β) :
    (p >>= f).reads answer = p.reads answer >>= fun a ↦ (f a).reads answer := by
  induction p with
  | done a => rfl
  | ask q k ih => exact congrArg Reads.read (funext fun s ↦ ih (answer s q))

@[simp] theorem reads_map (f : α → β) (p : Client Q R α) :
    (f <$> p).reads answer = f <$> p.reads answer :=
  reads_bind answer p (pure ∘ f)

@[simp] theorem reads_mapM {γ : Type u} (f : γ → Client Q R β) (l : List γ) :
    (l.mapM f).reads answer = l.mapM fun a ↦ (f a).reads answer := by
  induction l with
  | nil => rfl
  | cons a l ih => simp [List.mapM_cons, ih]

end Reads

/-! ## A client among other events -/

/-- From `p` the client has come to `p'` while `events` happened to the state,
its answers being those of the state after each of some gaps. -/
def Follows (answer : σ → Q → R) (step : σ → ε → σ) (p : Client Q R β) (s : σ)
    (events : List ε) (p' : Client Q R β) : Prop :=
  ∃ gaps, gaps.flatten <+: events ∧ ∀ more,
    (p.reads answer).exec step s (gaps ++ more) =
      (p'.reads answer).exec step (gaps.flatten.foldl step s) more

variable {answer : σ → Q → R} {step : σ → ε → σ} {p p' : Client Q R β} {s : σ}
  {events : List ε}

theorem Follows.refl (p : Client Q R β) (s : σ) : Follows answer step p s events p :=
  ⟨[], List.nil_prefix, fun _ ↦ rfl⟩

theorem Follows.append (h : Follows answer step p s events p') (more : List ε) :
    Follows answer step p s (events ++ more) p' := by
  obtain ⟨gaps, hgaps, hexec⟩ := h
  exact ⟨gaps, hgaps.trans (List.prefix_append events more), hexec⟩

/-- The answer to a question is that of the state at the moment of asking. -/
theorem Follows.ask {q : Q} {k : R → Client Q R β}
    (h : Follows answer step p s events (.ask q k)) :
    Follows answer step p s events (k (answer (events.foldl step s) q)) := by
  obtain ⟨gaps, ⟨since, rfl⟩, hexec⟩ := h
  refine ⟨gaps ++ [since], by simp, fun more ↦ ?_⟩
  rw [List.append_assoc, hexec, List.flatten_append, List.foldl_append]
  simp [reads, Reads.exec, List.foldl_append]

theorem Follows.result {b : β} (h : Follows answer step p s events (.done b)) :
    ∃ gaps, gaps.flatten <+: events ∧ b = (p.reads answer).exec step s gaps := by
  obtain ⟨gaps, hgaps, hexec⟩ := h
  have hresult := hexec []
  rw [List.append_nil] at hresult
  exact ⟨gaps, hgaps, hresult.symm⟩

end Client
