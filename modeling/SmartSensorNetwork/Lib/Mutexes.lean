import Mathlib.Data.Finset.Option
import Mathlib.Data.Fintype.Option
import Mathlib.Logic.Hydra
import Mathlib.Tactic
import SmartSensorNetwork.Lib.Runs

/-!
# Nested mutexes

Threads run code that takes and releases several mutexes, one within another.
If each thread takes them in the order of their ranks, whoever holds a mutex
can go on until all of them are free. Every call is a finite tree, so what the
holders have still to do is a multiset that shrinks with each of their steps.
-/

namespace Mutexes

universe u v

open Relation

/-- The statements of a call. Each sees an input from outside and the shared
state; one that takes a mutex waits until it is free. -/
inductive Code (σ ι : Type u) (L : Type u) (β : Type u) where
  | done (b : β)
  | act (f : ι → σ → σ) (k : ι → σ → Code σ ι L β)
  | lock (l : L) (k : Code σ ι L β)
  | unlock (l : L) (k : Code σ ι L β)

variable {σ ι L κ : Type u} {θ : Type v}

/-- The code of a call ends in what the thread goes on with. -/
structure Config (σ ι L κ : Type u) (θ : Type v) where
  shared : σ
  holder : L → Option θ := fun _ ↦ none
  position : θ → Code σ ι L κ

section Step

variable [DecidableEq L] [DecidableEq θ] (program : κ → Option (Code σ ι L κ))

def step (c : Config σ ι L κ θ) (e : θ × ι) : Option (Config σ ι L κ θ) :=
  match c.position e.1 with
  | .done l => (program l).map fun code ↦
      { c with position := Function.update c.position e.1 code }
  | .act f k => some { c with
      shared := f e.2 c.shared
      position := Function.update c.position e.1 (k e.2 c.shared) }
  | .lock l k =>
      if c.holder l = none then
        some { c with
          holder := Function.update c.holder l (some e.1)
          position := Function.update c.position e.1 k }
      else none
  | .unlock l k => some { c with
      holder := Function.update c.holder l none
      position := Function.update c.position e.1 k }

def init (shared : σ) (start : θ → κ) : Config σ ι L κ θ where
  shared := shared
  position t := .done (start t)

/-- However the threads that hold a mutex go on, and whatever they see, all
mutexes come to be free; until then one of these threads can always go on. -/
inductive ComesFree : Config σ ι L κ θ → Prop
  | free {c : Config σ ι L κ θ} (h : ∀ l, c.holder l = none) : ComesFree c
  | held {c : Config σ ι L κ θ} {t : θ} (ht : ∃ l, c.holder l = some t)
      (hgoes : ∀ x, (step program c (t, x)).isSome)
      (h : ∀ t x c', (∃ l, c.holder l = some t) → step program c (t, x) = some c' →
        ComesFree c') : ComesFree c

end Step

/-- The code that may be left after the first statement. -/
inductive Next : Code σ ι L κ → Code σ ι L κ → Prop
  | act (f : ι → σ → σ) (k : ι → σ → Code σ ι L κ) (x : ι) (s : σ) : Next (k x s) (.act f k)
  | lock (l : L) (k : Code σ ι L κ) : Next k (.lock l k)
  | unlock (l : L) (k : Code σ ι L κ) : Next k (.unlock l k)

theorem wellFounded_next : WellFounded (Next : Code σ ι L κ → Code σ ι L κ → Prop) := by
  refine ⟨fun code ↦ ?_⟩
  induction code with
  | done b => exact ⟨_, fun _ h ↦ by cases h⟩
  | act f k ih =>
      refine ⟨_, fun _ h ↦ ?_⟩
      cases h with
      | act _ _ x s => exact ih x s
  | lock l k ih =>
      refine ⟨_, fun _ h ↦ ?_⟩
      cases h
      exact ih
  | unlock l k ih =>
      refine ⟨_, fun _ h ↦ ?_⟩
      cases h
      exact ih

/-- Code that starts with the mutexes of the list held, the last one taken
first in the list. It takes mutexes in increasing rank, releases the last one
taken first and holds none at its end. -/
inductive Ordered (rank : L → ℕ) : List L → Code σ ι L κ → Prop
  | done (b : κ) : Ordered rank [] (.done b)
  | act {held : List L} {f : ι → σ → σ} {k : ι → σ → Code σ ι L κ}
      (h : ∀ x s, Ordered rank held (k x s)) : Ordered rank held (.act f k)
  | lock {held : List L} {l : L} {k : Code σ ι L κ} (hrank : ∀ l' ∈ held, rank l' < rank l)
      (h : Ordered rank (l :: held) k) : Ordered rank held (.lock l k)
  | unlock {held : List L} {l : L} {k : Code σ ι L κ} (h : Ordered rank held k) :
      Ordered rank (l :: held) (.unlock l k)

theorem ordered_done {rank : L → ℕ} {held : List L} {b : κ} :
    Ordered rank held (.done b : Code σ ι L κ) ↔ held = [] := by
  refine ⟨fun h ↦ ?_, ?_⟩
  · cases h
    rfl
  · rintro rfl
    exact .done b

theorem ordered_act {rank : L → ℕ} {held : List L} {f : ι → σ → σ}
    {k : ι → σ → Code σ ι L κ} :
    Ordered rank held (.act f k) ↔ ∀ x s, Ordered rank held (k x s) := by
  refine ⟨fun h ↦ ?_, .act⟩
  cases h with
  | act h => exact h

theorem ordered_lock {rank : L → ℕ} {held : List L} {l : L} {k : Code σ ι L κ} :
    Ordered rank held (.lock l k) ↔
      (∀ l' ∈ held, rank l' < rank l) ∧ Ordered rank (l :: held) k := by
  refine ⟨fun h ↦ ?_, fun ⟨hrank, h⟩ ↦ .lock hrank h⟩
  cases h with
  | lock hrank h => exact ⟨hrank, h⟩

theorem ordered_unlock {rank : L → ℕ} {held : List L} {l : L} {k : Code σ ι L κ} :
    Ordered rank held (.unlock l k) ↔ ∃ rest, held = l :: rest ∧ Ordered rank rest k := by
  refine ⟨fun h ↦ ?_, ?_⟩
  · cases h with
    | unlock h => exact ⟨_, rfl, h⟩
  · rintro ⟨rest, rfl, h⟩
    exact .unlock h

/-- What each thread holds, and that its code goes on from there. -/
structure Holds (rank : L → ℕ) (c : Config σ ι L κ θ) (held : θ → List L) : Prop where
  ordered : ∀ t, Ordered rank (held t) (c.position t)
  decreasing : ∀ t, (held t).Pairwise fun l l' ↦ rank l' < rank l
  holder_iff : ∀ l t, c.holder l = some t ↔ l ∈ held t

variable {rank : L → ℕ} {c c' : Config σ ι L κ θ} {held : θ → List L} {t : θ} {l : L}

/-! ## One step -/

theorem holds_init (rank : L → ℕ) (shared : σ) (start : θ → κ) :
    Holds rank (init shared start : Config σ ι L κ θ) fun _ ↦ [] where
  ordered t := .done (start t)
  decreasing t := .nil
  holder_iff l t := by simp [init]

section Updates

variable [DecidableEq θ]

theorem Holds.position (h : Holds rank c held) {code : Code σ ι L κ} (shared : σ)
    (hcode : Ordered rank (held t) code) :
    Holds rank { c with
      shared := shared
      position := Function.update c.position t code } held where
  ordered t' := by
    rcases eq_or_ne t' t with rfl | hne
    · simpa using hcode
    · simpa only [Function.update_of_ne hne] using h.ordered t'
  decreasing := h.decreasing
  holder_iff := h.holder_iff

variable [DecidableEq L]

theorem Holds.take (h : Holds rank c held) {k : Code σ ι L κ} (hfree : c.holder l = none)
    (hrank : ∀ l' ∈ held t, rank l' < rank l) (hk : Ordered rank (l :: held t) k) :
    Holds rank { c with
      holder := Function.update c.holder l (some t)
      position := Function.update c.position t k } (Function.update held t (l :: held t)) where
  ordered t' := by
    rcases eq_or_ne t' t with rfl | hne
    · simpa using hk
    · simpa only [Function.update_of_ne hne] using h.ordered t'
  decreasing t' := by
    rcases eq_or_ne t' t with rfl | hne
    · simpa using ⟨hrank, h.decreasing t'⟩
    · simpa only [Function.update_of_ne hne] using h.decreasing t'
  holder_iff l' t' := by
    have hnobody : ∀ t'', l ∉ held t'' := fun t'' hl ↦ by
      rw [(h.holder_iff l t'').mpr hl] at hfree
      cases hfree
    have hold := h.holder_iff l' t'
    rcases eq_or_ne l' l with rfl | hl <;> rcases eq_or_ne t' t with rfl | ht
    · simp
    · simp [ht, ht.symm, hnobody]
    · simp [hl, hold]
    · simp [hl, ht, hold]

theorem Holds.release (h : Holds rank c held) {rest : List L} {k : Code σ ι L κ}
    (hheld : held t = l :: rest) (hk : Ordered rank rest k) :
    Holds rank { c with
      holder := Function.update c.holder l none
      position := Function.update c.position t k } (Function.update held t rest) where
  ordered t' := by
    rcases eq_or_ne t' t with rfl | hne
    · simpa using hk
    · simpa only [Function.update_of_ne hne] using h.ordered t'
  decreasing t' := by
    rcases eq_or_ne t' t with rfl | hne
    · have hbefore := h.decreasing t'
      rw [hheld] at hbefore
      simpa using (List.pairwise_cons.mp hbefore).2
    · simpa only [Function.update_of_ne hne] using h.decreasing t'
  holder_iff l' t' := by
    have hmine : c.holder l = some t := (h.holder_iff l t).mpr (by simp [hheld])
    have hbefore := h.decreasing t
    rw [hheld] at hbefore
    have hlast : l ∉ rest := fun hl ↦ lt_irrefl _ ((List.pairwise_cons.mp hbefore).1 l hl)
    have hold := h.holder_iff l' t'
    rcases eq_or_ne l' l with rfl | hl <;> rcases eq_or_ne t' t with rfl | ht
    · simp [hlast]
    · rw [hmine] at hold
      simpa [ht] using fun hl ↦ ht (Option.some.inj (hold.mpr hl)).symm
    · rw [hheld] at hold
      simpa [hl] using hold
    · simpa [hl, ht] using hold

theorem step_cases {program : κ → Option (Code σ ι L κ)} {x : ι}
    (h : step program c (t, x) = some c') :
    (∃ b code, c.position t = .done b ∧ program b = some code ∧
      c' = { c with position := Function.update c.position t code }) ∨
    (∃ f k, c.position t = .act f k ∧ c' = { c with
      shared := f x c.shared
      position := Function.update c.position t (k x c.shared) }) ∨
    (∃ l k, c.position t = .lock l k ∧ c.holder l = none ∧ c' = { c with
      holder := Function.update c.holder l (some t)
      position := Function.update c.position t k }) ∨
    (∃ l k, c.position t = .unlock l k ∧ c' = { c with
      holder := Function.update c.holder l none
      position := Function.update c.position t k }) := by
  rw [step] at h
  cases hposition : c.position t with
  | done b =>
      simp only [hposition] at h
      obtain ⟨code, hcode, rfl⟩ := Option.map_eq_some_iff.mp h
      exact .inl ⟨b, code, rfl, hcode, rfl⟩
  | act f k =>
      simp only [hposition] at h
      exact .inr (.inl ⟨f, k, rfl, (Option.some.inj h).symm⟩)
  | lock l k =>
      simp only [hposition] at h
      obtain ⟨hfree, rfl⟩ := Runs.of_guard h
      exact .inr (.inr (.inl ⟨l, k, rfl, hfree, rfl⟩))
  | unlock l k =>
      simp only [hposition] at h
      exact .inr (.inr (.inr ⟨l, k, rfl, (Option.some.inj h).symm⟩))

theorem holds_step {program : κ → Option (Code σ ι L κ)}
    (hprogram : ∀ b code, program b = some code → Ordered rank [] code)
    (h : Holds rank c held) {x : ι} (hstep : step program c (t, x) = some c') :
    ∃ held', Holds rank c' held' := by
  have hmine := h.ordered t
  obtain ⟨b, code, hposition, hcode, rfl⟩ | ⟨f, k, hposition, rfl⟩ |
    ⟨l, k, hposition, hfree, rfl⟩ | ⟨l, k, hposition, rfl⟩ := step_cases hstep
  all_goals rw [hposition] at hmine
  · have hnone : held t = [] := ordered_done.mp hmine
    exact ⟨held, h.position c.shared (hnone ▸ hprogram b code hcode)⟩
  · exact ⟨held, h.position _ (ordered_act.mp hmine x c.shared)⟩
  · obtain ⟨hrank, hk⟩ := ordered_lock.mp hmine
    exact ⟨_, h.take hfree hrank hk⟩
  · obtain ⟨rest, hheld, hk⟩ := ordered_unlock.mp hmine
    exact ⟨_, h.release hheld hk⟩

/-! ## The holders -/

section Holders

variable [Fintype L]

def holders (c : Config σ ι L κ θ) : Finset θ := (Finset.univ.image c.holder).eraseNone

omit [DecidableEq L] in
theorem mem_holders : t ∈ holders c ↔ ∃ l, c.holder l = some t := by
  simp [holders]

/-- What the holders have still to do. -/
def work (c : Config σ ι L κ θ) : Multiset (Code σ ι L κ) := (holders c).val.map c.position

omit [DecidableEq L] in
theorem work_of_mem (ht : t ∈ holders c) :
    work c = c.position t ::ₘ ((holders c).erase t).val.map c.position := by
  have hinsert := Finset.insert_val_of_notMem (Finset.notMem_erase t (holders c))
  rw [Finset.insert_erase ht] at hinsert
  rw [work, hinsert, Multiset.map_cons]

omit [DecidableEq L] in
/-- A holder goes on in its code and the others stay where they are. -/
theorem cutExpand_work (ht : t ∈ holders c)
    (hothers : ∀ t' ≠ t, (t' ∈ holders c' ↔ t' ∈ holders c) ∧ c'.position t' = c.position t')
    (hnext : Next (c'.position t) (c.position t)) : CutExpand Next (work c') (work c) := by
  have hrest : (holders c').erase t = (holders c).erase t := by
    ext t'
    rw [Finset.mem_erase, Finset.mem_erase]
    exact and_congr_right fun hne ↦ (hothers t' hne).1
  have hsame : ((holders c').erase t).val.map c'.position =
      ((holders c).erase t).val.map c.position := by
    rw [hrest]
    exact Multiset.map_congr rfl fun t' ht' ↦ (hothers t' (Finset.ne_of_mem_erase ht')).2
  rw [work_of_mem ht]
  by_cases ht' : t ∈ holders c'
  · rw [work_of_mem ht', hsame]
    refine ⟨{c'.position t}, c.position t, by simpa using hnext, ?_⟩
    simp only [← Multiset.singleton_add]
    abel
  · rw [work, ← Finset.erase_eq_of_notMem ht', hsame]
    refine ⟨0, c.position t, by simp, ?_⟩
    rw [add_zero, ← Multiset.singleton_add, add_comm]

theorem cutExpand_of_step {program : κ → Option (Code σ ι L κ)} (h : Holds rank c held)
    (ht : t ∈ holders c) {x : ι} (hstep : step program c (t, x) = some c') :
    CutExpand Next (work c') (work c) := by
  have hmine := h.ordered t
  have hholds : held t ≠ [] := by
    obtain ⟨l, hl⟩ := mem_holders.mp ht
    exact List.ne_nil_of_mem ((h.holder_iff l t).mp hl)
  obtain ⟨b, code, hposition, hcode, rfl⟩ | ⟨f, k, hposition, rfl⟩ |
    ⟨l, k, hposition, hfree, rfl⟩ | ⟨l, k, hposition, rfl⟩ := step_cases hstep
  · rw [hposition] at hmine
    exact absurd (ordered_done.mp hmine) hholds
  · apply cutExpand_work ht
    · intro t' hne
      exact ⟨by simp [mem_holders], by simp [hne]⟩
    · simpa only [hposition, Function.update_self] using Next.act f k x c.shared
  · apply cutExpand_work ht
    · intro t' hne
      refine ⟨?_, by simp [hne]⟩
      rw [mem_holders, mem_holders]
      refine exists_congr fun l' ↦ ?_
      by_cases hl : l' = l
      · subst hl
        simp [hfree, hne.symm]
      · simp [hl]
    · simpa only [hposition, Function.update_self] using Next.lock l k
  · have hheld : c.holder l = some t := by
      rw [hposition] at hmine
      obtain ⟨rest, hmineEq, -⟩ := ordered_unlock.mp hmine
      exact (h.holder_iff l t).mpr (by simp [hmineEq])
    apply cutExpand_work ht
    · intro t' hne
      refine ⟨?_, by simp [hne]⟩
      rw [mem_holders, mem_holders]
      refine exists_congr fun l' ↦ ?_
      by_cases hl : l' = l
      · subst hl
        simp [hheld, hne.symm]
      · simp [hl]
    · simpa only [hposition, Function.update_self] using Next.unlock l k

/-- The holder of the mutex of the highest rank waits for none. -/
theorem exists_goes_on (program : κ → Option (Code σ ι L κ)) (h : Holds rank c held)
    (hheld : ∃ l, c.holder l ≠ none) :
    ∃ t, (∃ l, c.holder l = some t) ∧ ∀ x, (step program c (t, x)).isSome := by
  obtain ⟨l₀, hl₀⟩ := hheld
  obtain ⟨l, hl, hmax⟩ := Finset.exists_max_image (Finset.univ.filter fun l ↦ c.holder l ≠ none)
    rank ⟨l₀, by simpa using hl₀⟩
  obtain ⟨t, ht⟩ := Option.ne_none_iff_exists'.mp (Finset.mem_filter.mp hl).2
  refine ⟨t, ⟨l, ht⟩, fun x ↦ ?_⟩
  have hmine := h.ordered t
  have hmem : l ∈ held t := (h.holder_iff l t).mp ht
  cases hposition : c.position t with
  | done b =>
      rw [hposition] at hmine
      simp [ordered_done.mp hmine] at hmem
  | act f k => simp [step, hposition]
  | unlock l' k => simp [step, hposition]
  | lock l' k =>
      rw [hposition] at hmine
      have hrank := (ordered_lock.mp hmine).1
      have hfree : c.holder l' = none := by
        by_contra hbusy
        have hle := hmax l' (by simpa using hbusy)
        exact absurd (hrank l hmem) (not_lt.mpr hle)
      simp [step, hposition, hfree]

theorem comesFree {program : κ → Option (Code σ ι L κ)}
    (hprogram : ∀ b code, program b = some code → Ordered rank [] code)
    (h : Holds rank c held) : ComesFree program c := by
  have hwf : WellFounded (CutExpand (Next : Code σ ι L κ → Code σ ι L κ → Prop)) :=
    wellFounded_next.cutExpand
  induction hw : work c using hwf.induction generalizing c held with
  | _ w ih =>
      by_cases hfree : ∀ l, c.holder l = none
      · exact .free hfree
      · obtain ⟨t, ht, hgoes⟩ := exists_goes_on program h (not_forall.mp hfree)
        refine .held ht hgoes fun t' x c' ht' hstep ↦ ?_
        obtain ⟨held', h'⟩ := holds_step hprogram h hstep
        apply ih (work c') _ h' rfl
        rw [← hw]
        exact cutExpand_of_step h (mem_holders.mpr ht') hstep

end Holders

/-- With all mutexes free nobody waits. -/
theorem goes_on_of_free {program : κ → Option (Code σ ι L κ)} (hfree : ∀ l, c.holder l = none)
    (t : θ) (x : ι) :
    (∃ b, c.position t = .done b ∧ program b = none) ∨ (step program c (t, x)).isSome := by
  cases hposition : c.position t with
  | done b =>
      cases hprogram : program b with
      | none => exact .inl ⟨b, rfl, hprogram⟩
      | some code => simp [step, hposition, hprogram]
  | act f k => simp [step, hposition]
  | lock l k => simp [step, hposition, hfree]
  | unlock l k => simp [step, hposition]

/-- In every state that a run reaches. -/
theorem comesFree_of_run [Finite L] {program : κ → Option (Code σ ι L κ)}
    (hprogram : ∀ b code, program b = some code → Ordered rank [] code) {shared : σ}
    {start : θ → κ} {schedule : List (θ × ι)}
    (hrun : Runs.run (step program) (init shared start) schedule = some c) :
    ComesFree program c := by
  have := Fintype.ofFinite L
  have hholds : ∃ held, Holds rank c held :=
    Runs.invariant_run (I := fun c ↦ ∃ held, Holds rank c held)
      (fun _ e _ ⟨_, h⟩ hstep ↦ holds_step hprogram (t := e.1) h hstep)
      ⟨_, holds_init rank shared start⟩ hrun
  obtain ⟨held, h⟩ := hholds
  exact comesFree hprogram h

end Updates

end Mutexes
