import Mathlib.Tactic

/-!
# Periodic timers

A timer is sampled at times it does not choose. It fires at the first sample
at which it is due, and takes that sample for its new reference. It should be
due an interval or more after its reference.
-/

namespace PeriodicTimer

/-! ## Rules -/

section Rules

variable {τ : Type*} (due : τ → τ → Prop) [DecidableRel due]

def next (last sample : τ) : τ := if due last sample then sample else last

def reference (last : τ) (samples : List τ) : τ := samples.foldl (next due) last

def firings : τ → List τ → List τ
  | _, [] => []
  | last, sample :: samples =>
      if due last sample then sample :: firings sample samples else firings last samples

theorem firings_cons (last sample : τ) (samples : List τ) :
    firings due last (sample :: samples) =
      List.replicate (if due last sample then 1 else 0) sample ++
        firings due (next due last sample) samples := by
  rw [firings, next]
  split_ifs <;> rfl

theorem reference_cons (last sample : τ) (samples : List τ) :
    reference due last (sample :: samples) = reference due (next due last sample) samples := rfl

theorem next_eq_or (last sample : τ) :
    next due last sample = sample ∨ next due last sample = last := by
  rw [next]
  split_ifs
  · exact .inl rfl
  · exact .inr rfl

theorem reference_mem (last : τ) (samples : List τ) :
    reference due last samples ∈ last :: samples := by
  induction samples generalizing last with
  | nil => exact List.mem_singleton_self last
  | cons sample samples ih =>
      rw [reference_cons]
      rcases List.mem_cons.mp (ih (next due last sample)) with heq | hmem
      · rw [heq]
        rcases next_eq_or due last sample with h | h <;> simp [h]
      · exact List.mem_cons_of_mem _ (List.mem_cons_of_mem _ hmem)

/-- Two rules that agree on the samples cannot be told apart. -/
theorem firings_congr {due' : τ → τ → Prop} [DecidableRel due'] {last : τ} {samples : List τ}
    (h : (last :: samples).Pairwise fun s t ↦ (due s t ↔ due' s t)) :
    firings due last samples = firings due' last samples ∧
      reference due last samples = reference due' last samples := by
  induction samples generalizing last with
  | nil => exact ⟨rfl, rfl⟩
  | cons sample samples ih =>
      obtain ⟨hlast, hlater⟩ := List.pairwise_cons.mp h
      have hfirst := hlast sample List.mem_cons_self
      have hnext : next due last sample = next due' last sample := if_congr hfirst rfl rfl
      have hrest : (next due last sample :: samples).Pairwise fun s t ↦ (due s t ↔ due' s t) := by
        rcases next_eq_or due last sample with heq | heq
        · rw [heq]
          exact hlater
        · rw [heq]
          exact List.pairwise_cons.mpr ⟨fun t ht ↦ hlast t (List.mem_cons_of_mem _ ht),
            (List.pairwise_cons.mp hlater).2⟩
      obtain ⟨hfirings, hreference⟩ := ih hrest
      constructor
      · rw [firings_cons, firings_cons, hfirings, hnext, if_congr hfirst rfl rfl]
      · rw [reference_cons, reference_cons, hreference, hnext]

end Rules

variable {τ : Type*} [CommRing τ] [LinearOrder τ] [IsStrictOrderedRing τ]

/-- The rule that a timer should follow. -/
def Passed (interval last sample : τ) : Prop := interval ≤ sample - last

instance (interval : τ) : DecidableRel (Passed interval) :=
  fun last sample ↦ inferInstanceAs (Decidable (interval ≤ sample - last))

variable {interval last : τ}

/-! ## Spacing -/

theorem interval_le_of_mem_firings (hpos : 0 < interval) {samples : List τ} {t : τ}
    (ht : t ∈ firings (Passed interval) last samples) : interval ≤ t - last := by
  induction samples generalizing last with
  | nil => cases ht
  | cons sample samples ih =>
      rw [firings] at ht
      by_cases hdue : Passed interval last sample
      · rw [if_pos hdue] at ht
        rcases List.mem_cons.mp ht with rfl | ht
        · exact hdue
        · have hrest := ih ht
          have hfirst : interval ≤ sample - last := hdue
          linarith
      · rw [if_neg hdue] at ht
        exact ih ht

theorem pairwise_firings (hpos : 0 < interval) (samples : List τ) :
    (last :: firings (Passed interval) last samples).Pairwise fun s t ↦ interval ≤ t - s := by
  apply List.pairwise_cons.mpr
  refine ⟨fun t ht ↦ interval_le_of_mem_firings hpos ht, ?_⟩
  induction samples generalizing last with
  | nil => exact List.Pairwise.nil
  | cons sample samples ih =>
      rw [firings]
      by_cases hdue : Passed interval last sample
      · rw [if_pos hdue]
        exact List.pairwise_cons.mpr ⟨fun t ht ↦ interval_le_of_mem_firings hpos ht, ih⟩
      · rw [if_neg hdue]
        exact ih

/-! ## Counting -/

theorem length_mul_le_reference (samples : List τ) :
    ((firings (Passed interval) last samples).length : τ) * interval ≤
      reference (Passed interval) last samples - last := by
  induction samples generalizing last with
  | nil => simp [firings, reference]
  | cons sample samples ih =>
      rw [firings, reference, List.foldl_cons, next]
      by_cases hdue : Passed interval last sample
      · rw [if_pos hdue, if_pos hdue, List.length_cons, Nat.cast_succ]
        have hrest := @ih sample
        have hfirst : interval ≤ sample - last := hdue
        rw [reference] at hrest
        linarith
      · rw [if_neg hdue, if_neg hdue]
        exact ih

theorem length_mul_le {samples : List τ} {now : τ} (hordered : ∀ s ∈ last :: samples, s ≤ now) :
    ((firings (Passed interval) last (samples ++ [now])).length : τ) * interval ≤ now - last := by
  have hcount : ((firings (Passed interval) last (samples ++ [now])).length : τ) * interval ≤
      reference (Passed interval) last (samples ++ [now]) - last :=
    length_mul_le_reference (samples ++ [now])
  have hle : reference (Passed interval) last (samples ++ [now]) ≤ now := by
    have hmem : reference (Passed interval) last (samples ++ [now]) ∈ last :: (samples ++ [now]) :=
      reference_mem (Passed interval) last (samples ++ [now])
    rw [← List.cons_append] at hmem
    rcases List.mem_append.mp hmem with hmem | hmem
    · exact hordered _ hmem
    · exact (List.mem_singleton.mp hmem).le
  linarith

omit [IsStrictOrderedRing τ] in
/-- After a sample less than an interval has passed since the reference. -/
theorem sub_reference_lt (hpos : 0 < interval) (samples : List τ) (now : τ) :
    now - reference (Passed interval) last (samples ++ [now]) < interval := by
  rw [reference, List.foldl_append, List.foldl_cons, List.foldl_nil, next]
  split_ifs with hdue
  · rwa [sub_self]
  · exact not_le.mp hdue

/-- `previous` is the time before the first sample. The slack stands for what
has passed since the reference, up to an interval. -/
theorem elapsed_lt_of_slack (hpos : 0 < interval) {gap : τ} (samples : List τ) {previous slack : τ}
    (hprevious : previous - last < interval + slack) (hslack : 0 ≤ slack)
    (hgaps : (previous :: samples).IsChain fun s t ↦ t - s ≤ gap) :
    samples.getLastD previous - last <
      (firings (Passed interval) last samples).length * (interval + gap) + (interval + slack) := by
  induction samples generalizing last previous slack with
  | nil => simpa [firings] using hprevious
  | cons sample samples ih =>
      obtain ⟨hstep, hrest⟩ := List.isChain_cons_cons.mp hgaps
      rw [firings, List.getLastD_cons]
      by_cases hdue : Passed interval last sample
      · rw [if_pos hdue, List.length_cons, Nat.cast_succ]
        have hnow : sample - sample < interval + 0 := by simpa using hpos
        have hlast := ih hnow le_rfl hrest
        linarith
      · rw [if_neg hdue]
        have hnow : sample - last < interval + 0 := by simpa using not_le.mp hdue
        have hlast := ih hnow le_rfl hrest
        linarith

/-- If the samples are at most `gap` apart, then the timer fires at least once
in any time of an interval and a gap. -/
theorem elapsed_lt (hpos : 0 < interval) {gap previous : τ} (hgap : 0 ≤ gap)
    (hprevious : previous - last ≤ gap) {samples : List τ}
    (hgaps : (previous :: samples).IsChain fun s t ↦ t - s ≤ gap) :
    samples.getLastD previous - last <
      ((firings (Passed interval) last samples).length + 1) * (interval + gap) := by
  have hslack : previous - last < interval + gap := by linarith
  have hlast := elapsed_lt_of_slack hpos samples hslack hgap hgaps
  linarith

end PeriodicTimer
