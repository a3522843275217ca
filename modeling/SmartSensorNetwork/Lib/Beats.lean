import Mathlib.Tactic

/-!
# Beats over a channel with bounded delay

A sender sends a beat less than `spacing` after the one before it, and a
channel delivers each of them within `delay`, in any order and as often as it
likes. Whoever has received a beat at all has received a recent one.
-/

namespace Beats

variable {τ : Type*} [AddCommMonoid τ] [LinearOrder τ] [IsOrderedCancelAddMonoid τ]

structure Beat (τ : Type*) where
  sentAt : τ
  arrived : Bool

/-- The beats sent so far, the newest first. -/
structure Timely (spacing delay now : τ) (beats : List (Beat τ)) : Prop where
  spaced : beats.IsChain fun newer older ↦ newer.sentAt < older.sentAt + spacing
  deadline : ∀ b ∈ beats, b.arrived = false → now ≤ b.sentAt + delay

variable {spacing delay now : τ} {beats : List (Beat τ)}

omit [IsOrderedCancelAddMonoid τ] in
theorem Timely.nil : Timely spacing delay now ([] : List (Beat τ)) where
  spaced := List.isChain_nil
  deadline b hb := by cases hb

theorem Timely.send (h : Timely spacing delay now beats) (hdelay : 0 ≤ delay)
    (hrecent : ∀ b ∈ beats.head?, now < b.sentAt + spacing) :
    Timely spacing delay now (⟨now, false⟩ :: beats) where
  spaced := by
    cases beats with
    | nil => exact List.isChain_singleton _
    | cons b bs => exact List.isChain_cons_cons.mpr ⟨hrecent b rfl, h.spaced⟩
  deadline b hb harrived := by
    rcases List.mem_cons.mp hb with rfl | hb
    · exact le_add_of_nonneg_right hdelay
    · exact h.deadline b hb harrived

omit [IsOrderedCancelAddMonoid τ] in
/-- Some beats arrive, perhaps not for the first time. -/
theorem Timely.arrive {α : Type*} {l : List α} {f g : α → Beat τ}
    (h : Timely spacing delay now (l.map f)) (hsentAt : ∀ a, (g a).sentAt = (f a).sentAt)
    (harrived : ∀ a, (f a).arrived = true → (g a).arrived = true) :
    Timely spacing delay now (l.map g) where
  spaced := by
    have hspaced := h.spaced
    rw [List.isChain_map] at hspaced ⊢
    simpa only [hsentAt] using hspaced
  deadline b hb hmissing := by
    obtain ⟨a, ha, rfl⟩ := List.mem_map.mp hb
    rw [hsentAt]
    apply h.deadline (f a) (List.mem_map_of_mem ha)
    by_contra hnot
    rw [harrived a (Bool.eq_true_of_not_eq_false hnot)] at hmissing
    cases hmissing

/-- The beat before the oldest missing one has arrived, and the sender did not
wait long after it. -/
theorem exists_recent_arrival_from {x : τ} (hx : now ≤ x + delay)
    (hhead : ∀ b ∈ beats.head?, x < b.sentAt + spacing) (h : Timely spacing delay now beats)
    (harrived : ∃ b ∈ beats, b.arrived = true) :
    ∃ b ∈ beats, b.arrived = true ∧ now < b.sentAt + (spacing + delay) := by
  induction beats generalizing x with
  | nil =>
      obtain ⟨b, hb, -⟩ := harrived
      cases hb
  | cons b bs ih =>
      have hb : x < b.sentAt + spacing := hhead b rfl
      cases hfirst : b.arrived with
      | true =>
          refine ⟨b, List.mem_cons_self, hfirst, ?_⟩
          calc now ≤ x + delay := hx
            _ < b.sentAt + spacing + delay := by gcongr
            _ = b.sentAt + (spacing + delay) := add_assoc _ _ _
      | false =>
          have hlate : now ≤ b.sentAt + delay := h.deadline b List.mem_cons_self hfirst
          have hrest : ∃ c ∈ bs, c.arrived = true := by
            obtain ⟨c, hc, hcarrived⟩ := harrived
            rcases List.mem_cons.mp hc with rfl | hc
            · rw [hfirst] at hcarrived
              cases hcarrived
            · exact ⟨c, hc, hcarrived⟩
          have htimely : Timely spacing delay now bs :=
            ⟨h.spaced.tail, fun c hc ↦ h.deadline c (List.mem_cons_of_mem _ hc)⟩
          have hnext : ∀ c ∈ bs.head?, b.sentAt < c.sentAt + spacing := by
            intro c hc
            obtain ⟨cs, rfl⟩ := List.head?_eq_some_iff.mp hc
            exact (List.isChain_cons_cons.mp h.spaced).1
          obtain ⟨c, hc, hcarrived, hrecent⟩ := ih hlate hnext htimely hrest
          exact ⟨c, List.mem_cons_of_mem _ hc, hcarrived, hrecent⟩

theorem Timely.exists_recent_arrival (h : Timely spacing delay now beats) (hdelay : 0 ≤ delay)
    (hrecent : ∀ b ∈ beats.head?, now < b.sentAt + spacing)
    (harrived : ∃ b ∈ beats, b.arrived = true) :
    ∃ b ∈ beats, b.arrived = true ∧ now < b.sentAt + (spacing + delay) :=
  exists_recent_arrival_from (le_add_of_nonneg_right hdelay) hrecent h harrived

end Beats
