import Mathlib.Tactic

/-!
# Runs seen through a projection

A projection of the state that ignores some events is determined by the
others, in their order. Runs that agree on those agree in the projection,
however the events are shuffled otherwise.
-/

universe u v w

variable {σ : Type u} {τ : Type v} {ε : Type w}

/-- `π` moves by `g` on the events that satisfy `p` and ignores all others. -/
structure Follows (f : σ → ε → σ) (π : σ → τ) (p : ε → Bool) (g : τ → ε → τ) : Prop where
  moves : ∀ s e, p e = true → π (f s e) = g (π s) e
  ignores : ∀ s e, p e = false → π (f s e) = π s

namespace Follows

variable {f : σ → ε → σ} {π : σ → τ} {p : ε → Bool} {g : τ → ε → τ}

theorem foldl_eq (h : Follows f π p g) (s : σ) (es : List ε) :
    π (es.foldl f s) = (es.filter p).foldl g (π s) := by
  induction es generalizing s with
  | nil => rfl
  | cons e es ih =>
      rw [List.foldl_cons, ih]
      cases he : p e with
      | true => rw [List.filter_cons_of_pos he, List.foldl_cons, h.moves s e he]
      | false => rw [List.filter_cons_of_neg (by simp [he]), h.ignores s e he]

theorem foldl_congr (h : Follows f π p g) (s : σ) {es fs : List ε}
    (hfilter : es.filter p = fs.filter p) : π (es.foldl f s) = π (fs.foldl f s) := by
  rw [h.foldl_eq, h.foldl_eq, hfilter]

end Follows
