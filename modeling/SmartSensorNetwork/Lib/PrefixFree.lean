import Mathlib.Tactic

/-!
# Prefix-free renderings

A stream of renderings can be cut back into its items when no rendering is a
prefix of another one.
-/

universe u v

variable {α : Type u} {β : Type v}

/-- Whatever follows, the front of the stream tells the item. -/
def PrefixFree (f : α → List β) : Prop :=
  ∀ a b s t, f a ++ s = f b ++ t → a = b

namespace PrefixFree

variable {f : α → List β}

theorem injective (hf : PrefixFree f) : Function.Injective f := by
  intro a b hab
  exact hf a b [] [] (by rw [hab])

/-- Streams of non-empty renderings are equal only if their items are. -/
theorem flatten_map_injective (hf : PrefixFree f) (hne : ∀ a, f a ≠ []) :
    Function.Injective fun l : List α ↦ (l.map f).flatten := by
  intro l m h
  induction l generalizing m with
  | nil =>
      cases m with
      | nil => rfl
      | cons b m =>
          have hnil : f b ++ (m.map f).flatten = [] := by simpa using h.symm
          exact absurd (List.append_eq_nil_iff.mp hnil).1 (hne b)
  | cons a l ih =>
      cases m with
      | nil =>
          have hnil : f a ++ (l.map f).flatten = [] := by simpa using h
          exact absurd (List.append_eq_nil_iff.mp hnil).1 (hne a)
      | cons b m =>
          have hstream : f a ++ (l.map f).flatten = f b ++ (m.map f).flatten := by simpa using h
          have hab : a = b := hf a b _ _ hstream
          subst hab
          rw [ih (List.append_cancel_left hstream)]

end PrefixFree
