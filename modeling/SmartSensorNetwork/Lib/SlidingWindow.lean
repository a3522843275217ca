import Mathlib.Data.List.DropRight
import Mathlib.Tactic

/-!
# Sliding windows

A list that takes new elements at its end and gives up its first element when
it has grown too long holds the last elements of all that it was given.
-/

namespace SlidingWindow

variable {α : Type*}

/-- Append, then trim. -/
def push (size : ℕ) (window : List α) (x : α) : List α :=
  let window := window ++ [x]
  if size < window.length then window.tail else window

theorem length_rtake (size : ℕ) (xs : List α) : (xs.rtake size).length = min xs.length size := by
  rw [List.rtake, List.length_drop]
  omega

theorem push_rtake (size : ℕ) (xs : List α) (x : α) :
    push size (xs.rtake size) x = (xs ++ [x]).rtake size := by
  have hmoved : xs.rtake size ++ [x] = (xs ++ [x]).drop (xs.length - size) := by
    rw [List.rtake, List.drop_append_of_le_length (Nat.sub_le _ _)]
  have hlength : (xs.rtake size ++ [x]).length = min xs.length size + 1 := by
    rw [List.length_append, length_rtake, List.length_singleton]
  rw [push, hlength, hmoved, List.rtake, List.length_append, List.length_singleton]
  split_ifs with hfull
  · -- the window was full, and its first element is the one that leaves
    rw [List.tail_drop]
    congr 1
    omega
  · congr 1
    omega

/-- Given all the elements one by one, the window holds the last of them. -/
theorem foldl_push (size : ℕ) (xs ys : List α) :
    ys.foldl (push size) (xs.rtake size) = (xs ++ ys).rtake size := by
  induction ys generalizing xs with
  | nil => rw [List.foldl_nil, List.append_nil]
  | cons y ys ih => rw [List.foldl_cons, push_rtake, ih, List.append_assoc, List.singleton_append]

/-- The elements of the window are the last ones in their order. -/
theorem getElem?_rtake (size : ℕ) (xs : List α) (k : ℕ) :
    (xs.rtake size)[k]? = xs[xs.length - min xs.length size + k]? := by
  have hstart : xs.length - size = xs.length - min xs.length size := by omega
  rw [List.rtake, List.getElem?_drop, hstart]

end SlidingWindow
