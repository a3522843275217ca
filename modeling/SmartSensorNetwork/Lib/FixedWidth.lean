import Mathlib.Data.List.GetD
import SmartSensorNetwork.Lib.CppStd

/-!
# Text of a fixed width

A text is padded to the width of its column, or cut and marked by an ellipsis.
Lines of one length are determined by what is printed of them.
-/

namespace FixedWidth

variable {α : Type*}

section Column

variable (width : ℕ) (blank : α) (ellipsis text : List α)

def fitted : List α :=
  if text.length ≤ width then text ++ List.replicate (width - text.length) blank
  else text.take (width - ellipsis.length) ++ ellipsis

/-- What the column shows of the text. -/
def visible : List α :=
  if text.length ≤ width then text else text.take (width - ellipsis.length)

theorem length_fitted (h : ellipsis.length ≤ width) :
    (fitted width blank ellipsis text).length = width := by
  unfold fitted
  split_ifs with hshort
  · rw [List.length_append, List.length_replicate]
    omega
  · rw [List.length_append, List.length_take]
    omega

theorem visible_prefix_fitted : visible width ellipsis text <+: fitted width blank ellipsis text := by
  unfold visible fitted
  split_ifs with hshort
  · exact List.prefix_append text _
  · exact List.prefix_append _ ellipsis

/-- A column shows the text, blanks and the ellipsis. -/
theorem mem_fitted {x : α} (hx : x ∈ fitted width blank ellipsis text) :
    x ∈ visible width ellipsis text ∨ x = blank ∨ x ∈ ellipsis := by
  unfold fitted at hx
  unfold visible
  split_ifs at hx ⊢ with hshort
  · rcases List.mem_append.mp hx with hx | hx
    · exact .inl hx
    · exact .inr (.inl (List.eq_of_mem_replicate hx))
  · rcases List.mem_append.mp hx with hx | hx
    · exact .inl hx
    · exact .inr (.inr hx)

theorem mem_of_mem_visible {x : α} (hx : x ∈ visible width ellipsis text) : x ∈ text := by
  unfold visible at hx
  split_ifs at hx with hshort
  · exact hx
  · exact List.mem_of_mem_take hx

/-- A label leaves its text the rest of the column. -/
theorem visible_append (label : List α) (h : label.length + ellipsis.length ≤ width) :
    visible width ellipsis (label ++ text) =
      label ++ visible (width - label.length) ellipsis text := by
  have hcut : width - label.length - ellipsis.length = width - ellipsis.length - label.length :=
    Nat.sub_right_comm width label.length ellipsis.length
  unfold visible
  rw [List.length_append]
  by_cases hshort : text.length ≤ width - label.length
  · rw [if_pos hshort, if_pos (by omega)]
  · rw [if_neg hshort, if_neg (by omega), List.take_append, hcut,
      List.take_of_length_le (by omega)]

end Column

/-! ## Lines of one length -/

theorem eq_of_flatten_eq {width : ℕ} {ls ms : List (List α)} (hls : ∀ l ∈ ls, l.length = width)
    (hms : ∀ m ∈ ms, m.length = width) (hlength : ls.length = ms.length)
    (h : ls.flatten = ms.flatten) : ls = ms := by
  have hmap : ∀ {ns : List (List α)}, (∀ n ∈ ns, n.length = width) →
      ns.map List.length = List.replicate ns.length width := by
    intro ns hns
    apply List.eq_replicate_iff.mpr
    refine ⟨List.length_map .., fun k hk ↦ ?_⟩
    obtain ⟨n, hn, rfl⟩ := List.mem_map.mp hk
    exact hns n hn
  apply List.eq_iff_flatten_eq.mpr
  exact ⟨h, by rw [hmap hls, hmap hms, hlength]⟩

/-- Rows of one length are determined by the text that they are lines of. -/
theorem eq_of_unlines_eq {width : ℕ} {ls ms : List CppStd.ByteString}
    (hls : ∀ l ∈ ls, l.length = width) (hms : ∀ m ∈ ms, m.length = width)
    (hlength : ls.length = ms.length) (h : CppStd.unlines ls = CppStd.unlines ms) : ls = ms := by
  have hends : ∀ {ns : List CppStd.ByteString}, (∀ n ∈ ns, n.length = width) →
      ∀ n ∈ ns.map (· ++ [10]), n.length = width + 1 := by
    intro ns hns n hn
    obtain ⟨l, hl, rfl⟩ := List.mem_map.mp hn
    rw [List.length_append, hns l hl, List.length_singleton]
  have hmapped : ls.map (· ++ [10]) = ms.map (· ++ [10]) := by
    apply eq_of_flatten_eq (hends hls) (hends hms)
    · rw [List.length_map, List.length_map, hlength]
    · exact h
  exact List.map_injective_iff.mpr (List.append_left_injective [10]) hmapped

/-! ## Rows that may fail -/

/-- A list read past its end, up to a bound that covers it. -/
theorem forall_getD_iff {p : α → Prop} {default : α} (hdefault : p default) {xs : List α} {n : ℕ}
    (hn : xs.length ≤ n) : (∀ i < n, p (xs.getD i default)) ↔ ∀ x ∈ xs, p x := by
  constructor
  · intro h x hx
    obtain ⟨i, hi, rfl⟩ := List.mem_iff_getElem.mp hx
    have hp := h i (hi.trans_le hn)
    rwa [List.getD_eq_getElem xs default hi] at hp
  · intro h i _
    by_cases hi : i < xs.length
    · rw [List.getD_eq_getElem xs default hi]
      exact h _ (List.getElem_mem hi)
    · rw [List.getD_eq_default xs default (not_lt.mp hi)]
      exact hdefault

theorem mapM_eq_some {β : Type*} {f : α → Option β} {g : α → β} {xs : List α}
    (h : ∀ x ∈ xs, f x = some (g x)) : xs.mapM f = some (xs.map g) := by
  induction xs with
  | nil => rfl
  | cons x xs ih =>
      rw [List.mapM_cons, h x List.mem_cons_self, ih fun y hy ↦ h y (List.mem_cons_of_mem x hy)]
      rfl

theorem isSome_of_mapM {β : Type*} {f : α → Option β} {xs : List α} {ys : List β}
    (h : xs.mapM f = some ys) : ∀ x ∈ xs, (f x).isSome := by
  induction xs generalizing ys with
  | nil => simp
  | cons x xs ih =>
      rw [List.mapM_cons] at h
      obtain ⟨y, hy, hrest⟩ := Option.bind_eq_some_iff.mp h
      obtain ⟨zs, hzs, -⟩ := Option.bind_eq_some_iff.mp hrest
      intro z hz
      rcases List.mem_cons.mp hz with rfl | hz
      · rw [hy]
        rfl
      · exact ih hzs z hz

end FixedWidth
