import Mathlib.Data.Finset.Card
import Mathlib.Data.List.AList
import Mathlib.Data.Set.Card
import Mathlib.Tactic

/-!
# Association lists as mutable maps

Three operations that a mutable hash map has and `AList` lacks: writing
through `operator[]`, a pass that rewrites every value in place, and
counting the entries that satisfy a predicate.
-/

namespace AList

universe u v

variable {α : Type u} {β : α → Type v}

def mapValues (f : ∀ a, β a → β a) (s : AList β) : AList β where
  entries := s.entries.map (Sigma.map id f)
  nodupKeys := by
    have hkeys : (s.entries.map (Sigma.map id f)).keys = s.entries.keys := by
      simp [List.keys, Function.comp_def, Sigma.map]
    rw [List.NodupKeys, hkeys]
    exact s.nodupKeys

def size (s : AList β) : ℕ := s.entries.length

def countValues (p : ∀ a, β a → Bool) (s : AList β) : ℕ :=
  s.entries.countP fun e ↦ p e.1 e.2

@[simp] theorem size_empty : (∅ : AList β).size = 0 := rfl

theorem size_eq_length_keys (s : AList β) : s.size = s.keys.length := by
  simp [size, keys, List.keys]

theorem countValues_add {p q : ∀ a, β a → Bool} (hpq : ∀ a b, p a b → q a b = false)
    (s : AList β) :
    s.countValues p + s.countValues q = s.countValues fun a b ↦ p a b || q a b := by
  simp only [countValues]
  induction s.entries with
  | nil => rfl
  | cons e es ih =>
      simp only [List.countP_cons, ← ih]
      cases hp : p e.1 e.2 with
      | false =>
          simp only [Bool.false_or, Bool.false_eq_true, if_false]
          omega
      | true =>
          simp only [hpq e.1 e.2 hp, Bool.true_or, Bool.false_eq_true, if_false, if_true]
          omega

variable [DecidableEq α]

@[simp] theorem lookup_mapValues (f : ∀ a, β a → β a) (s : AList β) (a : α) :
    (s.mapValues f).lookup a = (s.lookup a).map (f a) :=
  List.dlookup_map₂ a

/-- `s.at(a)` for a key that is there. -/
def valueAt (s : AList β) (a : α) (h : a ∈ s) : β a := (s.lookup a).get (lookup_isSome.mpr h)

theorem lookup_eq_some_valueAt {s : AList β} {a : α} (h : a ∈ s) :
    s.lookup a = some (s.valueAt a h) :=
  (Option.some_get _).symm

/-- `s[a] = f(s[a])`: a missing entry is created with the value `d` first. -/
def modifyD (s : AList β) (a : α) (d : β a) (f : β a → β a) : AList β :=
  s.insert a (f ((s.lookup a).getD d))

@[simp] theorem lookup_modifyD_self (s : AList β) (a : α) (d : β a) (f : β a → β a) :
    (s.modifyD a d f).lookup a = some (f ((s.lookup a).getD d)) :=
  lookup_insert s

theorem lookup_modifyD_ne {s : AList β} {a b : α} (h : b ≠ a) (d : β a) (f : β a → β a) :
    (s.modifyD a d f).lookup b = s.lookup b :=
  lookup_insert_ne h

theorem entries_replace {s : AList β} {pre post : List (Sigma β)} {a : α} {b : β a}
    (h : s.entries = pre ++ ⟨a, b⟩ :: post) (b' : β a) :
    (s.replace a b').entries = pre ++ ⟨a, b'⟩ :: post := by
  have hnodup := s.nodupKeys
  rw [h, List.NodupKeys, List.keys, List.map_append, List.map_cons] at hnodup
  have hpre : ∀ e ∈ pre, a ≠ e.1 := by
    rintro e he rfl
    have hdisjoint := List.disjoint_of_nodup_append hnodup
    exact hdisjoint (List.mem_map_of_mem he) List.mem_cons_self
  change List.kreplace a b' s.entries = _
  rw [h, List.kreplace]
  clear h hnodup
  induction pre with
  | nil => exact List.lookmap_cons_some _ _ (by simp)
  | cons e pre ih =>
      have hne : a ≠ e.1 := hpre e List.mem_cons_self
      rw [List.cons_append, List.lookmap_cons_none _ _ (by simp [hne]),
        ih fun e he ↦ hpre e (List.mem_cons_of_mem _ he), List.cons_append]

theorem mem_iff_lookup_eq_some {s : AList β} {a : α} : a ∈ s ↔ ∃ b, s.lookup a = some b := by
  rw [← lookup_isSome, Option.isSome_iff_exists]

theorem mem_keys_toFinset {s : AList β} {a : α} : a ∈ s.keys.toFinset ↔ a ∈ s := by
  rw [List.mem_toFinset, mem_keys]

omit [DecidableEq α] in
theorem nodup_keys_filter (p : ∀ a, β a → Bool) (s : AList β) :
    (s.entries.filter fun e ↦ p e.1 e.2).keys.Nodup :=
  s.nodupKeys.sublist List.filter_sublist

theorem mem_keys_filter {p : ∀ a, β a → Bool} {s : AList β} {a : α} :
    a ∈ (s.entries.filter fun e ↦ p e.1 e.2).keys ↔ ∃ b, s.lookup a = some b ∧ p a b := by
  constructor
  · intro ha
    obtain ⟨b, hb⟩ := List.exists_of_mem_keys ha
    obtain ⟨hmem, hp⟩ := List.mem_filter.mp hb
    exact ⟨b, mem_lookup_iff.mpr hmem, hp⟩
  · rintro ⟨b, hlookup, hp⟩
    exact List.mem_keys_of_mem (List.mem_filter.mpr ⟨mem_lookup_iff.mp hlookup, hp⟩)

/-- Each key is listed once, if its value passes. -/
theorem count_map_filter {γ : Type*} [BEq γ] [LawfulBEq γ] {f : α → γ} (hf : Function.Injective f)
    (p : ∀ a, β a → Bool) (s : AList β) (a : α) [Decidable (∃ b, s.lookup a = some b ∧ p a b)] :
    ((s.entries.filter fun e ↦ p e.1 e.2).map fun e ↦ f e.1).count (f a) =
      if ∃ b, s.lookup a = some b ∧ p a b then 1 else 0 := by
  have hkeys : ((s.entries.filter fun e ↦ p e.1 e.2).map fun e ↦ f e.1) =
      (s.entries.filter fun e ↦ p e.1 e.2).keys.map f := by
    rw [List.keys, List.map_map]
    rfl
  rw [hkeys, List.count_map_of_injective _ _ hf, (nodup_keys_filter p s).count]
  exact if_congr mem_keys_filter rfl rfl

theorem countValues_eq_card (p : ∀ a, β a → Bool) (s : AList β) :
    s.countValues p = {a ∈ s.keys.toFinset | ∃ b, s.lookup a = some b ∧ p a b}.card := by
  have hset : (s.entries.filter fun e ↦ p e.1 e.2).keys.toFinset =
      {a ∈ s.keys.toFinset | ∃ b, s.lookup a = some b ∧ p a b} := by
    ext a
    rw [List.mem_toFinset, Finset.mem_filter, mem_keys_toFinset, mem_keys_filter]
    refine (and_iff_right_of_imp ?_).symm
    rintro ⟨b, hlookup, -⟩
    exact mem_iff_lookup_eq_some.mpr ⟨b, hlookup⟩
  rw [← hset, List.toFinset_card_of_nodup (nodup_keys_filter p s), countValues,
    List.countP_eq_length_filter]
  simp [List.keys]

theorem countValues_eq_ncard (p : ∀ a, β a → Bool) (s : AList β) :
    s.countValues p = {a | ∃ b, s.lookup a = some b ∧ p a b}.ncard := by
  rw [countValues_eq_card, ← Set.ncard_coe_finset]
  congr 1
  ext a
  simp only [Finset.coe_filter, mem_keys_toFinset, Set.mem_ofPred_eq, and_iff_right_iff_imp]
  rintro ⟨b, hb, -⟩
  exact mem_iff_lookup_eq_some.mpr ⟨b, hb⟩

theorem size_eq_ncard (s : AList β) : s.size = {a | a ∈ s}.ncard := by
  have hset : (s.keys.toFinset : Set α) = {a | a ∈ s} := by
    ext a
    exact mem_keys_toFinset
  rw [← hset, Set.ncard_coe_finset, List.toFinset_card_of_nodup s.keys_nodup, size_eq_length_keys]

theorem countValues_eq_zero_iff {p : ∀ a, β a → Bool} {s : AList β} :
    s.countValues p = 0 ↔ ∀ a b, s.lookup a = some b → p a b = false := by
  rw [countValues, List.countP_eq_zero]
  constructor
  · intro hnone a b hlookup
    exact Bool.eq_false_iff.mpr (hnone ⟨a, b⟩ (mem_lookup_iff.mp hlookup))
  · rintro hnone ⟨a, b⟩ hmem
    exact Bool.eq_false_iff.mp (hnone a b (mem_lookup_iff.mpr hmem))

end AList
