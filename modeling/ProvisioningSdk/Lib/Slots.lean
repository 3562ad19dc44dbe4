import Mathlib.Data.Finset.Card
import Mathlib.Data.Finset.Insert
import Mathlib.Data.List.Nodup
import Mathlib.Logic.Function.Basic

/-!
# Slot Tables

A table of a fixed number of slots, each empty or holding a value, standing for
a finite set. Where in the table a value sits means nothing, and a value never
sits in two slots.

The second condition is what makes counting possible: the set then has as many
members as there are slots in use (`val_eq`), so it is smaller than the table
exactly when some slot is empty (`card_lt_iff`). It is also what a walk over
the table needs to meet each member of the set once (`visit_eq`).

## Main definitions

* `held`: The values in the table, in slot order.
* `Represents`: A table stands for a set.

## Theorems

* `Represents.empty`: The table of empty slots stands for the empty set.
* `Represents.val_eq`: The values held are the set, each once.
* `Represents.card_lt_iff`: There is room exactly when a slot is empty.
* `Represents.insert`: Filling an empty slot with a new value.
* `Represents.filter`: Emptying the slots of some values.
* `Represents.congr`: Nothing outside the table counts.
* `Represents.visit_eq`: A walk over the table visits each member once.
-/

namespace Slots

variable {T U : Type*}

/-- The values in the first `n` slots, in slot order. -/
def held (n : Nat) (f : Nat → Option T) : List T :=
  (List.range n).filterMap f

/-- The first `n` slots of `f` stand for the set `L`. -/
structure Represents (n : Nat) (f : Nat → Option T) (L : Finset T) : Prop where
  mem_iff : ∀ t, t ∈ L ↔ ∃ i, i < n ∧ f i = some t
  once : ∀ i j t, i < n → j < n → f i = some t → f j = some t → i = j

theorem mem_held (n : Nat) (f : Nat → Option T) (t : T) :
    t ∈ held n f ↔ ∃ i, i < n ∧ f i = some t := by
  unfold held
  simp only [List.mem_filterMap, List.mem_range]

/-- As many values are held as the table has slots only when none is empty. -/
theorem length_held_lt_iff (n : Nat) (f : Nat → Option T) :
    (held n f).length < n ↔ ∃ i, i < n ∧ f i = none := by
  -- one slot more adds at most one value, so the count falls behind at a hole
  have hle : ∀ m, (held m f).length ≤ m := by
    intro m
    have h := List.length_filterMap_le f (List.range m)
    rwa [List.length_range] at h
  have hsucc : ∀ m, held (m + 1) f = held m f ++ (f m).toList := by
    intro m
    unfold held
    rw [List.range_succ, List.filterMap_append, List.filterMap_cons, List.filterMap_nil]
    cases f m with
    | none => rfl
    | some t => rfl
  induction n with
  | zero =>
      constructor
      · intro h
        omega
      · rintro ⟨i, hi, -⟩
        omega
  | succ m ih =>
      rw [hsucc, List.length_append]
      have hm := hle m
      cases hf : f m with
      | none =>
          constructor
          · intro _
            exact ⟨m, by omega, hf⟩
          · intro _
            -- the last slot is the hole
            simp only [Option.toList_none, List.length_nil]
            omega
      | some t =>
          simp only [Option.toList_some, List.length_cons, List.length_nil]
          constructor
          · intro h
            rcases ih.mp (by omega) with ⟨i, hi, hnone⟩
            exact ⟨i, by omega, hnone⟩
          · rintro ⟨i, hi, hnone⟩
            -- the hole is among the slots before
            have him : i ≠ m := by
              intro h
              rw [h, hf] at hnone
              cases hnone
            have := ih.mpr ⟨i, by omega, hnone⟩
            omega

namespace Represents

variable {n : Nat} {f : Nat → Option T} {L : Finset T}

theorem empty (n : Nat) : Represents n (fun _ => (none : Option T)) ∅ where
  mem_iff := by
    intro t
    constructor
    · intro h
      exact absurd h (Finset.notMem_empty t)
    · rintro ⟨i, -, hi⟩
      cases hi
  once := by
    intro i j t _ _ hi
    cases hi

theorem nodup_held (h : Represents n f L) : (held n f).Nodup := by
  unfold held List.Nodup
  rw [List.pairwise_filterMap]
  -- equal values come from equal slots, and no slot is listed twice
  refine List.Pairwise.imp_of_mem ?_ (List.nodup_range (n := n))
  intro i j hi hj hij t ht u hu htu
  subst htu
  exact hij (h.once i j t (List.mem_range.mp hi) (List.mem_range.mp hj) ht hu)

theorem val_eq (h : Represents n f L) : L.val = (held n f : Multiset T) := by
  -- without duplicates it is enough to compare the members
  have hset : L = ⟨(held n f : Multiset T), Multiset.coe_nodup.mpr h.nodup_held⟩ := by
    ext t
    rw [h.mem_iff, Finset.mem_mk, Multiset.mem_coe, mem_held]
  rw [hset]

theorem card_lt_iff (h : Represents n f L) : L.card < n ↔ ∃ i, i < n ∧ f i = none := by
  have hcard : L.card = (held n f).length := by
    rw [Finset.card_def, h.val_eq, Multiset.coe_card]
  rw [hcard, length_held_lt_iff]

theorem insert [DecidableEq T] (h : Represents n f L) {i : Nat} {t : T} (hi : i < n)
    (hole : f i = none) (hnew : t ∉ L) :
    Represents n (Function.update f i (some t)) (insert t L) where
  mem_iff := by
    intro u
    rw [Finset.mem_insert, h.mem_iff]
    constructor
    · rintro (hut | ⟨j, hj, hju⟩)
      · exact ⟨i, hi, by rw [Function.update_self, hut]⟩
      · have hji : j ≠ i := by
          intro hc
          rw [hc, hole] at hju
          cases hju
        exact ⟨j, hj, by rw [Function.update_of_ne hji, hju]⟩
    · rintro ⟨j, hj, hju⟩
      by_cases hji : j = i
      · rw [hji, Function.update_self, Option.some.injEq] at hju
        exact Or.inl hju.symm
      · rw [Function.update_of_ne hji] at hju
        exact Or.inr ⟨j, hj, hju⟩
  once := by
    -- the new value is in no other slot, since it was not in the set
    have hfresh : ∀ j, j < n → f j ≠ some t := fun j hj hjt => hnew ((h.mem_iff t).mpr ⟨j, hj, hjt⟩)
    intro j k u hj hk hju hku
    by_cases hji : j = i
    · by_cases hki : k = i
      · rw [hji, hki]
      · rw [hji, Function.update_self, Option.some.injEq] at hju
        rw [Function.update_of_ne hki, ← hju] at hku
        exact absurd hku (hfresh k hk)
    · by_cases hki : k = i
      · rw [hki, Function.update_self, Option.some.injEq] at hku
        rw [Function.update_of_ne hji, ← hku] at hju
        exact absurd hju (hfresh j hj)
      · rw [Function.update_of_ne hji] at hju
        rw [Function.update_of_ne hki] at hku
        exact h.once j k u hj hk hju hku

theorem filter (h : Represents n f L) (p : T → Prop) [DecidablePred p] :
    Represents n (fun i => (f i).filter (fun t => decide (p t))) (L.filter p) where
  mem_iff := by
    intro t
    rw [Finset.mem_filter, h.mem_iff]
    simp only [Option.filter_eq_some_iff, decide_eq_true_eq]
    constructor
    · rintro ⟨⟨i, hi, hit⟩, hp⟩
      exact ⟨i, hi, hit, hp⟩
    · rintro ⟨i, hi, hit, hp⟩
      exact ⟨⟨i, hi, hit⟩, hp⟩
  once := by
    intro i j t hi hj hit hjt
    simp only [Option.filter_eq_some_iff] at hit hjt
    exact h.once i j t hi hj hit.1 hjt.1

/-- Only the slots of the table count. -/
theorem congr {g : Nat → Option T} (h : Represents n f L) (hfg : ∀ i, i < n → g i = f i) :
    Represents n g L where
  mem_iff := by
    intro t
    rw [h.mem_iff]
    constructor
    · rintro ⟨i, hi, hit⟩
      exact ⟨i, hi, by rw [hfg i hi, hit]⟩
    · rintro ⟨i, hi, hit⟩
      exact ⟨i, hi, by rw [← hfg i hi, hit]⟩
  once := by
    intro i j t hi hj hit hjt
    rw [hfg i hi] at hit
    rw [hfg j hj] at hjt
    exact h.once i j t hi hj hit hjt

/-- A walk over the slots that does `g` to the values with `p` does it once to
    each of them. -/
theorem visit_eq (h : Represents n f L) (p : T → Prop) [DecidablePred p] (g : T → U) :
    ((L.filter p).val.map g) =
      (((List.range n).filterMap
        (fun i => ((f i).filter (fun t => decide (p t))).map g) : List U) : Multiset U) := by
  rw [(h.filter p).val_eq, Multiset.map_coe]
  unfold held
  rw [List.map_filterMap]

end Represents

end Slots
