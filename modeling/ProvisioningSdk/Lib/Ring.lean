import Mathlib.Data.List.Basic
import Mathlib.Data.Nat.ModEq

/-!
# Ring Buffers

The order in which a circular array holds its elements.

`window` lists the elements of a ring of `n` slots, oldest first: `count` of
them, the oldest in slot `head`. It is a view of the slots and keeps no
bookkeeping of its own, so a program that stores a head, a tail and a count is
described by the window of its slots and an equation between the three.

Storing at the tail appends to the window (`window_push`), as long as the slot
stored to is the only one that changes; the next slot after the last element is
not part of the window because there is room. Advancing the head drops the
oldest element (`window_pop`) and needs no change to the slots at all.

## Main definitions

* `window`: The elements of a ring, oldest first.

## Theorems

* `window_push`: Storing at the tail appends.
* `window_pop`: Advancing the head removes the oldest element.
* `index_inj`: Different positions of the window are different slots.
-/

namespace Ring

variable {α : Type*}

/-- The `count` elements of a ring of `n` slots from slot `head` on. -/
def window (n head count : Nat) (slot : Nat → α) : List α :=
  (List.range count).map (fun k => slot ((head + k) % n))

@[simp] theorem length_window (n head count : Nat) (slot : Nat → α) :
    (window n head count slot).length = count := by
  simp only [window, List.length_map, List.length_range]

/-- Two positions less than `n` apart are different slots. -/
theorem index_inj (n head i j : Nat) (hi : i < n) (hj : j < n)
    (h : (head + i) % n = (head + j) % n) : i = j := by
  have hmod : i ≡ j [MOD n] := Nat.ModEq.add_left_cancel' head h
  rw [Nat.ModEq, Nat.mod_eq_of_lt hi, Nat.mod_eq_of_lt hj] at hmod
  exact hmod

/-- Storing an element in the slot after the last one appends it, provided no
    other slot changes. -/
theorem window_push (n head count : Nat) (slot slot' : Nat → α) (x : α) (hroom : count < n)
    (hnew : slot' ((head + count) % n) = x)
    (hold : ∀ i, i < n → i ≠ (head + count) % n → slot' i = slot i) :
    window n head (count + 1) slot' = window n head count slot ++ [x] := by
  unfold window
  rw [List.range_succ, List.map_append]
  congr 1
  -- the old positions are other slots than the new one
  · refine List.map_congr_left (fun k hk => ?_)
    have hkc : k < count := List.mem_range.mp hk
    refine hold _ (Nat.mod_lt _ (by omega)) (fun hc => ?_)
    have := index_inj n head k count (by omega) hroom hc
    omega
  · simp only [List.map_cons, List.map_nil, hnew]

/-- Advancing the head removes the oldest element and nothing else. -/
theorem window_pop (n head count : Nat) (slot : Nat → α) (hhead : head < n) (hcount : 0 < count) :
    window n head count slot = slot head :: window n ((head + 1) % n) (count - 1) slot := by
  obtain ⟨m, rfl⟩ : ∃ m, count = m + 1 := ⟨count - 1, by omega⟩
  unfold window
  rw [List.range_succ_eq_map, List.map_cons, List.map_map, Nat.add_zero, Nat.mod_eq_of_lt hhead,
    Nat.add_sub_cancel]
  congr 1
  -- counted from the next slot, position `k + 1` is position `k`
  refine List.map_congr_left (fun k _ => ?_)
  simp only [Function.comp_apply, Nat.succ_eq_add_one]
  congr 1
  rw [Nat.mod_add_mod, Nat.add_assoc, Nat.add_comm 1 k]

end Ring
