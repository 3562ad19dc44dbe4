import Mathlib.Tactic.Ring
import ProvisioningSdk.Platform.PalQueue

/-!
# The Slots of the Platform Queue

Where `iotshdPal_syncQueueCreate` puts the slots of a queue, for any number of
items of any size.

Three computations have to agree. The block for the items is allocated in 64
bits, the size of an item is kept in 32, and the offset of a slot is a product
of two 32-bit numbers that wraps. Nothing is checked but that the arguments are
not zero, and neither of the two allocations is. The computations agree as long
as the size of an item and the offset of the last slot fit in 32 bits. One item
more, and the first slot whose offset wraps begins inside the first slot
(`exists_wrapped`).

## Main definitions

* `SlotsFit`: The slots are of the right size, apart, and in the buffer.

## Theorems

* `slotsFit_of_le`: No offset wraps.
* `exists_wrapped`: The first one that does.
* `syncQueueCreate_slotsFit_iff`: When the slots fit.
-/

namespace ProvisioningSdk

namespace IotshdPal

open Bytes

/-- The `n` slots of a queue are of `s` bytes each, do not meet, and lie inside
    the block of the queue. -/
structure SlotsFit (q : SyncQueue) (n s : Nat) : Prop where
  size : ∀ i < n, (slot q i).length = s
  disjoint : ∀ i < n, ∀ j < n, i ≠ j →
    slotOffset q i + q.queueItemSize ≤ slotOffset q j ∨
      slotOffset q j + q.queueItemSize ≤ slotOffset q i
  inside : ∀ i < n, slotOffset q i + q.queueItemSize ≤ q.bufferSize

/-- What a queue is made as. -/
theorem syncQueueCreate_eq (malloc : QueueMalloc) (n s : Nat) (hn : 1 ≤ n) (hs : 1 ≤ s) :
    syncQueueCreate malloc n s =
      if malloc.structBlock = false then .error .nullDereference
      else .ok (some
        { pBuffer := malloc.buffer.getD (fun _ => 0)
          bufferSize := if malloc.buffer.isSome then u64 (n * s) else 0
          numberOfQueueItems := n
          queueItemSize := u32 s
          itemsInQueue := 0
          enqueueIndex := 0
          dequeueIndex := 0 }) := by
  unfold syncQueueCreate
  rw [if_neg (show ¬ n = 0 by omega), if_neg (show ¬ s = 0 by omega)]

/-- As long as the offset of the last slot fits in 32 bits, no offset wraps. -/
theorem slotsFit_of_le {q : SyncQueue} {n s : Nat} (hsize : q.queueItemSize = s)
    (hlast : (n - 1) * s < 2 ^ 32) (hbuffer : q.bufferSize = n * s) : SlotsFit q n s := by
  have hoffset : ∀ i < n, slotOffset q i = i * s := by
    intro i hi
    unfold slotOffset
    rw [hsize]
    have hle : i * s ≤ (n - 1) * s := Nat.mul_le_mul_right s (by omega)
    exact u32_of_lt _ (by omega)
  refine ⟨fun i hi => ?_, fun i hi j hj hij => ?_, fun i hi => ?_⟩
  · rw [slot, length_slice, hsize]
  · rw [hoffset i hi, hoffset j hj, hsize, ← Nat.succ_mul, ← Nat.succ_mul]
    rcases Nat.lt_or_gt_of_ne hij with hlt | hgt
    · exact Or.inl (Nat.mul_le_mul_right s hlt)
    · exact Or.inr (Nat.mul_le_mul_right s hgt)
  · rw [hoffset i hi, hsize, hbuffer, ← Nat.succ_mul]
    exact Nat.mul_le_mul_right s hi

/-- The first slot whose offset wraps begins inside slot zero. -/
theorem exists_wrapped {n s : Nat} (hs : 1 ≤ s) (hs32 : s < 2 ^ 32)
    (hwraps : 2 ^ 32 ≤ (n - 1) * s) :
    ∃ k < n, k ≠ 0 ∧ u32 (k * s) < s := by
  -- the offsets grow by less than `2 ^ 32` from slot to slot
  have hex : ∃ k, 2 ^ 32 ≤ k * s := ⟨n - 1, hwraps⟩
  have hfirst : 2 ^ 32 ≤ Nat.find hex * s := Nat.find_spec hex
  have hle : Nat.find hex ≤ n - 1 := Nat.find_min' hex hwraps
  have hpos : Nat.find hex ≠ 0 := by
    intro h0
    rw [h0] at hfirst
    omega
  have hbefore : ¬ 2 ^ 32 ≤ (Nat.find hex - 1) * s := Nat.find_min hex (by omega)
  have hstep : Nat.find hex * s = (Nat.find hex - 1) * s + s := by
    rw [← Nat.succ_mul]
    congr 1
    omega
  refine ⟨Nat.find hex, by omega, hpos, ?_⟩
  unfold u32
  rw [Nat.mod_eq_sub_mod (by omega), Nat.mod_eq_of_lt (by omega)]
  omega

/-- The slots of a new queue are as long as its items, apart and inside its
    block exactly if both allocations succeed and the size of an item and the
    offset of the last slot fit in 32 bits. -/
theorem syncQueueCreate_slotsFit_iff (malloc : QueueMalloc) (n s : Nat) (hn : 1 ≤ n)
    (hn32 : n < 2 ^ 32) (hs : 1 ≤ s) (hs64 : s < 2 ^ 64) :
    (∃ queue, syncQueueCreate malloc n s = .ok queue ∧ ∀ q, queue = some q → SlotsFit q n s) ↔
      malloc.structBlock = true ∧ malloc.buffer.isSome = true ∧ s < 2 ^ 32 ∧
        (n - 1) * s < 2 ^ 32 := by
  rw [syncQueueCreate_eq malloc n s hn hs]
  constructor
  · rintro ⟨queue, hcreate, hfit⟩
    split at hcreate
    · cases hcreate
    · rename_i hstruct
      rw [Except.ok.injEq] at hcreate
      have hslots := hfit _ hcreate.symm
      -- a slot has the narrowed size
      have hsize : u32 s = s := by
        have h0 := hslots.size 0 (by omega)
        rw [slot, length_slice] at h0
        exact h0
      have hs32 : s < 2 ^ 32 := by
        rw [← hsize]
        exact Nat.mod_lt _ (by norm_num)
      refine ⟨Bool.not_eq_false _ ▸ hstruct, ?_, hs32, ?_⟩
      · by_contra hbuffer
        have hinside := hslots.inside 0 (by omega)
        simp only [if_neg hbuffer, hsize] at hinside
        omega
      · by_contra hwraps
        rcases exists_wrapped hs hs32 (Nat.le_of_not_lt hwraps) with ⟨k, hk, hk0, hoffset⟩
        -- that slot and the first one meet
        have hmeet := hslots.disjoint 0 (by omega) k hk (Ne.symm hk0)
        simp only [slotOffset, hsize, Nat.zero_mul] at hmeet
        rw [show u32 0 = 0 from rfl] at hmeet
        omega
  · rintro ⟨hstruct, hbuffer, hs32, hlast⟩
    rw [if_neg (by simp only [hstruct, Bool.true_eq_false, not_false_eq_true])]
    refine ⟨_, rfl, fun q hq => ?_⟩
    cases hq
    refine slotsFit_of_le (u32_of_lt s hs32) hlast ?_
    simp only [hbuffer, if_true]
    refine u64_of_lt _ ?_
    -- both factors fit in 32 bits
    calc n * s < 2 ^ 32 * 2 ^ 32 := Nat.mul_lt_mul'' hn32 hs32
      _ = 2 ^ 64 := by norm_num

theorem syncQueueCreate_slotsFit_iff_two :
    (∃ queue, syncQueueCreate ⟨true, some (fun _ => 0)⟩ 2 16 = .ok queue ∧
        ∀ q, queue = some q → SlotsFit q 2 16) ↔
      true = true ∧ (some (fun _ => 0) : Option Memory).isSome = true ∧ 16 < 2 ^ 32 ∧
        (2 - 1) * 16 < 2 ^ 32 :=
  syncQueueCreate_slotsFit_iff ⟨true, some (fun _ => 0)⟩ 2 16 (by decide) (by decide) (by decide)
    (by decide)

/-- Two items of `2 ^ 32` bytes get slots of no bytes. -/
theorem syncQueueCreate_narrowed :
    ¬ ∃ queue, syncQueueCreate ⟨true, some (fun _ => 0)⟩ 2 (2 ^ 32) = .ok queue ∧
      ∀ q, queue = some q → SlotsFit q 2 (2 ^ 32) := by
  rintro ⟨queue, hcreate, hfit⟩
  rw [syncQueueCreate_eq _ 2 (2 ^ 32) (by norm_num) (by norm_num)] at hcreate
  cases hcreate
  have h0 := (hfit _ rfl).size 0 (by norm_num)
  rw [slot, length_slice] at h0
  revert h0
  decide

end IotshdPal

end ProvisioningSdk
