import Mathlib.Data.List.Nodup

/-!
# Ledgers of Blocks

What a program took and what it gave back, as a record beside the program.

A block may be given back while it is live, that is after it was taken and
before it was given back, and in no other case: giving back twice and giving
back what was never taken both stop here. So nothing is ever given back twice,
and all that is left to ask at the end is whether something is still live
(`Sound.settled_iff`).

The blocks are named by any type. Whether a name is fresh when it is taken is
for the program to say.

## Main definitions

* `Ledger`: What was taken and what was given back.
* `Ledger.Live`: The block was taken and not given back.
* `Ledger.free`: A block given back.
* `Ledger.Settled`: Every block was given back exactly once.
* `Ledger.Sound`: Only what was taken was given back, and only once.

## Theorems

* `free_eq_some_iff`: A block can be given back while it is live.
* `Sound.take`, `Sound.free`: Soundness is kept.
* `Sound.settled_iff`: A sound ledger is settled when nothing is live.
-/

namespace Ownership

/-- The blocks that were taken and the ones that were given back, the latest
    first. -/
structure Ledger (α : Type*) where
  taken : List α
  freed : List α
  deriving DecidableEq, Repr

namespace Ledger

variable {α : Type*}

/-- The block was taken and not given back. -/
def Live (l : Ledger α) (a : α) : Prop := a ∈ l.taken ∧ a ∉ l.freed

instance [DecidableEq α] (l : Ledger α) (a : α) : Decidable (l.Live a) :=
  inferInstanceAs (Decidable (_ ∧ _))

/-- A block taken. -/
def take (l : Ledger α) (a : α) : Ledger α := { l with taken := a :: l.taken }

/-- A block given back. -/
def free [DecidableEq α] (l : Ledger α) (a : α) : Option (Ledger α) :=
  if l.Live a then some { l with freed := a :: l.freed } else none

/-- Every block that was taken was given back exactly once. -/
def Settled [DecidableEq α] (l : Ledger α) : Prop := ∀ a ∈ l.taken, l.freed.count a = 1

instance [DecidableEq α] (l : Ledger α) : Decidable l.Settled :=
  inferInstanceAs (Decidable (∀ a ∈ l.taken, l.freed.count a = 1))

/-- Only what was taken was given back, and only once. -/
structure Sound (l : Ledger α) : Prop where
  nodup : l.freed.Nodup
  subset : l.freed ⊆ l.taken

theorem live_take_iff {l : Ledger α} (a b : α) (ha : a ∉ l.freed) :
    (l.take a).Live b ↔ b = a ∨ l.Live b := by
  unfold take Live
  rw [List.mem_cons, or_and_right]
  refine or_congr_left (and_iff_left_of_imp ?_)
  rintro rfl
  exact ha

theorem Sound.take {l : Ledger α} (h : l.Sound) (a : α) : (l.take a).Sound where
  nodup := h.nodup
  subset := List.subset_cons_of_subset a h.subset

variable [DecidableEq α]

/-- A block can be given back while it is live. -/
theorem free_eq_some_iff {l l' : Ledger α} {a : α} :
    l.free a = some l' ↔ l.Live a ∧ l' = { l with freed := a :: l.freed } := by
  unfold free
  by_cases h : l.Live a
  · rw [if_pos h, Option.some.injEq]
    exact ⟨fun heq => ⟨h, heq.symm⟩, fun hboth => hboth.2.symm⟩
  · rw [if_neg h]
    exact ⟨fun heq => (nomatch heq), fun hboth => absurd hboth.1 h⟩

theorem free_of_live {l : Ledger α} {a : α} (h : l.Live a) :
    l.free a = some { l with freed := a :: l.freed } :=
  free_eq_some_iff.mpr ⟨h, rfl⟩

/-- What is live after a block was given back. -/
theorem live_free_iff {l l' : Ledger α} {a : α} (h : l.free a = some l') (b : α) :
    l'.Live b ↔ b ≠ a ∧ l.Live b := by
  rcases free_eq_some_iff.mp h with ⟨-, rfl⟩
  unfold Live
  rw [List.mem_cons, not_or]
  exact ⟨fun ⟨ht, hne, hf⟩ => ⟨hne, ht, hf⟩, fun ⟨hne, ht, hf⟩ => ⟨ht, hne, hf⟩⟩

theorem Sound.free {l l' : Ledger α} {a : α} (h : l.Sound) (hfree : l.free a = some l') :
    l'.Sound := by
  rcases free_eq_some_iff.mp hfree with ⟨hlive, rfl⟩
  exact
    { nodup := List.nodup_cons.mpr ⟨hlive.2, h.nodup⟩
      subset := List.cons_subset.mpr ⟨hlive.1, h.subset⟩ }

/-- A sound ledger is settled when nothing is live. -/
theorem Sound.settled_iff {l : Ledger α} (h : l.Sound) : l.Settled ↔ ∀ a, ¬ l.Live a := by
  constructor
  · intro hsettled a hlive
    have hcount := hsettled a hlive.1
    rw [List.count_eq_zero.mpr hlive.2] at hcount
    cases hcount
  · intro hnone a ha
    -- it was given back, and no more than once
    have hmem : a ∈ l.freed := Classical.not_not.mp fun hc => hnone a ⟨ha, hc⟩
    exact List.count_eq_one_of_mem h.nodup hmem

end Ledger

end Ownership
