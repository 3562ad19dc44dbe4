import ProvisioningSdk.Agent.SubscriptionManager

/-!
# The Subscription List over Time

What a history of `addSubscription` and `removeSubscription` calls leaves in
the array, and what the array then does.

The purpose of the array is a finite set of subscriptions. `live` computes it
from the calls and their results alone: an addition that succeeded puts its
triple in, a removal takes every triple of its filter out. `Holds` relates the
array to such a set, and each call keeps the two in step. Holes can be anywhere
once something was removed; nothing here depends on where they are.

The counting assumes that the whole array is scanned, so the capacity is kept
below `2 ^ 31`. `addSubscription_overflow` shows the smallest capacity above
that one for which nothing is scanned at all.

## Main definitions

* `ListCall`: A call that changes the array.
* `subscriptionList`: The array with its calls and their results.
* `live`: The subscriptions a history leaves.
* `Holds`: An array stands for a set.
* `Serves`: An array does everything the set asks for.

## Theorems

* `addSubscription_exists`, `addSubscription_new`, `addSubscription_full`: The
  outcomes of an addition.
* `Holds.addSubscription`, `Holds.remove`: Each call keeps array and set in
  step.
* `holds_live`: After any history the array stands for what is live.
* `subscriptionList_serves`: After any history the array serves what is live.
-/

namespace ProvisioningSdk

namespace SubscriptionManager

open Transition

variable {Cb Cx : Type*}

/-- The array was written by such calls, and stands for the set `L`. -/
structure Holds (capacity : Nat) (slots : SubscriptionList Cb Cx)
    (L : Finset (Subscription Cb Cx)) : Prop where
  written : ∀ i, Written (slots i)
  represents : Slots.Represents capacity (fun i => entry (slots i)) L

theorem holds_zero (capacity : Nat) :
    Holds capacity (fun _ => (zeroElement : SubscriptionElement Cb Cx)) ∅ where
  written := fun _ => Or.inl rfl
  represents := Slots.Represents.empty capacity

variable [DecidableEq Cb] [DecidableEq Cx]

/-- A call on the array. -/
inductive ListCall (Cb Cx : Type*) where
  | add (filter : FilterArg) (callback : Cb) (context : Option Cx)
  | remove (filter : FilterArg)

/-- The array after a call, and what the call returned. -/
def ListCall.run (capacity : Nat) (slots : SubscriptionList Cb Cx) :
    ListCall Cb Cx → SubscriptionList Cb Cx × Option Bool
  | .add f cb ctx =>
      let r := addSubscription capacity slots (some f.string) f.length (some cb) ctx
      (r.1, some r.2)
  | .remove f => (removeSubscription capacity slots (some f.string) f.length, none)

/-- The array from its zeroed start, one call with its result at a time. -/
def subscriptionList (Cb Cx : Type*) [DecidableEq Cb] [DecidableEq Cx] (capacity : Nat) :
    System (SubscriptionList Cb Cx) (ListCall Cb Cx × Option Bool) where
  init := fun _ => zeroElement
  step := fun slots act =>
    if (act.1.run capacity slots).2 = act.2 then some (act.1.run capacity slots).1 else none

/-- The subscriptions after one more call with its result. -/
def liveStep (L : Finset (Subscription Cb Cx)) :
    ListCall Cb Cx × Option Bool → Finset (Subscription Cb Cx)
  | (.add f cb ctx, res) => if res = some true then insert ⟨f.filter, cb, ctx⟩ L else L
  | (.remove f, _) => L.filter (fun t => t.filter ≠ f.filter)

/-- The subscriptions added with result true and not removed since. -/
def live (log : List (ListCall Cb Cx × Option Bool)) : Finset (Subscription Cb Cx) :=
  log.foldl liveStep ∅

/-! ### One call -/

section Call

variable {capacity : Nat} {slots : SubscriptionList Cb Cx} {L : Finset (Subscription Cb Cx)}

theorem addSubscription_exists (h : Holds capacity slots L) (hcap : capacity < 2 ^ 31)
    (f : FilterArg) (cb : Cb) (ctx : Option Cx) (hmem : ⟨f.filter, cb, ctx⟩ ∈ L) :
    addSubscription capacity slots (some f.string) f.length (some cb) ctx = (slots, true) := by
  rcases (h.represents.mem_iff _).mp hmem with ⟨i, hi, hdup⟩
  -- the duplicate ends the scan, and its index is out of range
  have hscan := addScan_dup capacity slots f cb ctx h.written capacity capacity i hi hdup
  rw [addSubscription_eq hcap slots f cb ctx _ _ hscan, if_neg (Nat.lt_irrefl capacity)]

theorem addSubscription_new (h : Holds capacity slots L) (hcap : capacity < 2 ^ 31)
    (f : FilterArg) (cb : Cb) (ctx : Option Cx) (hnew : ⟨f.filter, cb, ctx⟩ ∉ L)
    (hroom : L.card < capacity) :
    ∃ a, a < capacity ∧ entry (slots a) = none ∧
      addSubscription capacity slots (some f.string) f.length (some cb) ctx =
        (Function.update slots a (element f cb ctx), true) := by
  have hfresh : ∀ i, i < capacity → entry (slots i) ≠ some ⟨f.filter, cb, ctx⟩ :=
    fun i hi hc => hnew ((h.represents.mem_iff _).mpr ⟨i, hi, hc⟩)
  rcases addScan_fresh capacity slots f cb ctx h.written capacity capacity hfresh with
    ⟨a, hscan, ⟨ha, hnone, -⟩ | ⟨-, hfull⟩⟩
  · exact ⟨a, ha, hnone, by rw [addSubscription_eq hcap slots f cb ctx a false hscan, if_pos ha]⟩
  · -- a scan without a hole contradicts the room in the set
    rcases h.represents.card_lt_iff.mp hroom with ⟨i, hi, hnone⟩
    exact absurd hnone (hfull i hi)

theorem addSubscription_full (h : Holds capacity slots L) (hcap : capacity < 2 ^ 31)
    (f : FilterArg) (cb : Cb) (ctx : Option Cx) (hnew : ⟨f.filter, cb, ctx⟩ ∉ L)
    (hfull : ¬ L.card < capacity) :
    addSubscription capacity slots (some f.string) f.length (some cb) ctx = (slots, false) := by
  have hfresh : ∀ i, i < capacity → entry (slots i) ≠ some ⟨f.filter, cb, ctx⟩ :=
    fun i hi hc => hnew ((h.represents.mem_iff _).mpr ⟨i, hi, hc⟩)
  rcases addScan_fresh capacity slots f cb ctx h.written capacity capacity hfresh with
    ⟨a, hscan, ⟨ha, hnone, -⟩ | ⟨ha, -⟩⟩
  · exact absurd (h.represents.card_lt_iff.mpr ⟨a, ha, hnone⟩) hfull
  · subst ha
    rw [addSubscription_eq hcap slots f cb ctx _ false hscan, if_neg (Nat.lt_irrefl _)]

/-- Writing a new subscription to a hole adds it to the set. -/
theorem Holds.add (h : Holds capacity slots L) (f : FilterArg) (cb : Cb) (ctx : Option Cx)
    (hnew : ⟨f.filter, cb, ctx⟩ ∉ L) {a : Nat} (ha : a < capacity)
    (hole : entry (slots a) = none) :
    Holds capacity (Function.update slots a (element f cb ctx)) (insert ⟨f.filter, cb, ctx⟩ L) where
  written := by
    intro i
    by_cases hia : i = a
    · rw [hia, Function.update_self]
      exact Or.inr ⟨f, cb, ctx, rfl⟩
    · rw [Function.update_of_ne hia]
      exact h.written i
  represents := by
    -- writing an element is writing its entry
    have hentries : (fun i => entry (Function.update slots a (element f cb ctx) i)) =
        Function.update (fun i => entry (slots i)) a (some ⟨f.filter, cb, ctx⟩) := by
      ext i : 1
      by_cases hia : i = a
      · rw [hia, Function.update_self, Function.update_self, entry_element]
      · rw [Function.update_of_ne hia, Function.update_of_ne hia]
    rw [hentries]
    exact h.represents.insert ha hole hnew

/-- An addition adds to the set what it reports to have added. -/
theorem Holds.addSubscription (h : Holds capacity slots L) (hcap : capacity < 2 ^ 31)
    (f : FilterArg) (cb : Cb) (ctx : Option Cx) :
    Holds capacity
      (SubscriptionManager.addSubscription capacity slots (some f.string) f.length (some cb) ctx).1
      (if ⟨f.filter, cb, ctx⟩ ∈ L ∨ L.card < capacity then insert ⟨f.filter, cb, ctx⟩ L else L) ∧
    ((SubscriptionManager.addSubscription capacity slots (some f.string) f.length (some cb) ctx).2 =
        true ↔ ⟨f.filter, cb, ctx⟩ ∈ L ∨ L.card < capacity) := by
  by_cases hmem : ⟨f.filter, cb, ctx⟩ ∈ L
  -- a duplicate, room for a new one, and neither
  · rw [addSubscription_exists h hcap f cb ctx hmem, if_pos (Or.inl hmem),
      Finset.insert_eq_of_mem hmem]
    exact ⟨h, fun _ => Or.inl hmem, fun _ => rfl⟩
  · by_cases hroom : L.card < capacity
    · rcases addSubscription_new h hcap f cb ctx hmem hroom with ⟨a, ha, hole, hadd⟩
      rw [hadd, if_pos (Or.inr hroom)]
      exact ⟨h.add f cb ctx hmem ha hole, fun _ => Or.inr hroom, fun _ => rfl⟩
    · have hnot : ¬ (⟨f.filter, cb, ctx⟩ ∈ L ∨ L.card < capacity) := not_or.mpr ⟨hmem, hroom⟩
      rw [addSubscription_full h hcap f cb ctx hmem hroom, if_neg hnot]
      exact ⟨h, fun hc => absurd hc Bool.false_ne_true, fun hc => absurd hc hnot⟩

omit [DecidableEq Cb] [DecidableEq Cx] in
/-- Clearing the elements of a filter takes its subscriptions out of the
    set. -/
theorem Holds.remove (h : Holds capacity slots L) (f : FilterArg) :
    Holds capacity (removeSubscription capacity slots (some f.string) f.length)
      (L.filter (fun t => t.filter ≠ f.filter)) where
  written := by
    intro i
    rw [removeSubscription_apply capacity f slots h.written i]
    split
    · exact Or.inl rfl
    · exact h.written i
  represents := by
    -- clearing an element is the same as filtering its entry
    refine (h.represents.filter (fun t => t.filter ≠ f.filter)).congr ?_
    intro i hi
    rw [removeSubscription_apply capacity f slots h.written i]
    unfold hasFilter
    cases he : entry (slots i) with
    | none =>
        rw [if_neg (fun hc => Bool.false_ne_true hc.2), he, Option.filter_none]
    | some t =>
        by_cases ht : t.filter = f.filter
        · have hany : (some t).any (fun u => u.filter == f.filter) = true := beq_iff_eq.mpr ht
          rw [if_pos ⟨hi, hany⟩, entry_zeroElement, Option.filter_some, if_neg]
          simp only [ht, ne_eq, not_true_eq_false, decide_false, Bool.false_eq_true,
            not_false_eq_true]
        · have hany : ¬ (some t).any (fun u => u.filter == f.filter) = true :=
            fun hc => ht (beq_iff_eq.mp hc)
          rw [if_neg (fun hc => hany hc.2), he, Option.filter_some, if_pos]
          simp only [ne_eq, ht, not_false_eq_true, decide_true]

end Call

/-- One call keeps the array in step with the set. -/
theorem holds_step {capacity : Nat} (hcap : capacity < 2 ^ 31)
    {slots slots' : SubscriptionList Cb Cx} {L : Finset (Subscription Cb Cx)}
    {act : ListCall Cb Cx × Option Bool} (h : Holds capacity slots L)
    (hstep : (subscriptionList Cb Cx capacity).step slots act = some slots') :
    Holds capacity slots' (liveStep L act) := by
  rcases act with ⟨call, res⟩
  simp only [subscriptionList] at hstep
  split at hstep
  -- the call returned what the label says, and the set follows the result
  · rename_i hres
    cases hstep
    cases call with
    | add f cb ctx =>
        subst hres
        rcases h.addSubscription hcap f cb ctx with ⟨hadd, htrue⟩
        simp only [ListCall.run, liveStep, Option.some.injEq, htrue]
        exact hadd
    | remove f => exact h.remove f
  · cases hstep

/-- After any history the array stands for what is live. -/
theorem holds_live {capacity : Nat} (hcap : capacity < 2 ^ 31)
    (log : List (ListCall Cb Cx × Option Bool)) (slots : SubscriptionList Cb Cx)
    (hrun : (subscriptionList Cb Cx capacity).run log = some slots) :
    Holds capacity slots (live log) := by
  refine (subscriptionList Cb Cx capacity).run_induction
    (P := fun log slots => Holds capacity slots (live log)) (holds_zero capacity) ?_ log slots hrun
  intro log slots act slots' _ h hstep
  unfold live
  rw [List.foldl_append]
  exact holds_step hcap h hstep

/-! ### What the array does -/

/-- The array does for its callers what the set `L` asks for. -/
structure Serves (matchTopic : MatchTopic) (capacity : Nat) (slots : SubscriptionList Cb Cx)
    (L : Finset (Subscription Cb Cx)) : Prop where
  /-- The elements are those of `L` and zeroes. -/
  entry_mem : ∀ i, i < capacity → slots i = zeroElement ∨ ∃ t ∈ L, entry (slots i) = some t
  /-- Each subscription has one element. -/
  unique_slot : ∀ t ∈ L, ∃! i, i < capacity ∧ entry (slots i) = some t
  /-- An addition succeeds if it has nothing to do or there is room. -/
  add_true : ∀ (f : FilterArg) (cb : Cb) (ctx : Option Cx),
    (addSubscription capacity slots (some f.string) f.length (some cb) ctx).2 = true ↔
      ⟨f.filter, cb, ctx⟩ ∈ L ∨ L.card < capacity
  /-- An addition of what is there, or to a full array, changes nothing. -/
  add_unchanged : ∀ (f : FilterArg) (cb : Cb) (ctx : Option Cx),
    ⟨f.filter, cb, ctx⟩ ∈ L ∨ L.card = capacity →
      (addSubscription capacity slots (some f.string) f.length (some cb) ctx).1 = slots
  /-- A removal clears the elements with an equal filter and no others. -/
  remove_apply : ∀ (f : FilterArg) (i : Nat),
    removeSubscription capacity slots (some f.string) f.length i =
      if i < capacity ∧ hasFilter f.filter (slots i) then zeroElement else slots i
  /-- A publish calls each subscription that matches once, and no other. -/
  calls_eq : ∀ topic, topic ≠ [] →
    ((handleIncomingPublishes matchTopic capacity slots topic).1 : Multiset _) =
      (L.filter (fun t => matchTopic topic t.filter = some true)).val.map
        (fun t => (some t.callback, t.context))
  /-- A publish is handled if some subscription matches. -/
  handled_iff : ∀ topic, topic ≠ [] →
    ((handleIncomingPublishes matchTopic capacity slots topic).2 = true ↔
      ∃ t ∈ L, matchTopic topic t.filter = some true)

theorem serves_of_holds {matchTopic : MatchTopic} {capacity : Nat}
    {slots : SubscriptionList Cb Cx} {L : Finset (Subscription Cb Cx)} (hcap : capacity < 2 ^ 31)
    (hmatch : ∀ topic filter, topic ≠ [] → filter ≠ [] → (matchTopic topic filter).isSome)
    (h : Holds capacity slots L) : Serves matchTopic capacity slots L where
  entry_mem := by
    intro i hi
    rcases h.written i with hz | ⟨f, cb, ctx, hf⟩
    · exact Or.inl hz
    · have hentry : entry (slots i) = some ⟨f.filter, cb, ctx⟩ := by rw [hf, entry_element]
      exact Or.inr ⟨_, (h.represents.mem_iff _).mpr ⟨i, hi, hentry⟩, hentry⟩
  unique_slot := by
    intro t ht
    rcases (h.represents.mem_iff t).mp ht with ⟨i, hi, hit⟩
    exact ⟨i, ⟨hi, hit⟩, fun j hj => h.represents.once j i t hj.1 hi hj.2 hit⟩
  add_true := fun f cb ctx => (h.addSubscription hcap f cb ctx).2
  add_unchanged := by
    intro f cb ctx hcase
    -- it is listed already, or there is no room
    by_cases hmem : ⟨f.filter, cb, ctx⟩ ∈ L
    · rw [addSubscription_exists h hcap f cb ctx hmem]
    · have hfull : ¬ L.card < capacity := by
        have := hcase.resolve_left hmem
        omega
      rw [addSubscription_full h hcap f cb ctx hmem hfull]
  remove_apply := fun f i => removeSubscription_apply capacity f slots h.written i
  calls_eq := by
    intro topic htopic
    rw [handleIncomingPublishes_calls matchTopic topic (hmatch topic · htopic) capacity slots
      h.written]
    exact (h.represents.visit_eq _ _).symm
  handled_iff := by
    intro topic htopic
    rw [handleIncomingPublishes_calls matchTopic topic (hmatch topic · htopic) capacity slots
      h.written]
    simp only [Bool.not_eq_true', List.isEmpty_eq_false_iff_exists_mem, List.mem_filterMap,
      List.mem_range, called, Option.map_eq_some_iff, Option.filter_eq_some_iff, decide_eq_true_eq]
    -- an entry that matches is called in its slot
    constructor
    · rintro ⟨c, i, hi, t, ⟨hit, hm⟩, -⟩
      exact ⟨t, (h.represents.mem_iff t).mpr ⟨i, hi, hit⟩, hm⟩
    · rintro ⟨t, ht, hm⟩
      rcases (h.represents.mem_iff t).mp ht with ⟨i, hi, hit⟩
      exact ⟨_, i, hi, t, ⟨hit, hm⟩, rfl⟩

/-- After any history of calls on an array of at most `INT32_MAX` elements, it
    serves the subscriptions that are live. -/
theorem subscriptionList_serves (capacity : Nat) (hcap : capacity < 2 ^ 31)
    (matchTopic : MatchTopic)
    (hmatch : ∀ topic filter, topic ≠ [] → filter ≠ [] → (matchTopic topic filter).isSome)
    (log : List (ListCall Cb Cx × Option Bool)) (slots : SubscriptionList Cb Cx)
    (hrun : (subscriptionList Cb Cx capacity).run log = some slots) :
    Serves matchTopic capacity slots (live log) :=
  serves_of_holds hcap hmatch (holds_live hcap log slots hrun)

/-- A matcher for topics and filters without wildcards. -/
def matchExact : MatchTopic := fun topic filter =>
  if topic = [] ∨ filter = [] then none else some (topic == filter)

/-- A history on two elements: an addition, the same again, one more filter, a
    third that finds the array full, and a removal that makes room for it. -/
def fullListHistory : List (ListCall Nat Nat × Option Bool) :=
  let a : FilterArg := ⟨[97], 1, by decide, by decide, by decide, by decide⟩
  let b : FilterArg := ⟨[98, 99], 1, by decide, by decide, by decide, by decide⟩
  [(.add a 0 none, some true), (.add a 0 none, some true), (.add b 0 none, some true),
    (.add a 1 none, some false), (.remove b, none), (.add a 1 none, some true)]

theorem subscriptionList_serves_full :
    ∃ slots, (subscriptionList Nat Nat 2).run fullListHistory = some slots ∧
      Serves matchExact 2 slots (live fullListHistory) :=
  ⟨_, rfl, subscriptionList_serves 2 (by decide) matchExact
    (fun topic filter ht hf => by
      unfold matchExact
      rw [if_neg (not_or.mpr ⟨ht, hf⟩)]
      rfl) fullListHistory _ rfl⟩

/-- With `2 ^ 31 + 1` elements the index starts below zero, nothing is scanned,
    and an addition to the empty array fails. -/
theorem addSubscription_overflow :
    ∃ f : FilterArg,
      ¬ ((addSubscription (2 ^ 31 + 1)
            ((subscriptionList Nat Nat (2 ^ 31 + 1)).init) (some f.string) f.length
            (some 0) none).2 = true ↔
          ⟨f.filter, 0, none⟩ ∈ live ([] : List (ListCall Nat Nat × Option Bool)) ∨
            (live ([] : List (ListCall Nat Nat × Option Bool))).card < 2 ^ 31 + 1) := by
  refine ⟨⟨[97], 1, by decide, by decide, by decide, by decide⟩, ?_⟩
  intro h
  -- the first index is negative, so the loop ends before its first round
  have hcount : addScanCount (2 ^ 31 + 1) = 0 := by decide
  have hres := h.mpr (Or.inr (by decide))
  unfold addSubscription at hres
  simp only [hcount, addScan, Nat.one_ne_zero, if_false, Nat.lt_irrefl, Bool.false_eq_true] at hres

end SubscriptionManager

end ProvisioningSdk
