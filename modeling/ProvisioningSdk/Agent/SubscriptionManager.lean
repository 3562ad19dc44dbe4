import ProvisioningSdk.Lib.Slots
import ProvisioningSdk.Lib.Transition
import Mathlib.Algebra.Group.Nat.Defs

/-!
# The Subscription Manager

`subscription_manager.c`: the array that routes an incoming publish to the
callbacks registered for its topic.

The array has a fixed capacity, `SUBSCRIPTION_MANAGER_MAX_SUBSCRIPTIONS`, which
is a parameter here. An element whose filter length is zero is a hole.
`addSubscription` scans it once from the end, looking for a duplicate and
remembering the last hole it passed, so a new element lands in the first one.
The scan counts with an `int32_t`, which is where a capacity of `2 ^ 31` or
more goes wrong. `removeSubscription` clears every element with an equal
filter. `handleIncomingPublishes` walks the array forward with one `isMatched`
variable for all elements and ignores the status of the matcher, which is
coreMQTT's and a parameter.

Filter strings are byte lists compared by `strncmp` up to the stored length.

## Main definitions

* `SubscriptionElement`: An element of the array.
* `addSubscription`, `removeSubscription`, `handleIncomingPublishes`: The three
  functions.
* `Subscription`: A filter with its callback and context.
* `entry`: The subscription an element holds.
* `FilterArg`: A filter argument as the callers promise it.

## Theorems

* `strncmp_eq_zero`: Comparing NUL-free strings compares their bytes.
* `addScan_dup`, `addScan_fresh`: What the scan finds.
* `removeSubscription_apply`: Removing clears equal filters.
* `handleIncomingPublishes_calls`: Dispatch calls the matching elements.
-/

namespace ProvisioningSdk

namespace SubscriptionManager

/-- The value of an `int32_t` conversion. -/
def int32 (x : Int) : Int := Int.bmod x (2 ^ 32)

/-- `strncmp` on the bytes at two pointers; a string ends with a NUL. -/
def strncmp : List UInt8 → List UInt8 → Nat → Int
  | _, _, 0 => 0
  | s1, s2, n + 1 =>
      if s1.headD 0 = s2.headD 0 then
        (if s1.headD 0 = 0 then 0 else strncmp s1.tail s2.tail n)
      else ((s1.headD 0).toNat : Int) - ((s2.headD 0).toNat : Int)

variable {Cb Cx : Type*}

/-- `SubscriptionElement_t`; a `NULL` pointer is `none`. -/
structure SubscriptionElement (Cb Cx : Type*) where
  pxIncomingPublishCallback : Option Cb
  pvIncomingPublishCallbackContext : Option Cx
  usFilterStringLength : Nat
  pcSubscriptionFilterString : Option (List UInt8)

/-- An element with every byte zero. -/
def zeroElement : SubscriptionElement Cb Cx where
  pxIncomingPublishCallback := none
  pvIncomingPublishCallbackContext := none
  usFilterStringLength := 0
  pcSubscriptionFilterString := none

/-- The array of subscription elements, by index. -/
abbrev SubscriptionList (Cb Cx : Type*) := Nat → SubscriptionElement Cb Cx

/-- The bytes at the filter pointer of an element. -/
def filterString (e : SubscriptionElement Cb Cx) : List UInt8 :=
  e.pcSubscriptionFilterString.getD []

/-! ### The three functions -/

section Functions

variable [DecidableEq Cb] [DecidableEq Cx]

/-- The element is a subscription of the given filter, callback and context. -/
def isDuplicate (e : SubscriptionElement Cb Cx) (filter : List UInt8) (len : Nat) (cb : Cb)
    (ctx : Option Cx) : Bool :=
  e.usFilterStringLength == len && strncmp filter (filterString e) len == 0 &&
    e.pxIncomingPublishCallback == some cb && e.pvIncomingPublishCallbackContext == ctx

/-- The loop of `addSubscription` over the indices below its argument, from
    the highest down: the final `xAvailableIndex`, and whether a duplicate
    ended the loop. -/
def addScan (capacity : Nat) (slots : SubscriptionList Cb Cx) (filter : List UInt8) (len : Nat)
    (cb : Cb) (ctx : Option Cx) : Nat → Nat → Nat × Bool
  | 0, available => (available, false)
  | lIndex + 1, available =>
      if (slots lIndex).usFilterStringLength = 0 then
        addScan capacity slots filter len cb ctx lIndex lIndex
      -- a duplicate ends the loop with an index that is not written to
      else if isDuplicate (slots lIndex) filter len cb ctx then (capacity, true)
      else addScan capacity slots filter len cb ctx lIndex available

/-- How many elements the loop of `addSubscription` visits: it starts at
    `( int32_t ) capacity - 1` and stops below zero. -/
def addScanCount (capacity : Nat) : Nat := (int32 (int32 capacity - 1) + 1).toNat

/-- `addSubscription`. -/
def addSubscription (capacity : Nat) (slots : SubscriptionList Cb Cx)
    (pcTopicFilterString : Option (List UInt8)) (usTopicFilterLength : Nat)
    (pxIncomingPublishCallback : Option Cb) (pvIncomingPublishCallbackContext : Option Cx) :
    SubscriptionList Cb Cx × Bool :=
  match pcTopicFilterString, pxIncomingPublishCallback with
  | some filter, some cb =>
      if usTopicFilterLength = 0 then (slots, false)
      else
        let scan := addScan capacity slots filter usTopicFilterLength cb
          pvIncomingPublishCallbackContext (addScanCount capacity) capacity
        if scan.1 < capacity then
          (Function.update slots scan.1
            { pxIncomingPublishCallback := some cb
              pvIncomingPublishCallbackContext := pvIncomingPublishCallbackContext
              usFilterStringLength := usTopicFilterLength
              pcSubscriptionFilterString := some filter }, true)
        else (slots, scan.2)
  | _, _ => (slots, false)

end Functions

/-- One round of the loop of `removeSubscription`. -/
def removeAt (filter : List UInt8) (len : Nat) (slots : SubscriptionList Cb Cx) (lIndex : Nat) :
    SubscriptionList Cb Cx :=
  if (slots lIndex).usFilterStringLength = len then
    (if strncmp (filterString (slots lIndex)) filter len = 0 then
      Function.update slots lIndex zeroElement
    else slots)
  else slots

/-- `removeSubscription`. -/
def removeSubscription (capacity : Nat) (slots : SubscriptionList Cb Cx)
    (pcTopicFilterString : Option (List UInt8)) (usTopicFilterLength : Nat) :
    SubscriptionList Cb Cx :=
  match pcTopicFilterString with
  | some filter =>
      if usTopicFilterLength = 0 then slots
      else (List.range capacity).foldl (removeAt filter usTopicFilterLength) slots
  | none => slots

/-- `MQTT_MatchTopic` on a topic and a filter: what it writes to `isMatched`,
    if anything. -/
abbrev MatchTopic := List UInt8 → List UInt8 → Option Bool

/-- The locals of `handleIncomingPublishes`, with the callback calls made so
    far. -/
structure Dispatch (Cb Cx : Type*) where
  isMatched : Bool
  publishHandled : Bool
  calls : List (Option Cb × Option Cx)

/-- One round of the loop of `handleIncomingPublishes`. -/
def dispatchAt (matchTopic : MatchTopic) (topic : List UInt8) (slots : SubscriptionList Cb Cx)
    (d : Dispatch Cb Cx) (lIndex : Nat) : Dispatch Cb Cx :=
  if 0 < (slots lIndex).usFilterStringLength then
    -- a matcher that fails leaves the value of the element before
    let isMatched := (matchTopic topic ((filterString (slots lIndex)).take
      (slots lIndex).usFilterStringLength)).getD d.isMatched
    if isMatched then
      { isMatched := isMatched
        publishHandled := true
        calls := d.calls ++ [((slots lIndex).pxIncomingPublishCallback,
          (slots lIndex).pvIncomingPublishCallbackContext)] }
    else { d with isMatched := isMatched }
  else d

/-- `handleIncomingPublishes`: the callbacks called, in order, and the
    status. -/
def handleIncomingPublishes (matchTopic : MatchTopic) (capacity : Nat)
    (slots : SubscriptionList Cb Cx) (topic : List UInt8) :
    List (Option Cb × Option Cx) × Bool :=
  let d := (List.range capacity).foldl (dispatchAt matchTopic topic slots)
    { isMatched := false, publishHandled := false, calls := [] }
  (d.calls, d.publishHandled)

/-! ### What an element holds -/

/-- A filter with the callback and context registered for it. -/
@[ext]
structure Subscription (Cb Cx : Type*) where
  filter : List UInt8
  callback : Cb
  context : Option Cx
deriving DecidableEq

/-- A filter argument as the callers promise it: a pointer to a string that has
    the stated length before its NUL, if any. -/
structure FilterArg where
  string : List UInt8
  length : Nat
  length_pos : 1 ≤ length
  length_lt : length < 2 ^ 16
  length_le : length ≤ string.length
  noNul : 0 ∉ string.take length

/-- The bytes of the filter itself. -/
def FilterArg.filter (f : FilterArg) : List UInt8 := f.string.take f.length

/-- The subscription an element holds, if it is not a hole. -/
def entry (e : SubscriptionElement Cb Cx) : Option (Subscription Cb Cx) :=
  if e.usFilterStringLength = 0 then none
  else e.pxIncomingPublishCallback.map (fun cb =>
    { filter := (filterString e).take e.usFilterStringLength
      callback := cb
      context := e.pvIncomingPublishCallbackContext })

/-- The element `addSubscription` writes. -/
def element (f : FilterArg) (cb : Cb) (ctx : Option Cx) : SubscriptionElement Cb Cx where
  pxIncomingPublishCallback := some cb
  pvIncomingPublishCallbackContext := ctx
  usFilterStringLength := f.length
  pcSubscriptionFilterString := some f.string

/-- The elements that calls with such arguments leave behind. -/
def Written (e : SubscriptionElement Cb Cx) : Prop :=
  e = zeroElement ∨ ∃ f cb ctx, e = element f cb ctx

@[simp] theorem entry_zeroElement : entry (zeroElement : SubscriptionElement Cb Cx) = none := rfl

@[simp] theorem entry_element (f : FilterArg) (cb : Cb) (ctx : Option Cx) :
    entry (element f cb ctx) = some ⟨f.filter, cb, ctx⟩ := by
  have hne : ¬ f.length = 0 := by
    have := f.length_pos
    omega
  unfold entry
  exact if_neg hne

@[simp] theorem element_usFilterStringLength (f : FilterArg) (cb : Cb) (ctx : Option Cx) :
    (element f cb ctx).usFilterStringLength = f.length := rfl

@[simp] theorem filterString_element (f : FilterArg) (cb : Cb) (ctx : Option Cx) :
    filterString (element f cb ctx) = f.string := rfl

theorem FilterArg.length_filter (f : FilterArg) : f.filter.length = f.length := by
  unfold FilterArg.filter
  rw [List.length_take]
  exact Nat.min_eq_left f.length_le

theorem FilterArg.filter_ne_nil (f : FilterArg) : f.filter ≠ [] := by
  intro h
  have hlen := f.length_filter
  have hpos := f.length_pos
  rw [h, List.length_nil] at hlen
  omega

theorem strncmp_cons (a b : UInt8) (s1 s2 : List UInt8) (n : Nat) :
    strncmp (a :: s1) (b :: s2) (n + 1) =
      if a = b then (if a = 0 then 0 else strncmp s1 s2 n) else (a.toNat : Int) - (b.toNat : Int) :=
  rfl

theorem strncmp_eq_zero (n : Nat) :
    ∀ s1 s2 : List UInt8, n ≤ s1.length → n ≤ s2.length → 0 ∉ s1.take n →
      (strncmp s1 s2 n = 0 ↔ s1.take n = s2.take n) := by
  induction n with
  | zero =>
      intro s1 s2 _ _ _
      simp only [strncmp, List.take_zero]
  | succ n ih =>
      intro s1 s2 h1 h2 hnul
      rcases s1 with _ | ⟨a, s1⟩
      · rw [List.length_nil] at h1
        omega
      rcases s2 with _ | ⟨b, s2⟩
      · rw [List.length_nil] at h2
        omega
      rw [List.length_cons] at h1 h2
      rw [List.take_succ_cons, List.mem_cons, not_or] at hnul
      rw [strncmp_cons, List.take_succ_cons, List.take_succ_cons, List.cons.injEq]
      by_cases hab : a = b
      · -- the bytes agree and are no NUL, so the rest decides
        rw [if_pos hab, if_neg (fun h => hnul.1 h.symm),
          ih s1 s2 (by omega) (by omega) hnul.2]
        simp only [hab, true_and]
      · rw [if_neg hab]
        simp only [hab, false_and, iff_false]
        intro hsub
        apply hab
        apply UInt8.toNat_inj.mp
        omega

/-- Comparing up to the length of both filters compares the filters. -/
theorem strncmp_filter (f g : FilterArg) (h : f.length = g.length) :
    strncmp f.string g.string f.length = 0 ↔ f.filter = g.filter := by
  have hg := g.length_le
  rw [strncmp_eq_zero f.length f.string g.string f.length_le (by omega) f.noNul]
  unfold FilterArg.filter
  rw [h]

theorem filter_ne_of_length (f g : FilterArg) (h : f.length ≠ g.length) : f.filter ≠ g.filter := by
  intro hfg
  apply h
  rw [← f.length_filter, ← g.length_filter, hfg]

theorem hole_iff {e : SubscriptionElement Cb Cx} (h : Written e) :
    e.usFilterStringLength = 0 ↔ entry e = none := by
  -- an element is zero or was written with a filter that is not empty
  rcases h with rfl | ⟨f, cb, ctx, rfl⟩
  · exact ⟨fun _ => rfl, fun _ => rfl⟩
  · rw [entry_element]
    have hpos := f.length_pos
    constructor
    · intro hz
      simp only [element] at hz
      omega
    · intro hc
      cases hc

section Scan

variable [DecidableEq Cb] [DecidableEq Cx]

theorem isDuplicate_iff {e : SubscriptionElement Cb Cx} (h : Written e) (f : FilterArg) (cb : Cb)
    (ctx : Option Cx) :
    isDuplicate e f.string f.length cb ctx = true ↔ entry e = some ⟨f.filter, cb, ctx⟩ := by
  rcases h with rfl | ⟨g, cb', ctx', rfl⟩
  · have hne : (zeroElement : SubscriptionElement Cb Cx).usFilterStringLength ≠ f.length := by
      have := f.length_pos
      simp only [zeroElement]
      omega
    unfold isDuplicate
    simp only [beq_eq_false_iff_ne.mpr hne, Bool.false_and, Bool.false_eq_true, entry_zeroElement,
      reduceCtorEq]
  · rw [entry_element]
    unfold isDuplicate
    simp only [element, filterString, Option.getD_some, Bool.and_eq_true, beq_iff_eq,
      Option.some.injEq, Subscription.mk.injEq]
    constructor
    -- equal lengths make the comparison one of whole filters
    · rintro ⟨⟨⟨hlen, hcmp⟩, hcb⟩, hctx⟩
      exact ⟨((strncmp_filter f g hlen.symm).mp hcmp).symm, hcb, hctx⟩
    · rintro ⟨hfilter, hcb, hctx⟩
      have hlen : g.length = f.length := by
        rw [← g.length_filter, hfilter, f.length_filter]
      exact ⟨⟨⟨hlen, (strncmp_filter f g hlen.symm).mpr hfilter.symm⟩, hcb⟩, hctx⟩

variable (capacity : Nat) (slots : SubscriptionList Cb Cx) (f : FilterArg) (cb : Cb)
  (ctx : Option Cx)

/-- A duplicate anywhere ends the scan with nothing to write. -/
theorem addScan_dup (hw : ∀ i, Written (slots i)) (n available : Nat) (i : Nat) (hi : i < n)
    (hdup : entry (slots i) = some ⟨f.filter, cb, ctx⟩) :
    addScan capacity slots f.string f.length cb ctx n available = (capacity, true) := by
  induction n generalizing available with
  | zero => omega
  | succ n ih =>
      unfold addScan
      by_cases hin : i = n
      · -- the element itself: no hole, and equal in every field
        subst hin
        have hlen : ¬ (slots i).usFilterStringLength = 0 := by
          rw [hole_iff (hw i), hdup]
          simp only [reduceCtorEq, not_false_eq_true]
        rw [if_neg hlen, if_pos ((isDuplicate_iff (hw i) f cb ctx).mpr hdup)]
      · split
        · exact ih n (by omega)
        · split
          · rfl
          · exact ih available (by omega)

/-- With no duplicate the scan remembers the lowest hole it passed. -/
theorem addScan_fresh (hw : ∀ i, Written (slots i)) (n available : Nat)
    (hnew : ∀ i, i < n → entry (slots i) ≠ some ⟨f.filter, cb, ctx⟩) :
    ∃ a, addScan capacity slots f.string f.length cb ctx n available = (a, false) ∧
      ((a < n ∧ entry (slots a) = none ∧ ∀ i, i < a → entry (slots i) ≠ none) ∨
        (a = available ∧ ∀ i, i < n → entry (slots i) ≠ none)) := by
  induction n generalizing available with
  | zero => exact ⟨available, rfl, Or.inr ⟨rfl, fun i hi => absurd hi (Nat.not_lt_zero i)⟩⟩
  | succ n ih =>
      have hrest : ∀ i, i < n → entry (slots i) ≠ some ⟨f.filter, cb, ctx⟩ :=
        fun i hi => hnew i (by omega)
      unfold addScan
      by_cases hhole : (slots n).usFilterStringLength = 0
      · rw [if_pos hhole]
        -- a hole: what is remembered from here on is this index, or a lower one
        rcases ih n hrest with ⟨a, ha, ⟨han, hnone, hlow⟩ | ⟨han, hfull⟩⟩
        · exact ⟨a, ha, Or.inl ⟨by omega, hnone, hlow⟩⟩
        · -- nothing below is free, so the hole just passed is the one to use
          subst han
          exact ⟨a, ha, Or.inl ⟨by omega, (hole_iff (hw a)).mp hhole, hfull⟩⟩
      -- an element that is in use and no duplicate changes nothing
      · have hdup : ¬ isDuplicate (slots n) f.string f.length cb ctx = true := by
          rw [isDuplicate_iff (hw n)]
          exact hnew n (by omega)
        have hheld : entry (slots n) ≠ none := fun hc => hhole ((hole_iff (hw n)).mpr hc)
        rw [if_neg hhole, if_neg hdup]
        -- the element is held, so a lower hole is the first one as before
        rcases ih available hrest with ⟨a, ha, ⟨han, hnone, hlow⟩ | ⟨han, hfull⟩⟩
        · exact ⟨a, ha, Or.inl ⟨by omega, hnone, hlow⟩⟩
        · refine ⟨a, ha, Or.inr ⟨han, ?_⟩⟩
          intro i hi
          by_cases hin : i = n
          · rw [hin]
            exact hheld
          · exact hfull i (by omega)

end Scan

/-- Up to `INT32_MAX` elements the scan visits all of them. -/
theorem addScanCount_eq (capacity : Nat) (h : capacity < 2 ^ 31) :
    addScanCount capacity = capacity := by
  -- neither the capacity nor the first index wraps
  have hbmod : ∀ x : Int, -(2 ^ 31) ≤ x → x < 2 ^ 31 → int32 x = x := by
    intro x hlo hhi
    unfold int32
    exact Int.bmod_eq_of_le (by omega) (by omega)
  unfold addScanCount
  rw [hbmod capacity (by omega) (by omega), hbmod _ (by omega) (by omega)]
  omega

section Add

variable [DecidableEq Cb] [DecidableEq Cx]

theorem addSubscription_eq {capacity : Nat} (hcap : capacity < 2 ^ 31)
    (slots : SubscriptionList Cb Cx) (f : FilterArg) (cb : Cb)
    (ctx : Option Cx) (a : Nat) (dup : Bool)
    (hscan : addScan capacity slots f.string f.length cb ctx capacity capacity = (a, dup)) :
    addSubscription capacity slots (some f.string) f.length (some cb) ctx =
      if a < capacity then (Function.update slots a (element f cb ctx), true)
      else (slots, dup) := by
  have hlen : ¬ f.length = 0 := by
    have := f.length_pos
    omega
  unfold addSubscription
  simp only [if_neg hlen, addScanCount_eq capacity hcap, hscan, element]

end Add

/-! ### Removing -/

/-- The element holds a subscription with this filter. -/
def hasFilter (filter : List UInt8) (e : SubscriptionElement Cb Cx) : Bool :=
  (entry e).any (fun t => t.filter == filter)

/-- One round clears its element when the filter is equal. -/
theorem removeAt_eq (f : FilterArg) (slots : SubscriptionList Cb Cx) (lIndex : Nat)
    (hw : Written (slots lIndex)) :
    removeAt f.string f.length slots lIndex =
      if hasFilter f.filter (slots lIndex) then Function.update slots lIndex zeroElement
      else slots := by
  unfold removeAt hasFilter
  rcases hw with hz | ⟨g, cb, ctx, hg⟩
  · have hne : ¬ (zeroElement : SubscriptionElement Cb Cx).usFilterStringLength = f.length := by
      have := f.length_pos
      simp only [zeroElement]
      omega
    rw [hz, entry_zeroElement, if_neg hne]
    rfl
  · rw [hg, entry_element, element_usFilterStringLength, filterString_element, Option.any_some]
    by_cases hlen : g.length = f.length
    · rw [if_pos hlen, ← hlen]
      -- the comparison stops at the length they share
      simp only [strncmp_filter g f hlen, beq_iff_eq]
    · have hne := beq_eq_false_iff_ne.mpr (filter_ne_of_length g f hlen)
      rw [if_neg hlen, hne]
      rfl

theorem removeRange_apply (f : FilterArg) (slots : SubscriptionList Cb Cx)
    (hw : ∀ i, Written (slots i)) (n i : Nat) :
    (List.range n).foldl (removeAt f.string f.length) slots i =
      if i < n ∧ hasFilter f.filter (slots i) then zeroElement else slots i := by
  induction n generalizing i with
  | zero =>
      rw [if_neg (fun h => Nat.not_lt_zero i h.1)]
      rfl
  | succ n ih =>
      rw [List.range_succ, List.foldl_append, List.foldl_cons, List.foldl_nil]
      -- the rounds before did not reach index `n`
      have hn := ih n
      rw [if_neg (fun h => Nat.lt_irrefl n h.1)] at hn
      rw [removeAt_eq f _ n (by rw [hn]; exact hw n), hn]
      by_cases hin : i = n
      · subst hin
        by_cases hhas : hasFilter f.filter (slots i) = true
        · rw [if_pos hhas, Function.update_self, if_pos ⟨Nat.lt_succ_self i, hhas⟩]
        · rw [if_neg hhas, hn, if_neg (fun h => hhas h.2)]
      · -- the last round is about another element
        have hother : (if hasFilter f.filter (slots n) = true then
            Function.update ((List.range n).foldl (removeAt f.string f.length) slots) n zeroElement
            else (List.range n).foldl (removeAt f.string f.length) slots) i =
            (List.range n).foldl (removeAt f.string f.length) slots i := by
          split
          · rw [Function.update_of_ne hin]
          · rfl
        have hlt : i < n + 1 ↔ i < n := by omega
        rw [hother, ih i]
        simp only [hlt]

theorem removeSubscription_apply (capacity : Nat) (f : FilterArg) (slots : SubscriptionList Cb Cx)
    (hw : ∀ i, Written (slots i)) (i : Nat) :
    removeSubscription capacity slots (some f.string) f.length i =
      if i < capacity ∧ hasFilter f.filter (slots i) then zeroElement else slots i := by
  have hlen : ¬ f.length = 0 := by
    have := f.length_pos
    omega
  unfold removeSubscription
  simp only [if_neg hlen]
  exact removeRange_apply f slots hw capacity i

/-! ### Dispatching -/

/-- The call a publish makes for one element. -/
def called (matchTopic : MatchTopic) (topic : List UInt8) (e : SubscriptionElement Cb Cx) :
    Option (Option Cb × Option Cx) :=
  ((entry e).filter (fun t => decide (matchTopic topic t.filter = some true))).map
    (fun t => (some t.callback, t.context))

/-- One round makes the call of its element. With a matcher that always answers
    the value left by the rounds before is not read. -/
theorem dispatchAt_eq (matchTopic : MatchTopic) (topic : List UInt8)
    (hmatch : ∀ filter, filter ≠ [] → (matchTopic topic filter).isSome)
    (slots : SubscriptionList Cb Cx) (d : Dispatch Cb Cx) (lIndex : Nat)
    (hw : Written (slots lIndex)) :
    (dispatchAt matchTopic topic slots d lIndex).calls =
        d.calls ++ (called matchTopic topic (slots lIndex)).toList ∧
      (dispatchAt matchTopic topic slots d lIndex).publishHandled =
        (d.publishHandled || (called matchTopic topic (slots lIndex)).isSome) := by
  unfold dispatchAt called
  rcases hw with hz | ⟨f, cb, ctx, hf⟩
  · have hzero : ¬ 0 < (zeroElement : SubscriptionElement Cb Cx).usFilterStringLength :=
      Nat.lt_irrefl 0
    rw [hz, entry_zeroElement, if_neg hzero]
    simp only [Option.filter_none, Option.map_none, Option.toList_none, List.append_nil,
      Option.isSome_none, Bool.or_false, and_self]
  · have hpos : 0 < f.length := f.length_pos
    rw [hf, entry_element, element_usFilterStringLength, filterString_element, if_pos hpos]
    -- the matcher answers, so the value of the round before is overwritten
    rcases Option.isSome_iff_exists.mp (hmatch f.filter f.filter_ne_nil) with ⟨b, hb⟩
    have htake : matchTopic topic (f.string.take f.length) = some b := hb
    rw [htake, Option.filter_some, hb]
    cases b with
    | true =>
        simp only [Option.getD_some, if_true, decide_true, Option.map_some, Option.toList_some,
          Option.isSome_some, Bool.or_true, element, and_self]
    | false =>
        simp only [Option.getD_some, Bool.false_eq_true, if_false, Option.some.injEq, decide_false,
          Option.map_none, Option.toList_none, List.append_nil, Option.isSome_none, Bool.or_false,
          and_self]

/-- Dispatch makes the call of each element, in order, and reports whether
    there was one. -/
theorem handleIncomingPublishes_calls (matchTopic : MatchTopic) (topic : List UInt8)
    (hmatch : ∀ filter, filter ≠ [] → (matchTopic topic filter).isSome) (capacity : Nat)
    (slots : SubscriptionList Cb Cx) (hw : ∀ i, Written (slots i)) :
    handleIncomingPublishes matchTopic capacity slots topic =
      ((List.range capacity).filterMap (fun i => called matchTopic topic (slots i)),
        !((List.range capacity).filterMap
          (fun i => called matchTopic topic (slots i))).isEmpty) := by
  unfold handleIncomingPublishes
  induction capacity with
  | zero => rfl
  | succ n ih =>
      rw [Prod.mk.injEq] at ih
      rcases ih with ⟨hcalls, hhandled⟩
      have hround := dispatchAt_eq matchTopic topic hmatch slots
        ((List.range n).foldl (dispatchAt matchTopic topic slots)
          { isMatched := false, publishHandled := false, calls := [] }) n (hw n)
      rw [hcalls, hhandled] at hround
      simp only [List.range_succ, List.foldl_append, List.foldl_cons, List.foldl_nil,
        List.filterMap_append, List.filterMap_cons, List.filterMap_nil, hround]
      -- the last round adds its call, if it makes one, and then the publish is handled
      cases called matchTopic topic (slots n) with
      | none => simp only [Option.toList_none, List.append_nil, Option.isSome_none, Bool.or_false]
      | some c =>
          have hne : ((List.range n).filterMap (fun i => called matchTopic topic (slots i)) ++
              [c]).isEmpty = false := by
            rw [List.isEmpty_eq_false_iff]
            exact List.append_ne_nil_of_right_ne_nil _ (List.cons_ne_nil c [])
          simp only [Option.toList_some, Option.isSome_some, Bool.or_true, hne, Bool.not_false]

end SubscriptionManager

end ProvisioningSdk
