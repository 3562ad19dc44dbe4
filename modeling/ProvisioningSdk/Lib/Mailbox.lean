import ProvisioningSdk.Lib.Transition

/-!
# Mailboxes

A mailbox with a fixed number of items that travel in a circle: a writer obtains
a free item for a message and posts it, a reader takes the oldest posted item,
and gives it back when it has finished with it.

What a mailbox is for is a first-in first-out order of the messages, with
nothing lost and nothing handed out twice, while the items carry the messages
and are used again and again. So it is described here by the messages: an entry
is an item with the message it carries, and the order of the entries decides
which item a reader may get. An implementation that answers with another item,
refuses an item it has, or reports an empty mailbox that is not, takes a step
this system does not accept.

## Main definitions

* `Box`: The entries, and the number of free items.
* `mailbox`: The steps of a mailbox with `n` items.
* `obtained`, `taken`: What was put in and what came out.
* `InTurn`: The order in which the entries come out.

## Theorems

* `step_cases`: What a step does.
* `InTurn.concat`: Every step keeps the order.
* `run_order`: The messages come out in the order they were put in.
* `mem_out_runFrom`: A reader keeps its entry until it has finished with it.
-/

namespace Mailbox

open Transition

variable {ι P M : Type*}

/-- The messages on their way. -/
structure Box (ι P M : Type*) where
  free : Nat
  /-- What the writer is about to post. -/
  inHand : Option (P × M)
  /-- What was posted, oldest first. -/
  queued : List (P × M)
  /-- What the readers have. -/
  out : List (ι × P × M)

/-- The steps, with what they answer. -/
inductive Act (ι P M : Type*)
  /-- The writer asks for a free item for this message. -/
  | obtain (message : M) (item : Option P)
  | post
  /-- A reader asks for the oldest posted item. -/
  | take (reader : ι) (item : Option P)
  /-- It has finished with its item. -/
  | finish (reader : ι) (item : P)
  /-- A finished item is free again. -/
  | giveBack

section Steps

variable [DecidableEq ι] [DecidableEq P]

/-- The entry is the one of this reader and this item. -/
def isOf (reader : ι) (item : P) (e : ι × P × M) : Bool := e.1 == reader && e.2.1 == item

theorem isOf_iff {reader : ι} {item : P} {e : ι × P × M} :
    isOf reader item e = true ↔ e.1 = reader ∧ e.2.1 = item := by
  unfold isOf
  rw [Bool.and_eq_true, beq_iff_eq, beq_iff_eq]

/-- The entries of other readers and items. -/
theorem mem_others {reader : ι} {item : P} {e : ι × P × M} {out : List (ι × P × M)} :
    e ∈ out.filter (fun e => !isOf reader item e) ↔
      e ∈ out ∧ ¬ (e.1 = reader ∧ e.2.1 = item) := by
  rw [List.mem_filter, Bool.not_eq_true', ← isOf_iff, Bool.not_eq_true]

/-- A step, where the mailbox allows it. -/
def step (box : Box ι P M) : Act ι P M → Option (Box ι P M)
  | .obtain message (some item) =>
      if box.inHand.isNone ∧ 0 < box.free then
        some { box with free := box.free - 1, inHand := some (item, message) }
      else none
  | .obtain _ none => if box.inHand.isNone ∧ box.free = 0 then some box else none
  | .post =>
      match box.inHand with
      | some e => some { box with inHand := none, queued := box.queued ++ [e] }
      | none => none
  | .take reader (some item) =>
      match box.queued with
      | e :: rest =>
          -- no other item than the oldest one
          if e.1 = item then some { box with queued := rest, out := (reader, e) :: box.out }
          else none
      | [] => none
  | .take _ none => if box.queued.isEmpty then some box else none
  | .finish reader item =>
      if box.out.any (isOf reader item) then
        some { box with out := box.out.filter (fun e => !isOf reader item e) }
      else none
  | .giveBack => some { box with free := box.free + 1 }

/-- A mailbox with `n` items, all of them free. -/
def mailbox (ι P M : Type*) [DecidableEq ι] [DecidableEq P] (n : Nat) :
    System (Box ι P M) (Act ι P M) where
  init := ⟨n, none, [], []⟩
  step := step

/-- What the steps do. -/
inductive Step (box : Box ι P M) : Act ι P M → Box ι P M → Prop
  | obtained {message : M} {item : P} (hhand : box.inHand = none) (hfree : 0 < box.free) :
      Step box (.obtain message (some item))
        { box with free := box.free - 1, inHand := some (item, message) }
  | refused {message : M} (hhand : box.inHand = none) (hfree : box.free = 0) :
      Step box (.obtain message none) box
  | posted {e : P × M} (hhand : box.inHand = some e) :
      Step box .post { box with inHand := none, queued := box.queued ++ [e] }
  | taken {reader : ι} {e : P × M} {rest : List (P × M)} (hqueued : box.queued = e :: rest) :
      Step box (.take reader (some e.1))
        { box with queued := rest, out := (reader, e) :: box.out }
  | empty {reader : ι} (hqueued : box.queued = []) : Step box (.take reader none) box
  | finished {reader : ι} {item : P} (hout : box.out.any (isOf reader item) = true) :
      Step box (.finish reader item)
        { box with out := box.out.filter (fun e => !isOf reader item e) }
  | givenBack : Step box .giveBack { box with free := box.free + 1 }

theorem step_cases {box box' : Box ι P M} {act : Act ι P M} (h : step box act = some box') :
    Step box act box' := by
  cases act with
  -- the producer gets an item or finds none
  | obtain message item =>
      cases item with
      | some item =>
          simp only [step] at h
          split at h
          case isTrue hfree =>
            cases h
            exact .obtained (Option.isNone_iff_eq_none.mp hfree.1) hfree.2
          case isFalse => cases h
      | none =>
          simp only [step] at h
          split at h
          case isTrue hfree =>
            cases h
            exact .refused (Option.isNone_iff_eq_none.mp hfree.1) hfree.2
          case isFalse => cases h
  | post =>
      simp only [step] at h
      split at h
      case h_1 e hhand =>
        cases h
        exact .posted hhand
      case h_2 => cases h
  -- a reader takes the first message or finds none
  | take reader item =>
      cases item with
      | some item =>
          simp only [step] at h
          split at h
          case h_1 e rest hqueued =>
            split at h
            case isTrue hitem =>
              cases h
              exact hitem ▸ .taken hqueued
            case isFalse => cases h
          case h_2 => cases h
      | none =>
          simp only [step] at h
          split at h
          case isTrue hqueued =>
            cases h
            exact .empty (List.isEmpty_iff.mp hqueued)
          case isFalse => cases h
  | finish reader item =>
      simp only [step] at h
      split at h
      case isTrue hout =>
        cases h
        exact .finished hout
      case isFalse => cases h
  | giveBack =>
      cases h
      exact .givenBack

end Steps

/-! ### What was put in and what came out -/

/-- The entry a step begins. -/
def Act.obtained : Act ι P M → Option (P × M)
  | .obtain message (some item) => some (item, message)
  | _ => none

/-- The item a step hands out, and to whom. -/
def Act.taken : Act ι P M → Option (ι × P)
  | .take reader (some item) => some (reader, item)
  | _ => none

/-- The entries that were begun. -/
def obtained (acts : List (Act ι P M)) : List (P × M) := acts.filterMap Act.obtained

/-- The items that were handed out. -/
def taken (acts : List (Act ι P M)) : List (ι × P) := acts.filterMap Act.taken

theorem obtained_concat (acts : List (Act ι P M)) (act : Act ι P M) :
    obtained (acts ++ [act]) = obtained acts ++ act.obtained.toList := by
  unfold obtained
  rw [System.filterMap_concat]

theorem taken_concat (acts : List (Act ι P M)) (act : Act ι P M) :
    taken (acts ++ [act]) = taken acts ++ act.taken.toList := by
  unfold taken
  rw [System.filterMap_concat]

/-- What is at a place of a list stays there when something is appended. -/
theorem getElem?_append_some {α : Type*} {l : List α} {k : Nat} {a : α} (h : l[k]? = some a)
    (l' : List α) : (l ++ l')[k]? = some a := by
  rw [List.getElem?_append_left (List.getElem?_eq_some_iff.mp h).1, h]

/-- The entries of the mailbox that nobody has taken, oldest first. -/
def Box.waiting (box : Box ι P M) : List (P × M) := box.queued ++ box.inHand.toList

/-- The entries that were taken, and those that wait, are the ones that were
    begun, in this order. -/
structure InTurn (acts : List (Act ι P M)) (box : Box ι P M) (done : List (P × M)) : Prop where
  obtained_eq : obtained acts = done ++ box.waiting
  /-- The items handed out are those of the entries. -/
  taken_eq : (taken acts).map Prod.snd = done.map Prod.fst
  /-- A reader has the message whose turn it was when it took its item. -/
  out_done : ∀ e ∈ box.out, ∃ k : Nat, (taken acts)[k]? = some (e.1, e.2.1) ∧ done[k]? = some e.2

theorem InTurn.nil (n : Nat) : InTurn [] (⟨n, none, [], []⟩ : Box ι P M) [] where
  obtained_eq := rfl
  taken_eq := rfl
  out_done := fun _ he => absurd he List.not_mem_nil

/-- A step that hands nothing out. -/
theorem InTurn.keep {acts : List (Act ι P M)} {box box' : Box ι P M} {done : List (P × M)}
    (h : InTurn acts box done) {act : Act ι P M} (htaken : act.taken = none)
    (hwaiting : box'.waiting = box.waiting ++ act.obtained.toList)
    (hout : ∀ e ∈ box'.out, e ∈ box.out) : InTurn (acts ++ [act]) box' done where
  obtained_eq := by rw [obtained_concat, hwaiting, h.obtained_eq, List.append_assoc]
  taken_eq := by
    rw [taken_concat, htaken, Option.toList_none, List.append_nil]
    exact h.taken_eq
  out_done := by
    intro e he
    rw [taken_concat, htaken, Option.toList_none, List.append_nil]
    exact h.out_done e (hout e he)

/-- The oldest entry is handed out. -/
theorem InTurn.hand {acts : List (Act ι P M)} {box : Box ι P M} {done rest : List (P × M)}
    {e : P × M} (h : InTurn acts box done) (hqueued : box.queued = e :: rest) (reader : ι) :
    InTurn (acts ++ [.take reader (some e.1)])
      { box with queued := rest, out := (reader, e) :: box.out } (done ++ [e]) where
  obtained_eq := by
    rw [obtained_concat, h.obtained_eq]
    unfold Box.waiting
    rw [hqueued, List.append_assoc]
    simp [Act.obtained]
  taken_eq := by
    rw [taken_concat, List.map_append, List.map_append, h.taken_eq]
    rfl
  out_done := by
    -- as many entries were taken as items were handed out
    have hlength : (taken acts).length = done.length := by
      simpa only [List.length_map] using congrArg List.length h.taken_eq
    intro e' he'
    rw [taken_concat]
    rcases List.mem_cons.mp he' with rfl | he'
    · refine ⟨done.length, ?_, List.getElem?_concat_length⟩
      rw [← hlength]
      exact List.getElem?_concat_length
    · rcases h.out_done e' he' with ⟨k, htaken, hdone⟩
      exact ⟨k, getElem?_append_some htaken _, getElem?_append_some hdone _⟩

section Runs

variable [DecidableEq ι] [DecidableEq P]

/-- Every step keeps the order. -/
theorem InTurn.concat {acts : List (Act ι P M)} {box box' : Box ι P M} {done : List (P × M)}
    (h : InTurn acts box done) {act : Act ι P M} (hstep : step box act = some box') :
    ∃ done', InTurn (acts ++ [act]) box' done' := by
  cases step_cases hstep with
  | obtained hhand =>
      refine ⟨done, h.keep rfl ?_ (fun _ he => he)⟩
      -- the writer had nothing in hand
      unfold Box.waiting
      rw [hhand, Option.toList_none, List.append_nil]
      rfl
  | posted hhand =>
      refine ⟨done, h.keep rfl ?_ (fun _ he => he)⟩
      unfold Box.waiting
      rw [hhand]
      simp [Act.obtained]
  | taken hqueued => exact ⟨_, h.hand hqueued _⟩
  | finished =>
      exact ⟨done, h.keep rfl (List.append_nil _).symm (fun _ he => (List.mem_filter.mp he).1)⟩
  | refused => exact ⟨done, h.keep rfl (List.append_nil _).symm (fun _ he => he)⟩
  | empty => exact ⟨done, h.keep rfl (List.append_nil _).symm (fun _ he => he)⟩
  | givenBack => exact ⟨done, h.keep rfl (List.append_nil _).symm (fun _ he => he)⟩

/-- The messages come out in the order they were put in, each of them once. -/
theorem run_order {n : Nat} (acts : List (Act ι P M)) (box : Box ι P M)
    (hrun : (mailbox ι P M n).run acts = some box) : ∃ done, InTurn acts box done := by
  refine (mailbox ι P M n).run_induction (P := fun acts box => ∃ done, InTurn acts box done)
    ⟨[], InTurn.nil n⟩ ?_ acts box hrun
  rintro acts box act box' _ ⟨done, h⟩ hstep
  exact h.concat hstep

/-- A reader keeps its entry over a step that does not finish with it. -/
theorem mem_out_step {box box' : Box ι P M} {act : Act ι P M} {e : ι × P × M} (he : e ∈ box.out)
    (hact : act ≠ .finish e.1 e.2.1) (hstep : step box act = some box') : e ∈ box'.out := by
  cases step_cases hstep with
  | taken => exact List.mem_cons_of_mem _ he
  | finished =>
      refine mem_others.mpr ⟨he, ?_⟩
      rintro ⟨rfl, rfl⟩
      exact hact rfl
  | obtained => exact he
  | refused => exact he
  | posted => exact he
  | empty => exact he
  | givenBack => exact he

/-- A reader keeps its entry until it has finished with it. -/
theorem mem_out_runFrom {n : Nat} {acts : List (Act ι P M)} {box box' : Box ι P M}
    {e : ι × P × M} (he : e ∈ box.out) (hacts : .finish e.1 e.2.1 ∉ acts)
    (hrun : (mailbox ι P M n).runFrom box acts = some box') : e ∈ box'.out := by
  induction acts generalizing box with
  | nil =>
      rw [System.runFrom_nil, Option.some.injEq] at hrun
      rw [← hrun]
      exact he
  | cons act acts ih =>
      rw [System.runFrom_cons, Option.bind_eq_some_iff] at hrun
      rcases hrun with ⟨box1, hstep, hrest⟩
      rw [List.mem_cons, not_or] at hacts
      exact ih (mem_out_step he (Ne.symm hacts.1) hstep) hacts.2 hrest

end Runs

end Mailbox
