import ProvisioningSdk.Provisioning.Credentials

/-!
# Destroying Provided Objects

What `destroyProvidedObjects` leaves on the token, for every list of labels and
classes and every pattern of failing calls.

The loop for one pair is stopped by the first call that fails. Whether that
leaves an object depends on the call: the search after the last object may fail
without any harm, every call before it leaves what it was for. All pairs share
one result, and each of them starts from a new one, so only the failures for
the last pair are reported (`destroyProvidedObjects_iff`).

## Main definitions

* `CutShort`, `Completes`: Which calls for a pair fail.
* `leaves`: How many objects are left under a pair, and when.
* `turns`: The turns of the pairs in a list.
* `DestroysProvided`: What the function is for.

## Theorems

* `destroyFound_sweeps`: The loop for one pair.
* `destroyLabels_sweeps`: The loop over the pairs.
* `destroyProvidedObjects_iff`: When its result can be relied on.
-/

namespace ProvisioningSdk

namespace FleetProvisioning

open Effect

/-! ### Objects that are left -/

namespace Token

/-- How many objects there are under a label and class. -/
def count (t : Token) (pair : Label × ObjectClass) : Nat := (t.under pair.1 pair.2).length

theorem count_eq_zero {t : Token} {pair : Label × ObjectClass} :
    t.count pair = 0 ↔ t.under pair.1 pair.2 = [] := List.length_eq_zero_iff

/-- One object less is under the label of an object that is destroyed. -/
theorem count_destroy (t : Token) {pair : Label × ObjectClass} {o : Object}
    (h : o ∈ t.under pair.1 pair.2) : (t.destroy o.handle).count pair + 1 = t.count pair :=
  t.length_under_destroy h

/-- Nothing else is destroyed with an object. -/
theorem under_destroy_other (t : Token) {pair other : Label × ObjectClass} {o : Object}
    (h : o ∈ t.under pair.1 pair.2) (hne : other ≠ pair) :
    (t.destroy o.handle).under other.1 other.2 = t.under other.1 other.2 := by
  rw [under_destroy, List.filter_eq_self]
  intro o' ho'
  rw [bne_iff_ne]
  intro hhandle
  rw [mem_under] at h ho'
  -- an object with that handle is under the label of the first
  rw [t.eq_of_handle ho'.1 h.1 hhandle] at ho'
  exact hne (Prod.ext (ho'.2.1.symm.trans h.2.1) (ho'.2.2.symm.trans h.2.2))

end Token

/-! ### Calls that fail -/

section Turns

variable (E : External)

/-- With this many objects under a pair, and its first search at this moment, a
    call fails before the last object is destroyed. -/
def CutShort (objects start : Nat) : Prop :=
  ∃ i < objects, (E.xFindObjectWithLabelAndClass (start + 2 * i)).1 = false ∨
    E.C_DestroyObject (start + 2 * i + 1) = false

/-- No call for the pair fails, not even the search that finds nothing. -/
def Completes (objects start : Nat) : Prop :=
  ¬ CutShort E objects start ∧ (E.xFindObjectWithLabelAndClass (start + 2 * objects)).1 = true

/-- How many objects are left under a pair, and the moment after its last
    call. -/
def leaves : Nat → Nat → Nat × Nat
  | 0, start => (0, start + 1)
  | objects + 1, start =>
      if (E.xFindObjectWithLabelAndClass start).1 = true then
        if E.C_DestroyObject (start + 1) = true then leaves objects (start + 2)
        else (objects + 1, start + 2)
      else (objects + 1, start + 1)

/-- The turn of a pair: how many objects are under it, and the moment of its
    first search. -/
structure Turn where
  pair : Label × ObjectClass
  objects : Nat
  start : Nat

/-- The turns of the pairs, with this many objects under each and from this
    moment. -/
def turns : List (Label × ObjectClass) → (Label × ObjectClass → Nat) → Nat → List Turn
  | [], _, _ => []
  | pair :: labels, count, start =>
      ⟨pair, count pair, start⟩ ::
        turns labels (Function.update count pair (leaves E (count pair) start).1)
          (leaves E (count pair) start).2

/-- No pair is cut short at its last turn. -/
def NoneCutShort : List Turn → Prop
  | [] => True
  | turn :: rest =>
      ((∀ later ∈ rest, later.pair ≠ turn.pair) → ¬ CutShort E turn.objects turn.start) ∧
        NoneCutShort rest

/-- No call fails at the last turn. -/
def LastCompletes (rest : List Turn) : Prop :=
  ∀ turn, rest.getLast? = some turn → Completes E turn.objects turn.start

variable {E}

theorem cutShort_zero (start : Nat) : ¬ CutShort E 0 start :=
  fun ⟨i, hi, _⟩ => Nat.not_lt_zero i hi

theorem cutShort_succ (objects start : Nat) :
    CutShort E (objects + 1) start ↔
      (E.xFindObjectWithLabelAndClass start).1 = false ∨ E.C_DestroyObject (start + 1) = false ∨
        CutShort E objects (start + 2) := by
  have hshift : ∀ i, start + 2 * (i + 1) = start + 2 + 2 * i := fun i => by omega
  constructor
  · rintro ⟨i, hi, hfails⟩
    cases i with
    | zero => exact hfails.imp_right Or.inl
    | succ i =>
        rw [hshift i] at hfails
        exact Or.inr (Or.inr ⟨i, Nat.lt_of_succ_lt_succ hi, hfails⟩)
  · rintro (hfind | hdestroy | ⟨i, hi, hfails⟩)
    · exact ⟨0, Nat.succ_pos _, Or.inl hfind⟩
    · exact ⟨0, Nat.succ_pos _, Or.inr hdestroy⟩
    · rw [← hshift i] at hfails
      exact ⟨i + 1, Nat.succ_lt_succ hi, hfails⟩

theorem completes_zero (start : Nat) :
    Completes E 0 start ↔ (E.xFindObjectWithLabelAndClass start).1 = true :=
  and_iff_right (cutShort_zero start)

theorem completes_succ (objects start : Nat) :
    Completes E (objects + 1) start ↔
      (E.xFindObjectWithLabelAndClass start).1 = true ∧ E.C_DestroyObject (start + 1) = true ∧
        Completes E objects (start + 2) := by
  have hshift : start + 2 * (objects + 1) = start + 2 + 2 * objects := by omega
  unfold Completes
  rw [cutShort_succ, not_or, not_or, Bool.not_eq_false, Bool.not_eq_false, hshift, and_assoc,
    and_assoc]

/-- A first search that fails leaves all objects, and there may be none. -/
theorem leaves_of_fails (objects : Nat) {start : Nat}
    (h : (E.xFindObjectWithLabelAndClass start).1 = false) :
    leaves E objects start = (objects, start + 1) := by
  cases objects with
  | zero => rfl
  | succ objects => rw [leaves, if_neg (Bool.eq_false_iff.mp h)]

theorem not_completes_of_fails (objects : Nat) {start : Nat}
    (h : (E.xFindObjectWithLabelAndClass start).1 = false) : ¬ Completes E objects start := by
  cases objects with
  | zero => exact fun hc => Bool.eq_false_iff.mp h ((completes_zero start).mp hc)
  | succ objects => exact fun hc => Bool.eq_false_iff.mp h ((completes_succ objects start).mp hc).1

/-- Objects are left exactly if a call failed while there were any. -/
theorem leaves_eq_zero (objects start : Nat) :
    (leaves E objects start).1 = 0 ↔ ¬ CutShort E objects start := by
  induction objects generalizing start with
  | zero => exact iff_of_true rfl (cutShort_zero start)
  | succ objects ih =>
      rw [cutShort_succ, not_or, not_or, Bool.not_eq_false, Bool.not_eq_false, ← ih]
      rw [leaves]
      by_cases hfind : (E.xFindObjectWithLabelAndClass start).1 = true
      · rw [if_pos hfind]
        by_cases hdestroy : E.C_DestroyObject (start + 1) = true
        · rw [if_pos hdestroy]
          exact ⟨fun h => ⟨hfind, hdestroy, h⟩, fun h => h.2.2⟩
        · rw [if_neg hdestroy]
          exact iff_of_false (Nat.succ_ne_zero _) (fun h => hdestroy h.2.1)
      · rw [if_neg hfind]
        exact iff_of_false (Nat.succ_ne_zero _) (fun h => hfind h.1)

theorem pair_turns (labels : List (Label × ObjectClass)) (count : Label × ObjectClass → Nat)
    (start : Nat) : (turns E labels count start).map Turn.pair = labels := by
  induction labels generalizing count start with
  | nil => rfl
  | cons pair labels ih => exact congrArg (pair :: ·) (ih _ _)

theorem noneCutShort_cons (turn : Turn) (labels : List (Label × ObjectClass))
    (count : Label × ObjectClass → Nat) (start : Nat) :
    NoneCutShort E (turn :: turns E labels count start) ↔
      (turn.pair ∉ labels → ¬ CutShort E turn.objects turn.start) ∧
        NoneCutShort E (turns E labels count start) := by
  have hlater : (∀ later ∈ turns E labels count start, later.pair ≠ turn.pair) ↔
      turn.pair ∉ labels := by
    have hmem : turn.pair ∈ labels ↔ ∃ later ∈ turns E labels count start,
        later.pair = turn.pair := by
      rw [← List.mem_map, pair_turns]
    rw [hmem]
    exact ⟨fun h ⟨later, hlater, heq⟩ => h later hlater heq,
      fun h later hlater heq => h ⟨later, hlater, heq⟩⟩
  rw [NoneCutShort, hlater]

end Turns

/-! ### The loops -/

section Sweeps

variable {E : External}

theorem findObject_fails {w : World} (label : Label) (objectClass : ObjectClass)
    (h : (E.xFindObjectWithLabelAndClass w.now).1 = false) :
    findObject E label objectClass w = .ok (false, none) { w with now := w.now + 1 } := by
  unfold findObject
  simp only [get_bind, ask_bind, h, Bool.false_eq_true, if_false]
  rfl

theorem findObject_succeeds {w : World} (label : Label) (objectClass : ObjectClass)
    (h : (E.xFindObjectWithLabelAndClass w.now).1 = true) :
    findObject E label objectClass w =
      .ok (true, ((w.token.under label objectClass)[
          (E.xFindObjectWithLabelAndClass w.now).2 %
            (w.token.under label objectClass).length]?).map Object.handle)
        { w with now := w.now + 1 } := by
  unfold findObject
  simp only [get_bind, ask_bind, h, if_true]
  rfl

/-- A search that succeeds finds an object if there is one. -/
theorem findObject_found {w : World} {label : Label} {objectClass : ObjectClass}
    (h : (E.xFindObjectWithLabelAndClass w.now).1 = true)
    (hne : w.token.under label objectClass ≠ []) :
    ∃ o ∈ w.token.under label objectClass,
      findObject E label objectClass w = .ok (true, some o.handle) { w with now := w.now + 1 } := by
  have hlt := Nat.mod_lt (E.xFindObjectWithLabelAndClass w.now).2 (List.length_pos_iff.mpr hne)
  refine ⟨_, List.getElem_mem hlt, ?_⟩
  rw [findObject_succeeds label objectClass h, List.getElem?_eq_getElem hlt]
  rfl

theorem destroyObject_eq (handle : Nat) (w : World) :
    destroyObject E handle w =
      if E.C_DestroyObject w.now = true then
        .ok true ({ w with token := w.token.destroy handle, now := w.now + 1 }.log
          (.destroyed handle))
      else .ok false { w with now := w.now + 1 } := by
  unfold destroyObject
  rw [ask_bind]
  by_cases hdestroy : E.C_DestroyObject w.now = true
  · rw [if_pos hdestroy, if_pos hdestroy]
    rfl
  · rw [if_neg hdestroy, if_neg hdestroy]
    rfl

/-- What the loop for a pair returns, and what it leaves. -/
structure Sweeps (E : External) (pair : Label × ObjectClass) (w : World) (result : Bool)
    (w' : World) : Prop where
  completes : result = true ↔ Completes E (w.token.count pair) w.now
  left : w'.token.count pair = (leaves E (w.token.count pair) w.now).1
  now : w'.now = (leaves E (w.token.count pair) w.now).2
  others : ∀ other, other ≠ pair → w'.token.under other.1 other.2 = w.token.under other.1 other.2
  old : ∀ o ∈ w'.token.objects, o ∈ w.token.objects
  nextHandle : w'.token.nextHandle = w.token.nextHandle

/-- The loop has done nothing but to ask. -/
theorem Sweeps.of_now {pair : Label × ObjectClass} {w : World} {result : Bool} {n : Nat}
    (hc : result = true ↔ Completes E (w.token.count pair) w.now)
    (hl : leaves E (w.token.count pair) w.now = (w.token.count pair, n)) :
    Sweeps E pair w result { w with now := n } where
  completes := hc
  left := by rw [hl]
  now := by rw [hl]
  others := fun _ _ => rfl
  old := fun _ ho => ho
  nextHandle := rfl

/-- An object is destroyed, after it was found. -/
def World.destroying (w : World) (o : Object) : World :=
  { w with token := w.token.destroy o.handle, now := w.now + 2 }.log (.destroyed o.handle)

/-- What the loop does before and after an object is destroyed. -/
theorem Sweeps.destroyed {pair : Label × ObjectClass} {w w' : World} {result : Bool} {o : Object}
    (hs : Sweeps E pair (w.destroying o) result w') (ho : o ∈ w.token.under pair.1 pair.2)
    (hfind : (E.xFindObjectWithLabelAndClass w.now).1 = true)
    (hdestroyed : E.C_DestroyObject (w.now + 1) = true) : Sweeps E pair w result w' := by
  have hleaves : leaves E (w.token.count pair) w.now =
      leaves E ((w.destroying o).token.count pair) (w.destroying o).now := by
    rw [← Token.count_destroy w.token ho, leaves, if_pos hfind, if_pos hdestroyed]
    rfl
  exact {
    completes := by
      rw [hs.completes, ← Token.count_destroy w.token ho, completes_succ]
      exact ⟨fun hc => ⟨hfind, hdestroyed, hc⟩, fun hc => hc.2.2⟩
    left := hs.left.trans (congrArg Prod.fst hleaves.symm)
    now := hs.now.trans (congrArg Prod.snd hleaves.symm)
    others := fun other hother =>
      (hs.others other hother).trans (w.token.under_destroy_other ho hother)
    old := fun o' ho' => List.mem_of_mem_filter (hs.old o' ho')
    nextHandle := hs.nextHandle }

/-- The loop for a pair, with a search more than there are objects. The
    induction is on the searches, and an object goes with each of them. -/
theorem destroyFound_sweeps (pair : Label × ObjectClass) (searches : Nat) (w : World)
    (h : w.token.count pair < searches) :
    ∃ result w', destroyFound E pair.1 pair.2 searches w = .ok result w' ∧
      Sweeps E pair w result w' := by
  induction searches generalizing w with
  | zero => omega
  | succ searches ih =>
      cases hfind : (E.xFindObjectWithLabelAndClass w.now).1 with
      | false =>
          have hfails := findObject_fails (E := E) pair.1 pair.2 hfind
          refine ⟨false, _, bind_ok.mpr ⟨_, _, hfails, rfl⟩, Sweeps.of_now ?_ ?_⟩
          · exact iff_of_false Bool.false_ne_true (not_completes_of_fails _ hfind)
          · exact leaves_of_fails _ hfind
      | true =>
          cases hcount : w.token.count pair with
          | zero =>
              -- nothing is found, and that is the end of it
              have hnone := findObject_succeeds (E := E) pair.1 pair.2 hfind
              rw [Token.count_eq_zero.mp hcount] at hnone
              refine ⟨true, _, bind_ok.mpr ⟨_, _, hnone, rfl⟩, Sweeps.of_now ?_ ?_⟩
              · rw [hcount, completes_zero]
                exact iff_of_true rfl hfind
              · rw [hcount]
                rfl
          | succ objects =>
              have hne : w.token.under pair.1 pair.2 ≠ [] := fun hnil =>
                Nat.succ_ne_zero objects (hcount.symm.trans (Token.count_eq_zero.mpr hnil))
              rcases findObject_found hfind hne with ⟨o, ho, hfound⟩
              have hdestroy := destroyObject_eq (E := E) o.handle { w with now := w.now + 1 }
              cases hdestroyed : E.C_DestroyObject (w.now + 1) with
              | false =>
                  rw [if_neg (Bool.eq_false_iff.mp hdestroyed)] at hdestroy
                  refine ⟨false, _, bind_ok.mpr ⟨_, _, hfound, bind_ok.mpr ⟨_, _, hdestroy, rfl⟩⟩,
                    Sweeps.of_now (n := w.now + 2) ?_ ?_⟩
                  · rw [hcount, completes_succ, hdestroyed]
                    exact iff_of_false Bool.false_ne_true (fun hc => Bool.false_ne_true hc.2.1)
                  · rw [hcount, leaves, if_pos hfind, if_neg (Bool.eq_false_iff.mp hdestroyed)]
              | true =>
                  rw [if_pos hdestroyed] at hdestroy
                  -- the rest of the loop has one object less to destroy
                  have hless := Token.count_destroy w.token ho
                  rcases ih (w.destroying o) (by simp only [World.destroying, World.log]; omega)
                    with ⟨result, w', hrest, hs⟩
                  exact ⟨result, w',
                    bind_ok.mpr ⟨_, _, hfound, bind_ok.mpr ⟨_, _, hdestroy, hrest⟩⟩,
                    hs.destroyed ho hfind hdestroyed⟩

/-- What the loop over the pairs returns, and what it leaves. -/
structure SweepsAll (E : External) (labels : List (Label × ObjectClass)) (initial : Bool)
    (w : World) (result : Bool) (w' : World) : Prop where
  completes : result = true ↔
    (labels = [] → initial = true) ∧ LastCompletes E (turns E labels w.token.count w.now)
  left : (∀ pair ∈ labels, w'.token.under pair.1 pair.2 = []) ↔
    NoneCutShort E (turns E labels w.token.count w.now)
  others : ∀ other ∉ labels, w'.token.under other.1 other.2 = w.token.under other.1 other.2
  old : ∀ o ∈ w'.token.objects, o ∈ w.token.objects

/-- A pair and those after it. -/
theorem Sweeps.cons {pair : Label × ObjectClass} {labels : List (Label × ObjectClass)}
    {w w1 w' : World} {initial result1 result : Bool} (h1 : Sweeps E pair w result1 w1)
    (h : SweepsAll E labels result1 w1 result w') :
    SweepsAll E (pair :: labels) initial w result w' := by
  -- the pairs after it start where it ended, with what it left
  have hcount : w1.token.count =
      Function.update w.token.count pair (leaves E (w.token.count pair) w.now).1 := by
    funext other
    by_cases hother : other = pair
    · rw [hother, Function.update_self, h1.left]
    · rw [Function.update_of_ne hother]
      exact congrArg List.length (h1.others other hother)
  have hturns : turns E (pair :: labels) w.token.count w.now =
      ⟨pair, w.token.count pair, w.now⟩ :: turns E labels w1.token.count w1.now := by
    rw [hcount, h1.now, turns]
  exact {
    completes := by
      rw [h.completes, hturns]
      unfold LastCompletes
      cases labels with
      | nil =>
          rw [forall_prop_of_true rfl, h1.completes]
          exact ⟨fun hc => ⟨fun hnil => absurd hnil (List.cons_ne_nil _ _), fun turn hlast => by
            cases hlast
            exact hc.1⟩, fun hc => ⟨hc.2 _ rfl, fun turn hlast => nomatch hlast⟩⟩
      | cons next labels =>
          rw [turns, List.getLast?_cons_cons]
          exact and_congr_left' (iff_of_true (fun hnil => absurd hnil (List.cons_ne_nil _ _))
            (fun hnil => absurd hnil (List.cons_ne_nil _ _)))
    left := by
      rw [hturns, noneCutShort_cons, ← h.left, ← leaves_eq_zero, ← h1.left, List.forall_mem_cons]
      by_cases hlater : pair ∈ labels
      · exact and_congr_left (fun hrest =>
          iff_of_true (hrest pair hlater) (fun hnot => absurd hlater hnot))
      · rw [forall_prop_of_true hlater, Token.count_eq_zero, h.others pair hlater]
    others := fun other hother => (h.others other (List.not_mem_of_not_mem_cons hother)).trans
      (h1.others other (List.ne_of_not_mem_cons hother))
    old := fun o ho => h1.old o (h.old o ho) }

/-- The loop over the pairs. -/
theorem destroyLabels_sweeps (labels : List (Label × ObjectClass)) (initial : Bool) (w : World) :
    ∃ result w', destroyLabels E labels initial w = .ok result w' ∧
      SweepsAll E labels initial w result w' := by
  induction labels generalizing initial w with
  | nil =>
      refine ⟨initial, w, rfl, ?_⟩
      exact {
        completes := ⟨fun h => ⟨fun _ => h, fun turn hlast => nomatch hlast⟩, fun h => h.1 rfl⟩
        left := iff_of_true (fun _ h => absurd h List.not_mem_nil) trivial
        others := fun _ _ => rfl
        old := fun _ ho => ho }
  | cons pair labels ih =>
      rcases destroyFound_sweeps (E := E) pair _ w (Nat.lt_succ_self _) with
        ⟨result1, w1, hfirst, h1⟩
      rcases ih result1 w1 with ⟨result, w', hrest, h⟩
      exact ⟨result, w', bind_ok.mpr ⟨w, w, rfl, bind_ok.mpr ⟨result1, w1, hfirst, hrest⟩⟩,
        h1.cons h⟩

end Sweeps

/-! ### The result -/

/-- The object is under one of the pairs. -/
def Provided (labels : List (Label × ObjectClass)) (o : Object) : Prop :=
  ∃ pair ∈ labels, o.Under pair.1 pair.2

/-- It returns, objects under the pairs are all it destroys, and if it says so
    they are all gone. -/
def DestroysProvided (E : External) (labels : List (Label × ObjectClass)) (w : World) : Prop :=
  ∃ result w', destroyProvidedObjects E labels w = .ok result w' ∧
    (∀ o ∈ w'.token.objects, o ∈ w.token.objects) ∧
    (∀ o ∈ w.token.objects, o ∉ w'.token.objects → Provided labels o) ∧
    (result = true → ∀ o ∈ w'.token.objects, ¬ Provided labels o)

section Result

variable {E : External}

theorem destroyProvidedObjects_eq (labels : List (Label × ObjectClass)) (w : World) :
    destroyProvidedObjects E labels w =
      if E.C_GetFunctionList w.now = true then
        destroyLabels E labels true { w with now := w.now + 1 }
      else .ok false { w with now := w.now + 1 } := by
  unfold destroyProvidedObjects
  rw [ask_bind]
  by_cases hlist : E.C_GetFunctionList w.now = true
  · rw [if_pos hlist, if_neg (fun h => Bool.false_ne_true (h.symm.trans hlist))]
  · rw [if_neg hlist, if_pos (Bool.eq_false_iff.mpr hlist)]
    rfl

theorem under_eq_nil {t : Token} {labels : List (Label × ObjectClass)} :
    (∀ pair ∈ labels, t.under pair.1 pair.2 = []) ↔ ∀ o ∈ t.objects, ¬ Provided labels o := by
  constructor
  · rintro hnil o ho ⟨pair, hpair, hunder⟩
    exact List.not_mem_nil ((hnil pair hpair) ▸ Token.mem_under.mpr ⟨ho, hunder⟩)
  · intro hnone pair hpair
    refine List.eq_nil_iff_forall_not_mem.mpr (fun o ho => ?_)
    exact hnone o (Token.mem_under.mp ho).1 ⟨pair, hpair, (Token.mem_under.mp ho).2⟩

/-- The loop destroys objects under the pairs. -/
theorem SweepsAll.provided {labels : List (Label × ObjectClass)} {initial result : Bool}
    {w w' : World} (h : SweepsAll E labels initial w result w') {o : Object}
    (ho : o ∈ w.token.objects) (hgone : o ∉ w'.token.objects) : Provided labels o := by
  by_contra hnot
  have hother : (o.template.label, o.template.objectClass) ∉ labels :=
    fun hmem => hnot ⟨_, hmem, rfl, rfl⟩
  have hunder : o ∈ w.token.under o.template.label o.template.objectClass :=
    Token.mem_under.mpr ⟨ho, rfl, rfl⟩
  rw [← h.others _ hother] at hunder
  exact hgone (Token.mem_under.mp hunder).1

/-- The result can be relied on exactly if it is a failure, or no object was
    left at the last turn of any pair. -/
theorem destroyProvidedObjects_iff (E : External) (labels : List (Label × ObjectClass))
    (w : World) :
    DestroysProvided E labels w ↔
      E.C_GetFunctionList w.now = false ∨
        ¬ LastCompletes E (turns E labels w.token.count (w.now + 1)) ∨
        NoneCutShort E (turns E labels w.token.count (w.now + 1)) := by
  unfold DestroysProvided
  rw [destroyProvidedObjects_eq]
  by_cases hlist : E.C_GetFunctionList w.now = true
  · rw [if_pos hlist]
    rcases destroyLabels_sweeps (E := E) labels true { w with now := w.now + 1 } with
      ⟨result, w', hrun, h⟩
    have hresult : result = true ↔ LastCompletes E (turns E labels w.token.count (w.now + 1)) :=
      h.completes.trans (and_iff_right (fun _ => rfl))
    have hleft : (∀ o ∈ w'.token.objects, ¬ Provided labels o) ↔
        NoneCutShort E (turns E labels w.token.count (w.now + 1)) :=
      under_eq_nil.symm.trans h.left
    rw [hrun, or_iff_right (Bool.not_eq_false _ ▸ hlist), ← imp_iff_not_or, ← hresult, ← hleft]
    constructor
    · rintro ⟨result', w'', heq, -, -, hnone⟩
      cases heq
      exact hnone
    · intro hnone
      exact ⟨result, w', rfl, h.old, fun o ho hgone => h.provided ho hgone, hnone⟩
  · rw [if_neg hlist]
    refine iff_of_true ⟨false, _, rfl, fun _ ho => ho, fun o ho hgone => absurd ho hgone, ?_⟩
      (Or.inl (Bool.eq_false_iff.mpr hlist))
    exact fun h => absurd h Bool.false_ne_true

end Result

/-- The certificate the device came with is on the token. -/
def World.claimed : World :=
  { World.initial with
    token := World.initial.token.create false
      ⟨.CKO_CERTIFICATE, .CLAIM_CERTIFICATE, .certificate [0, 0, 0]⟩ }

/-- The search for that certificate fails, and all else succeeds. -/
def searchRefused : External :=
  { External.reliable [] [] with xFindObjectWithLabelAndClass := fun now => (now != 1, 0) }

/-- The failed search is forgotten over the next pair, and the certificate is
    still there after a success. -/
theorem destroyProvidedObjects_forgets :
    ¬ DestroysProvided searchRefused
      [(.CLAIM_CERTIFICATE, .CKO_CERTIFICATE), (.DEVICE_CERTIFICATE_FOR_TLS, .CKO_CERTIFICATE)]
      World.claimed := by
  rintro ⟨result, w', hrun, -, -, hnone⟩
  have hends : ∃ w', destroyProvidedObjects searchRefused
      [(.CLAIM_CERTIFICATE, .CKO_CERTIFICATE), (.DEVICE_CERTIFICATE_FOR_TLS, .CKO_CERTIFICATE)]
      World.claimed = .ok true w' ∧ w'.token.objects = World.claimed.token.objects := ⟨_, rfl, rfl⟩
  rcases hends with ⟨w'', hends, hobjects⟩
  rw [hends] at hrun
  cases hrun
  refine hnone rfl ⟨0, ⟨.CKO_CERTIFICATE, .CLAIM_CERTIFICATE, .certificate [0, 0, 0]⟩⟩ ?_
    ⟨_, List.mem_cons_self, rfl, rfl⟩
  rw [hobjects]
  exact List.mem_singleton.mpr rfl

end FleetProvisioning

end ProvisioningSdk
