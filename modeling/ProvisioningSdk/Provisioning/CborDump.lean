import ProvisioningSdk.Provisioning.Workflow
import ProvisioningSdk.Lib.Ledger

/-!
# The Printed Payload

`cborPrinter` and `getStringFromCbor` of `fleet_provisioning_serializer.c`, and
the callback that logs the string and frees it.

tinycbor prints a value in pieces, and `cborPrinter` appends each to a string
it reallocates. Whatever the pieces and the allocations, the string of the
context is all that is live on the heap. The string of a payload that was
printed without an error is therefore freed exactly once. After any error the
context's pointer is replaced by the literal `""`: the literal is what the
callback frees, and the string so far is lost (`cborDump_released_iff`).

## Main definitions

* `Heap`: The blocks of one payload.
* `cborPrinter`, `prettyStream`: Appending a piece, and all pieces.
* `getStringFromCbor`: The string of a payload.
* `publishCallbackDump`: The callback, with the string.
* `Printing.Owns`: The string is all that is live.
* `Printed`: The payload is printed without an error.
* `Released`: The blocks were freed once, and nothing else was.

## Theorems

* `cborPrinter_owns`, `prettyStream_owns`: The string stays all that is live.
* `prettyStream_noError_iff`: When the pieces are printed.
* `getStringFromCbor_text`: What the string is then.
* `cborDump_released_iff`: When the blocks of a payload are freed once.
-/

namespace ProvisioningSdk

namespace FleetProvisioning

open Bytes Ownership
open Serializer (CborError)

/-! ### The heap -/

/-- A pointer to characters. -/
inductive CharPointer
  | null
  /-- The string literal `""`. -/
  | literal
  | block (id : Nat)
  deriving DecidableEq, Repr

/-- A block of characters. -/
structure CharBlock where
  size : Nat
  bytes : Memory

/-- The blocks of one payload, and the pointers that were passed to `free` or
    `realloc` although they were neither `NULL` nor a live block. -/
structure Heap where
  ledger : Ledger Nat
  blocks : Nat → CharBlock
  misused : List CharPointer

/-- No blocks. -/
def Heap.empty : Heap where
  ledger := { taken := [], freed := [] }
  blocks := fun _ => ⟨0, fun _ => 0⟩
  misused := []

/-- `free`. -/
def Heap.free (heap : Heap) (ptr : CharPointer) : Heap :=
  match ptr with
  | .null => heap
  | .literal => { heap with misused := .literal :: heap.misused }
  | .block id =>
      match heap.ledger.free id with
      | some ledger => { heap with ledger := ledger }
      | none => { heap with misused := .block id :: heap.misused }

/-- The bytes at a pointer. -/
def Heap.bytes (heap : Heap) : CharPointer → Memory
  | .block id => (heap.blocks id).bytes
  | _ => fun _ => 0

/-- The name of the next block. -/
def Heap.next (heap : Heap) : Nat := heap.ledger.taken.length

/-- `realloc` to a larger size, when there is memory: a new block with the old
    bytes, and the old block freed. -/
def Heap.realloc (heap : Heap) (ptr : CharPointer) (size : Nat) : Heap :=
  { heap with
    ledger := heap.ledger.take heap.next
    blocks := Function.update heap.blocks heap.next ⟨size, heap.bytes ptr⟩ }.free ptr

/-- Bytes written into a block. -/
def Heap.write (heap : Heap) (id offset : Nat) (bytes : List UInt8) : Heap :=
  { heap with
    blocks := Function.update heap.blocks id
      { heap.blocks id with bytes := (heap.blocks id).bytes.copy offset bytes } }

/-! ### Printing -/

/-- `CborPrintContext_t`. -/
structure PrintContext where
  str : CharPointer
  length : Nat

/-- The context and the heap while a payload is printed. -/
structure Printing where
  ctx : PrintContext
  heap : Heap

/-- The outcomes of the calls `cborPrinter` makes: of `vsnprintf` for the
    length, of `realloc`, and of `vsnprintf` for the text. -/
structure PrinterCalls where
  length : Bool
  realloc : Bool
  text : Bool

/-- All of them succeed. -/
def PrinterCalls.Succeed (calls : PrinterCalls) : Prop :=
  calls.length = true ∧ calls.realloc = true ∧ calls.text = true

/-- `CborErrorIO`. -/
def CborErrorIo : CborError := .other 4

/-- `cborPrinter`, for arguments that print as `text`. -/
def cborPrinter (calls : PrinterCalls) (text : List UInt8) (p : Printing) : CborError × Printing :=
  if calls.length = false then (CborErrorIo, p)
  else
    let newLen := text.length
    let oldLen := p.ctx.length
    let ctx := { p.ctx with length := oldLen + newLen }
    if calls.realloc = false then (CborErrorIo, { p with ctx := ctx })
    else
      let newPtr := p.heap.next
      let heap := p.heap.realloc ctx.str (ctx.length + 1)
      let ctx := { ctx with str := .block newPtr }
      if calls.text = false then (CborErrorIo, ⟨ctx, heap⟩)
      else (.CborNoError, ⟨ctx, heap.write newPtr oldLen (text ++ [0])⟩)

/-- `cbor_value_to_pretty_stream` with this printer, for a value that prints as
    these texts and ends with the error `last`. An error of the printer ends it
    before. -/
def prettyStream (last : CborError) :
    (Nat → PrinterCalls) → List (List UInt8) → Printing → CborError × Printing
  | _, [], p => (last, p)
  | calls, text :: texts, p =>
      let printed := cborPrinter (calls 0) text p
      if printed.1 ≠ .CborNoError then printed
      else prettyStream last (fun i => calls (i + 1)) texts printed.2

section Dump

variable (E : External) (pretty : E.tinyCbor.Value → List (List UInt8) × CborError)
  (calls : Nat → PrinterCalls)

/-- `getStringFromCbor`: the string, and the heap. `pretty` says what tinycbor
    prints of a value, and the error it ends with. -/
def getStringFromCbor (cbor : List UInt8) (heap : Heap) : CharPointer × Heap :=
  let printCtx : PrintContext := { str := .null, length := 0 }
  let init := E.tinyCbor.parserInit cbor
  let printed :=
    if init.1 = .CborNoError then
      prettyStream (pretty init.2).2 calls (pretty init.2).1 ⟨printCtx, heap⟩
    else (init.1, ⟨printCtx, heap⟩)
  -- the context may have a string here
  if printed.1 ≠ .CborNoError then (.literal, printed.2.heap)
  else (printed.2.ctx.str, printed.2.heap)

/-- `provisioningPublishCallback`, with the string it logs. -/
def publishCallbackDump (pPublishInfo : Publish) (r : Responses) (heap : Heap) :
    Responses × Heap :=
  let payload := pPublishInfo.payload
  match E.FleetProvisioning_MatchTopic pPublishInfo.topicName with
  | none => (r, heap)
  | some .FleetProvCborCreateKeysAndCertAccepted =>
      let cborDump := getStringFromCbor E pretty calls payload heap
      ({ r with
        responseStatus := .ResponseAccepted
        payloadBuffer := r.payloadBuffer.copy 0 payload
        payloadLength := payload.length }, cborDump.2.free cborDump.1)
  | some .FleetProvCborCreateKeysAndCertRejected =>
      let cborDump := getStringFromCbor E pretty calls payload heap
      ({ r with responseStatus := .ResponseRejected }, cborDump.2.free cborDump.1)
  | some .FleetProvCborRegisterThingAccepted =>
      let cborDump := getStringFromCbor E pretty calls payload heap
      ({ r with
        responseStatus := .ResponseAccepted
        payloadBuffer := r.payloadBuffer.copy 0 payload
        payloadLength := payload.length }, cborDump.2.free cborDump.1)
  | some .FleetProvCborRegisterThingRejected =>
      let cborDump := getStringFromCbor E pretty calls payload heap
      ({ r with responseStatus := .ResponseRejected }, cborDump.2.free cborDump.1)
  | some (.other _) => (r, heap)

/-- The payload is printed without an error: of the parser, of the printing, or
    of one of the calls for its pieces. -/
structure Printed (cbor : List UInt8) : Prop where
  init : (E.tinyCbor.parserInit cbor).1 = .CborNoError
  stream : (pretty (E.tinyCbor.parserInit cbor).2).2 = .CborNoError
  pieces : ∀ i, i < (pretty (E.tinyCbor.parserInit cbor).2).1.length → (calls i).Succeed

end Dump

/-- Nothing was freed but `NULL` and live blocks, and every block exactly
    once. -/
def Released (heap : Heap) : Prop := heap.misused = [] ∧ heap.ledger.Settled

/-! ### The string is all that is live -/

/-- The string of the context is all that is live, and nothing else was
    freed. -/
structure Printing.Owns (p : Printing) : Prop where
  misused : p.heap.misused = []
  sound : p.heap.ledger.Sound
  fresh : ∀ id ∈ p.heap.ledger.taken, id < p.heap.next
  live : ∀ id, p.heap.ledger.Live id ↔ p.ctx.str = .block id
  str : p.ctx.str ≠ .literal

theorem owns_empty : Printing.Owns ⟨⟨.null, 0⟩, Heap.empty⟩ where
  misused := rfl
  sound := ⟨List.nodup_nil, List.nil_subset _⟩
  fresh := fun _ h => (nomatch h)
  live := fun _ => ⟨fun h => (nomatch h.1), fun h => (nomatch h)⟩
  str := fun h => (nomatch h)

/-- Freeing the string frees everything. -/
theorem Printing.Owns.free_released {p : Printing} (h : p.Owns) :
    Released (p.heap.free p.ctx.str) := by
  cases hstr : p.ctx.str with
  | null =>
      refine ⟨h.misused, h.sound.settled_iff.mpr fun id hlive => ?_⟩
      have hcontra := (h.live id).mp hlive
      rw [hstr] at hcontra
      cases hcontra
  | literal => exact absurd hstr h.str
  | block id =>
      have hfree := Ledger.free_of_live ((h.live id).mpr hstr)
      unfold Heap.free
      simp only [hfree]
      refine ⟨h.misused, (h.sound.free hfree).settled_iff.mpr fun b hlive => ?_⟩
      -- what is left would be another string
      rcases (Ledger.live_free_iff hfree b).mp hlive with ⟨hne, hlive⟩
      have hcontra := (h.live b).mp hlive
      rw [hstr] at hcontra
      cases hcontra
      exact hne rfl

/-- After `realloc` the new block is all that is live. -/
theorem Printing.Owns.realloc {p : Printing} (h : p.Owns) (size length : Nat) :
    Printing.Owns ⟨⟨.block p.heap.next, length⟩, p.heap.realloc p.ctx.str size⟩ := by
  have hnew : p.heap.next ∉ p.heap.ledger.taken := fun hc => absurd (h.fresh _ hc) (by omega)
  have hlive := fun b => Ledger.live_take_iff p.heap.next b (fun hc => hnew (h.sound.subset hc))
  have hfresh : ∀ id ∈ (p.heap.ledger.take p.heap.next).taken, id < p.heap.next + 1 := by
    intro id hid
    rcases List.mem_cons.mp hid with rfl | hold
    · exact Nat.lt_succ_self _
    · exact Nat.lt_succ_of_lt (h.fresh id hold)
  unfold Heap.realloc
  cases hstr : p.ctx.str with
  | null =>
      refine ⟨h.misused, h.sound.take _, hfresh, fun b => ?_, fun hc => (nomatch hc)⟩
      simp only [Heap.free, hlive, h.live b, hstr, CharPointer.block.injEq, reduceCtorEq, or_false,
        eq_comm]
  | literal => exact absurd hstr h.str
  | block id =>
      have hold : p.heap.ledger.Live id := (h.live id).mpr hstr
      have hfree := Ledger.free_of_live ((hlive id).mpr (Or.inr hold))
      simp only [Heap.free, hfree]
      refine ⟨h.misused, (h.sound.take _).free hfree, hfresh, fun b => ?_, fun hc => (nomatch hc)⟩
      rw [Ledger.live_free_iff hfree b, hlive b, h.live b, hstr, CharPointer.block.injEq,
        CharPointer.block.injEq]
      -- the old block is another one than the new
      have hne : p.heap.next ≠ id := fun hc => hnew (hc ▸ hold.1)
      constructor
      · rintro ⟨hb, rfl | rfl⟩
        · rfl
        · exact absurd rfl hb
      · rintro rfl
        exact ⟨hne, Or.inl rfl⟩

theorem cborPrinter_owns {p : Printing} (h : p.Owns) (c : PrinterCalls) (text : List UInt8) :
    (cborPrinter c text p).2.Owns := by
  unfold cborPrinter
  by_cases hlength : c.length = false
  · rw [if_pos hlength]
    exact h
  rw [if_neg hlength]
  by_cases hrealloc : c.realloc = false
  · -- the length is wrong from here on, but the string is what it was
    simp only [if_pos hrealloc]
    exact ⟨h.misused, h.sound, h.fresh, h.live, h.str⟩
  simp only [if_neg hrealloc]
  have hnew := h.realloc (p.ctx.length + text.length + 1) (p.ctx.length + text.length)
  by_cases htext : c.text = false
  · rw [if_pos htext]
    exact hnew
  · rw [if_neg htext]
    exact ⟨hnew.misused, hnew.sound, hnew.fresh, hnew.live, hnew.str⟩

theorem prettyStream_owns (last : CborError) (texts : List (List UInt8)) :
    ∀ (calls : Nat → PrinterCalls) {p : Printing}, p.Owns →
      (prettyStream last calls texts p).2.Owns := by
  induction texts with
  | nil => exact fun _ _ h => h
  | cons text texts ih =>
      intro calls p h
      have hprinted := cborPrinter_owns h (calls 0) text
      unfold prettyStream
      by_cases herror : (cborPrinter (calls 0) text p).1 ≠ .CborNoError
      · simp only [if_pos herror]
        exact hprinted
      · simp only [if_neg herror]
        exact ih _ hprinted

/-! ### When the pieces are printed -/

theorem cborPrinter_noError_iff (c : PrinterCalls) (text : List UInt8) (p : Printing) :
    (cborPrinter c text p).1 = .CborNoError ↔ c.Succeed := by
  have hio : CborErrorIo ≠ .CborNoError := fun h => (nomatch h)
  unfold cborPrinter PrinterCalls.Succeed
  cases c.length <;> cases c.realloc <;> cases c.text <;>
    simp only [if_true, Bool.true_eq_false, Bool.false_eq_true, if_false, hio, and_self, and_false,
      false_and]

/-- The printing ends without an error if the value has none and no call
    fails. -/
theorem prettyStream_noError_iff (last : CborError) (texts : List (List UInt8)) :
    ∀ (calls : Nat → PrinterCalls) (p : Printing),
      (prettyStream last calls texts p).1 = .CborNoError ↔
        last = .CborNoError ∧ ∀ i, i < texts.length → (calls i).Succeed := by
  induction texts with
  | nil => exact fun _ _ => (and_iff_left fun i hi => absurd hi (Nat.not_lt_zero i)).symm
  | cons text texts ih =>
      intro calls p
      unfold prettyStream
      by_cases hsucceed : (calls 0).Succeed
      · have hnoError := (cborPrinter_noError_iff (calls 0) text p).mpr hsucceed
        simp only [if_neg (not_not.mpr hnoError), ih]
        refine and_congr_right fun _ => ⟨fun h i hi => ?_, fun h i hi => ?_⟩
        · cases i with
          | zero => exact hsucceed
          | succ i => exact h i (Nat.lt_of_succ_lt_succ hi)
        · exact h (i + 1) (Nat.succ_lt_succ hi)
      · have herror := mt (cborPrinter_noError_iff (calls 0) text p).mp hsucceed
        simp only [if_pos herror]
        exact iff_of_false herror fun h => hsucceed (h.2 0 (Nat.succ_pos _))

/-! ### What is printed -/

/-- The text so far is this one, with a NUL behind it if there is a string. -/
structure Printing.HasText (p : Printing) (text : List UInt8) : Prop where
  length : p.ctx.length = text.length
  bytes : (p.heap.bytes p.ctx.str).slice 0 text.length = text
  terminated : p.ctx.str ≠ .null → p.heap.bytes p.ctx.str text.length = 0

theorem free_blocks (heap : Heap) (ptr : CharPointer) : (heap.free ptr).blocks = heap.blocks := by
  cases ptr with
  | null => rfl
  | literal => rfl
  | block id =>
      unfold Heap.free
      cases h : heap.ledger.free id with
      | none => simp only [h]
      | some ledger => simp only [h]

/-- A piece that is printed comes behind the text so far. -/
theorem cborPrinter_hasText {p : Printing} {s : List UInt8} (h : p.HasText s) {c : PrinterCalls}
    (hc : c.Succeed) (text : List UInt8) : (cborPrinter c text p).2.HasText (s ++ text) := by
  rcases hc with ⟨hlength, hrealloc, htext⟩
  unfold cborPrinter
  simp only [hlength, hrealloc, htext, Bool.true_eq_false, if_false]
  have hbytes : ((p.heap.realloc p.ctx.str (p.ctx.length + text.length + 1)).write p.heap.next
      p.ctx.length (text ++ [0])).bytes (.block p.heap.next) =
        (p.heap.bytes p.ctx.str).copy s.length (text ++ [0]) := by
    simp only [Heap.bytes, Heap.write, Heap.realloc, free_blocks, Function.update_self, h.length]
  refine ⟨by simp only [h.length, List.length_append], ?_, fun _ => ?_⟩
  · -- the old text is in front of the piece, and the piece is what was written
    have hold := slice_copy_disjoint (p.heap.bytes p.ctx.str) s.length (text ++ [0]) 0 s.length
      (Or.inl (by omega))
    have hnew := slice_copy_self (p.heap.bytes p.ctx.str) s.length (text ++ [0])
    rw [List.length_append, slice_add] at hnew
    rw [hbytes, List.length_append, slice_add, hold, h.bytes, Nat.zero_add]
    exact congrArg (s ++ ·) (List.append_inj_left hnew (length_slice _ _ _))
  · rw [hbytes, List.length_append,
      copy_inside _ _ _ _ (by rw [List.length_append]; exact Nat.lt_succ_self _)]
    exact List.getElem_concat_length rfl _

/-- The string of a value is its texts, one after the other. -/
theorem prettyStream_text (last : CborError) (texts : List (List UInt8)) :
    ∀ (calls : Nat → PrinterCalls) {p : Printing} {s : List UInt8}, p.HasText s →
      (∀ i, i < texts.length → (calls i).Succeed) →
      (prettyStream last calls texts p).2.HasText (s ++ texts.flatten) := by
  induction texts with
  | nil =>
      intro _ p s h _
      rw [List.flatten_nil, List.append_nil]
      exact h
  | cons text texts ih =>
      intro calls p s h hcalls
      have hfirst := hcalls 0 (Nat.succ_pos _)
      have hnoError := (cborPrinter_noError_iff (calls 0) text p).mpr hfirst
      unfold prettyStream
      simp only [if_neg (not_not.mpr hnoError)]
      rw [List.flatten_cons, ← List.append_assoc]
      exact ih _ (cborPrinter_hasText h hfirst text)
        fun i hi => hcalls (i + 1) (Nat.succ_lt_succ hi)

section Dumped

variable (E : External) (pretty : E.tinyCbor.Value → List (List UInt8) × CborError)
  (calls : Nat → PrinterCalls)

/-- Freeing the string of a payload releases it if it was printed, and only
    then. -/
theorem getStringFromCbor_released_iff (cbor : List UInt8) :
    Released ((getStringFromCbor E pretty calls cbor Heap.empty).2.free
        (getStringFromCbor E pretty calls cbor Heap.empty).1) ↔
      Printed E pretty calls cbor := by
  unfold getStringFromCbor
  by_cases hinit : (E.tinyCbor.parserInit cbor).1 = .CborNoError
  · have hiff := prettyStream_noError_iff (pretty (E.tinyCbor.parserInit cbor).2).2
      (pretty (E.tinyCbor.parserInit cbor).2).1 calls ⟨⟨.null, 0⟩, Heap.empty⟩
    have howns := prettyStream_owns (pretty (E.tinyCbor.parserInit cbor).2).2
      (pretty (E.tinyCbor.parserInit cbor).2).1 calls owns_empty
    simp only [if_pos hinit]
    by_cases hprinted : (prettyStream (pretty (E.tinyCbor.parserInit cbor).2).2 calls
        (pretty (E.tinyCbor.parserInit cbor).2).1 ⟨⟨.null, 0⟩, Heap.empty⟩).1 = .CborNoError
    · rw [if_neg (not_not.mpr hprinted)]
      exact iff_of_true howns.free_released ⟨hinit, (hiff.mp hprinted).1, (hiff.mp hprinted).2⟩
    · rw [if_pos hprinted]
      -- the literal is freed
      exact iff_of_false (fun h => (nomatch h.1))
        fun h => hprinted (hiff.mpr ⟨h.stream, h.pieces⟩)
  · simp only [if_neg hinit]
    rw [if_pos hinit]
    exact iff_of_false (fun h => (nomatch h.1)) fun h => hinit h.init

/-- The string of a payload that is printed is what tinycbor prints of it. -/
theorem getStringFromCbor_text (cbor : List UInt8) (h : Printed E pretty calls cbor) :
    ∃ length, Printing.HasText
      ⟨⟨(getStringFromCbor E pretty calls cbor Heap.empty).1, length⟩,
        (getStringFromCbor E pretty calls cbor Heap.empty).2⟩
      (pretty (E.tinyCbor.parserInit cbor).2).1.flatten := by
  have hnoError := (prettyStream_noError_iff (pretty (E.tinyCbor.parserInit cbor).2).2
    (pretty (E.tinyCbor.parserInit cbor).2).1 calls ⟨⟨.null, 0⟩, Heap.empty⟩).mpr
      ⟨h.stream, h.pieces⟩
  have hempty : Printing.HasText ⟨⟨.null, 0⟩, Heap.empty⟩ [] :=
    ⟨rfl, rfl, fun hc => absurd rfl hc⟩
  have htext := prettyStream_text (pretty (E.tinyCbor.parserInit cbor).2).2
    (pretty (E.tinyCbor.parserInit cbor).2).1 calls hempty h.pieces
  unfold getStringFromCbor
  simp only [if_pos h.init]
  rw [if_neg (not_not.mpr hnoError)]
  exact ⟨_, htext⟩

/-- The callback does with the responses what it does without the string. -/
theorem publishCallbackDump_responses (info : Publish) (r : Responses) (heap : Heap) :
    (publishCallbackDump E pretty calls info r heap).1 = provisioningPublishCallback E info r := by
  unfold publishCallbackDump provisioningPublishCallback
  cases E.FleetProvisioning_MatchTopic info.topicName with
  | none => rfl
  | some topic => cases topic <;> rfl

/-- It frees the string of every response, and of nothing else. -/
theorem publishCallbackDump_heap (info : Publish) (r : Responses) (heap : Heap) :
    (publishCallbackDump E pretty calls info r heap).2 =
      if (responseOf E info).isSome then
        (getStringFromCbor E pretty calls info.payload heap).2.free
          (getStringFromCbor E pretty calls info.payload heap).1
      else heap := by
  unfold publishCallbackDump responseOf
  cases E.FleetProvisioning_MatchTopic info.topicName with
  | none => rfl
  | some topic => cases topic <;> rfl

/-- What the callback passes to `free` is `NULL` or a live block, and every
    block of the payload is freed exactly once, if and only if a response is
    printed without an error. -/
theorem cborDump_released_iff (info : Publish) (r : Responses) :
    Released (publishCallbackDump E pretty calls info r Heap.empty).2 ↔
      ((responseOf E info).isSome = true → Printed E pretty calls info.payload) := by
  rw [publishCallbackDump_heap]
  by_cases hresponse : (responseOf E info).isSome = true
  · rw [if_pos hresponse, getStringFromCbor_released_iff]
    exact ⟨fun h _ => h, fun h => h hresponse⟩
  · rw [if_neg hresponse]
    exact iff_of_true owns_empty.free_released fun h => absurd h hresponse

end Dumped

/-- An accepted response that ends after the head of a map with one pair. -/
def truncatedResponse : Publish where
  topicName := ascii "$aws/certificates/create/cbor/accepted"
  payload := [0xA1]

/-- The heap after it: of the map, the opening brace was printed. -/
def truncatedHeap : Heap :=
  (publishCallbackDump (External.reliable [] [])
    (fun _ => ([ascii "\x7b"], .CborErrorUnexpectedEOF)) (fun _ => ⟨true, true, true⟩)
    truncatedResponse World.initial.responses Heap.empty).2

/-- The literal is freed, and the string is not. -/
theorem cborDump_truncated :
    (responseOf (External.reliable [] []) truncatedResponse).isSome = true ∧
      truncatedHeap.misused = [.literal] ∧ truncatedHeap.ledger.Live 0 ∧
      ¬ Released truncatedHeap := by
  have hmisused : truncatedHeap.misused = [.literal] := rfl
  have hlive : truncatedHeap.ledger.Live 0 := by decide
  refine ⟨rfl, hmisused, hlive, fun h => ?_⟩
  rw [Released, hmisused] at h
  cases h.1

end FleetProvisioning

end ProvisioningSdk
