import Mathlib.Algebra.Group.Nat.Defs
import Mathlib.Data.List.Basic

/-!
# CBOR Documents

The part of the CBOR format that looking up a text string in a map needs: the
head of a data item, its extent, its text if it is a text string, and a search
of the entries of a map in order.

A head is the major type and an argument, given in the head or in the bytes
after it. An item of indefinite length has no argument and ends with a break.
A text string may be split into chunks. Tags before a key do not matter to the
search, and it reads no further than the key it looks for, so a map that is
damaged behind that key is searched like any other.

A parser has limits, on the depth of nesting and on the number of elements of a
container. Beyond them an item counts as malformed, and so does a simple value of
two bytes that has a form of one byte.

## Main definitions

* `head`: The head of the item the bytes start with.
* `skip`: What follows the item the bytes start with.
* `text`: The text string the bytes start with.
* `untag`: The item behind the tags the bytes start with.
* `mapFind`: The value of a key of the map the bytes start with.

## Theorems

* `head_of_text`: A text string has the major type of text strings.
-/

namespace Cbor

/-- The limits of a parser. -/
structure Limits where
  nesting : Nat
  elements : Nat

/-- The number big-endian bytes stand for. -/
def ofBe (bs : List UInt8) : Nat :=
  bs.foldl (fun n b => 256 * n + b.toNat) 0

/-- The head of a data item. A break has major type 7 and no argument. -/
structure Head where
  major : Nat
  argument : Option Nat
  deriving DecidableEq, Repr

/-- The head of the item the bytes start with, and the bytes after it. -/
def head : List UInt8 → Option (Head × List UInt8)
  | [] => none
  | b :: bs =>
      let info := b.toNat % 32
      if info < 24 then some (⟨b.toNat / 32, some info⟩, bs)
      else if info < 28 then
        let n := 2 ^ (info - 24)
        if n ≤ bs.length then some (⟨b.toNat / 32, some (ofBe (bs.take n))⟩, bs.drop n) else none
      else if info = 31 then some (⟨b.toNat / 32, none⟩, bs)
      else none

/-- The byte that ends an item of indefinite length. -/
def breakByte : UInt8 := 0xFF

/-- The bytes are a break. -/
def startsBreak (bs : List UInt8) : Bool := bs.head? == some breakByte

/-- The chunks of a string of this major type up to the break, joined, and the
    bytes after it. The number bounds the chunks. -/
def chunks (major : Nat) : Nat → List UInt8 → Option (List UInt8 × List UInt8)
  | 0, _ => none
  | k + 1, bs =>
      if startsBreak bs then some ([], bs.tail)
      else match head bs with
        | some (⟨m, some n⟩, rest) =>
            if m = major ∧ n ≤ rest.length then
              (chunks major k (rest.drop n)).map (fun p => (rest.take n ++ p.1, p.2))
            else none
        | _ => none

/-- A string of this major type, and the bytes after it. -/
def string (major : Nat) (bs : List UInt8) : Option (List UInt8 × List UInt8) :=
  match head bs with
  | some (⟨m, some n⟩, rest) =>
      if m = major ∧ n ≤ rest.length then some (rest.take n, rest.drop n) else none
  | some (⟨m, none⟩, rest) => if m = major then chunks major (rest.length + 1) rest else none
  | none => none

/-- The major types of byte strings, text strings, arrays, maps, tags and simple
    values. -/
def byteStrings : Nat := 2
def textStrings : Nat := 3
def arrays : Nat := 4
def maps : Nat := 5
def tags : Nat := 6
def simples : Nat := 7

/-- The text string the bytes start with. -/
def text (bs : List UInt8) : Option (List UInt8) := (string textStrings bs).map Prod.fst

/-- What follows a given number of items, each skipped by `skipItem`. -/
def skipCount (skipItem : List UInt8 → Option (List UInt8)) : Nat → List UInt8 → Option (List UInt8)
  | 0, bs => some bs
  | n + 1, bs => (skipItem bs).bind (skipCount skipItem n)

/-- What follows the break after any number of items. The number bounds the
    items. -/
def skipBreak (skipItem : List UInt8 → Option (List UInt8)) : Nat → List UInt8 → Option (List UInt8)
  | 0, _ => none
  | k + 1, bs =>
      if startsBreak bs then some bs.tail else (skipItem bs).bind (skipBreak skipItem k)

/-- The first byte of a simple value of two bytes. -/
def longSimple : UInt8 := 0xF8

/-- The values below this have a form of one byte. -/
def firstLongSimple : Nat := 32

/-- What follows the item the bytes start with, nested no deeper than given. -/
def skip (limits : Limits) : Nat → List UInt8 → Option (List UInt8)
  | 0, _ => none
  | depth + 1, bs =>
      match head bs with
      | none => none
      | some (h, rest) =>
          if h.major = byteStrings ∨ h.major = textStrings then
            (string h.major bs).map Prod.snd
          else if h.major = tags then
            (if h.argument.isSome then skip limits depth rest else none)
          else match h.argument with
            | some n =>
                if h.major = arrays then
                  (if n ≤ limits.elements then skipCount (skip limits depth) n rest else none)
                else if h.major = maps then
                  (if n ≤ limits.elements then skipCount (skip limits depth) (2 * n) rest else none)
                else if bs.head? = some longSimple ∧ n < firstLongSimple then none
                else some rest
            | none =>
                if h.major = arrays ∨ h.major = maps then
                  skipBreak (skip limits depth) (rest.length + 1) rest
                else none

/-- The item behind the tags the bytes start with. The number bounds the tags. -/
def untag : Nat → List UInt8 → List UInt8
  | 0, bs => bs
  | k + 1, bs =>
      match head bs with
      | some (⟨m, some _⟩, rest) => if m = tags then untag k rest else bs
      | _ => bs

/-- The outcome of a search. -/
inductive Found
  | malformed
  | absent
  | at (value : List UInt8)
  deriving DecidableEq, Repr

/-- Search the entries of a map. `counted` maps have as many entries as given,
    the others end with a break. -/
def find (skipItem : List UInt8 → Option (List UInt8)) (key : List UInt8) (counted : Bool) :
    Nat → List UInt8 → Found
  | 0, _ => if counted then .absent else .malformed
  | n + 1, bs =>
      if counted = false ∧ startsBreak bs = true then .absent
      else match skipItem bs with
        | none => .malformed
        | some value =>
            if text (untag bs.length bs) = some key then .at value
            else match skipItem value with
              | none => .malformed
              | some rest => find skipItem key counted n rest

/-- The bytes start with a map. -/
def isMap (bs : List UInt8) : Bool :=
  match head bs with
  | some (h, _) => h.major == maps
  | none => false

/-- Search the map the bytes start with. -/
def mapFind (limits : Limits) (bs key : List UInt8) : Found :=
  match head bs with
  | some (h, rest) =>
      if h.major = maps then
        match h.argument with
        | some n =>
            if n ≤ limits.elements then find (skip limits limits.nesting) key true n rest
            else .malformed
        | none => find (skip limits limits.nesting) key false (rest.length + 1) rest
      else .malformed
  | none => .malformed

/-- A text string has the major type of text strings. -/
theorem head_of_text {bs s : List UInt8} (h : text bs = some s) :
    ∃ hd rest, head bs = some (hd, rest) ∧ hd.major = textStrings := by
  unfold text string at h
  split at h
  · rename_i m n rest hhead
    by_cases hm : m = textStrings
    · exact ⟨_, rest, hhead, hm⟩
    · rw [if_neg (fun hc => hm hc.1)] at h
      cases h
  · rename_i m rest hhead
    by_cases hm : m = textStrings
    · exact ⟨_, rest, hhead, hm⟩
    · rw [if_neg hm] at h
      cases h
  · cases h

end Cbor
