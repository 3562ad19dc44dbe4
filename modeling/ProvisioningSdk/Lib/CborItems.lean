import ProvisioningSdk.Lib.Cbor
import ProvisioningSdk.Lib.Memory

/-!
# CBOR Items

Data items made of text strings and of maps with text keys, their encoding with
definite lengths and heads in the shortest form, and a decoder.

A head has its argument in one, two, three, five or nine bytes.
`head_encodeHead` says once for all of them that `Cbor.head` reads a head back;
after it the sizes do not matter any more. An item and the entries of a map are
decoded by turns, and so the round trip of both is one induction
(`decodeItem_encode`, `decodeEntries_encode`). An argument has 64 bits at most.
The round trip is stated for items whose encoding is shorter than that, which
bounds every length inside it.

## Main definitions

* `Item`, `Entries`: The data.
* `encodeHead`, `Item.encode`: Their bytes.
* `decode`: The item the bytes are.

## Theorems

* `head_encodeHead`: A head is read back.
* `decode_encode`: The round trip.
-/

namespace Cbor

open Bytes

mutual

/-- A text string, or a map. -/
inductive Item
  | text (s : List UInt8)
  | map (entries : Entries)

/-- The entries of a map, in their order. -/
inductive Entries
  | nil
  | cons (key : List UInt8) (value : Item) (rest : Entries)

end

/-! ### Encoding -/

/-- The low `k` bytes of a number, most significant first. -/
def be (k n : Nat) : List UInt8 := (leBytes k n).reverse

/-- The head of an item of this major type, in its shortest form. -/
def encodeHead (major argument : Nat) : List UInt8 :=
  if argument < 24 then [UInt8.ofNat (32 * major + argument)]
  else if argument < 2 ^ 8 then UInt8.ofNat (32 * major + 24) :: be 1 argument
  else if argument < 2 ^ 16 then UInt8.ofNat (32 * major + 25) :: be 2 argument
  else if argument < 2 ^ 32 then UInt8.ofNat (32 * major + 26) :: be 4 argument
  else UInt8.ofNat (32 * major + 27) :: be 8 argument

/-- A text string. -/
def encodeText (s : List UInt8) : List UInt8 := encodeHead textStrings s.length ++ s

/-- The number of entries. -/
def Entries.count : Entries → Nat
  | .nil => 0
  | .cons _ _ rest => rest.count + 1

mutual

def Item.encode : Item → List UInt8
  | .text s => encodeText s
  | .map entries => encodeHead maps entries.count ++ entries.encode

def Entries.encode : Entries → List UInt8
  | .nil => []
  | .cons key value rest => encodeText key ++ (value.encode ++ rest.encode)

end

/-! ### Decoding -/

mutual

/-- The item the bytes start with, and the bytes after it. The number bounds the
    nesting and the entries. -/
def decodeItem : Nat → List UInt8 → Option (Item × List UInt8)
  | 0, _ => none
  | fuel + 1, bs =>
      match head bs with
      | some (⟨major, some n⟩, rest) =>
          if major = textStrings then
            if n ≤ rest.length then some (.text (rest.take n), rest.drop n) else none
          else if major = maps then
            (decodeEntries fuel n rest).map (fun p => (.map p.1, p.2))
          else none
      | _ => none

/-- As many entries as given, and the bytes after them. -/
def decodeEntries : Nat → Nat → List UInt8 → Option (Entries × List UInt8)
  | _, 0, bs => some (.nil, bs)
  | 0, _ + 1, _ => none
  | fuel + 1, n + 1, bs =>
      match decodeItem fuel bs with
      | some (.text key, rest) =>
          match decodeItem fuel rest with
          | some (value, rest) =>
              (decodeEntries fuel n rest).map (fun p => (.cons key value p.1, p.2))
          | none => none
      | _ => none

end

/-- The item the bytes are, with nothing after it. -/
def decode (bs : List UInt8) : Option Item :=
  match decodeItem (bs.length + 1) bs with
  | some (item, []) => some item
  | _ => none

/-! ### Heads -/

@[simp] theorem length_be (k n : Nat) : (be k n).length = k := by
  rw [be, List.length_reverse, length_leBytes]

/-- Big-endian bytes are little-endian ones from the back. -/
theorem ofBe_reverse (bs : List UInt8) : ofBe bs.reverse = ofLe bs := by
  unfold ofBe
  rw [List.foldl_reverse]
  induction bs with
  | nil => rfl
  | cons b bs ih => rw [List.foldr_cons, ih, ofLe, Nat.add_comm]

theorem ofBe_be (k n : Nat) (h : n < 256 ^ k) : ofBe (be k n) = n := by
  rw [be, ofBe_reverse, ofLe_leBytes k n h]

/-- An argument in the bytes after the first. -/
theorem head_long (major k n : Nat) (rest : List UInt8) (hmajor : major < 8) (hk : k < 4)
    (hn : n < 256 ^ 2 ^ k) :
    head (UInt8.ofNat (32 * major + (24 + k)) :: (be (2 ^ k) n ++ rest)) =
      some (⟨major, some n⟩, rest) := by
  have hbyte : (UInt8.ofNat (32 * major + (24 + k))).toNat = 32 * major + (24 + k) := by
    rw [UInt8.toNat_ofNat']
    exact Nat.mod_eq_of_lt (by omega)
  have hinfo : (32 * major + (24 + k)) % 32 = 24 + k := by omega
  have hdiv : (32 * major + (24 + k)) / 32 = major := by omega
  have hlen : 2 ^ k ≤ (be (2 ^ k) n ++ rest).length := by
    rw [List.length_append, length_be]
    exact Nat.le_add_right _ _
  unfold head
  simp only [hbyte, hinfo, hdiv]
  rw [if_neg (by omega), if_pos (by omega), Nat.add_sub_cancel_left, if_pos hlen,
    List.take_left' (length_be _ _), List.drop_left' (length_be _ _), ofBe_be _ _ hn]

/-- A head is read back, whatever its size. -/
theorem head_encodeHead (major n : Nat) (rest : List UInt8) (hmajor : major < 8)
    (hn : n < 2 ^ 64) : head (encodeHead major n ++ rest) = some (⟨major, some n⟩, rest) := by
  unfold encodeHead
  by_cases h24 : n < 24
  · have hbyte : (UInt8.ofNat (32 * major + n)).toNat = 32 * major + n := by
      rw [UInt8.toNat_ofNat']
      exact Nat.mod_eq_of_lt (by omega)
    have hinfo : (32 * major + n) % 32 = n := by omega
    have hdiv : (32 * major + n) / 32 = major := by omega
    rw [if_pos h24]
    unfold head
    simp only [List.singleton_append, hbyte, hinfo, hdiv]
    rw [if_pos h24]
  rw [if_neg h24]
  -- one, two, four or eight more bytes
  by_cases h8 : n < 2 ^ 8
  · rw [if_pos h8, List.cons_append]
    exact head_long major 0 n rest hmajor (by decide) h8
  rw [if_neg h8]
  by_cases h16 : n < 2 ^ 16
  · rw [if_pos h16, List.cons_append]
    exact head_long major 1 n rest hmajor (by decide) h16
  rw [if_neg h16]
  by_cases h32 : n < 2 ^ 32
  · rw [if_pos h32, List.cons_append]
    exact head_long major 2 n rest hmajor (by decide) h32
  · rw [if_neg h32, List.cons_append]
    exact head_long major 3 n rest hmajor (by decide) hn

theorem length_encodeHead_pos (major n : Nat) : 0 < (encodeHead major n).length := by
  unfold encodeHead
  split_ifs
  all_goals exact Nat.succ_pos _

/-! ### The round trip -/

theorem length_le_encodeText (s : List UInt8) : s.length < (encodeText s).length := by
  have hpos := length_encodeHead_pos textStrings s.length
  rw [encodeText, List.length_append]
  omega

theorem decodeItem_encodeText (fuel : Nat) (s rest : List UInt8) (hs : s.length < 2 ^ 64) :
    decodeItem (fuel + 1) (encodeText s ++ rest) = some (.text s, rest) := by
  unfold decodeItem encodeText
  rw [List.append_assoc, head_encodeHead _ _ _ (by decide) hs]
  have hlen : s.length ≤ (s ++ rest).length := by
    rw [List.length_append]
    exact Nat.le_add_right _ _
  simp only [if_true]
  rw [if_pos hlen, List.take_left' rfl, List.drop_left' rfl]

theorem Entries.count_le (entries : Entries) : entries.count ≤ entries.encode.length := by
  cases entries with
  | nil => exact Nat.zero_le _
  | cons key value rest =>
      have ih := rest.count_le
      have hkey := length_le_encodeText key
      rw [Entries.count, Entries.encode, List.length_append, List.length_append]
      omega

mutual

/-- An item is decoded from its bytes, whatever comes after them. -/
theorem decodeItem_encode (item : Item) (fuel : Nat) (rest : List UInt8)
    (hfuel : item.encode.length < fuel) (hsize : item.encode.length < 2 ^ 64) :
    decodeItem fuel (item.encode ++ rest) = some (item, rest) := by
  obtain ⟨fuel, rfl⟩ : ∃ n, fuel = n + 1 := ⟨fuel - 1, by omega⟩
  cases item with
  | text s =>
      rw [Item.encode] at hsize ⊢
      have hs := length_le_encodeText s
      exact decodeItem_encodeText fuel s rest (by omega)
  | map entries =>
      rw [Item.encode, List.length_append] at hfuel hsize
      have hpos := length_encodeHead_pos maps entries.count
      have hcount := entries.count_le
      have ih := decodeEntries_encode entries fuel rest (by omega) (by omega)
      unfold decodeItem
      rw [Item.encode, List.append_assoc, head_encodeHead _ _ _ (by decide) (by omega)]
      simp only [if_true]
      rw [if_neg (by decide), ih]
      rfl

theorem decodeEntries_encode (entries : Entries) (fuel : Nat) (rest : List UInt8)
    (hfuel : entries.encode.length < fuel) (hsize : entries.encode.length < 2 ^ 64) :
    decodeEntries fuel entries.count (entries.encode ++ rest) = some (entries, rest) := by
  cases entries with
  | nil =>
      unfold Entries.count decodeEntries
      rfl
  | cons key value more =>
      rw [Entries.encode, List.length_append, List.length_append] at hfuel hsize
      obtain ⟨fuel, rfl⟩ : ∃ n, fuel = n + 1 := ⟨fuel - 1, by omega⟩
      have hkey := length_le_encodeText key
      -- what is left of the fuel is enough for each of the three parts
      obtain ⟨fuel', hfuel'⟩ : ∃ n, fuel = n + 1 := ⟨fuel - 1, by omega⟩
      have htext := decodeItem_encodeText fuel' key (value.encode ++ (more.encode ++ rest))
        (by omega)
      have hvalue := decodeItem_encode value fuel (more.encode ++ rest) (by omega) (by omega)
      have hmore := decodeEntries_encode more fuel rest (by omega) (by omega)
      rw [← hfuel'] at htext
      rw [Entries.encode, Entries.count, List.append_assoc, List.append_assoc]
      unfold decodeEntries
      rw [htext]
      simp only [hvalue, hmore]
      rfl

end

/-- The round trip. -/
theorem decode_encode (item : Item) (hsize : item.encode.length < 2 ^ 64) :
    decode item.encode = some item := by
  have h := decodeItem_encode item (item.encode.length + 1) [] (Nat.lt_succ_self _) hsize
  rw [List.append_nil] at h
  unfold decode
  rw [h]

end Cbor
