import Mathlib.Data.List.Basic
import Mathlib.Tactic.NormNum

/-!
# Byte Memory

A block of memory as the bytes at each offset, with the two accesses a program
makes to it: reading a range and copying bytes over a range.

The block is a total function, so an access needs no bounds to be meaningful;
what a program does inside or outside its block is for its own invariant to
say. Everything a caller needs is then one of two facts. Reading back the
range just written gives the bytes written (`slice_copy_self`), and reading a
range that does not meet it gives what was there before
(`slice_copy_disjoint`).

`le64` is the eight-byte little-endian form of a machine word, used where a
program stores an address as bytes.

## Main definitions

* `Memory`: The bytes of a block.
* `Memory.slice`: The bytes of a range.
* `Memory.copy`: A range overwritten by given bytes.
* `le64`, `ofLe`: A word as bytes and back.

## Theorems

* `slice_copy_self`: Reading back what was written.
* `slice_copy_disjoint`: Reading beside what was written.
* `ofLe_le64`: A word survives its byte form.
-/

namespace Bytes

/-- The bytes of a block of memory, by offset. -/
abbrev Memory := Nat → UInt8

/-- The `len` bytes from `off`. -/
def Memory.slice (m : Memory) (off len : Nat) : List UInt8 :=
  (List.range len).map (fun i => m (off + i))

/-- Copy the bytes of `src` to the range starting at `off`. -/
def Memory.copy (m : Memory) (off : Nat) (src : List UInt8) : Memory :=
  fun i => if off ≤ i then (src[i - off]?).getD (m i) else m i

@[simp] theorem length_slice (m : Memory) (off len : Nat) : (m.slice off len).length = len := by
  simp only [Memory.slice, List.length_map, List.length_range]

/-- A range in two parts. -/
theorem slice_add (m : Memory) (off len len' : Nat) :
    m.slice off (len + len') = m.slice off len ++ m.slice (off + len) len' := by
  simp only [Memory.slice, List.range_add, List.map_append, List.map_map, Function.comp_def,
    Nat.add_assoc]

theorem copy_inside (m : Memory) (off : Nat) (src : List UInt8) (i : Nat) (h : i < src.length) :
    m.copy off src (off + i) = src[i] := by
  have hle : off ≤ off + i := Nat.le_add_right off i
  rw [Memory.copy, if_pos hle, Nat.add_sub_cancel_left, List.getElem?_eq_getElem h,
    Option.getD_some]

theorem copy_outside (m : Memory) (off : Nat) (src : List UInt8) (i : Nat)
    (h : i < off ∨ off + src.length ≤ i) : m.copy off src i = m i := by
  unfold Memory.copy
  by_cases hle : off ≤ i
  · have hlen : src.length ≤ i - off := by omega
    rw [if_pos hle, List.getElem?_eq_none hlen, Option.getD_none]
  · rw [if_neg hle]

/-- Reading back the range just written gives the bytes written. -/
theorem slice_copy_self (m : Memory) (off : Nat) (src : List UInt8) :
    (m.copy off src).slice off src.length = src := by
  refine List.ext_getElem (length_slice _ _ _) (fun i h1 h2 => ?_)
  simp only [Memory.slice, List.getElem_map, List.getElem_range]
  exact copy_inside m off src i h2

/-- Reading a range that does not meet the one written gives what was there. -/
theorem slice_copy_disjoint (m : Memory) (off : Nat) (src : List UInt8) (off' len : Nat)
    (h : off' + len ≤ off ∨ off + src.length ≤ off') :
    (m.copy off src).slice off' len = m.slice off' len := by
  refine List.map_congr_left (fun i hi => ?_)
  have hlt : i < len := List.mem_range.mp hi
  exact copy_outside m off src (off' + i) (by omega)

/-! ### Words as bytes -/

/-- The `k` low bytes of a number, least significant first. -/
def leBytes : Nat → Nat → List UInt8
  | 0, _ => []
  | k + 1, a => UInt8.ofNat (a % 256) :: leBytes k (a / 256)

/-- The number little-endian bytes stand for. -/
def ofLe : List UInt8 → Nat
  | [] => 0
  | b :: bs => b.toNat + 256 * ofLe bs

/-- A 64-bit word as the eight bytes a program stores for it. -/
def le64 (a : Nat) : List UInt8 := leBytes 8 a

@[simp] theorem length_leBytes (k a : Nat) : (leBytes k a).length = k := by
  induction k generalizing a with
  | zero => rfl
  | succ k ih => simp only [leBytes, List.length_cons, ih]

@[simp] theorem length_le64 (a : Nat) : (le64 a).length = 8 := length_leBytes 8 a

theorem ofLe_lt (bytes : List UInt8) : ofLe bytes < 256 ^ bytes.length := by
  induction bytes with
  | nil => decide
  | cons b bytes ih =>
      have hb : b.toNat < 256 := b.toNat_lt
      rw [ofLe, List.length_cons, Nat.pow_succ]
      omega

/-- The low bytes of a number are what is left of it. -/
theorem ofLe_leBytes_mod (k a : Nat) : ofLe (leBytes k a) = a % 256 ^ k := by
  induction k generalizing a with
  | zero =>
      rw [Nat.pow_zero, Nat.mod_one]
      rfl
  | succ k ih =>
      have hbyte : (UInt8.ofNat (a % 256)).toNat = a % 256 := by
        rw [UInt8.toNat_ofNat']
        exact Nat.mod_eq_of_lt (Nat.mod_lt a (by omega))
      rw [leBytes, ofLe, ih, hbyte, Nat.pow_succ', Nat.mod_mul]

theorem ofLe_leBytes (k a : Nat) (h : a < 256 ^ k) : ofLe (leBytes k a) = a := by
  rw [ofLe_leBytes_mod, Nat.mod_eq_of_lt h]

/-- One byte more goes behind the others. -/
theorem leBytes_concat (k a : Nat) :
    leBytes (k + 1) a = leBytes k a ++ [UInt8.ofNat (a / 256 ^ k % 256)] := by
  induction k generalizing a with
  | zero =>
      rw [Nat.pow_zero, Nat.div_one]
      rfl
  | succ k ih =>
      rw [leBytes, ih, leBytes, List.cons_append, Nat.div_div_eq_div_mul, Nat.pow_succ,
        Nat.mul_comm 256]

/-- A word survives its byte form. -/
theorem ofLe_le64 (a : Nat) (h : a < 2 ^ 64) : ofLe (le64 a) = a :=
  ofLe_leBytes 8 a (by rw [show (256 : Nat) ^ 8 = 2 ^ 64 by norm_num]; exact h)

end Bytes
