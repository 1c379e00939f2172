import Mathlib.Data.List.Basic
import Mathlib.Data.Nat.Defs
import Mathlib.Tactic.Ring

/-! Node's `Buffer` as the decoders of this repository use it: indexing, which gives
`undefined` past the end, `subarray`, which clamps, and the fixed-width unsigned reads, which
throw a `RangeError` past the end. The little-endian encoder is the layout of the accounts
that the Solana decoders read back. -/

namespace LiquidityLayer

/-- The contents of a Node `Buffer` or a `Uint8Array`. -/
abbrev Bytes := List UInt8

namespace Bytes

/-- The natural number with these bytes, least significant first. -/
def ofLE : Bytes → Nat
  | [] => 0
  | b :: bs => b.toNat + 256 * ofLE bs

/-- The natural number with these bytes, most significant first. -/
def ofBE (bytes : Bytes) : Nat := ofLE bytes.reverse

/-- The `width` bytes of `n`, least significant first. Bytes of `n` above the width are
dropped, as a fixed-width little-endian field holds only its low bytes. -/
def toLE : Nat → Nat → Bytes
  | 0, _ => []
  | width + 1, n => UInt8.ofNat (n % 256) :: toLE width (n / 256)

@[simp] theorem ofLE_nil : ofLE [] = 0 := rfl

@[simp] theorem ofLE_cons (b : UInt8) (bs : Bytes) : ofLE (b :: bs) = b.toNat + 256 * ofLE bs :=
  rfl

@[simp] theorem length_toLE (width n : Nat) : (toLE width n).length = width := by
  induction width generalizing n with
  | zero => rfl
  | succ width ih => simp [toLE, ih]

/-- Reading back `width` little-endian bytes gives the number modulo `256 ^ width`. -/
theorem ofLE_toLE (width n : Nat) : ofLE (toLE width n) = n % 256 ^ width := by
  induction width generalizing n with
  | zero => simp [toLE, Nat.mod_one]
  | succ width ih =>
      have hByte : (UInt8.ofNat (n % 256)).toNat = n % 256 :=
        UInt8.toNat_ofNat_of_lt (Nat.mod_lt n (by decide))
      rw [toLE, ofLE_cons, ih, hByte, Nat.pow_succ, Nat.mul_comm (256 ^ width), Nat.mod_mul]

theorem ofLE_append (bytes bytes' : Bytes) :
    ofLE (bytes ++ bytes') = ofLE bytes + 256 ^ bytes.length * ofLE bytes' := by
  induction bytes with
  | nil => simp
  | cons b bs ih =>
      rw [List.cons_append, ofLE_cons, ofLE_cons, ih, List.length_cons, Nat.pow_succ]
      ring

/-- The low `count` bytes of a wider field are the narrower field. -/
theorem take_toLE {count width : Nat} (n : Nat) (h : count ≤ width) :
    (toLE width n).take count = toLE count n := by
  induction count generalizing width n with
  | zero => rfl
  | succ count ih =>
      obtain ⟨width, rfl⟩ : ∃ w, width = w + 1 := ⟨width - 1, by omega⟩
      simp [toLE, ih _ (by omega : count ≤ width)]

theorem ofLE_toLE_of_lt {width n : Nat} (h : n < 256 ^ width) : ofLE (toLE width n) = n := by
  rw [ofLE_toLE, Nat.mod_eq_of_lt h]

end Bytes

open Bytes

/-- `buf.subarray(start, end)`: the bytes from `start` up to `end`, clamped to the buffer. -/
def subarray (data : Bytes) (start stop : Nat) : Bytes := (data.drop start).take (stop - start)

/-- The text of the `RangeError` a fixed-width read past the end of a buffer throws. -/
def outOfRange : String := "RangeError [ERR_OUT_OF_RANGE]: The value of \"offset\" is out of range."

/-- `buf.readUIntLE(offset, width)`: the `width` bytes at `offset`, least significant first. -/
def readUIntLE (data : Bytes) (offset width : Nat) : Except String Nat :=
  if offset + width ≤ data.length then .ok (ofLE (subarray data offset (offset + width)))
  else .error outOfRange

/-- `buf.readUIntBE(offset, width)`: the `width` bytes at `offset`, most significant first. -/
def readUIntBE (data : Bytes) (offset width : Nat) : Except String Nat :=
  if offset + width ≤ data.length then .ok (ofBE (subarray data offset (offset + width)))
  else .error outOfRange

/-- `buf.readUInt8(offset)`, also spelled `readUint8`. -/
def readUInt8 (data : Bytes) (offset : Nat) : Except String Nat := readUIntLE data offset 1

def readUInt16LE (data : Bytes) (offset : Nat) : Except String Nat := readUIntLE data offset 2

def readUInt32LE (data : Bytes) (offset : Nat) : Except String Nat := readUIntLE data offset 4

/-- `buf.readBigUInt64LE(offset)`; the callers turn the `bigint` into a `BN` of the same value. -/
def readBigUInt64LE (data : Bytes) (offset : Nat) : Except String Nat := readUIntLE data offset 8

def readUInt16BE (data : Bytes) (offset : Nat) : Except String Nat := readUIntBE data offset 2

def readUInt32BE (data : Bytes) (offset : Nat) : Except String Nat := readUIntBE data offset 4

section Cursor

variable {data bytes rest : Bytes} {offset : Nat}

/-- A decoder that walks a layout keeps an offset into the buffer; stating each read through
the suffix `data.drop offset` lets a layout written as a concatenation be consumed one field
at a time. Reading `bytes` moves the offset past them. -/
theorem drop_add_of_drop_eq (h : data.drop offset = bytes ++ rest) :
    data.drop (offset + bytes.length) = rest := by
  rw [← List.drop_drop, h, List.drop_left]

theorem subarray_of_drop_eq (h : data.drop offset = bytes ++ rest) :
    subarray data offset (offset + bytes.length) = bytes := by
  rw [subarray, h, Nat.add_sub_cancel_left, List.take_left]

theorem getElem?_of_drop_eq {b : UInt8} (h : data.drop offset = b :: rest) :
    data[offset]? = some b := by
  have hHead := congrArg (fun l => l[0]?) h
  simp only [List.getElem?_drop, Nat.add_zero] at hHead
  simpa using hHead

theorem length_le_of_drop_eq (hPos : 0 < bytes.length) (h : data.drop offset = bytes ++ rest) :
    offset + bytes.length ≤ data.length := by
  have hLength := congrArg List.length h
  simp only [List.length_drop, List.length_append] at hLength
  omega

/-- A read of a field that the suffix at the cursor starts with returns that field. -/
theorem readUIntLE_of_drop_eq (hPos : 0 < bytes.length) (h : data.drop offset = bytes ++ rest) :
    readUIntLE data offset bytes.length = .ok (ofLE bytes) := by
  rw [readUIntLE, if_pos (length_le_of_drop_eq hPos h), subarray_of_drop_eq h]

/-- A little-endian field of width `width` holding `n < 256 ^ width` reads back as `n`. -/
theorem readUIntLE_toLE {width n : Nat} (hWidth : 0 < width) (hn : n < 256 ^ width)
    (h : data.drop offset = toLE width n ++ rest) :
    readUIntLE data offset width = .ok n := by
  have hRead := readUIntLE_of_drop_eq (by rwa [length_toLE]) h
  rwa [length_toLE, ofLE_toLE_of_lt hn] at hRead

/-- A little-endian field at the cursor is read, and the cursor moves past it. -/
theorem readUIntLE_cursor {width n : Nat} (hWidth : 0 < width) (hn : n < 256 ^ width)
    (h : data.drop offset = toLE width n ++ rest) :
    readUIntLE data offset width = .ok n ∧ data.drop (offset + width) = rest :=
  ⟨readUIntLE_toLE hWidth hn h, by simpa using drop_add_of_drop_eq h⟩

/-- A byte string at the cursor is cut out by `subarray`, and the cursor moves past it. -/
theorem subarray_cursor {width : Nat} (hLength : bytes.length = width)
    (h : data.drop offset = bytes ++ rest) :
    subarray data offset (offset + width) = bytes ∧ data.drop (offset + width) = rest := by
  subst hLength
  exact ⟨subarray_of_drop_eq h, drop_add_of_drop_eq h⟩

/-- A byte at the cursor is what indexing gives, and the cursor moves past it. -/
theorem getElem?_cursor {b : UInt8} (h : data.drop offset = b :: rest) :
    data[offset]? = some b ∧ data.drop (offset + 1) = rest :=
  ⟨getElem?_of_drop_eq h, drop_add_of_drop_eq (show data.drop offset = [b] ++ rest from h)⟩

end Cursor

section Prefix

variable {data : Bytes} {n : Nat}

/-- A read that ends within the first `n` bytes reads the same from the slice `data.take n`, as
from an account fetched with a `dataSlice` of its first `n` bytes. -/
theorem subarray_take {start stop : Nat} (h : stop ≤ n) :
    subarray (data.take n) start stop = subarray data start stop := by
  rw [subarray, subarray, List.drop_take, List.take_take, Nat.min_eq_left (by omega)]

theorem readUIntLE_take {offset width : Nat} (h : offset + width ≤ n) :
    readUIntLE (data.take n) offset width = readUIntLE data offset width := by
  have hFits : offset + width ≤ (data.take n).length ↔ offset + width ≤ data.length := by
    rw [List.length_take]
    omega
  simp only [readUIntLE, subarray_take h, hFits]

end Prefix

/-- A computation that may throw, followed by another, succeeded only if both did. -/
theorem bind_eq_ok {ε α β : Type} {x : Except ε α} {f : α → Except ε β} {b : β}
    (h : (x >>= f) = .ok b) : ∃ a, x = .ok a ∧ f a = .ok b := by
  rcases x with e | a
  · cases h
  · exact ⟨a, rfl, h⟩

end LiquidityLayer
