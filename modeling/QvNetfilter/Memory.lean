import Mathlib.Data.List.GetD

/-!
# Byte buffers and C integers

Memory is a list of bytes. A read names an offset, a write at offset zero
keeps what lies behind it, so bytes of an earlier write stay visible. Lengths
pass through a 32-bit `int`, which wraps.
-/

namespace Memory

abbrev Bytes := List UInt8

def byteAt (b : Bytes) (i : Nat) : UInt8 := b.getD i 0

/-- The `len` bytes at offset `off`, in memory order. -/
def readBytes (b : Bytes) (off len : Nat) : Bytes :=
  (List.range len).map (fun k => byteAt b (off + k))

/-- A write at offset zero; the rest of the buffer stays as it was. -/
def overwrite (b new : Bytes) : Bytes := new ++ b.drop new.length

@[simp] theorem readBytes_length (b : Bytes) (off len : Nat) :
    (readBytes b off len).length = len := by
  simp [readBytes]

theorem readBytes_congr {b b' : Bytes} {off len : Nat}
    (same : ∀ i, off ≤ i → i < off + len → byteAt b i = byteAt b' i) :
    readBytes b off len = readBytes b' off len := by
  apply List.map_congr_left
  intro k hk
  have hlt := List.mem_range.mp hk
  exact same (off + k) (by omega) (by omega)

/-- A read of the part that lies between two others. -/
theorem readBytes_append (front b back : Bytes) :
    readBytes (front ++ b ++ back) front.length b.length = b := by
  apply List.ext_getElem
  · simp
  · intro i hi hi'
    have hlt : front.length + i < (front ++ b).length := by
      rw [List.length_append]
      omega
    simp only [readBytes, byteAt, List.getElem_map, List.getElem_range]
    rw [List.getD_append _ _ _ _ hlt, List.getD_append_right _ _ _ _ (Nat.le_add_right ..),
      Nat.add_sub_cancel_left, List.getD_eq_getElem _ _ hi']

theorem byteAt_overwrite (b new : Bytes) (i : Nat) :
    byteAt (overwrite b new) i = if i < new.length then byteAt new i else byteAt b i := by
  simp only [byteAt, overwrite]
  by_cases h : i < new.length
  · rw [if_pos h, List.getD_append _ _ _ _ h]
  · have hle : new.length ≤ i := by omega
    rw [if_neg h, List.getD_append_right _ _ _ _ hle]
    simp only [List.getD_eq_getElem?_getD, List.getElem?_drop]
    rw [Nat.add_sub_cancel' hle]

theorem byteAt_overwrite_of_lt {b new : Bytes} {i : Nat} (h : i < new.length) :
    byteAt (overwrite b new) i = byteAt new i := by
  rw [byteAt_overwrite, if_pos h]

theorem overwrite_length {b new : Bytes} (fits : new.length ≤ b.length) :
    (overwrite b new).length = b.length := by
  simp only [overwrite, List.length_append, List.length_drop]
  omega

theorem byteAt_take {b : Bytes} {n i : Nat} (h : i < n) : byteAt (b.take n) i = byteAt b i := by
  simp [byteAt, List.getD_eq_getElem?_getD, h]

theorem readBytes_take {b : Bytes} {n off len : Nat} (h : off + len ≤ n) :
    readBytes (b.take n) off len = readBytes b off len :=
  readBytes_congr (fun _ _ hi => byteAt_take (by omega))

theorem overwrite_take (b new : Bytes) : (overwrite b new).take new.length = new :=
  List.take_left

/-- Conversion to a 32-bit `int`. -/
def toInt32 (x : Int) : Int :=
  if x % 4294967296 < 2147483648 then x % 4294967296 else x % 4294967296 - 4294967296

theorem toInt32_of_nonneg {x : Int} (lo : 0 ≤ x) (hi : x < 2147483648) : toInt32 x = x := by
  simp only [toInt32]
  split <;> omega

theorem toInt32_lt_of_large {x : Int} (h : 2147483648 ≤ x) : toInt32 x < x := by
  simp only [toInt32]
  split <;> omega

/-- The first size that an `int` cannot hold. -/
def intLimit : Nat := 2147483648

/-- The bytes that a pointer and an `int` length name; a negative length names none. -/
def counted (buf : Bytes) (len : Int) : Bytes := buf.take len.toNat

theorem counted_length (buf : Bytes) : counted buf buf.length = buf := by
  simp [counted]

/-- A buffer whose size is narrowed to `int` is passed on whole exactly below 2 GiB. -/
theorem counted_toInt32_iff (buf : Bytes) :
    counted buf (toInt32 buf.length) = buf ↔ buf.length < intLimit := by
  simp only [intLimit]
  constructor
  · intro h
    by_cases small : buf.length < 2147483648
    · exact small
    · have hlen := congrArg List.length h
      have hlt := toInt32_lt_of_large (x := buf.length) (by omega)
      simp only [counted, List.length_take] at hlen
      omega
  · intro h
    rw [toInt32_of_nonneg (by omega) (by omega), counted_length]

end Memory
