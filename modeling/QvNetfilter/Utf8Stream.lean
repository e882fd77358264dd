import Mathlib.Algebra.Group.Nat.Defs
import QvNetfilter.Utf8

/-!
# UTF-8 as a stream

The same codec without an index. A character has a form of one to three bytes, and
the decoder takes one sequence after another off the front of a byte stream. The
decoder of the source computes what this one does on every string whose length its
index can hold.
-/

namespace Utf8

open Memory

section Forms

/-- What takes the place of a code unit that UTF-8 has no form for. -/
def clean (c : UInt16) : UInt16 :=
  if (0xD800 ≤ c ∧ c ≤ 0xDFFF) ∨ c = 0xFFFE ∨ c = 0xFFFF then replacementChar else c

/-- The bytes of a code below 0x10000. -/
def form (n : Nat) : Bytes :=
  if n < 0x80 then [UInt8.ofNat n]
  else if n < 0x800 then [UInt8.ofNat (0xC0 + n / 64), UInt8.ofNat (0x80 + n % 64)]
  else [UInt8.ofNat (0xE0 + n / 4096), UInt8.ofNat (0x80 + n / 64 % 64),
    UInt8.ofNat (0x80 + n % 64)]

theorem checked_clean (c : UInt16) : checked c.toUInt32 = (clean c).toUInt32 := by
  have small : c.toNat < 65536 := c.toNat_lt
  simp only [checked, clean, UInt32.le_iff_toNat_le, UInt16.le_iff_toNat_le, ← UInt32.toNat_inj,
    ← UInt16.toNat_inj, replacementChar, UInt16.toNat_toUInt32]
  by_cases bad : (55296 ≤ c.toNat ∧ c.toNat ≤ 57343) ∨ c.toNat = 65534 ∨ c.toNat = 65535
  · rw [if_pos, if_pos]
    · rfl
    · simpa using bad
    · simp
      omega
  · rw [if_neg, if_neg]
    · simp
    · simpa using bad
    · simp
      omega

theorem narrow_eq {x : UInt32} {n : Nat} (h : x.toNat = n) : narrow x = UInt8.ofNat n := by
  rw [narrow, ← h]
  rfl

theorem narrow_add {base x : UInt32} {n : Nat} (h : x.toNat = n) (small : n < 65536)
    (byte : base.toNat < 256) : narrow (base + x) = UInt8.ofNat (base.toNat + n) := by
  apply narrow_eq
  rw [UInt32.toNat_add, h]
  omega

theorem encodeUtf8Char_eq (c : UInt16) : encodeUtf8Char c = form (clean c).toNat := by
  have small : (clean c).toNat < 65536 := (clean c).toNat_lt
  generalize hn : (clean c).toNat = n at small
  have whole : (clean c).toUInt32.toNat = n := by rw [UInt16.toNat_toUInt32, hn]
  have low : ((clean c).toUInt32 &&& 0x3F).toNat = n % 64 := by
    rw [UInt32.toNat_and, whole]
    exact Nat.and_two_pow_sub_one_eq_mod n 6
  have high6 : ((clean c).toUInt32 >>> (6 : UInt32)).toNat = n / 64 := by
    rw [UInt32.toNat_shiftRight, whole]
    exact Nat.shiftRight_eq_div_pow n 6
  have high12 : ((clean c).toUInt32 >>> (12 : UInt32)).toNat = n / 4096 := by
    rw [UInt32.toNat_shiftRight, whole]
    exact Nat.shiftRight_eq_div_pow n 12
  have mid : (((clean c).toUInt32 >>> (6 : UInt32)) &&& 0x3F).toNat = n / 64 % 64 := by
    rw [UInt32.toNat_and, high6]
    exact Nat.and_two_pow_sub_one_eq_mod (n / 64) 6
  have two : UInt32.toNat 0x80 = 0x80 := rfl
  have three : UInt32.toNat 0x800 = 0x800 := rfl
  simp only [encodeUtf8Char, checked_clean, form, UInt32.lt_iff_toNat_lt, whole, two, three]
  by_cases one : n < 0x80
  · rw [if_pos one, if_pos one, narrow_eq whole]
  · rw [if_neg one, if_neg one, narrow_add low (by omega) (by decide),
      narrow_add high6 (by omega) (by decide), narrow_add mid (by omega) (by decide),
      narrow_add high12 (by omega) (by decide)]
    rfl

theorem encodeUtf8_cons (c : UInt16) (w : WString) :
    encodeUtf8 (c :: w) = encodeUtf8Char c ++ encodeUtf8 w := rfl

theorem encodeUtf8_length_cons (c : UInt16) (w : WString) :
    (encodeUtf8 (c :: w)).length = (encodeUtf8Char c).length + (encodeUtf8 w).length := by
  rw [encodeUtf8_cons, List.length_append]

end Forms

section Bytes

/-- A byte of the form 10xxxxxx. -/
def Continues (c : UInt8) : Prop := 0x80 ≤ c.toNat ∧ c.toNat < 0xC0

theorem shiftRight_eq_two_iff (c : UInt8) : c >>> 6 = 2 ↔ Continues c := by
  have h : (c >>> 6).toNat = c.toNat / 64 := by
    rw [UInt8.toNat_shiftRight]
    exact Nat.shiftRight_eq_div_pow c.toNat 6
  rw [← UInt8.toNat_inj, h, Continues]
  show c.toNat / 64 = 2 ↔ _
  omega

theorem leads (c : UInt8) :
    (c.toNat < 0x80 → sequenceLength c = (0x7F, -1)) ∧
    (0xC0 ≤ c.toNat → c.toNat < 0xE0 → sequenceLength c = (0x1F, 1)) ∧
    (0xE0 ≤ c.toNat → c.toNat < 0xF0 → sequenceLength c = (0x0F, 2)) ∧
    (0xF0 ≤ c.toNat → c.toNat < 0xFE → 2 < (sequenceLength c).2) := by
  have all : ∀ n : Fin 256,
      (n.val < 0x80 → sequenceLength (UInt8.ofNat n) = (0x7F, -1)) ∧
      (0xC0 ≤ n.val → n.val < 0xE0 → sequenceLength (UInt8.ofNat n) = (0x1F, 1)) ∧
      (0xE0 ≤ n.val → n.val < 0xF0 → sequenceLength (UInt8.ofNat n) = (0x0F, 2)) ∧
      (0xF0 ≤ n.val → n.val < 0xFE → 2 < (sequenceLength (UInt8.ofNat n)).2) := by
    decide +kernel
  have here := all ⟨c.toNat, c.toNat_lt⟩
  rwa [UInt8.ofNat_toNat] at here

/-- Once all ones have been shifted out the loop has ended. -/
theorem findSequenceLength_ends {bits : Nat} {d : UInt8} (out : d.toNat * 2 ^ bits % 256 = 0)
    (more : Nat) (dataMask : UInt8) (extraBytesForChar : Int) :
    findSequenceLength (bits + more) d dataMask extraBytesForChar =
      findSequenceLength bits d dataMask extraBytesForChar := by
  induction bits generalizing d dataMask extraBytesForChar with
  | zero =>
    have small : d.toNat < 256 := d.toNat_lt
    obtain rfl : d = 0 := UInt8.toNat_inj.mp (show d.toNat = 0 by omega)
    cases more <;> rfl
  | succ bits ih =>
    have shifted : (d <<< 1).toNat = d.toNat * 2 % 256 := by
      rw [UInt8.toNat_shiftLeft]
      exact congrArg (· % 256) (Nat.shiftLeft_eq d.toNat 1)
    have rest : (d <<< 1).toNat * 2 ^ bits % 256 = 0 := by
      rw [shifted, Nat.mod_mul_mod, Nat.mul_assoc, ← Nat.pow_succ']
      exact out
    rw [Nat.succ_add, findSequenceLength, findSequenceLength, ih rest]

end Bytes

section Stream

/-- The code with the six bits of one more byte. -/
def extend (n : UInt16) (c : UInt8) : UInt16 := (n <<< 6) + (c &&& 0x3F).toUInt16

/-- Continuation bytes extend the code; anything else ends the sequence. -/
def continued : Nat → UInt16 → Bytes → UInt16 × Bytes
  | 0, n, rest => (n, rest)
  | _ + 1, _, [] => (replacementChar, [])
  | count + 1, n, c :: rest =>
    if c = 0xFF ∨ c = 0xFE then (replacementChar, rest)
    else if c >>> 6 = 2 then continued count (extend n c) rest
    else (replacementChar, c :: rest)

/-- The unit that the sequence with the first byte `c` gives, and what follows it. -/
def first (c : UInt8) (rest : Bytes) : UInt16 × Bytes :=
  if c = 0xFF ∨ c = 0xFE ∨ c >>> 6 = 2 then (replacementChar, rest)
  else if (sequenceLength c).2 > toInt32 (rest.length + 1) then (replacementChar, rest)
  else
    let (n, after) :=
      continued (sequenceLength c).2.toNat (c &&& (sequenceLength c).1).toUInt16 rest
    (if (sequenceLength c).2 > 2 then replacementChar else n, after)

theorem continued_suffix (count : Nat) (n : UInt16) (rest : Bytes) :
    (continued count n rest).2 <:+ rest := by
  induction count generalizing n rest with
  | zero => exact List.suffix_refl rest
  | succ count ih =>
    cases rest with
    | nil => exact List.suffix_refl []
    | cons c rest =>
      simp only [continued]
      split
      · exact List.suffix_cons c rest
      · split
        · exact (ih _ rest).trans (List.suffix_cons c rest)
        · exact List.suffix_refl _

theorem first_suffix (c : UInt8) (rest : Bytes) : (first c rest).2 <:+ rest := by
  simp only [first]
  split
  · exact List.suffix_refl rest
  · split
    · exact List.suffix_refl rest
    · exact continued_suffix _ _ rest

theorem first_length (c : UInt8) (rest : Bytes) : (first c rest).2.length ≤ rest.length :=
  (first_suffix c rest).length_le

def decoded : Bytes → WString
  | [] => []
  | c :: rest => (first c rest).1 :: decoded (first c rest).2
termination_by s => s.length
decreasing_by
  exact Nat.lt_succ_of_le (first_length c rest)

theorem decoded_nil : decoded [] = [] := by
  rw [decoded]

theorem decoded_cons (c : UInt8) (rest : Bytes) :
    decoded (c :: rest) = (first c rest).1 :: decoded (first c rest).2 := by
  rw [decoded]

theorem decoded_length (s : Bytes) : (decoded s).length ≤ s.length := by
  induction s using decoded.induct with
  | case1 => simp [decoded_nil]
  | case2 c rest ih =>
    have shorter := first_length c rest
    rw [decoded_cons, List.length_cons, List.length_cons]
    omega

end Stream

section Refinement
variable {source : Bytes}

/-- The bytes behind index `i` are `rest`. -/
structure Behind (source : Bytes) (i : UInt32) (rest : Bytes) : Prop where
  bytes : source.drop (i.toNat + 1) = rest
  position : i.toNat + 1 + rest.length = source.length

/-- The decoder of the source is at the first byte of `c :: rest`. -/
structure At (source : Bytes) (i : UInt32) (s : Bytes) : Prop where
  bytes : source.drop i.toNat = s
  position : i.toNat + s.length = source.length

theorem next_toNat {i : UInt32} {rest : Bytes} (size : source.length < 4294967296)
    (behind : Behind source i rest) : (i + 1).toNat = i.toNat + 1 := by
  have position := behind.position
  rw [UInt32.toNat_add]
  show (i.toNat + 1) % 4294967296 = i.toNat + 1
  omega

theorem Behind.next {i : UInt32} {rest : Bytes} (size : source.length < 4294967296)
    (behind : Behind source i rest) : At source (i + 1) rest := by
  have step := next_toNat size behind
  exact ⟨by rw [step]; exact behind.bytes, by rw [step]; exact behind.position⟩

theorem At.behind {i : UInt32} {c : UInt8} {rest : Bytes} (here : At source i (c :: rest)) :
    Behind source i rest := by
  refine ⟨?_, ?_⟩
  · rw [← List.drop_drop, here.bytes]
    rfl
  · have position := here.position
    rw [List.length_cons] at position
    omega

theorem charAt_cons {i : UInt32} {c : UInt8} {rest : Bytes} (here : At source i (c :: rest)) :
    charAt source i = some c := by
  have position := here.position
  rw [List.length_cons] at position
  have byte : byteAt source i.toNat = c := by
    have h := congrArg (fun s => byteAt s 0) here.bytes
    simpa [byteAt, List.getD_eq_getElem?_getD] using h
  rw [charAt, if_pos (by omega), byte]

/-- The terminator is read where nothing is left. -/
theorem charAt_nil {i : UInt32} (here : At source i []) : charAt source i = some 0 := by
  have position : i.toNat + 0 = source.length := here.position
  rw [charAt, if_neg (by omega), if_pos (by omega)]

theorem decodeSequence_eq (size : source.length < 4294967296) (count : Nat) {i : UInt32}
    {rest : Bytes} (behind : Behind source i rest) (n : UInt16) :
    ∃ i', decodeSequence source count i n = some ((continued count n rest).1, i') ∧
      Behind source i' (continued count n rest).2 := by
  induction count generalizing i rest n with
  | zero => exact ⟨i, rfl, behind⟩
  | succ count ih =>
    have back : i + 1 - 1 = i := UInt32.add_sub_cancel i 1
    have here := behind.next size
    cases rest with
    | nil =>
      refine ⟨i, ?_, behind⟩
      rw [decodeSequence, charAt_nil here]
      simp only [continued, back]
      rfl
    | cons c rest =>
      have beyond := here.behind
      simp only [decodeSequence, charAt_cons here, continued]
      split
      · exact ⟨i + 1, rfl, beyond⟩
      · split
        · exact ih beyond _
        · exact ⟨i, by rw [back], behind⟩

/-- One round of the outer loop takes one sequence off the front. -/
theorem decodeChar_eq (size : source.length < 4294967296) {i : UInt32} {c : UInt8} {rest : Bytes}
    (here : At source i (c :: rest)) :
    ∃ i', decodeChar source i = some ((first c rest).1, i') ∧
      Behind source i' (first c rest).2 := by
  have behind := here.behind
  have remaining : remainingBytes source i = toInt32 (rest.length + 1) := by
    have position := here.position
    rw [List.length_cons] at position
    rw [remainingBytes]
    congr 1
    omega
  simp only [decodeChar, charAt_cons here, remaining, first]
  by_cases never : c = 0xFF ∨ c = 0xFE
  · have stop : ¬ (c ≠ 0xFF ∧ c ≠ 0xFE) := by
      rintro ⟨h, h'⟩
      exact never.elim h h'
    rw [if_neg stop, if_pos (never.elim Or.inl fun h => Or.inr (Or.inl h))]
    exact ⟨i, rfl, behind⟩
  · obtain ⟨h, h'⟩ := not_or.mp never
    rw [if_pos ⟨h, h'⟩]
    by_cases continues : c >>> 6 = 2
    · rw [if_neg (not_not.mpr continues), if_pos (Or.inr (Or.inr continues))]
      exact ⟨i, rfl, behind⟩
    · rw [if_pos continues, if_neg (not_or.mpr ⟨h, not_or.mpr ⟨h', continues⟩⟩)]
      by_cases few : (sequenceLength c).2 > toInt32 (rest.length + 1)
      · rw [if_pos few, if_pos few]
        refine ⟨i, ?_, behind⟩
        rw [Option.map_some, ite_self]
      · rw [if_neg few, if_neg few]
        obtain ⟨i', taken, left⟩ := decodeSequence_eq size (sequenceLength c).2.toNat behind
          (c &&& (sequenceLength c).1).toUInt16
        exact ⟨i', by rw [taken, Option.map_some], left⟩

theorem decodeLoop_eq (size : source.length < 4294967296) {fuel : Nat} {i : UInt32} {s : Bytes}
    (here : At source i s) (enough : s.length < fuel) (result : WString) :
    decodeLoop source fuel i result = some (result ++ decoded s) := by
  induction fuel generalizing i s result with
  | zero => omega
  | succ fuel ih =>
    have position := here.position
    cases s with
    | nil =>
      have ended : ¬ i.toNat < source.length := by
        rw [List.length_nil] at position
        omega
      rw [decodeLoop, if_neg ended, decoded_nil, List.append_nil]
    | cons c rest =>
      rw [List.length_cons] at position enough
      have shorter := first_length c rest
      obtain ⟨i', taken, behind⟩ := decodeChar_eq size here
      have later := ih (behind.next size) (by omega) (result ++ [(first c rest).1])
      rw [decodeLoop, if_pos (by omega), decoded_cons, List.append_cons, ← later, taken]

/-- The decoder of the source gives what the stream decoder gives. -/
theorem decodeUtf8_eq (size : source.length < 4294967296) :
    decodeUtf8 source = some (decoded source) := by
  have start : At source 0 source := ⟨rfl, Nat.zero_add _⟩
  rw [decodeUtf8, decodeLoop_eq size start (Nat.lt_succ_self _), List.nil_append]

/-- The index of a longer string comes round to its start; the loop never ends. -/
theorem decodeLoop_long (size : 4294967296 ≤ source.length) (fuel : Nat) (i : UInt32)
    (result : WString) : decodeLoop source fuel i result = none := by
  induction fuel generalizing i result with
  | zero => rfl
  | succ fuel ih =>
    have small : i.toNat < 4294967296 := i.toNat_lt
    rw [decodeLoop, if_pos (by omega)]
    cases decodeChar source i with
    | none => rfl
    | some taken => exact ih _ _

theorem decodeUtf8_long (size : 4294967296 ≤ source.length) : decodeUtf8 source = none :=
  decodeLoop_long size _ _ _

end Refinement

end Utf8
