import QvNetfilter.Memory

/-!
# UTF-8 with a 16-bit `wchar_t`

The encoder writes one to three bytes for a code unit. The decoder walks through
the string with an index: it reads ahead for continuation bytes, steps back over a
byte that is none, and may read the terminator behind the last byte. Its index is
32 bits wide, and an `int` says how many bytes remain.
-/

namespace Utf8

open Memory

/-- A `std::wstring` -/
abbrev WString := List UInt16

def replacementChar : UInt16 := 0xFFFD

section Encoder

/-- The check for invalid characters at the top of `encodeUTF8Char`. -/
def checked (c : UInt32) : UInt32 :=
  if (0xD800 ≤ c ∧ c ≤ 0xDFFF) ∨ c = 0xFFFF ∨ c = 0xFFFE ∨ 0x80000000 ≤ c then 0xFFFD else c

/-- `(char) c` -/
def narrow (c : UInt32) : UInt8 := c.toUInt8

/-- What `encodeUTF8Char` appends; the third branch takes every character that is left. -/
def encodeUtf8Char (character : UInt16) : Bytes :=
  let c := checked character.toUInt32
  if c < 0x80 then [narrow c]
  else if c < 0x800 then [narrow (0xC0 + (c >>> (6 : UInt32))), narrow (0x80 + (c &&& 0x3F))]
  else [narrow (0xE0 + (c >>> (12 : UInt32))), narrow (0x80 + ((c >>> (6 : UInt32)) &&& 0x3F)),
    narrow (0x80 + (c &&& 0x3F))]

def encodeUtf8 (source : WString) : Bytes := source.flatMap encodeUtf8Char

end Encoder

section Decoder

/-- `source[i]`: the terminator stands behind the last byte, and nothing behind it. -/
def charAt (source : Bytes) (i : UInt32) : Option UInt8 :=
  if i.toNat < source.length then some (byteAt source i.toNat)
  else if i.toNat = source.length then some 0
  else none

/-- The loop over the leading ones of `d`, at most `bits` times: `dataMask` and
`extraBytesForChar`. -/
def findSequenceLength : Nat → UInt8 → UInt8 → Int → UInt8 × Int
  | 0, _, dataMask, extraBytesForChar => (dataMask, extraBytesForChar)
  | bits + 1, d, dataMask, extraBytesForChar =>
    if d &&& 0x80 ≠ 0 then
      findSequenceLength bits (d <<< 1) (dataMask >>> 1) (extraBytesForChar + 1)
    else (dataMask, extraBytesForChar)

/-- A byte has eight bits. -/
def sequenceLength (c : UInt8) : UInt8 × Int := findSequenceLength 8 c 0x7F (-1)

/-- `(int) source.length() - i` -/
def remainingBytes (source : Bytes) (i : UInt32) : Int := toInt32 (source.length - i.toNat)

/-- The loop over the continuation bytes, `count` times from the byte behind index `i`. -/
def decodeSequence (source : Bytes) : Nat → UInt32 → UInt16 → Option (UInt16 × UInt32)
  | 0, i, n => some (n, i)
  | count + 1, i, n =>
    match charAt source (i + 1) with
    | none => none
    | some c =>
      if c = 0xFF ∨ c = 0xFE then some (replacementChar, i + 1)
      else if c >>> 6 = 2 then
        decodeSequence source count (i + 1) ((n <<< 6) + (c &&& 0x3F).toUInt16)
      else some (replacementChar, i + 1 - 1)

/-- The body of the outer loop: the unit that it appends, and the index after it. -/
def decodeChar (source : Bytes) (i : UInt32) : Option (UInt16 × UInt32) :=
  match charAt source i with
  | none => none
  | some c =>
    if c ≠ 0xFF ∧ c ≠ 0xFE then
      if c >>> 6 ≠ 2 then
        let (dataMask, extraBytesForChar) := sequenceLength c
        let sequence :=
          if extraBytesForChar > remainingBytes source i then some (replacementChar, i)
          else decodeSequence source extraBytesForChar.toNat i (c &&& dataMask).toUInt16
        sequence.map fun (n, i) => (if extraBytesForChar > 2 then replacementChar else n, i)
      else some (replacementChar, i)
    else some (replacementChar, i)

/-- The outer loop, at most `fuel` times. -/
def decodeLoop (source : Bytes) : Nat → UInt32 → WString → Option WString
  | 0, _, _ => none
  | fuel + 1, i, result =>
    if i.toNat < source.length then
      match decodeChar source i with
      | none => none
      | some (n, i) => decodeLoop source fuel (i + 1) (result ++ [n])
    else some result

/-- `none` where the loop does not end, or reads outside of the string. -/
def decodeUtf8 (source : Bytes) : Option WString := decodeLoop source (source.length + 1) 0 []

end Decoder

end Utf8
