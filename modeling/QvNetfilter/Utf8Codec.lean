import QvNetfilter.Utf8Stream

/-!
# Encoding and decoding

The decoder undoes the encoder in front of any bytes, and finds the next character
behind any bytes. It does not look at the code that a sequence gives, so it also
takes sequences that the encoder never writes.
-/

namespace Utf8

open Memory

section Sequences

/-- The stream starts with a sequence of the code `n`, and goes on with the last argument. -/
inductive Sequence : Bytes → UInt16 → Bytes → Prop where
  | one {c : UInt8} {n : UInt16} {rest : Bytes} (lead : c.toNat < 0x80)
      (code : n.toNat = c.toNat) : Sequence (c :: rest) n rest
  | two {c b : UInt8} {n : UInt16} {rest : Bytes} (lead : 0xC0 ≤ c.toNat ∧ c.toNat < 0xE0)
      (more : Continues b) (code : n.toNat = c.toNat % 32 * 64 + b.toNat % 64) :
      Sequence (c :: b :: rest) n rest
  | three {c b d : UInt8} {n : UInt16} {rest : Bytes} (lead : 0xE0 ≤ c.toNat ∧ c.toNat < 0xF0)
      (more : Continues b) (last : Continues d)
      (code : n.toNat = c.toNat % 16 * 4096 + b.toNat % 64 * 64 + d.toNat % 64) :
      Sequence (c :: b :: d :: rest) n rest

theorem form_sequence (n : UInt16) (rest : Bytes) :
    Sequence (form n.toNat ++ rest) n rest := by
  have small : n.toNat < 65536 := n.toNat_lt
  have byte : ∀ m : Nat, m < 256 → (UInt8.ofNat m).toNat = m := by
    intro m hm
    rw [UInt8.toNat_ofNat']
    omega
  simp only [form]
  split
  · refine .one ?_ ?_
    · rw [byte _ (by omega)]
      omega
    · rw [byte _ (by omega)]
  · split
    · have lead := byte (0xC0 + n.toNat / 64) (by omega)
      have more := byte (0x80 + n.toNat % 64) (by omega)
      refine .two ?_ ?_ ?_
      · omega
      · rw [Continues]
        omega
      · omega
    · have lead := byte (0xE0 + n.toNat / 4096) (by omega)
      have more := byte (0x80 + n.toNat / 64 % 64) (by omega)
      have last := byte (0x80 + n.toNat % 64) (by omega)
      refine .three ?_ ?_ ?_ ?_
      · omega
      · rw [Continues]
        omega
      · rw [Continues]
        omega
      · omega

theorem extend_toNat {n : UInt16} (small : n.toNat < 1024) (c : UInt8) :
    (extend n c).toNat = n.toNat * 64 + c.toNat % 64 := by
  have low : (c &&& 0x3F).toUInt16.toNat = c.toNat % 64 := by
    rw [UInt8.toNat_toUInt16, UInt8.toNat_and]
    exact Nat.and_two_pow_sub_one_eq_mod c.toNat 6
  have high : (n <<< 6).toNat = n.toNat * 64 := by
    rw [UInt16.toNat_shiftLeft]
    show n.toNat <<< 6 % 65536 = n.toNat * 64
    rw [Nat.shiftLeft_eq]
    omega
  rw [extend, UInt16.toNat_add, low, high]
  omega

/-- The two bytes that start no sequence at all. -/
theorem never_iff (c : UInt8) : c = 0xFF ∨ c = 0xFE ↔ 0xFE ≤ c.toNat := by
  have limit : c.toNat < 256 := c.toNat_lt
  constructor
  · rintro (rfl | rfl)
    · decide
    · decide
  · intro top
    by_cases last : c.toNat = 0xFF
    · exact Or.inl (UInt8.toNat_inj.mp last)
    · exact Or.inr (UInt8.toNat_inj.mp (show c.toNat = 0xFE by omega))

/-- A byte that starts a sequence of one to three bytes or more. -/
theorem first_lead {c : UInt8} (lead : ¬ Continues c) (below : c.toNat < 0xFE) (rest : Bytes) :
    first c rest =
      if (sequenceLength c).2 > toInt32 (rest.length + 1) then (replacementChar, rest)
      else
        let (n, after) :=
          continued (sequenceLength c).2.toNat (c &&& (sequenceLength c).1).toUInt16 rest
        (if (sequenceLength c).2 > 2 then replacementChar else n, after) := by
  have other : ¬ (c = 0xFF ∨ c = 0xFE ∨ c >>> 6 = 2) := by
    rw [← or_assoc, never_iff, shiftRight_eq_two_iff]
    rintro (top | continues)
    · omega
    · exact lead continues
  rw [first, if_neg other]

theorem continued_cons {c : UInt8} (continues : Continues c) (count : Nat) (n : UInt16)
    (rest : Bytes) :
    continued (count + 1) n (c :: rest) = continued count (extend n c) rest := by
  have below := continues.2
  have other : ¬ (c = 0xFF ∨ c = 0xFE) := by
    rw [never_iff]
    omega
  rw [continued, if_neg other, if_pos ((shiftRight_eq_two_iff c).mpr continues)]

theorem mask_toNat (c mask : UInt8) (bits : Nat) (h : mask.toNat = 2 ^ bits - 1) :
    (c &&& mask).toUInt16.toNat = c.toNat % 2 ^ bits := by
  rw [UInt8.toNat_toUInt16, UInt8.toNat_and, h]
  exact Nat.and_two_pow_sub_one_eq_mod c.toNat bits

theorem toInt32_near {m : Nat} (near : m + 1 < intLimit) : toInt32 ((m : Int) + 1) = m + 1 := by
  have h : m + 1 < 2147483648 := near
  exact toInt32_of_nonneg (by omega) (by omega)

/-- A byte below 0x80 stands for itself, unless no byte is left by the count. -/
theorem first_one {c : UInt8} (lead : c.toNat < 0x80) {rest : Bytes}
    (enough : -1 ≤ toInt32 (rest.length + 1)) : first c rest = (c.toUInt16, rest) := by
  have lengths := (leads c).1 lead
  have alone : ¬ Continues c := by
    rw [Continues]
    omega
  have whole : (c &&& 0x7F).toUInt16 = c.toUInt16 := by
    apply UInt16.toNat_inj.mp
    rw [mask_toNat c 0x7F 7 rfl, UInt8.toNat_toUInt16]
    omega
  rw [first_lead alone (by omega), lengths, if_neg (by omega), whole]
  rfl

theorem first_two {c b : UInt8} (lead : 0xC0 ≤ c.toNat ∧ c.toNat < 0xE0) (more : Continues b)
    {rest : Bytes} (enough : 1 ≤ toInt32 ((b :: rest).length + 1)) :
    first c (b :: rest) = (extend (c &&& 0x1F).toUInt16 b, rest) := by
  have lengths := (leads c).2.1 lead.1 lead.2
  have starts : ¬ Continues c := by
    rw [Continues]
    omega
  have taken : continued 1 (c &&& 0x1F).toUInt16 (b :: rest) =
      (extend (c &&& 0x1F).toUInt16 b, rest) := continued_cons more 0 _ rest
  rw [first_lead starts (by omega), lengths, if_neg (by omega)]
  simp only [Int.toNat_one, taken]
  rfl

theorem first_three {c b d : UInt8} (lead : 0xE0 ≤ c.toNat ∧ c.toNat < 0xF0) (more : Continues b)
    (last : Continues d) {rest : Bytes} (enough : 2 ≤ toInt32 ((b :: d :: rest).length + 1)) :
    first c (b :: d :: rest) = (extend (extend (c &&& 0x0F).toUInt16 b) d, rest) := by
  have lengths := (leads c).2.2.1 lead.1 lead.2
  have starts : ¬ Continues c := by
    rw [Continues]
    omega
  have taken : continued 2 (c &&& 0x0F).toUInt16 (b :: d :: rest) =
      (extend (extend (c &&& 0x0F).toUInt16 b) d, rest) := by
    rw [continued_cons more, continued_cons last]
    rfl
  have count : Int.toNat 2 = 2 := rfl
  rw [first_lead starts (by omega), lengths, if_neg (by omega)]
  simp only [count, taken]
  rfl

theorem extend_two (c b : UInt8) :
    (extend (c &&& 0x1F).toUInt16 b).toNat = c.toNat % 32 * 64 + b.toNat % 64 := by
  have high : _ = c.toNat % 32 := mask_toNat c 0x1F 5 rfl
  rw [extend_toNat (by omega), high]

theorem extend_three (c b d : UInt8) :
    (extend (extend (c &&& 0x0F).toUInt16 b) d).toNat =
      c.toNat % 16 * 4096 + b.toNat % 64 * 64 + d.toNat % 64 := by
  have high : _ = c.toNat % 16 := mask_toNat c 0x0F 4 rfl
  have middle := extend_toNat (n := (c &&& 0x0F).toUInt16) (by omega) b
  rw [extend_toNat (by omega), middle, high]
  omega

/-- A sequence is decoded to its code, whether it is the code's own form or not. -/
theorem decoded_sequence {s after : Bytes} {n : UInt16} (sequence : Sequence s n after)
    (near : s.length < intLimit) : decoded s = n :: decoded after := by
  cases sequence with
  | @one c n rest lead code =>
    have remaining := toInt32_near near
    have same : c.toUInt16 = n := by
      apply UInt16.toNat_inj.mp
      rw [UInt8.toNat_toUInt16, code]
    rw [decoded_cons, first_one lead (by omega), same]
  | @two c b n rest lead more code =>
    have remaining := toInt32_near near
    have same : extend (c &&& 0x1F).toUInt16 b = n := by
      apply UInt16.toNat_inj.mp
      rw [extend_two, code]
    have enough : 1 ≤ toInt32 ((b :: after).length + 1) := by
      rw [remaining]
      omega
    rw [decoded_cons, first_two lead more enough, same]
  | @three c b d n rest lead more last code =>
    have remaining := toInt32_near near
    have same : extend (extend (c &&& 0x0F).toUInt16 b) d = n := by
      apply UInt16.toNat_inj.mp
      rw [extend_three, code]
    have enough : 2 ≤ toInt32 ((b :: d :: after).length + 1) := by
      rw [remaining, List.length_cons]
      omega
    rw [decoded_cons, first_three lead more last enough, same]

theorem decoded_encodeUtf8Char (c : UInt16) {t : Bytes}
    (near : (encodeUtf8Char c ++ t).length < intLimit) :
    decoded (encodeUtf8Char c ++ t) = clean c :: decoded t := by
  rw [encodeUtf8Char_eq] at near ⊢
  exact decoded_sequence (form_sequence (clean c) t) near

theorem decoded_encodeUtf8 (w : WString) {t : Bytes}
    (near : (encodeUtf8 w ++ t).length < intLimit) :
    decoded (encodeUtf8 w ++ t) = w.map clean ++ decoded t := by
  induction w with
  | nil => rfl
  | cons c w ih =>
    rw [encodeUtf8_cons, List.append_assoc] at near ⊢
    have shorter : (encodeUtf8 w ++ t).length < intLimit := by
      rw [List.length_append] at near
      omega
    rw [decoded_encodeUtf8Char c near, ih shorter]
    rfl

end Sequences

section Encoded

/-- In front of any bytes the decoder undoes the encoder, but for the characters that the
encoder has replaced. -/
theorem decode_encode_append (w : WString) (t : Bytes)
    (size : (encodeUtf8 w ++ t).length < intLimit) :
    ∃ r, decodeUtf8 t = some r ∧ decodeUtf8 (encodeUtf8 w ++ t) = some (w.map clean ++ r) := by
  have limit : (encodeUtf8 w ++ t).length < 2147483648 := size
  have shorter : t.length < 4294967296 := by
    rw [List.length_append] at limit
    omega
  refine ⟨decoded t, decodeUtf8_eq shorter, ?_⟩
  rw [decodeUtf8_eq (by omega), decoded_encodeUtf8 w size]

/-- The euro sign and a lone surrogate, before a stray byte. -/
theorem decode_encode_append_euro :
    ∃ r, decodeUtf8 [0x80] = some r ∧
      decodeUtf8 (encodeUtf8 [0x20AC, 0xD800] ++ [0x80]) = some ([0x20AC, 0xD800].map clean ++ r) :=
  decode_encode_append [0x20AC, 0xD800] [0x80] (by decide)

end Encoded

section Garbage

/-- Nothing, or a byte that no sequence before it takes in. -/
def Fresh (e : Bytes) : Prop := ∀ c ∈ e.head?, ¬ Continues c ∧ c.toNat < 0xFE

theorem fresh_encodeUtf8 (w : WString) : Fresh (encodeUtf8 w) := by
  cases w with
  | nil => simp [Fresh, encodeUtf8]
  | cons c w =>
    intro b hb
    rw [encodeUtf8_cons, encodeUtf8Char_eq] at hb
    have sequence := form_sequence (clean c) (encodeUtf8 w)
    generalize form (clean c).toNat ++ encodeUtf8 w = s at hb sequence
    cases sequence with
    | one lead code =>
      obtain rfl := Option.some_inj.mp hb
      rw [Continues]
      omega
    | two lead more code =>
      obtain rfl := Option.some_inj.mp hb
      rw [Continues]
      omega
    | three lead more last code =>
      obtain rfl := Option.some_inj.mp hb
      rw [Continues]
      omega

theorem continued_fresh {e : Bytes} (fresh : Fresh e) (count : Nat) (n : UInt16) (rest : Bytes) :
    ∃ after, (continued count n (rest ++ e)).2 = after ++ e ∧ after.length ≤ rest.length := by
  induction count generalizing n rest with
  | zero => exact ⟨rest, rfl, Nat.le_refl _⟩
  | succ count ih =>
    cases rest with
    | nil =>
      refine ⟨[], ?_, Nat.le_refl _⟩
      cases e with
      | nil => rfl
      | cons c e =>
        obtain ⟨starts, below⟩ := fresh c rfl
        have other : ¬ (c = 0xFF ∨ c = 0xFE) := by
          rw [never_iff]
          omega
        rw [List.nil_append, continued, if_neg other,
          if_neg (fun h => starts ((shiftRight_eq_two_iff c).mp h))]
    | cons c rest =>
      have longer : rest.length ≤ (c :: rest).length := Nat.le_succ _
      rw [List.cons_append, continued]
      split
      · exact ⟨rest, rfl, longer⟩
      · split
        · obtain ⟨after, left, shorter⟩ := ih (extend n c) rest
          exact ⟨after, left, Nat.le_trans shorter longer⟩
        · exact ⟨c :: rest, rfl, Nat.le_refl _⟩

theorem first_fresh {e : Bytes} (fresh : Fresh e) (c : UInt8) (rest : Bytes) :
    ∃ after, (first c (rest ++ e)).2 = after ++ e ∧ after.length ≤ rest.length := by
  simp only [first]
  split
  · exact ⟨rest, rfl, Nat.le_refl _⟩
  · split
    · exact ⟨rest, rfl, Nat.le_refl _⟩
    · exact continued_fresh fresh _ _ rest

/-- Whatever stands before it, what starts afresh is decoded as if it stood alone. -/
theorem decoded_fresh {e : Bytes} (fresh : Fresh e) (s : Bytes) :
    ∃ front, decoded (s ++ e) = front ++ decoded e := by
  induction hlen : s.length using Nat.strongRecOn generalizing s with
  | ind length ih =>
    cases s with
    | nil => exact ⟨[], rfl⟩
    | cons c rest =>
      obtain ⟨after, left, shorter⟩ := first_fresh fresh c rest
      have fewer : after.length < length := by
        rw [List.length_cons] at hlen
        omega
      obtain ⟨front, later⟩ := ih after.length fewer after rfl
      refine ⟨(first c (rest ++ e)).1 :: front, ?_⟩
      rw [List.cons_append, decoded_cons, left, later, List.cons_append]

theorem toInt32_far {m : Nat} (far : intLimit ≤ m + 1) (size : m + 1 < 4294967296) :
    toInt32 ((m : Int) + 1) = m + 1 - 4294967296 := by
  have h : 2147483648 ≤ m + 1 := far
  rw [toInt32]
  split <;> omega

/-- A continuation byte that starts a sequence is reported. -/
theorem first_continues {c : UInt8} (continues : Continues c) (rest : Bytes) :
    first c rest = (replacementChar, rest) := by
  rw [first, if_pos (Or.inr (Or.inr ((shiftRight_eq_two_iff c).mpr continues)))]

theorem sequenceLength_lower (c : UInt8) (lead : ¬ Continues c) (below : c.toNat < 0xFE) :
    (c.toNat < 0x80 ∧ (sequenceLength c).2 = -1) ∨
      (0x80 ≤ c.toNat ∧ 1 ≤ (sequenceLength c).2) := by
  obtain ⟨one, two, three, long⟩ := leads c
  rw [Continues] at lead
  by_cases ascii : c.toNat < 0x80
  · exact Or.inl ⟨ascii, by rw [one ascii]⟩
  · refine Or.inr ⟨by omega, ?_⟩
    by_cases h : c.toNat < 0xE0
    · have extra : (sequenceLength c).2 = 1 := congrArg Prod.snd (two (by omega) h)
      omega
    · by_cases h' : c.toNat < 0xF0
      · have extra : (sequenceLength c).2 = 2 := congrArg Prod.snd (three (by omega) h')
        omega
      · have more := long (by omega) below
        omega

/-- With 2³¹ bytes left or more the count of remaining bytes is negative, and every byte is
reported, except for the first one of the longest string. -/
theorem first_far {c : UInt8} {rest : Bytes} (far : intLimit ≤ rest.length + 1)
    (size : rest.length + 1 < 4294967296)
    (usual : 0x80 ≤ c.toNat ∨ rest.length + 1 < 4294967295) :
    first c rest = (replacementChar, rest) := by
  have remaining := toInt32_far far size
  by_cases continues : Continues c
  · exact first_continues continues rest
  · by_cases below : c.toNat < 0xFE
    · rw [first_lead continues below, if_pos]
      rw [remaining]
      rcases sequenceLength_lower c continues below with ⟨ascii, lower⟩ | ⟨ascii, lower⟩
      · omega
      · omega
    · have top : c = 0xFF ∨ c = 0xFE := (never_iff c).mpr (Nat.not_lt.mp below)
      rw [first, if_pos (top.elim Or.inl fun h => Or.inr (Or.inl h))]

theorem decoded_far_cons {c : UInt8} {rest : Bytes} (far : intLimit ≤ rest.length + 1)
    (size : rest.length + 1 < 4294967296)
    (usual : 0x80 ≤ c.toNat ∨ rest.length + 1 < 4294967295) :
    decoded (c :: rest) = replacementChar :: decoded rest := by
  rw [decoded_cons, first_far far size usual]

theorem decoded_continues {c : UInt8} (continues : Continues c) (rest : Bytes) :
    decoded (c :: rest) = replacementChar :: decoded rest := by
  rw [decoded_cons, first_continues continues]

/-- The bytes of a character that is far from the end are reported one by one. -/
theorem decoded_far {s after : Bytes} {n : UInt16} (sequence : Sequence s n after)
    (far : intLimit ≤ s.length) (size : s.length < 4294967296)
    (usual : 0x80 ≤ n.toNat ∨ s.length < 4294967295) :
    ∃ count, 1 ≤ count ∧ (0x80 ≤ n.toNat → 2 ≤ count) ∧
      decoded s = List.replicate count replacementChar ++ decoded after := by
  cases sequence with
  | one lead code =>
    refine ⟨1, Nat.le_refl 1, fun large => by omega, ?_⟩
    exact decoded_far_cons far size (usual.imp_left fun large => code ▸ large)
  | two lead more code =>
    refine ⟨2, by omega, fun _ => Nat.le_refl 2, ?_⟩
    rw [decoded_far_cons far size (Or.inl (by omega)), decoded_continues more]
    rfl
  | three lead more last code =>
    refine ⟨3, by omega, fun _ => by omega, ?_⟩
    rw [decoded_far_cons far size (Or.inl (by omega)), decoded_continues more,
      decoded_continues last]
    rfl

/-- A character from which 2³¹ bytes or more are left is one that is reported anyway. -/
def Near (w : WString) : Prop :=
  ∀ c v, c :: v <:+ w → intLimit ≤ (encodeUtf8 (c :: v)).length → clean c = replacementChar

theorem Near.tail {c : UInt16} {w : WString} (near : Near (c :: w)) : Near w :=
  fun c' v suffix => near c' v (suffix.trans (List.suffix_cons c w))

/-- What is far from the end gives replacement characters, and at least as many of them as
there were characters. -/
theorem decoded_near {w : WString} (near : Near w) (size : (encodeUtf8 w).length < 4294967296) :
    ∃ count, decoded (encodeUtf8 w) = List.replicate count replacementChar ++ w.map clean ∧
      (intLimit ≤ (encodeUtf8 w).length → 1 ≤ count) ∧
      ((encodeUtf8 w).length < intLimit → count = 0) := by
  induction w with
  | nil => exact ⟨0, decoded_nil, fun far => absurd far (by decide), fun _ => rfl⟩
  | cons c w ih =>
    have whole := encodeUtf8_length_cons c w
    obtain ⟨count, later, _, none⟩ := ih near.tail (by omega)
    by_cases far : intLimit ≤ (encodeUtf8 (c :: w)).length
    · have replaced := near c w (List.suffix_refl _) far
      have large : 0x80 ≤ (clean c).toNat := by
        rw [replaced]
        decide
      have sequence := form_sequence (clean c) (encodeUtf8 w)
      rw [← encodeUtf8Char_eq, ← encodeUtf8_cons] at sequence
      obtain ⟨more, _, two, reported⟩ := decoded_far sequence far size (Or.inl large)
      have many := two large
      refine ⟨more + count - 1, ?_, fun _ => by omega, fun short => absurd far (by omega)⟩
      have last : more + count = more + count - 1 + 1 := by omega
      rw [reported, later, List.map_cons, replaced, ← List.append_assoc,
        List.replicate_append_replicate, last, List.replicate_succ', List.append_assoc]
      rfl
    · have short : (encodeUtf8 (c :: w)).length < intLimit := by omega
      rw [encodeUtf8_cons] at short
      have rest : (encodeUtf8 w).length < intLimit := by omega
      refine ⟨0, ?_, fun h => absurd h far, fun _ => rfl⟩
      rw [encodeUtf8_cons, decoded_encodeUtf8Char c short, later, none rest]
      rfl

/-- In the place of a character that is far from the end there is a replacement character. -/
theorem decoded_far_near {c : UInt16} {w : WString} (near : Near w)
    (far : intLimit ≤ (encodeUtf8 (c :: w)).length)
    (size : (encodeUtf8 (c :: w)).length < 4294967296) :
    ∃ front, decoded (encodeUtf8 (c :: w)) = front ++ replacementChar :: w.map clean := by
  have whole := encodeUtf8_length_cons c w
  have sequence := form_sequence (clean c) (encodeUtf8 w)
  rw [← encodeUtf8Char_eq, ← encodeUtf8_cons] at sequence
  obtain ⟨count, later, some, _⟩ := decoded_near near (by omega)
  by_cases usual : 0x80 ≤ (clean c).toNat ∨ (encodeUtf8 (c :: w)).length < 4294967295
  · obtain ⟨more, one, _, reported⟩ := decoded_far sequence far size usual
    have last : more + count = more + count - 1 + 1 := by omega
    refine ⟨List.replicate (more + count - 1) replacementChar, ?_⟩
    rw [reported, later, ← List.append_assoc, List.replicate_append_replicate, last,
      List.replicate_succ', List.append_assoc]
    rfl
  · -- The count is -1 for the first byte of the longest string, which is decoded after all.
    obtain ⟨ascii, longest⟩ := not_or.mp usual
    have single : encodeUtf8 (c :: w) = UInt8.ofNat (clean c).toNat :: encodeUtf8 w := by
      rw [encodeUtf8_cons, encodeUtf8Char_eq, form, if_pos (by omega)]
      rfl
    have byte : (UInt8.ofNat (clean c).toNat).toNat = (clean c).toNat := by
      rw [UInt8.toNat_ofNat']
      omega
    rw [single, List.length_cons] at far size longest
    have remaining := toInt32_far far size
    have many : 1 ≤ count := some (show 2147483648 ≤ (encodeUtf8 w).length by omega)
    have back : count = count - 1 + 1 := by omega
    refine ⟨(UInt8.ofNat (clean c).toNat).toUInt16 :: List.replicate (count - 1) replacementChar,
      ?_⟩
    rw [single, decoded_cons, first_one (by omega) (by omega), later, back,
      List.replicate_succ', List.append_assoc]
    rfl

/-- Such a character is lost, unless it is one that is replaced anyway. -/
theorem near_of_suffix {w : WString} (size : (encodeUtf8 w).length < 4294967296)
    (front : WString) (ends : w.map clean <:+ front ++ decoded (encodeUtf8 w)) : Near w := by
  induction w generalizing front with
  | nil =>
    intro c v suffix
    exact absurd (List.suffix_nil.mp suffix) (List.cons_ne_nil c v)
  | cons c w ih =>
    have whole := encodeUtf8_length_cons c w
    obtain ⟨front', later⟩ := decoded_fresh (fresh_encodeUtf8 w) (encodeUtf8Char c)
    rw [← encodeUtf8_cons] at later
    have near : Near w := by
      apply ih (by omega) (front ++ front')
      rw [List.append_assoc, ← later]
      exact (List.suffix_cons (clean c) (w.map clean)).trans ends
    intro c' v suffix far
    rcases List.suffix_cons_iff.mp suffix with same | inside
    · obtain ⟨rfl, rfl⟩ := List.cons_eq_cons.mp same
      obtain ⟨front', last⟩ := decoded_far_near near far size
      rw [last, ← List.append_assoc] at ends
      have long : replacementChar :: v.map clean <:+
          (front ++ front') ++ replacementChar :: v.map clean := List.suffix_append _ _
      have equal := (List.suffix_of_suffix_length_le ends long (by simp)).eq_of_length (by simp)
      exact (List.cons_eq_cons.mp equal).1
    · exact near c' v inside far

theorem near_of_resynchronises {s : Bytes} {w : WString}
    (ends : ∃ r, decodeUtf8 (s ++ encodeUtf8 w) = some r ∧ w.map clean <:+ r) :
    (s ++ encodeUtf8 w).length < 4294967296 ∧ Near w := by
  obtain ⟨r, decodes, ends⟩ := ends
  have size : (s ++ encodeUtf8 w).length < 4294967296 := by
    apply Nat.lt_of_not_le
    intro long
    rw [decodeUtf8_long long] at decodes
    cases decodes
  have shorter : (encodeUtf8 w).length < 4294967296 := by
    rw [List.length_append] at size
    omega
  obtain ⟨front, later⟩ := decoded_fresh (fresh_encodeUtf8 w) s
  rw [decodeUtf8_eq size, later] at decodes
  obtain rfl := Option.some_inj.mp decodes
  exact ⟨size, near_of_suffix shorter front ends⟩

/-- Behind any bytes the decoder finds the characters again, exactly when its index can hold
the length and no character that is not replaced anyway begins 2³¹ bytes or more before the
end. -/
theorem resynchronises_iff (s : Bytes) (w : WString) :
    (∃ r, decodeUtf8 (s ++ encodeUtf8 w) = some r ∧ w.map clean <:+ r) ↔
      (s ++ encodeUtf8 w).length < 4294967296 ∧
        ∀ c v, c :: v <:+ w → intLimit ≤ (encodeUtf8 (c :: v)).length →
          clean c = replacementChar := by
  constructor
  · intro ends
    exact near_of_resynchronises ends
  · rintro ⟨size, near⟩
    have shorter : (encodeUtf8 w).length < 4294967296 := by
      rw [List.length_append] at size
      omega
    obtain ⟨front, later⟩ := decoded_fresh (fresh_encodeUtf8 w) s
    obtain ⟨count, last, _⟩ := decoded_near near shorter
    refine ⟨_, decodeUtf8_eq size, ?_⟩
    rw [later, last, ← List.append_assoc]
    exact List.suffix_append _ _

theorem encodeUtf8_replicate_length (n : Nat) :
    (encodeUtf8 (List.replicate n 0x41)).length = n := by
  have single : (encodeUtf8Char 0x41).length = 1 := by decide
  induction n with
  | zero => rfl
  | succ n ih =>
    rw [List.replicate_succ, encodeUtf8_cons, List.length_append, single, ih]
    omega

theorem not_near_replicate {n : Nat} (far : intLimit ≤ n + 1) :
    ¬ Near (List.replicate (n + 1) 0x41) := by
  intro near
  have first := near 0x41 (List.replicate n 0x41) (List.suffix_refl _)
    (by rw [← List.replicate_succ, encodeUtf8_replicate_length]; exact far)
  exact absurd first (by decide)

/-- A text of 2³¹ letters, with nothing before it, does not come back. -/
theorem long_text_altered :
    ¬ ∃ r, decodeUtf8 ([] ++ encodeUtf8 (List.replicate (2147483647 + 1) 0x41)) = some r ∧
      (List.replicate (2147483647 + 1) 0x41).map clean <:+ r := by
  intro ends
  exact not_near_replicate (by decide) (near_of_resynchronises ends).2

end Garbage

section Bounds

theorem at_index {s : Bytes} {i : UInt32} (inside : i.toNat ≤ s.length) :
    At s i (s.drop i.toNat) := by
  refine ⟨rfl, ?_⟩
  rw [List.length_drop]
  omega

/-- Every round of the outer loop reads bytes of the string, and ends on one of them. -/
theorem decodeChar_bounds {s : Bytes} (size : s.length < 4294967296) {i : UInt32}
    (inside : i.toNat < s.length) :
    ∃ n i', decodeChar s i = some (n, i') ∧ i.toNat ≤ i'.toNat ∧ i'.toNat < s.length := by
  have here := at_index (Nat.le_of_lt inside)
  cases left : s.drop i.toNat with
  | nil =>
    have position := here.position
    rw [left, List.length_nil] at position
    omega
  | cons c rest =>
    rw [left] at here
    obtain ⟨i', taken, behind⟩ := decodeChar_eq size here
    have shorter := first_length c rest
    have before := here.position
    have after := behind.position
    rw [List.length_cons] at before
    exact ⟨_, i', taken, by omega, by omega⟩

/-- The terminator ends a sequence as a wrong byte does, and is not taken. -/
theorem decodeSequence_terminator {s : Bytes} (size : s.length < 4294967296) {i : UInt32}
    (last : i.toNat + 1 = s.length) (count : Nat) (n : UInt16) :
    decodeSequence s (count + 1) i n = some (replacementChar, i) := by
  have next : (i + 1).toNat = s.length := by
    rw [UInt32.toNat_add]
    show (i.toNat + 1) % 4294967296 = s.length
    omega
  have read : charAt s (i + 1) = some 0 := by
    rw [charAt, if_neg (by omega), if_pos next]
  rw [decodeSequence, read, UInt32.add_sub_cancel]
  rfl

/-- The decoder comes to an end on every string below 2³¹ bytes, with at most one unit for a
byte and at least one if there is a byte. It reads no further than the terminator, each
sequence ends on a byte of the string, and the terminator belongs to none. -/
theorem decode_terminates (s : Bytes) (size : s.length < intLimit) :
    (∃ r, decodeUtf8 s = some r ∧ r.length ≤ s.length ∧ (s ≠ [] → 1 ≤ r.length) ∧
        (s = [] → r = [])) ∧
      (∀ i : UInt32, i.toNat < s.length → ∃ n i', decodeChar s i = some (n, i') ∧
        i.toNat ≤ i'.toNat ∧ i'.toNat < s.length) ∧
      ∀ (i : UInt32) (count : Nat) (n : UInt16), i.toNat + 1 = s.length →
        decodeSequence s (count + 1) i n = some (replacementChar, i) := by
  have limit : s.length < 2147483648 := size
  have short : s.length < 4294967296 := by omega
  refine ⟨⟨decoded s, decodeUtf8_eq short, decoded_length s, ?_, ?_⟩, ?_, ?_⟩
  · intro nonempty
    obtain ⟨c, rest, rfl⟩ := List.exists_cons_of_ne_nil nonempty
    rw [decoded_cons, List.length_cons]
    omega
  · rintro rfl
    exact decoded_nil
  · intro i inside
    exact decodeChar_bounds short inside
  · intro i count n last
    exact decodeSequence_terminator short last count n

/-- A truncated euro sign. -/
theorem decode_terminates_truncated :
    (∃ r, decodeUtf8 [0xE2, 0x82] = some r ∧ r.length ≤ [0xE2, 0x82].length ∧
        ([0xE2, 0x82] ≠ ([] : Bytes) → 1 ≤ r.length) ∧ ([0xE2, 0x82] = ([] : Bytes) → r = [])) ∧
      (∀ i : UInt32, i.toNat < [0xE2, 0x82].length → ∃ n i',
        decodeChar [0xE2, 0x82] i = some (n, i') ∧ i.toNat ≤ i'.toNat ∧
          i'.toNat < [0xE2, 0x82].length) ∧
      ∀ (i : UInt32) (count : Nat) (n : UInt16), i.toNat + 1 = [0xE2, 0x82].length →
        decodeSequence [0xE2, 0x82] (count + 1) i n = some (replacementChar, i) :=
  decode_terminates [0xE2, 0x82] (by decide)

end Bounds

section Canonical

/-- The stream starts with a sequence that is longer than its code needs, or with the form of
a surrogate, of U+FFFE or of U+FFFF. -/
def Noncanonical (s : Bytes) : Prop :=
  (byteAt s 0).toNat = 0xC0 ∨ (byteAt s 0).toNat = 0xC1 ∨
    ((byteAt s 0).toNat = 0xE0 ∧ (byteAt s 1).toNat < 0xA0) ∨
    ((byteAt s 0).toNat = 0xED ∧ 0xA0 ≤ (byteAt s 1).toNat) ∨
    ((byteAt s 0).toNat = 0xEF ∧ (byteAt s 1).toNat = 0xBF ∧ 0xBE ≤ (byteAt s 2).toNat)

instance (s : Bytes) : Decidable (Noncanonical s) := inferInstanceAs (Decidable (_ ∨ _))

theorem continued_valid {count : Nat} {n : UInt16} {rest : Bytes}
    (valid : (continued (count + 1) n rest).1 ≠ replacementChar) :
    ∃ b after, rest = b :: after ∧ Continues b ∧
      continued (count + 1) n rest = continued count (extend n b) after := by
  cases rest with
  | nil => exact absurd rfl valid
  | cons b after =>
    by_cases more : b >>> 6 = 2
    · have continues := (shiftRight_eq_two_iff b).mp more
      exact ⟨b, after, rfl, continues, continued_cons continues count n after⟩
    · rw [continued, if_neg more] at valid
      split at valid
      · exact absurd rfl valid
      · exact absurd rfl valid

/-- A unit that is not a replacement character comes from a sequence of one to three bytes. -/
theorem sequence_of_first {c : UInt8} {rest : Bytes}
    (valid : (first c rest).1 ≠ replacementChar) :
    Sequence (c :: rest) (first c rest).1 (first c rest).2 := by
  have starts : ¬ Continues c := by
    intro continues
    rw [first_continues continues] at valid
    exact valid rfl
  have below : c.toNat < 0xFE := by
    apply Nat.lt_of_not_le
    intro top
    have never : c = 0xFF ∨ c = 0xFE := (never_iff c).mpr top
    rw [first, if_pos (never.elim Or.inl fun h => Or.inr (Or.inl h))] at valid
    exact valid rfl
  have lead := first_lead starts below rest
  by_cases few : (sequenceLength c).2 > toInt32 (rest.length + 1)
  · rw [lead, if_pos few] at valid
    exact absurd rfl valid
  · rw [if_neg few] at lead
    obtain ⟨one, two, three, long⟩ := leads c
    rw [Continues] at starts
    by_cases isOne : c.toNat < 0x80
    · rw [one isOne] at few
      rw [first_one isOne (by omega)]
      exact .one isOne (UInt8.toNat_toUInt16 c)
    · by_cases isTwo : c.toNat < 0xE0
      · have range : 0xC0 ≤ c.toNat ∧ c.toNat < 0xE0 := by omega
        rw [two range.1 range.2] at lead few
        have taken : first c rest = continued 1 (c &&& 0x1F).toUInt16 rest := lead
        rw [taken] at valid
        obtain ⟨b, after, rfl, more, _⟩ := continued_valid valid
        rw [first_two range more (by omega)]
        exact .two range more (extend_two c b)
      · by_cases isThree : c.toNat < 0xF0
        · have range : 0xE0 ≤ c.toNat ∧ c.toNat < 0xF0 := by omega
          rw [three range.1 range.2] at lead few
          have taken : first c rest = continued 2 (c &&& 0x0F).toUInt16 rest := lead
          rw [taken] at valid
          obtain ⟨b, rest, rfl, more, next⟩ := continued_valid valid
          rw [next] at valid
          obtain ⟨d, after, rfl, last, _⟩ := continued_valid valid
          rw [first_three range more last (by omega)]
          exact .three range more last (extend_three c b d)
        · have excess := long (by omega) below
          rw [lead] at valid
          exact absurd (if_pos excess) valid

theorem clean_eq_iff (n : UInt16) :
    clean n = n ↔
      ¬ ((0xD800 ≤ n.toNat ∧ n.toNat ≤ 0xDFFF) ∨ n.toNat = 0xFFFE ∨ n.toNat = 0xFFFF) := by
  have bad : ((0xD800 ≤ n ∧ n ≤ 0xDFFF) ∨ n = 0xFFFE ∨ n = 0xFFFF) ↔
      ((0xD800 ≤ n.toNat ∧ n.toNat ≤ 0xDFFF) ∨ n.toNat = 0xFFFE ∨ n.toNat = 0xFFFF) := by
    simp only [UInt16.le_iff_toNat_le, ← UInt16.toNat_inj]
    rfl
  rw [← bad, clean]
  constructor
  · intro same replaced
    rw [if_pos replaced] at same
    rw [← same] at replaced
    exact absurd replaced (by decide)
  · intro valid
    rw [if_neg valid]

theorem clean_clean (n : UInt16) : clean (clean n) = clean n := by
  by_cases replaced : (0xD800 ≤ n ∧ n ≤ 0xDFFF) ∨ n = 0xFFFE ∨ n = 0xFFFF
  · have same : clean n = replacementChar := if_pos replaced
    rw [same]
    rfl
  · have same : clean n = n := if_neg replaced
    rw [same, same]

theorem form_lead {n : Nat} (small : n < 65536) (after : Bytes) :
    (byteAt (form n ++ after) 0).toNat =
      if n < 0x80 then n else if n < 0x800 then 0xC0 + n / 64 else 0xE0 + n / 4096 := by
  rw [form]
  split
  · show (UInt8.ofNat n).toNat = n
    rw [UInt8.toNat_ofNat']
    omega
  · split
    · show (UInt8.ofNat (0xC0 + n / 64)).toNat = 0xC0 + n / 64
      rw [UInt8.toNat_ofNat']
      omega
    · show (UInt8.ofNat (0xE0 + n / 4096)).toNat = 0xE0 + n / 4096
      rw [UInt8.toNat_ofNat']
      omega

/-- A sequence is the form of its code, and its code is one that the encoder keeps, exactly
when it is canonical. -/
theorem canonical_iff {s after : Bytes} {n : UInt16} (sequence : Sequence s n after) :
    ¬ Noncanonical s ↔ clean n = n ∧ form n.toNat ++ after = s := by
  have small : n.toNat < 65536 := n.toNat_lt
  have lead := form_lead small after
  have byte : ∀ (c : UInt8) (m : Nat), c.toNat = m → UInt8.ofNat m = c := by
    rintro c m rfl
    exact UInt8.ofNat_toNat
  rw [clean_eq_iff]
  cases sequence with
  | @one c n rest starts code =>
    have same : form n.toNat ++ after = c :: after := by
      rw [form, if_pos (by omega), byte c _ code.symm]
      rfl
    refine iff_of_true ?_ ⟨by omega, same⟩
    simp only [Noncanonical, byteAt, List.getD_cons_zero]
    omega
  | @two c b n rest starts more code =>
    obtain ⟨lower, upper⟩ := more
    by_cases short : n.toNat < 0x80
    · refine iff_of_false ?_ ?_
      · simp only [Noncanonical, byteAt, List.getD_cons_zero]
        omega
      · rintro ⟨_, same⟩
        rw [same, if_pos short] at lead
        have head : c.toNat = n.toNat := lead
        omega
    · have same : form n.toNat ++ after = c :: b :: after := by
        rw [form, if_neg short, if_pos (by omega), byte c _ (by omega), byte b _ (by omega)]
        rfl
      refine iff_of_true ?_ ⟨by omega, same⟩
      simp only [Noncanonical, byteAt, List.getD_cons_zero]
      omega
  | @three c b d n rest starts more last code =>
    obtain ⟨lower, upper⟩ := more
    obtain ⟨lower', upper'⟩ := last
    by_cases short : n.toNat < 0x800
    · refine iff_of_false ?_ ?_
      · simp only [Noncanonical, byteAt, List.getD_cons_zero, List.getD_cons_succ]
        omega
      · rintro ⟨_, same⟩
        rw [same] at lead
        have head : (byteAt (c :: b :: d :: after) 0).toNat = c.toNat := rfl
        rw [head] at lead
        split at lead
        · omega
        · omega
    · have same : form n.toNat ++ after = c :: b :: d :: after := by
        rw [form, if_neg (by omega), if_neg short, byte c _ (by omega), byte b _ (by omega),
          byte d _ (by omega)]
        rfl
      simp only [Noncanonical, byteAt, List.getD_cons_zero, List.getD_cons_succ, same, and_true]
      omega

/-- A suffix of a sequence with what follows it -/
theorem suffix_of_sequence {s after t : Bytes} {n : UInt16} (sequence : Sequence s n after)
    (suffix : t <:+ s) : t = s ∨ t <:+ after ∨ ∃ c rest, t = c :: rest ∧ Continues c := by
  cases sequence with
  | one starts code =>
    rcases List.suffix_cons_iff.mp suffix with same | inside
    · exact Or.inl same
    · exact Or.inr (Or.inl inside)
  | two starts more code =>
    rcases List.suffix_cons_iff.mp suffix with same | inside
    · exact Or.inl same
    · rcases List.suffix_cons_iff.mp inside with same | inside
      · exact Or.inr (Or.inr ⟨_, _, same, more⟩)
      · exact Or.inr (Or.inl inside)
  | three starts more last code =>
    rcases List.suffix_cons_iff.mp suffix with same | inside
    · exact Or.inl same
    · rcases List.suffix_cons_iff.mp inside with same | inside
      · exact Or.inr (Or.inr ⟨_, _, same, more⟩)
      · rcases List.suffix_cons_iff.mp inside with same | inside
        · exact Or.inr (Or.inr ⟨_, _, same, last⟩)
        · exact Or.inr (Or.inl inside)

/-- The encoder writes canonical sequences only. -/
theorem encodeUtf8_canonical (w : WString) : ∀ t, t <:+ encodeUtf8 w → ¬ Noncanonical t := by
  induction w with
  | nil =>
    intro t suffix
    rw [List.suffix_nil.mp suffix]
    decide
  | cons c w ih =>
    intro t suffix
    have sequence := form_sequence (clean c) (encodeUtf8 w)
    rw [encodeUtf8_cons, encodeUtf8Char_eq] at suffix
    rcases suffix_of_sequence sequence suffix with rfl | inside | ⟨b, rest, rfl, continues⟩
    · exact (canonical_iff sequence).mpr ⟨clean_clean c, rfl⟩
    · exact ih t inside
    · obtain ⟨lower, upper⟩ := continues
      simp only [Noncanonical, byteAt, List.getD_cons_zero]
      omega

theorem encodeUtf8_decoded {s : Bytes} (valid : replacementChar ∉ decoded s)
    (canonical : ∀ t, t <:+ s → ¬ Noncanonical t) : encodeUtf8 (decoded s) = s := by
  induction s using decoded.induct with
  | case1 =>
    rw [decoded_nil]
    rfl
  | case2 c rest ih =>
    rw [decoded_cons, List.mem_cons, not_or] at valid
    obtain ⟨here, later⟩ := valid
    have sequence := sequence_of_first (Ne.symm here)
    obtain ⟨kept, same⟩ := (canonical_iff sequence).mp (canonical _ (List.suffix_refl _))
    have inside : (first c rest).2 <:+ c :: rest :=
      (first_suffix c rest).trans (List.suffix_cons c rest)
    have back := ih later fun t suffix => canonical t (suffix.trans inside)
    rw [decoded_cons, encodeUtf8_cons, encodeUtf8Char_eq, kept, back, same]

/-- A string that is decoded without replacement characters is what the encoder makes of the
result, exactly when no sequence of it is longer than its code needs, or stands for a code
that the encoder replaces. -/
theorem accepts_canonical_iff {s : Bytes} {r : WString} (decodes : decodeUtf8 s = some r)
    (valid : replacementChar ∉ r) :
    encodeUtf8 r = s ↔ ∀ t, t <:+ s → ¬ Noncanonical t := by
  have size : s.length < 4294967296 := by
    apply Nat.lt_of_not_le
    intro long
    rw [decodeUtf8_long long] at decodes
    cases decodes
  rw [decodeUtf8_eq size] at decodes
  obtain rfl := Option.some_inj.mp decodes
  constructor
  · intro same
    rw [← same]
    exact encodeUtf8_canonical _
  · intro canonical
    exact encodeUtf8_decoded valid canonical

/-- The euro sign. -/
theorem accepts_canonical_euro :
    encodeUtf8 [0x20AC] = [0xE2, 0x82, 0xAC] ↔
      ∀ t, t <:+ [0xE2, 0x82, 0xAC] → ¬ Noncanonical t :=
  accepts_canonical_iff (by decide) (by decide)

/-- C0 80 is decoded to U+0000 without a replacement character. -/
theorem overlong_accepted :
    ¬ ∀ s r, decodeUtf8 s = some r → replacementChar ∉ r → encodeUtf8 r = s := by
  intro all
  have back := all [0xC0, 0x80] [0] (by decide) (by decide)
  exact absurd back (by decide)

end Canonical

end Utf8
