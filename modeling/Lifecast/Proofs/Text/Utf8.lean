/-
Text survives being written and read.

`decode` is made for bytes that may be anything.  On bytes that are the encoding of a text
it gives that text back (`decode_encode`), so bytes that are well formed come out of a
reading and a writing as they went in (`encode_decode`).

A character takes one to four bytes, and the proof goes by their number, `decodeChar_one` to
`decodeChar_four`.  What the lead byte allows of the byte behind it is where each of them
needs its bounds: no shorter form would do, no surrogate, and no number past the last code
point.
-/
import Lifecast.Text.Utf8

namespace Lifecast.Text

/-! ### Bytes of one character -/

theorem toNat_ofNat_byte {n : Nat} (h : n < 256) : (UInt8.ofNat n).toNat = n :=
  UInt8.toNat_ofNat_of_lt' h

/-- A byte that fits is taken in with its lower six bits. -/
theorem continuation_cons {bits more k : Nat} {low high : UInt8} {rest : Bytes} (hk : k < 64)
    (hlow : low.toNat ≤ k + 128) (hhigh : k + 128 ≤ high.toNat) :
    continuation bits low high (more + 1) (UInt8.ofNat (k + 128) :: rest)
      = continuation (bits * 64 + k) 0x80 0xBF more rest := by
  have hn : (UInt8.ofNat (k + 128)).toNat = k + 128 := toNat_ofNat_byte (by omega)
  have hfits : low ≤ UInt8.ofNat (k + 128) ∧ UInt8.ofNat (k + 128) ≤ high := by
    rw [UInt8.le_iff_toNat_le, UInt8.le_iff_toNat_le, hn]
    exact ⟨hlow, hhigh⟩
  have hbits : (k + 128) % 64 = k := by omega
  rw [continuation, if_pos hfits, hn, hbits]

/-- Behind the second byte everything fits. -/
theorem continuation_more {bits more k : Nat} {rest : Bytes} (hk : k < 64) :
    continuation bits 0x80 0xBF (more + 1) (UInt8.ofNat (k + 128) :: rest)
      = continuation (bits * 64 + k) 0x80 0xBF more rest := by
  have hlow : (0x80 : UInt8).toNat ≤ k + 128 := Nat.le_add_left _ _
  have hhigh : k + 128 ≤ (0xBF : UInt8).toNat := by
    show k + 128 ≤ 191
    omega
  exact continuation_cons hk hlow hhigh

theorem decodeChar_one {v : Nat} (h : v ≤ 0x7F) (tail : Bytes) :
    decodeChar (UInt8.ofNat v) tail = (Char.ofNat v, tail) := by
  have hn : (UInt8.ofNat v).toNat = v := toNat_ofNat_byte (by omega)
  have hlead : lead? (UInt8.ofNat v) = some { bits := v, more := 0 } := by
    simp only [lead?, hn]
    exact if_pos (by omega)
  rw [decodeChar, hlead]
  rfl

theorem decodeChar_two {v : Nat} (hlow : 0x7F < v) (hhigh : v ≤ 0x7FF) (tail : Bytes) :
    decodeChar (UInt8.ofNat (v / 64 % 32 + 192)) (UInt8.ofNat (v % 64 + 128) :: tail)
      = (Char.ofNat v, tail) := by
  have hlead : lead? (UInt8.ofNat (v / 64 % 32 + 192)) = some { bits := v / 64, more := 1 } := by
    have hbits : v / 64 % 32 + 192 - 0xC0 = v / 64 := by omega
    simp only [lead?, toNat_ofNat_byte (show v / 64 % 32 + 192 < 256 by omega), hbits]
    rw [if_neg (by omega), if_neg (by omega), if_pos (by omega)]
  have hv : v / 64 * 64 + v % 64 = v := by omega
  rw [decodeChar, hlead]
  show continuation (v / 64) 0x80 0xBF 1 _ = _
  rw [continuation_more (by omega), hv]
  rfl

/-- Three bytes are a character unless it is a surrogate. -/
theorem decodeChar_three {v : Nat} (hlow : 0x7FF < v) (hhigh : v ≤ 0xFFFF)
    (hvalid : v < 0xD800 ∨ 0xDFFF < v) (tail : Bytes) :
    decodeChar (UInt8.ofNat (v / 4096 % 16 + 224))
        (UInt8.ofNat (v / 64 % 64 + 128) :: UInt8.ofNat (v % 64 + 128) :: tail)
      = (Char.ofNat v, tail) := by
  have hbits : v / 4096 % 16 = v / 4096 := by omega
  have hn : (UInt8.ofNat (v / 4096 + 224)).toNat = v / 4096 + 224 := toNat_ofNat_byte (by omega)
  have hv : (v / 4096 * 64 + v / 64 % 64) * 64 + v % 64 = v := by omega
  -- What the lead byte allows of the second is what the bounds say of it.
  obtain ⟨low, high, hlead, hsecond⟩ : ∃ low high : UInt8,
      lead? (UInt8.ofNat (v / 4096 + 224)) = some { bits := v / 4096, more := 2, low, high } ∧
        low.toNat ≤ v / 64 % 64 + 128 ∧ v / 64 % 64 + 128 ≤ high.toNat := by
    simp only [lead?, hn]
    rw [if_neg (by omega), if_neg (by omega), if_neg (by omega)]
    by_cases hfirst : v / 4096 = 0
    · refine ⟨0xA0, 0xBF, ?_, ?_, ?_⟩
      · rw [if_pos (by omega), hfirst]
      · show 160 ≤ _
        omega
      · show _ ≤ 191
        omega
    · by_cases hsurrogates : v / 4096 = 13
      · refine ⟨0x80, 0x9F, ?_, ?_, ?_⟩
        · rw [if_neg (by omega), if_pos (by omega), hsurrogates]
        · show 128 ≤ _
          omega
        · show _ ≤ 159
          omega
      · refine ⟨0x80, 0xBF, ?_, ?_, ?_⟩
        · rw [if_neg (by omega), if_neg (by omega), if_pos (by omega), Nat.add_sub_cancel]
        · show 128 ≤ _
          omega
        · show _ ≤ 191
          omega
  rw [hbits, decodeChar, hlead]
  show continuation (v / 4096) low high 2 _ = _
  rw [continuation_cons (by omega) hsecond.1 hsecond.2, continuation_more (by omega), hv]
  rfl

/-- Four bytes are a character up to the last code point. -/
theorem decodeChar_four {v : Nat} (hlow : 0xFFFF < v) (hhigh : v < 0x110000) (tail : Bytes) :
    decodeChar (UInt8.ofNat (v / 262144 % 8 + 240))
        (UInt8.ofNat (v / 4096 % 64 + 128) :: UInt8.ofNat (v / 64 % 64 + 128)
          :: UInt8.ofNat (v % 64 + 128) :: tail)
      = (Char.ofNat v, tail) := by
  have hbits : v / 262144 % 8 = v / 262144 := by omega
  have hn : (UInt8.ofNat (v / 262144 + 240)).toNat = v / 262144 + 240 :=
    toNat_ofNat_byte (by omega)
  have hv : ((v / 262144 * 64 + v / 4096 % 64) * 64 + v / 64 % 64) * 64 + v % 64 = v := by omega
  obtain ⟨low, high, hlead, hsecond⟩ : ∃ low high : UInt8,
      lead? (UInt8.ofNat (v / 262144 + 240)) = some { bits := v / 262144, more := 3, low, high } ∧
        low.toNat ≤ v / 4096 % 64 + 128 ∧ v / 4096 % 64 + 128 ≤ high.toNat := by
    simp only [lead?, hn]
    rw [if_neg (by omega), if_neg (by omega), if_neg (by omega), if_neg (by omega),
      if_neg (by omega), if_neg (by omega)]
    by_cases hfirst : v / 262144 = 0
    · refine ⟨0x90, 0xBF, ?_, ?_, ?_⟩
      · rw [if_pos (by omega), hfirst]
      · show 144 ≤ _
        omega
      · show _ ≤ 191
        omega
    · by_cases hlast : v / 262144 = 4
      · refine ⟨0x80, 0x8F, ?_, ?_, ?_⟩
        · rw [if_neg (by omega), if_neg (by omega), if_pos (by omega), hlast]
        · show 128 ≤ _
          omega
        · show _ ≤ 143
          omega
      · refine ⟨0x80, 0xBF, ?_, ?_, ?_⟩
        · rw [if_neg (by omega), if_pos (by omega), Nat.add_sub_cancel]
        · show 128 ≤ _
          omega
        · show _ ≤ 191
          omega
  rw [hbits, decodeChar, hlead]
  show continuation (v / 262144) low high 3 _ = _
  rw [continuation_cons (by omega) hsecond.1 hsecond.2, continuation_more (by omega),
    continuation_more (by omega), hv]
  rfl

/-! ### Whole texts -/

/-- A character is read off its bytes, whatever follows. -/
theorem decodeOnto_encodeChar (done : List Char) (c : Char) (tail : Bytes) :
    decodeOnto done (String.utf8EncodeChar c ++ tail) = decodeOnto (c :: done) tail := by
  have hread : ∀ b rest, decodeChar b rest = (Char.ofNat c.val.toNat, tail) →
      decodeOnto done (b :: rest) = decodeOnto (c :: done) tail := by
    intro b rest hchar
    have hc : Char.ofNat c.val.toNat = c := Char.ofNat_toNat c
    rw [decodeOnto, hchar, hc]
  have hvalid : c.val.toNat < 0xD800 ∨ 0xDFFF < c.val.toNat ∧ c.val.toNat < 0x110000 := c.valid
  simp only [String.utf8EncodeChar]
  split
  · next h => exact hread _ _ (decodeChar_one h tail)
  · split
    · next h => exact hread _ _ (decodeChar_two (by omega) h tail)
    · split
      · next h => exact hread _ _ (decodeChar_three (by omega) h (by omega) tail)
      · exact hread _ _ (decodeChar_four (by omega) (by omega) tail)

theorem decodeOnto_encode (done chars : List Char) :
    decodeOnto done (chars.flatMap String.utf8EncodeChar) = done.reverse ++ chars := by
  induction chars generalizing done with
  | nil => rw [List.flatMap_nil, decodeOnto, List.append_nil]
  | cons c rest ih =>
      rw [List.flatMap_cons, decodeOnto_encodeChar, ih, List.reverse_cons, List.append_assoc]
      rfl

theorem encode_ofList (chars : List Char) :
    encode (String.ofList chars) = chars.flatMap String.utf8EncodeChar := by
  rw [encode, String.toUTF8, String.toByteArray_ofList, List.utf8Encode]
  exact List.toList_data_toByteArray

/-- A text that is written is read. -/
theorem decode_encode (s : String) : decode (encode s) = s := by
  rw [← String.ofList_toList (s := s), encode_ofList, decode, decodeOnto_encode]
  rfl

theorem encode_append (s t : String) : encode (s ++ t) = encode s ++ encode t := by
  rw [← String.ofList_toList (s := s), ← String.ofList_toList (s := t), ← String.ofList_append,
    encode_ofList, encode_ofList, encode_ofList, List.flatMap_append]

theorem encode_injective {s t : String} (h : encode s = encode t) : s = t := by
  rw [← decode_encode s, h, decode_encode]

/-- **Bytes that are well formed are unharmed by a reading and a writing.** -/
theorem encode_decode {bs : Bytes} (h : bs.toByteArray.IsValidUTF8) : encode (decode bs) = bs := by
  obtain ⟨chars, hchars⟩ := h
  have hbs : bs = chars.flatMap String.utf8EncodeChar := List.toByteArray_inj.mp hchars
  rw [hbs, ← encode_ofList, decode_encode]

/-! ### One more byte -/

/-- A text is read off its bytes, whatever follows. -/
theorem decodeOnto_append (done chars : List Char) (tail : Bytes) :
    decodeOnto done (chars.flatMap String.utf8EncodeChar ++ tail)
      = decodeOnto (chars.reverse ++ done) tail := by
  induction chars generalizing done with
  | nil => rfl
  | cons c rest ih =>
      rw [List.flatMap_cons, List.append_assoc, decodeOnto_encodeChar, ih, List.reverse_cons,
        List.append_assoc]
      rfl

/-- A byte with nothing behind it is a character of its own or none. -/
theorem decodeChar_alone (b : UInt8) :
    decodeChar b [] = (if b.toNat < 128 then Char.ofNat b.toNat else replacement, []) := by
  unfold decodeChar lead?
  grind [continuation]

theorem encode_char_alone (b : UInt8) :
    String.utf8EncodeChar (if b.toNat < 128 then Char.ofNat b.toNat else replacement)
      = if b.toNat < 128 then [b] else [0xEF, 0xBF, 0xBD] := by
  by_cases hb : b.toNat < 128
  · have hvalid : Nat.isValidChar b.toNat := Or.inl (by omega)
    have hval : (Char.ofNat b.toNat).val.toNat = b.toNat := by
      rw [Char.ofNat, dif_pos hvalid]
      rfl
    have hone : b.toNat ≤ 127 := by omega
    rw [if_pos hb, if_pos hb, String.utf8EncodeChar, hval]
    simp [hone]
  · rw [if_neg hb, if_neg hb]
    decide

/-- **A byte behind well-formed bytes survives if it is a character of its own**, and else the
replacement stands in its place. -/
theorem encode_decode_concat {bs : Bytes} (h : bs.toByteArray.IsValidUTF8) (b : UInt8) :
    encode (decode (bs ++ [b])) = bs ++ if b.toNat < 128 then [b] else [0xEF, 0xBF, 0xBD] := by
  obtain ⟨chars, hchars⟩ := h
  have hbs : bs = chars.flatMap String.utf8EncodeChar := List.toByteArray_inj.mp hchars
  rw [decode, hbs, decodeOnto_append, decodeOnto, decodeChar_alone, decodeOnto, encode_ofList,
    List.reverse_cons, List.append_nil, List.reverse_reverse, List.flatMap_append,
    List.flatMap_singleton, encode_char_alone]

end Lifecast.Text
