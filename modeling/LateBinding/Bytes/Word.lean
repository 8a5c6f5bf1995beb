/-!
# Bytes and words

Byte strings, words as little-endian bytes, and text as UTF-8.
-/

namespace LateBinding

/-- A byte string. -/
abbrev Bytes :=
  List UInt8

namespace Bytes

/-- The two bytes of a word of 16 bits, the low one first. -/
def ofWord16 (word : UInt16) : Bytes :=
  [UInt8.ofNat word.toNat, UInt8.ofNat (word.toNat >>> 8)]

/-- The word of two bytes. -/
def word16 (byte0 byte1 : UInt8) : UInt16 :=
  UInt16.ofNat (byte0.toNat + byte1.toNat <<< 8)

/-- The four bytes of a word of 32 bits, the lowest one first. -/
def ofWord32 (word : UInt32) : Bytes :=
  [UInt8.ofNat word.toNat, UInt8.ofNat (word.toNat >>> 8),
    UInt8.ofNat (word.toNat >>> 16), UInt8.ofNat (word.toNat >>> 24)]

/-- The word of four bytes. -/
def word32 (byte0 byte1 byte2 byte3 : UInt8) : UInt32 :=
  UInt32.ofNat
    (byte0.toNat + byte1.toNat <<< 8 + byte2.toNat <<< 16 + byte3.toNat <<< 24)

/-- The four bytes of a number, which wraps at the size of a word. -/
def ofNat32 (number : Nat) : Bytes :=
  ofWord32 (UInt32.ofNat number)

/-- The UTF-8 form of a text. -/
def ofText (text : String) : Bytes :=
  text.toUTF8.toList

/-- The text of UTF-8 bytes. -/
def text? (bytes : Bytes) : Option String :=
  String.fromUTF8? ⟨bytes.toArray⟩

/-- The bytes from an offset on, if there are enough of them. -/
def slice? (bytes : Bytes) (offset size : Nat) : Option Bytes :=
  if offset + size ≤ bytes.length then some ((bytes.drop offset).take size) else none

@[simp]
theorem length_ofWord16 (word : UInt16) : (ofWord16 word).length = 2 := rfl

@[simp]
theorem length_ofWord32 (word : UInt32) : (ofWord32 word).length = 4 := rfl

@[simp]
theorem length_ofNat32 (number : Nat) : (ofNat32 number).length = 4 := rfl

/-- Reading the bytes of a word gives the word back. -/
theorem word16_ofWord16 (word : UInt16) :
    word16 (UInt8.ofNat word.toNat) (UInt8.ofNat (word.toNat >>> 8)) = word := by
  have bound := word.toNat_lt
  apply UInt16.toNat_inj.mp
  simp only [word16, UInt16.toNat_ofNat', UInt8.toNat_ofNat']
  omega

/-- Reading the bytes of a word gives the word back. -/
theorem word32_ofWord32 (word : UInt32) :
    word32 (UInt8.ofNat word.toNat) (UInt8.ofNat (word.toNat >>> 8))
      (UInt8.ofNat (word.toNat >>> 16)) (UInt8.ofNat (word.toNat >>> 24)) = word := by
  have bound := word.toNat_lt
  apply UInt32.toNat_inj.mp
  simp only [word32, UInt32.toNat_ofNat', UInt8.toNat_ofNat']
  omega

/-- The bytes of a word that has been read are those that it was read from. -/
theorem ofWord16_word16 (byte0 byte1 : UInt8) : ofWord16 (word16 byte0 byte1) = [byte0, byte1] := by
  have bound0 := byte0.toNat_lt
  have bound1 := byte1.toNat_lt
  simp only [ofWord16, word16, List.cons.injEq, and_true, ← UInt8.toNat_inj, UInt8.toNat_ofNat',
    UInt16.toNat_ofNat']
  omega

/-- The bytes of a word that has been read are those that it was read from. -/
theorem ofWord32_word32 (byte0 byte1 byte2 byte3 : UInt8) :
    ofWord32 (word32 byte0 byte1 byte2 byte3) = [byte0, byte1, byte2, byte3] := by
  have bound0 := byte0.toNat_lt
  have bound1 := byte1.toNat_lt
  have bound2 := byte2.toNat_lt
  have bound3 := byte3.toNat_lt
  simp only [ofWord32, word32, List.cons.injEq, and_true, ← UInt8.toNat_inj, UInt8.toNat_ofNat',
    UInt32.toNat_ofNat']
  omega

end Bytes
end LateBinding
