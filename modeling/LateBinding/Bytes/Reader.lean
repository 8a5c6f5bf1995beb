import LateBinding.Bytes.Word
import LateBinding.Module.Error

/-!
# Reading tables

A reader takes items from the front of a byte string.  A reader that fails leaves the bytes where
its last successful step left them.
-/

namespace LateBinding

/-- A step that takes bytes from the front, or refuses them. -/
abbrev ByteReader :=
  EStateM TableError Bytes

namespace ByteReader

/-- The next bytes, as many as asked for. -/
def take (count : Nat) : ByteReader Bytes := fun bytes =>
  if count ≤ bytes.length then .ok (bytes.take count) (bytes.drop count)
  else .error .tooShort bytes

/-- Passes over bytes. -/
def skip (count : Nat) : ByteReader Unit := do
  let _ ← take count

/-- The next byte. -/
def byte : ByteReader UInt8
  | byte0 :: rest => .ok byte0 rest
  | bytes => .error .tooShort bytes

/-- The next word of 16 bits. -/
def word16 : ByteReader UInt16
  | byte0 :: byte1 :: rest => .ok (Bytes.word16 byte0 byte1) rest
  | bytes => .error .tooShort bytes

/-- The next word of 32 bits. -/
def word32 : ByteReader UInt32
  | byte0 :: byte1 :: byte2 :: byte3 :: rest =>
      .ok (Bytes.word32 byte0 byte1 byte2 byte3) rest
  | bytes => .error .tooShort bytes

/-- The next integer of 32 bits. -/
def int32 : ByteReader Int32 := do
  return (← word32).toInt32

/-- Asks that no bytes are left. -/
def finish : ByteReader Unit := fun bytes =>
  if bytes.isEmpty then .ok () bytes else .error (.trailingBytes bytes.length) bytes

/-- The items of a reader that is run a number of times. -/
def times (reader : ByteReader Item) : Nat → ByteReader (List Item)
  | 0 => pure []
  | count + 1 => do
      let item ← reader
      let items ← times reader count
      return item :: items

/-- A value that must be there. -/
def require (error : TableError) : Option Item → ByteReader Item
  | some item => pure item
  | none => throw error

/-- The result of a reader on all of a byte string; what is left over is not looked at. -/
def on (reader : ByteReader Item) (bytes : Bytes) : Except TableError Item :=
  match reader bytes with
  | .ok item _ => .ok item
  | .error error _ => .error error

end ByteReader
end LateBinding
