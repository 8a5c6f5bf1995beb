import LateBinding.Bytes.Reader
import LateBinding.Value.Type
import LateBinding.Value.Visibility

/-!
# The string pool

The texts of a module are kept once each and referred to by index.  An entry is a byte string,
since a module may hold entries that are no text.  The stored pool is the number of entries, the
offsets of the entries, and the entries with a zero byte behind each; an entry may contain zero
bytes itself, because only the offsets delimit it.
-/

namespace LateBinding

/-- The entries of a pool in the order of their indices. -/
structure StringPool where
  /-- The entries. -/
  entries : List Bytes
  deriving DecidableEq, Repr, Inhabited

namespace StringPool

/-- The pool without entries. -/
def empty : StringPool :=
  ⟨[]⟩

/-- The number of entries. -/
def size (pool : StringPool) : Nat :=
  pool.entries.length

/--
Adds a text unless it is there, and returns the index of its first entry.  Indices are words and
wrap in a pool with more entries than words.
-/
def add (pool : StringPool) (text : String) : UInt32 × StringPool :=
  let entry := Bytes.ofText text
  match pool.entries.findIdx? (· = entry) with
  | some index => (UInt32.ofNat index, pool)
  | none => (UInt32.ofNat pool.size, ⟨pool.entries ++ [entry]⟩)

/-- The text of an index. -/
def get? (pool : StringPool) (index : UInt32) : Option String :=
  pool.entries[index.toNat]?.bind Bytes.text?

/-- The text of an index, which must be there. -/
def resolve (pool : StringPool) (index : UInt32) : Except TableError String :=
  match pool.get? index with
  | some text => .ok text
  | none => .error (.invalidStringIndex index)

/-- The text of each index; entries that are no text have none. -/
def texts (pool : StringPool) : List (Option String) :=
  pool.entries.map Bytes.text?

/-- An entry with its zero byte. -/
def terminated (entry : Bytes) : Bytes :=
  entry ++ [0]

/-- The entries with a zero byte behind each. -/
def data (pool : StringPool) : Bytes :=
  pool.entries.flatMap terminated

/-- The offsets of entries of which the first has the offset `start`. -/
def offsetsFrom (start : Nat) : List Bytes → List Nat
  | [] => []
  | entry :: rest => start :: offsetsFrom (start + entry.length + 1) rest

/-- The stored form of a pool. -/
def encode (pool : StringPool) : Bytes :=
  Bytes.ofNat32 pool.size ++ (offsetsFrom 0 pool.entries).flatMap Bytes.ofNat32 ++
    Bytes.ofNat32 pool.data.length ++ pool.data

/-- An entry of its terminated form. -/
def unterminated? (segment : Bytes) : Option Bytes :=
  if segment.getLast? = some 0 then some segment.dropLast else none

/--
The entries that offsets cut out of the data from the offset `start` on.  The first offset is
`start`, the offsets increase, every segment ends with a zero byte and nothing is left over.
-/
def segments? (start : Nat) : List Nat → Bytes → Option (List Bytes)
  | [], data => if data.isEmpty then some [] else none
  | [offset], data => if offset = start then (unterminated? data).map ([·]) else none
  | offset :: next :: rest, data =>
      if offset = start && start < next && next - start ≤ data.length then do
        let entry ← unterminated? (data.take (next - start))
        let later ← segments? next (next :: rest) (data.drop (next - start))
        return entry :: later
      else none

/-- The offsets and the data of a stored pool. -/
def readParts : ByteReader (List Nat × Bytes) := do
  let count ← ByteReader.word32
  let offsets ← ByteReader.word32.times count.toNat
  let length ← ByteReader.word32
  let data ← ByteReader.take length.toNat
  ByteReader.finish
  return (offsets.map UInt32.toNat, data)

/-- The pool of its stored form. -/
def decode (bytes : Bytes) : Except TableError StringPool := do
  let (offsets, data) ← readParts.on bytes
  match segments? 0 offsets data with
  | some entries => return ⟨entries⟩
  | none => throw .invalidSize

end StringPool

/-- An encoder that adds the texts it needs to a pool. -/
abbrev Pooled :=
  StateM StringPool

/-- The index of a text, which is added to the pool if need be. -/
def Pooled.indexOf (text : String) : Pooled UInt32 :=
  fun pool => pool.add text

/-- The number that stands for the name of a type without a name. -/
def noName : UInt32 :=
  0xFFFFFFFF

/-- The eight bytes of a type: the code, three bytes of zero and the index of the name. -/
def ValueType.encode (type : ValueType) : Pooled Bytes := do
  let name ←
    match type with
    | .named name => Pooled.indexOf name
    | _ => pure noName
  return [type.code, 0, 0, 0] ++ Bytes.ofWord32 name

/-- The text of an index, read from a pool. -/
def StringPool.reader (pool : StringPool) (index : UInt32) : ByteReader String :=
  ByteReader.require (.invalidStringIndex index) (pool.get? index)

/-- The type of the next eight bytes. -/
def ValueType.read (pool : StringPool) : ByteReader ValueType := do
  let code ← ByteReader.byte
  ByteReader.skip 3
  let index ← ByteReader.word32
  let name ← if index = noName then pure none else some <$> pool.reader index
  ByteReader.require (.invalidTypeCode code) (ValueType.ofCode? code name)

/-- The visibility of the next byte. -/
def Visibility.read : ByteReader Visibility := do
  let code ← ByteReader.byte
  ByteReader.require (.invalidVisibility code) (Visibility.ofCode? code)

end LateBinding
