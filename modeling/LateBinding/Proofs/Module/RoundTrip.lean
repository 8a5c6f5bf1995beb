import LateBinding.Proofs.Module.Decoded

/-!
# Writing and reading modules

A sound image is read back from its bytes with the names of its parts in its pool.  An image that has
been read has them there already, so it is read back unchanged, whatever the bytes looked like that it
was read from.
-/

namespace LateBinding
namespace ModuleImage

theorem IsSound.closure
    {image : ModuleImage}
    (sound : image.IsSound) :
    image.closure.IsSound := fun member present =>
  (sound member present).extend image.closure_extends

/-- What is read back from the bytes of a sound image is its closure. -/
theorem decode_encode_eq_closure
    {image : ModuleImage}
    (writable : image.IsWritable) :
    decode image.encode = .ok image.closure := by
  have writableClosure : image.closure.IsWritable := {
    sound := writable.sound.closure
    narrow := writable.narrow
    short := by
      rw [encode_closure]
      exact writable.short }
  rw [← encode_closure]
  exact decode_encode_of_isClosed writableClosure image.isClosed_closure

/--
A verified image is read back from its bytes in all parts but the pool.  The pool may have grown, but
every index that it had still gives the same text, and writing the image again gives the same bytes.
-/
theorem decode_encode_of_verify
    {image : ModuleImage}
    (verified : image.verify = .ok ())
    (narrow : ∀ member ∈ image.members, member.parameters.length ≤ 255)
    (short : image.encode.length < 2 ^ 32) :
    ∃ decoded, decode image.encode = .ok decoded ∧
      decoded.name = image.name ∧
      decoded.fields = image.fields ∧
      decoded.explicitConstructor = image.explicitConstructor ∧
      decoded.constructor = image.constructor ∧
      decoded.methods = image.methods ∧
      (∀ index : UInt32, index.toNat < image.strings.size →
        decoded.strings.get? index = image.strings.get? index) ∧
      decoded.encode = image.encode := by
  have writable : image.IsWritable :=
    ⟨image.verify_eq_ok_iff.mp verified, narrow, short⟩
  refine ⟨image.closure, decode_encode_eq_closure writable, rfl, rfl, rfl, rfl, rfl, ?_, ?_⟩
  · intro index inside
    exact image.closure_extends.get?_eq inside
  · exact encode_closure image

/-- An image that uses the name of its type twice, with a pool of a text and an entry that is none. -/
def labelImage : ModuleImage where
  name := "Label"
  fields := [⟨"text", .string, .privateAccess⟩, ⟨"next", .named "Label", .publicAccess⟩]
  explicitConstructor := true
  constructor :=
    ⟨constructorName, .void, [.string], [.loadParameter 0, .storeField 0, .returnVoid]⟩
  methods :=
    [⟨"text", .string, [], [.pushString 1, .loadField 0, .concatenate 2, .returnValue]⟩]
  strings := ⟨[[0xFF], [0x23]]⟩

theorem decode_encode_labelImage :
    ∃ decoded, decode labelImage.encode = .ok decoded ∧
      decoded.methods = labelImage.methods ∧ decoded.encode = labelImage.encode := by
  have verified : labelImage.verify = .ok () := by decide +kernel
  have narrow : ∀ member ∈ labelImage.members, member.parameters.length ≤ 255 := by decide
  have short : labelImage.encode.length < 2 ^ 32 := by decide +kernel
  obtain ⟨decoded, read, _, _, _, _, methods, _, again⟩ :=
    decode_encode_of_verify verified narrow short
  exact ⟨decoded, read, methods, again⟩

/-- An image that has been read from any bytes is read back unchanged from its own. -/
theorem decode_encode_of_decode
    {bytes : Bytes}
    {image : ModuleImage}
    (decoded : decode bytes = .ok image)
    (short : image.encode.length < 2 ^ 32) :
    decode image.encode = .ok image := by
  have readable := isReadable_of_decode decoded
  have writable : image.IsWritable := ⟨readable.sound, readable.narrow, short⟩
  exact decode_encode_of_isClosed writable readable.closed

/--
The bytes of a module as no image writes them: the sections stand in another order, the pool has an
entry twice, a type that needs no name has one, unknown flags are set, and the members share their
code.
-/
def irregularBytes : Bytes :=
  let member := Bytes.ofWord32 1 ++ ([0, 7, 7, 7] ++ Bytes.ofWord32 0) ++ Bytes.ofNat32 0 ++
    Bytes.ofNat32 0 ++ Bytes.ofNat32 1
  (ContainerWriter.ofSections
    [(.codeData, Code.encode [.returnVoid]),
      (.methodTable, Bytes.ofNat32 1 ++ member),
      (.constructorTable, Bytes.ofNat32 1 ++ member),
      (.fieldTable, []),
      (.typeInfo, Bytes.ofWord32 1 ++ Bytes.ofNat32 0 ++ Bytes.ofNat32 1 ++
        Bytes.ofWord32 0xFFFFFFFE),
      (.stringPool, StringPool.encode ⟨[[0x41], [0x41], [0xFF]]⟩)]).finish

/-- The image of the irregular bytes. -/
def irregularImage : ModuleImage where
  name := "A"
  fields := []
  explicitConstructor := false
  constructor := ⟨"A", .void, [], [.returnVoid]⟩
  methods := [⟨"A", .void, [], [.returnVoid]⟩]
  strings := ⟨[[0x41], [0x41], [0xFF]]⟩

theorem decode_encode_irregularImage :
    decode irregularBytes = .ok irregularImage ∧
      decode irregularImage.encode = .ok irregularImage := by
  have decoded : decode irregularBytes = .ok irregularImage := by decide +kernel
  have short : irregularImage.encode.length < 2 ^ 32 := by decide +kernel
  exact ⟨decoded, decode_encode_of_decode decoded short⟩

end ModuleImage
end LateBinding
