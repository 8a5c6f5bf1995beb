import LateBinding.Bytes.Word

/-!
# Texts and their bytes

The UTF-8 form of a text is read back as the text, and bytes that are read as a text are its form, so
every text has one form.
-/

namespace LateBinding
namespace Bytes

private theorem loop_eq
    (array : ByteArray)
    (start : Nat)
    (taken : List UInt8) :
    ByteArray.toList.loop array start taken =
      taken.reverse ++ array.data.toList.drop start := by
  fun_induction ByteArray.toList.loop array start taken with
  | case1 start taken inside inductionHypothesis =>
      rw [inductionHypothesis, List.reverse_cons, List.append_assoc]
      have bound : start < array.data.toList.length := inside
      rw [List.drop_eq_getElem_cons bound]
      have same : array.get! start = array.data.toList[start] := by
        change array.data[start]! = _
        rw [getElem!_pos array.data start inside, Array.getElem_toList]
      rw [same]
      rfl
  | case2 start taken outside =>
      have beyond : array.data.toList.length ≤ start := Nat.le_of_not_lt outside
      rw [List.drop_of_length_le beyond, List.append_nil]

theorem toList_eq_data (array : ByteArray) : array.toList = array.data.toList := by
  rw [ByteArray.toList, loop_eq]
  rfl

@[simp] theorem text?_ofText (text : String) : text? (ofText text) = some text := by
  unfold text? ofText
  rw [String.toUTF8_eq_toByteArray, toList_eq_data, Array.toArray_toList]
  change String.fromUTF8? text.toByteArray = _
  unfold String.fromUTF8?
  rw [dif_pos text.isValidUTF8]
  rfl

/-- A text has no other bytes than its form. -/
theorem ofText_eq_of_text?
    {bytes : Bytes}
    {text : String}
    (found : text? bytes = some text) :
    ofText text = bytes := by
  unfold text? String.fromUTF8? at found
  split at found
  · next valid =>
    injection found with equal
    subst equal
    unfold ofText
    rw [String.toUTF8_eq_toByteArray, toList_eq_data]
    rfl
  · simp at found

end Bytes
end LateBinding
