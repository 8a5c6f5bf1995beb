import LateBinding.Module.StringPool
import LateBinding.Proofs.Bytes.Reading
import LateBinding.Proofs.Bytes.Text

/-!
# Growth and storage of string pools

Adding texts to a pool only puts entries behind those that are there, so an index keeps its entry for
good, and a text that is there already keeps its index.  The stored form of a pool is read back as the
pool.
-/

namespace LateBinding
namespace StringPool

/-- A pool extends another one when it has the other's entries in front. -/
def Extends (larger pool : StringPool) : Prop :=
  pool.entries <+: larger.entries

/-- A pool holds a text when one of its entries is the text. -/
def Holds (pool : StringPool) (text : String) : Prop :=
  Bytes.ofText text ∈ pool.entries

theorem Extends.refl (pool : StringPool) : pool.Extends pool :=
  List.prefix_refl pool.entries

theorem Extends.trans
    {largest larger pool : StringPool}
    (outer : largest.Extends larger)
    (inner : larger.Extends pool) :
    largest.Extends pool :=
  List.IsPrefix.trans inner outer

/-- An extension holds what the pool holds. -/
theorem Extends.holds
    {larger pool : StringPool}
    (extension : larger.Extends pool)
    {text : String}
    (holds : pool.Holds text) :
    larger.Holds text :=
  List.IsPrefix.subset extension holds

/-- An index of a pool keeps its text in every extension. -/
theorem Extends.get?_eq
    {larger pool : StringPool}
    (extension : larger.Extends pool)
    {index : UInt32}
    (inside : index.toNat < pool.size) :
    larger.get? index = pool.get? index := by
  obtain ⟨behind, equal⟩ := extension
  unfold get?
  rw [← equal, List.getElem?_append_left inside]

theorem lt_size_of_get?
    {pool : StringPool}
    {index : UInt32}
    {text : String}
    (found : pool.get? index = some text) :
    index.toNat < pool.size := by
  obtain ⟨entry, there, _⟩ := Option.bind_eq_some_iff.mp found
  exact (List.getElem?_eq_some_iff.mp there).1

theorem Extends.get?_eq_some
    {larger pool : StringPool}
    (extension : larger.Extends pool)
    {index : UInt32}
    {text : String}
    (found : pool.get? index = some text) :
    larger.get? index = some text := by
  rw [extension.get?_eq (lt_size_of_get? found), found]

/-- A text that an index has is held. -/
theorem holds_of_get?
    {pool : StringPool}
    {index : UInt32}
    {text : String}
    (found : pool.get? index = some text) :
    pool.Holds text := by
  obtain ⟨entry, there, read⟩ := Option.bind_eq_some_iff.mp found
  unfold Holds
  rw [Bytes.ofText_eq_of_text? read]
  exact List.mem_of_getElem? there

/-! ## Adding texts -/

theorem findIdx?_eq_none_of_not_holds
    {pool : StringPool}
    {text : String}
    (absent : ¬ pool.Holds text) :
    pool.entries.findIdx? (· = Bytes.ofText text) = none := by
  rw [List.findIdx?_eq_none_iff]
  intro entry present
  simp only [decide_eq_false_iff_not]
  rintro rfl
  exact absent present

/-- Adding a text that is held changes nothing and gives the first of its indices. -/
theorem add_of_holds
    {pool : StringPool}
    {text : String}
    (holds : pool.Holds text) :
    ∃ index, pool.entries.findIdx? (· = Bytes.ofText text) = some index ∧
      pool.add text = (UInt32.ofNat index, pool) := by
  cases found : pool.entries.findIdx? (· = Bytes.ofText text) with
  | none =>
      have absent := List.findIdx?_eq_none_iff.mp found (Bytes.ofText text) holds
      simp at absent
  | some index => exact ⟨index, rfl, by simp [add, found]⟩

theorem snd_add_of_holds
    {pool : StringPool}
    {text : String}
    (holds : pool.Holds text) :
    (pool.add text).2 = pool := by
  obtain ⟨index, _, added⟩ := add_of_holds holds
  rw [added]

/-- Adding a text that is not held puts it behind the entries. -/
theorem add_of_not_holds
    {pool : StringPool}
    {text : String}
    (absent : ¬ pool.Holds text) :
    pool.add text = (UInt32.ofNat pool.size, ⟨pool.entries ++ [Bytes.ofText text]⟩) := by
  simp [add, findIdx?_eq_none_of_not_holds absent]

theorem add_extends (pool : StringPool) (text : String) :
    (pool.add text).2.Extends pool := by
  by_cases holds : pool.Holds text
  · rw [snd_add_of_holds holds]
    exact Extends.refl pool
  · rw [add_of_not_holds holds]
    exact List.prefix_append pool.entries _

theorem holds_add (pool : StringPool) (text : String) :
    (pool.add text).2.Holds text := by
  by_cases holds : pool.Holds text
  · rw [snd_add_of_holds holds]
    exact holds
  · rw [add_of_not_holds holds]
    simp [Holds]

/-- Once a text has been added, adding it again to any extension gives the same index. -/
theorem add_eq_of_extends
    {larger pool : StringPool}
    {text : String}
    (extension : larger.Extends (pool.add text).2) :
    larger.add text = ((pool.add text).1, larger) := by
  -- New entries stand behind the old ones, so the first index of the text cannot become smaller.
  obtain ⟨first, found, _⟩ := add_of_holds (holds_add pool text)
  have stays : larger.entries.findIdx? (· = Bytes.ofText text) = some first :=
    List.IsPrefix.findIdx?_eq_some extension found
  obtain ⟨index, foundAgain, added⟩ := add_of_holds (extension.holds (holds_add pool text))
  obtain rfl : index = first := Option.some.inj (foundAgain.symm.trans stays)
  rw [added]
  by_cases holds : pool.Holds text
  · obtain ⟨original, foundFirst, addedFirst⟩ := add_of_holds holds
    rw [addedFirst] at found ⊢
    obtain rfl : original = index := Option.some.inj (foundFirst.symm.trans found)
    rfl
  · rw [add_of_not_holds holds] at found ⊢
    rw [List.findIdx?_append, findIdx?_eq_none_of_not_holds holds] at found
    have fresh : pool.size = index := by simpa [size] using found
    rw [fresh]

/-- The index of a text that is held has the text, as long as indices do not wrap. -/
theorem get?_add_of_holds
    {pool : StringPool}
    {text : String}
    (holds : pool.Holds text)
    (small : pool.size ≤ 2 ^ 32) :
    pool.get? (pool.add text).1 = some text := by
  obtain ⟨index, found, added⟩ := add_of_holds holds
  obtain ⟨bound, equal, _⟩ := List.findIdx?_eq_some_iff_getElem.mp found
  have unwrapped : (UInt32.ofNat index).toNat = index :=
    Bytes.toNat_ofNat32 (Nat.lt_of_lt_of_le bound small)
  have entry : pool.entries[index] = Bytes.ofText text := by simpa using equal
  rw [added, get?, unwrapped, List.getElem?_eq_getElem bound, entry, Option.bind_some,
    Bytes.text?_ofText]

/-! ## Storing a pool -/

@[simp] theorem length_offsetsFrom
    (start : Nat)
    (entries : List Bytes) :
    (offsetsFrom start entries).length = entries.length := by
  induction entries generalizing start with
  | nil => rfl
  | cons entry rest inductionHypothesis =>
      rw [offsetsFrom, List.length_cons, List.length_cons, inductionHypothesis]

theorem offsetsFrom_append_singleton
    (start : Nat)
    (entries : List Bytes)
    (entry : Bytes) :
    offsetsFrom start (entries ++ [entry]) =
      offsetsFrom start entries ++ [start + (entries.flatMap terminated).length] := by
  induction entries generalizing start with
  | nil => rfl
  | cons first rest inductionHypothesis =>
      have width : (terminated first).length = first.length + 1 := by
        rw [terminated, List.length_append, List.length_singleton]
      rw [List.cons_append, offsetsFrom, inductionHypothesis, offsetsFrom, List.flatMap_cons,
        List.length_append, width, ← Nat.add_assoc, ← Nat.add_assoc, List.cons_append]

/-- Every offset lies in front of the end of the data. -/
theorem lt_of_mem_offsetsFrom
    {start offset : Nat}
    {entries : List Bytes}
    (present : offset ∈ offsetsFrom start entries) :
    offset < start + (entries.flatMap terminated).length := by
  induction entries generalizing start with
  | nil => simp [offsetsFrom] at present
  | cons entry rest inductionHypothesis =>
      rw [List.flatMap_cons, List.length_append, terminated, List.length_append]
      rw [offsetsFrom, List.mem_cons] at present
      rcases present with rfl | later
      · simp only [List.length_cons, List.length_nil]
        omega
      · have := inductionHypothesis later
        simp only [List.length_cons, List.length_nil]
        omega

@[simp] theorem unterminated?_terminated (entry : Bytes) :
    unterminated? (terminated entry) = some entry := by
  simp [unterminated?, terminated]

theorem eq_terminated_of_unterminated?
    {segment entry : Bytes}
    (cut : unterminated? segment = some entry) :
    segment = terminated entry := by
  unfold unterminated? at cut
  split at cut
  · next last =>
    obtain ⟨front, rfl⟩ := List.getLast?_eq_some_iff.mp last
    rw [List.dropLast_concat] at cut
    rw [Option.some.inj cut, terminated]
  · nomatch cut

/-- Cutting the data of entries at their offsets gives the entries. -/
theorem segments?_offsetsFrom
    (start : Nat)
    (entries : List Bytes) :
    segments? start (offsetsFrom start entries) (entries.flatMap terminated) = some entries := by
  induction entries generalizing start with
  | nil => rfl
  | cons entry rest inductionHypothesis =>
      cases rest with
      | nil => simp [offsetsFrom, segments?]
      | cons next later =>
          have width : start + entry.length + 1 - start = (terminated entry).length := by
            rw [terminated, List.length_append, List.length_singleton]
            omega
          have following := inductionHypothesis (start + entry.length + 1)
          rw [offsetsFrom] at following
          rw [offsetsFrom, offsetsFrom, segments?, width, List.flatMap_cons, List.take_left,
            List.drop_left, following, unterminated?_terminated]
          have inside :
              (start = start && start < start + entry.length + 1 &&
                (terminated entry).length ≤
                  (terminated entry ++ (next :: later).flatMap terminated).length) = true := by
            rw [List.length_append]
            simp only [Bool.and_eq_true, decide_eq_true_eq]
            exact ⟨⟨trivial, by omega⟩, by omega⟩
          rw [if_pos inside]
          rfl

theorem length_encode (pool : StringPool) :
    pool.encode.length = 8 + 4 * pool.size + pool.data.length := by
  have offsets : ((offsetsFrom 0 pool.entries).flatMap Bytes.ofNat32).length = 4 * pool.size := by
    rw [List.length_flatMap]
    simp [size, Nat.mul_comm, List.map_const']
  simp only [encode, List.length_append, offsets, Bytes.length_ofNat32]
  omega

/-- Numbers below the size of a word are read back from their words. -/
theorem map_toNat_map_ofNat
    {numbers : List Nat}
    (small : ∀ number ∈ numbers, number < 2 ^ 32) :
    (numbers.map UInt32.ofNat).map UInt32.toNat = numbers := by
  rw [List.map_map]
  refine (List.map_congr_left ?_).trans (List.map_id _)
  intro number present
  change (UInt32.ofNat number).toNat = number
  exact Bytes.toNat_ofNat32 (small number present)

/-- Offsets and data are read back from their stored form. -/
theorem readParts_stored
    {offsets : List UInt32}
    {data : Bytes}
    (few : offsets.length < 2 ^ 32)
    (short : data.length < 2 ^ 32) :
    readParts (Bytes.ofNat32 offsets.length ++ offsets.flatMap Bytes.ofWord32 ++
      Bytes.ofNat32 data.length ++ data) = .ok (offsets.map UInt32.toNat, data) [] := by
  rw [List.append_assoc, List.append_assoc]
  refine bind_eq_ok_iff.mpr ⟨_, _, ByteReader.reads_ofNat32 offsets.length _, ?_⟩
  rw [Bytes.toNat_ofNat32 few]
  refine bind_eq_ok_iff.mpr
    ⟨_, _, ByteReader.reads_times (fun word _ => ByteReader.reads_word32 word) _, ?_⟩
  refine bind_eq_ok_iff.mpr ⟨_, _, ByteReader.reads_ofNat32 data.length _, ?_⟩
  rw [Bytes.toNat_ofNat32 short]
  refine bind_eq_ok_iff.mpr ⟨_, _, (ByteReader.reads_take data).toAll, ?_⟩
  exact bind_eq_ok_iff.mpr ⟨_, _, ByteReader.finish_nil, rfl⟩

/-- What is read is stored in the bytes, and nothing else is. -/
theorem stored_of_readParts
    {bytes data : Bytes}
    {numbers : List Nat}
    (read : readParts.on bytes = .ok (numbers, data)) :
    ∃ offsets : List UInt32, numbers = offsets.map UInt32.toNat ∧
      offsets.length < 2 ^ 32 ∧ data.length < 2 ^ 32 ∧
      bytes = Bytes.ofNat32 offsets.length ++ offsets.flatMap Bytes.ofWord32 ++
        Bytes.ofNat32 data.length ++ data := by
  obtain ⟨_, read⟩ := ByteReader.on_eq_ok_iff.mp read
  obtain ⟨count, _, counted, read⟩ := bind_eq_ok_iff.mp read
  obtain ⟨offsets, _, cut, read⟩ := bind_eq_ok_iff.mp read
  obtain ⟨length, _, measured, read⟩ := bind_eq_ok_iff.mp read
  obtain ⟨taken, _, front, read⟩ := bind_eq_ok_iff.mp read
  obtain ⟨_, _, finished, read⟩ := bind_eq_ok_iff.mp read
  obtain ⟨equal, _⟩ := pure_eq_ok_iff.mp read
  obtain ⟨rfl, rfl⟩ := Prod.mk.inj equal
  have many := ByteReader.length_of_times cut
  obtain ⟨long, rest⟩ := ByteReader.take_eq_ok_iff.mp front
  obtain ⟨nothing, _⟩ := ByteReader.finish_eq_ok_iff.mp finished
  have few := many ▸ count.toNat_lt
  have short := long ▸ length.toNat_lt
  have sameCount : Bytes.ofNat32 count.toNat = Bytes.ofWord32 count :=
    congrArg Bytes.ofWord32 UInt32.ofNat_toNat
  have sameLength : Bytes.ofNat32 length.toNat = Bytes.ofWord32 length :=
    congrArg Bytes.ofWord32 UInt32.ofNat_toNat
  refine ⟨offsets, rfl, few, short, ?_⟩
  rw [ByteReader.takes_word32 _ _ _ counted, ByteReader.takes_word32.times _ _ _ _ cut,
    ByteReader.takes_word32 _ _ _ measured, rest, nothing, many, long, sameCount, sameLength]
  simp only [List.append_assoc, List.append_nil]

/-- The parts of a stored pool are the offsets of the entries and the data. -/
theorem readParts_encode
    (pool : StringPool)
    (short : pool.encode.length < 2 ^ 32) :
    readParts pool.encode = .ok (offsetsFrom 0 pool.entries, pool.data) [] := by
  rw [length_encode] at short
  let words := (offsetsFrom 0 pool.entries).map UInt32.ofNat
  have count : words.length = pool.size := by
    rw [List.length_map, length_offsetsFrom]
    rfl
  have offsets : words.map UInt32.toNat = offsetsFrom 0 pool.entries := by
    apply map_toNat_map_ofNat
    intro offset present
    have bound := lt_of_mem_offsetsFrom present
    rw [data] at short
    omega
  have stored : (offsetsFrom 0 pool.entries).flatMap Bytes.ofNat32 =
      words.flatMap Bytes.ofWord32 := by
    rw [List.flatMap_map]
    rfl
  rw [encode, stored, ← count, readParts_stored (by omega) (by omega), offsets]

/-- A pool is read back from its stored form. -/
theorem decode_encode
    (pool : StringPool)
    (short : pool.encode.length < 2 ^ 32) :
    decode pool.encode = .ok pool := by
  have parts : readParts.on pool.encode = .ok (offsetsFrom 0 pool.entries, pool.data) :=
    ByteReader.on_eq_ok_iff.mpr ⟨_, readParts_encode pool short⟩
  have entries : segments? 0 (offsetsFrom 0 pool.entries) pool.data = some pool.entries :=
    segments?_offsetsFrom 0 pool.entries
  rw [decode, parts]
  simp only [bind, Except.bind, entries]
  rfl

end StringPool
end LateBinding
