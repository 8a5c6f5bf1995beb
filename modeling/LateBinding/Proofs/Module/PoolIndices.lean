import LateBinding.Proofs.Module.PoolLayout
import Mathlib.Data.List.Nodup

/-!
# Indices of a pool

An index that adding a text has given is the index of the text for good: neither further texts nor the text
itself, added again, change it.  This holds of pools that were read from bytes as well as of new ones.  Only a
new pool is known to be without repeated entries, since the stored pools that are accepted may repeat them.
-/

namespace LateBinding

namespace StringPool

/-- Adding a text to entries without repetition repeats none. -/
theorem nodup_add
    {pool : StringPool}
    (distinct : pool.entries.Nodup)
    (text : String) :
    (pool.add text).2.entries.Nodup := by
  by_cases holds : pool.Holds text
  · rw [snd_add_of_holds holds]
    exact distinct
  · rw [add_of_not_holds holds]
    refine List.Nodup.append distinct (List.nodup_singleton _) ?_
    rw [List.disjoint_singleton]
    exact holds

theorem nodup_addAll
    {pool : StringPool}
    (distinct : pool.entries.Nodup)
    (texts : List String) :
    (pool.addAll texts).entries.Nodup := by
  induction texts generalizing pool with
  | nil => exact distinct
  | cons text rest inductionHypothesis => exact inductionHypothesis (nodup_add distinct text)

theorem Extends.length_data_le
    {larger pool : StringPool}
    (extension : larger.Extends pool) :
    pool.data.length ≤ larger.data.length := by
  obtain ⟨behind, equal⟩ := extension
  rw [data, data, ← equal, List.flatMap_append, List.length_append]
  exact Nat.le_add_right _ _

end StringPool

namespace StoredPool

/-- A new pool, or one that was read from bytes. -/
def IsOriginal (pool : StoredPool) : Prop :=
  pool = empty ∨ ∃ bytes, (deserialize bytes).Gives (.ok pool)

/-- An entry has an index. -/
def HasEntry (pool : StoredPool) (entry : Bytes) : Prop :=
  ∃ index, pool.bytesOf index = some (some entry)

/-- No entry has two indices. -/
def IsDistinct (pool : StoredPool) : Prop :=
  ∀ index other entry, pool.bytesOf index = some (some entry) →
    pool.bytesOf other = some (some entry) → index = other

/-- A text is added to a pool, and further texts make it the final one. -/
structure IndexesForGood (before : StoredPool) (text : String) (final : StoredPool) : Prop where
  /-- The index that adding the text has given is one of the text. -/
  found : final.get (before.add text).1 = some (some text)
  /-- The earlier indices have the entries that they had. -/
  kept : ∀ index < before.offsets.length, ∃ entry,
    before.bytesOf index = some (some entry) ∧ final.bytesOf index = some (some entry)
  /-- Adding the text again gives its index and changes nothing. -/
  repeats : final.add text = ((before.add text).1, final)
  /-- Adding a text that is an entry changes nothing. -/
  stays : before.HasEntry (Bytes.ofText text) → (before.add text).2 = before
  /-- Adding a text that is no entry makes one more. -/
  grows : ¬ before.HasEntry (Bytes.ofText text) →
    (before.add text).2.offsets.length = before.offsets.length + 1

theorem IsOriginal.isWellFormed
    {pool : StoredPool}
    (original : pool.IsOriginal) :
    pool.IsWellFormed := by
  rcases original with rfl | ⟨bytes, gives⟩
  · exact @isWellFormed_ofPool StringPool.empty (by decide)
  · exact (deserialize_gives_ok_iff.mp gives).2

variable {pool : StringPool}

theorem bytesOf_ofPool (short : pool.data.length < 2 ^ 32) (index : Nat) :
    (ofPool pool).bytesOf index = some pool.entries[index]? := by
  rw [isComplete_ofPool short index, toPool_ofPool short]

theorem hasEntry_ofPool_iff
    (short : pool.data.length < 2 ^ 32)
    {text : String} :
    (ofPool pool).HasEntry (Bytes.ofText text) ↔ pool.Holds text := by
  simp only [HasEntry, bytesOf_ofPool short, Option.some.injEq, StringPool.Holds,
    List.mem_iff_getElem?]

/-- What extends the pool after a text has been added indexes the text for good. -/
theorem indexesForGood_ofPool
    {final : StringPool}
    {text : String}
    (extension : final.Extends (pool.add text).2)
    (short : final.data.length < 2 ^ 32) :
    (ofPool pool).IndexesForGood text (ofPool final) := by
  have grown := extension.trans (pool.add_extends text)
  have shortPool : pool.data.length < 2 ^ 32 := Nat.lt_of_le_of_lt grown.length_data_le short
  have added := add_ofPool shortPool text
  have addedAgain := StringPool.add_eq_of_extends extension
  constructor
  · have few : final.size ≤ 2 ^ 32 := by
      rw [← length_offsets_ofPool]
      exact Nat.le_of_lt (isWellFormed_ofPool short).few
    have found := StringPool.get?_add_of_holds (extension.holds (pool.holds_add text)) few
    rw [addedAgain] at found
    rw [(isComplete_ofPool short).get_eq, toPool_ofPool short, added, found]
  · intro index inside
    rw [length_offsets_ofPool] at inside
    refine ⟨pool.entries[index], ?_, ?_⟩
    · rw [bytesOf_ofPool shortPool, List.getElem?_eq_getElem inside]
    · obtain ⟨behind, equal⟩ := grown
      rw [bytesOf_ofPool short, ← equal, List.getElem?_append_left inside,
        List.getElem?_eq_getElem inside]
  · rw [add_ofPool short, addedAgain, added]
  · intro has
    rw [added, StringPool.snd_add_of_holds ((hasEntry_ofPool_iff shortPool).mp has)]
  · intro new
    have absent : ¬ pool.Holds text := fun holds => new ((hasEntry_ofPool_iff shortPool).mpr holds)
    rw [added, length_offsets_ofPool, length_offsets_ofPool, StringPool.add_of_not_holds absent,
      StringPool.size, StringPool.size, List.length_append, List.length_singleton]

theorem isDistinct_ofPool
    (distinct : pool.entries.Nodup)
    (short : pool.data.length < 2 ^ 32) :
    (ofPool pool).IsDistinct := by
  intro index other entry found foundToo
  rw [bytesOf_ofPool short, Option.some.injEq] at found foundToo
  obtain ⟨inside, same⟩ := List.getElem?_eq_some_iff.mp found
  obtain ⟨insideToo, sameToo⟩ := List.getElem?_eq_some_iff.mp foundToo
  exact distinct.getElem_inj_iff.mp (same.trans sameToo.symm)

/--
In every sequence of additions to a new pool or one that was read from bytes, each text that is added has its
index from then on, and the earlier indices have what they had.  The entries and indices are those of the pool
as a list of entries, and a new pool has none twice.
-/
theorem addAll_indexes_for_good
    {pool : StoredPool}
    (original : pool.IsOriginal)
    (earlier : List String)
    (text : String)
    (later : List String)
    (short : (pool.addAll (earlier ++ text :: later)).data.length < 2 ^ 32) :
    (pool.addAll earlier).IndexesForGood text (pool.addAll (earlier ++ text :: later)) ∧
      (pool = empty → (pool.addAll (earlier ++ text :: later)).IsDistinct) ∧
      ((pool.toPool.addAll earlier).add text).1 = ((pool.addAll earlier).add text).1 ∧
      (pool.addAll (earlier ++ text :: later)).toPool =
        pool.toPool.addAll (earlier ++ text :: later) := by
  -- A well-formed pool is that of its entries, and so is every pool on the way to the final one.
  obtain ⟨entries, rfl⟩ : ∃ entries, pool = ofPool entries :=
    ⟨pool.toPool, original.isWellFormed.ofPool_toPool.symm⟩
  have shortEarlier : ((ofPool entries).addAll earlier).data.length < 2 ^ 32 := by
    rw [addAll, List.foldl_append] at short
    exact Nat.lt_of_le_of_lt (length_data_le_addAll _ _) short
  have shortEntries : entries.data.length < 2 ^ 32 :=
    Nat.lt_of_le_of_lt (length_data_le_addAll (ofPool entries) earlier) shortEarlier
  have before := addAll_ofPool shortEarlier
  have final := addAll_ofPool short
  rw [before] at shortEarlier
  rw [final] at short
  rw [before, final, toPool_ofPool shortEntries, toPool_ofPool short, add_ofPool shortEarlier]
  refine ⟨indexesForGood_ofPool ?_ short, ?_, rfl, rfl⟩
  · rw [StringPool.addAll_append, StringPool.addAll_cons]
    exact StringPool.addAll_extends _ later
  · intro new
    have none : entries = StringPool.empty := (toPool_ofPool shortEntries).symm.trans (congrArg toPool new)
    refine isDistinct_ofPool (StringPool.nodup_addAll ?_ _) short
    rw [none]
    exact List.nodup_nil

/-- A stored pool that holds bytes that are no text, and a text twice. -/
def irregularPool : StoredPool :=
  ⟨[0xFF, 0, 97, 0, 97, 0], [0, 2, 4]⟩

theorem addAll_irregularPool_indexes_for_good :
    irregularPool.IsOriginal ∧
      (irregularPool.addAll (["b\x00c"] ++ "a" :: ["", "b\x00c"])).data.length < 2 ^ 32 ∧
      ((irregularPool.addAll ["b\x00c"]).add "a").1 = 1 ∧
      (irregularPool.addAll ["b\x00c"]).IndexesForGood "a"
        (irregularPool.addAll (["b\x00c"] ++ "a" :: ["", "b\x00c"])) := by
  have original : irregularPool.IsOriginal := by
    refine .inr ⟨irregularPool.serialize, deserialize_gives_ok_iff.mpr ⟨rfl, ?_⟩⟩
    exact isWellFormed_iff.mpr (by decide)
  have short : (irregularPool.addAll (["b\x00c"] ++ "a" :: ["", "b\x00c"])).data.length < 2 ^ 32 := by
    decide +kernel
  exact ⟨original, short, by decide +kernel, (addAll_indexes_for_good original _ _ _ short).1⟩

end StoredPool
end LateBinding
