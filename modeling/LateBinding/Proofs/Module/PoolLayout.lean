import LateBinding.Proofs.Bytes.Consumption
import LateBinding.Proofs.Module.Pooled
import LateBinding.Proofs.Module.StoredPool

/-!
# The layout of a pool

The offsets of a pool cut its data into one segment for each entry, and every segment ends with a zero byte.
A stored pool is accepted exactly if it is the stored form of a pool of this layout, so the check refuses
gaps, shared bytes, missing zero bytes and bytes left over, and nothing else.  Texts are added in this layout
as long as the data is small enough for offsets of 32 bits.
-/

namespace LateBinding
namespace StoredPool

/-- The data from each offset up to the next one, and from the last one up to the end. -/
def segments (data : Bytes) : List UInt32 → List Bytes
  | [] => []
  | offset :: rest =>
      (data.drop offset.toNat).take (finishOf data rest.head? - offset.toNat) :: segments data rest

/-- Offsets cut the data from a position on into segments, each with a zero byte at its end. -/
structure Partitions (data : Bytes) (start : Nat) (offsets : List UInt32) : Prop where
  /-- The first segment starts at the position. -/
  starts : ∀ offset ∈ offsets.head?, offset.toNat = start
  /-- Each segment starts behind the one before. -/
  increasing : offsets.Pairwise (· < ·)
  /-- No segment is empty, and its last byte is zero. -/
  terminated : ∀ segment ∈ segments data offsets, segment.getLast? = some 0
  /-- The segments are all of the data. -/
  covers : (segments data offsets).flatten = data.drop start

/-- The layout of a pool whose number of entries and whose data have sizes of 32 bits. -/
structure IsWellFormed (pool : StoredPool) : Prop where
  layout : Partitions pool.data 0 pool.offsets
  few : pool.offsets.length < 2 ^ 32
  short : pool.data.length < 2 ^ 32

/-- The stored form of a pool. -/
def serialize (pool : StoredPool) : Bytes :=
  Bytes.ofNat32 pool.offsets.length ++ pool.offsets.flatMap Bytes.ofWord32 ++
    Bytes.ofNat32 pool.data.length ++ pool.data

/-- The form in memory of a pool with these entries. -/
def ofPool (pool : StringPool) : StoredPool :=
  ⟨pool.data, (StringPool.offsetsFrom 0 pool.entries).map UInt32.ofNat⟩

/-- The pool without entries. -/
def empty : StoredPool :=
  ⟨[], []⟩

/-- Adds a text behind the entries unless it is one of them, and returns the index of its first entry. -/
def add (pool : StoredPool) (text : String) : UInt32 × StoredPool :=
  let entry := Bytes.ofText text
  let isEntry (index : Nat) : Bool := pool.bytesOf index = some (some entry)
  match (List.range pool.offsets.length).find? isEntry with
  | some index => (UInt32.ofNat index, pool)
  | none =>
      (UInt32.ofNat pool.offsets.length,
        ⟨pool.data ++ StringPool.terminated entry, pool.offsets ++ [UInt32.ofNat pool.data.length]⟩)

/-- The pool after texts have been added one after the other. -/
def addAll (pool : StoredPool) (texts : List String) : StoredPool :=
  texts.foldl (fun pool text => (pool.add text).2) pool

variable {data : Bytes} {start : Nat} {offsets : List UInt32}

/-! ## What the check of the layout decides -/

/-- No offset lies in front of the first one. -/
theorem Delimits.le_toNat
    (delimits : Delimits data start offsets)
    {offset : UInt32}
    (present : offset ∈ offsets) :
    start ≤ offset.toNat := by
  induction offsets generalizing start with
  | nil => nomatch present
  | cons first rest inductionHypothesis =>
      obtain ⟨rfl, before, _, _, later⟩ := delimits
      rcases List.mem_cons.mp present with rfl | behind
      · exact Nat.le_refl _
      · exact Nat.le_of_lt (Nat.lt_of_lt_of_le before (inductionHypothesis later behind))

theorem Delimits.partitions (delimits : Delimits data start offsets) :
    Partitions data start offsets := by
  induction offsets generalizing start with
  | nil =>
      obtain rfl : start = data.length := delimits
      exact ⟨nofun, List.Pairwise.nil, nofun, List.drop_length.symm⟩
  | cons offset rest inductionHypothesis =>
      obtain ⟨rfl, before, within, zero, later⟩ := delimits
      obtain ⟨_, increasing, terminated, covers⟩ := inductionHypothesis later
      constructor
      · intro first same
        rw [Option.some.inj same]
      · refine List.pairwise_cons.mpr ⟨?_, increasing⟩
        intro other behind
        exact UInt32.lt_iff_toNat_lt.mpr (Nat.lt_of_lt_of_le before (later.le_toNat behind))
      · refine List.forall_mem_cons.mpr ⟨?_, terminated⟩
        rw [getLast?_window before within, zero]
      · have width : data.drop (finishOf data rest.head?) =
            (data.drop offset.toNat).drop (finishOf data rest.head? - offset.toNat) := by
          rw [List.drop_drop, Nat.add_sub_cancel' (Nat.le_of_lt before)]
        rw [segments, List.flatten_cons, covers, width, List.take_append_drop]

/-- A segment with a last byte lies inside the data. -/
theorem lt_of_getLast?_segment
    {finish : Nat}
    {byte : UInt8}
    (last : ((data.drop start).take (finish - start)).getLast? = some byte) :
    start < finish ∧ start < data.length := by
  have nonempty : (data.drop start).take (finish - start) ≠ [] := by
    intro nothing
    rw [nothing] at last
    nomatch last
  rw [← List.length_pos_iff, List.length_take, List.length_drop] at nonempty
  omega

theorem Partitions.delimits
    (partitions : Partitions data start offsets)
    (inside : start ≤ data.length) :
    Delimits data start offsets := by
  induction offsets generalizing start with
  | nil =>
      have nothing : data.drop start = [] := partitions.covers.symm
      exact Nat.le_antisymm inside (List.drop_eq_nil_iff.mp nothing)
  | cons offset rest inductionHypothesis =>
      obtain ⟨starts, increasing, terminated, covers⟩ := partitions
      obtain rfl := starts offset rfl
      obtain ⟨zero, terminatedLater⟩ := List.forall_mem_cons.mp terminated
      obtain ⟨before, _⟩ := lt_of_getLast?_segment zero
      -- The segment ends at the end or where the next one, which is not empty, starts.
      have within : finishOf data rest.head? ≤ data.length := by
        cases rest with
        | nil => exact Nat.le_refl _
        | cons next later =>
            have next := (List.forall_mem_cons.mp terminatedLater).1
            exact Nat.le_of_lt (lt_of_getLast?_segment next).2
      rw [getLast?_window before within] at zero
      refine ⟨rfl, before, within, zero, inductionHypothesis ⟨?_, ?_, terminatedLater, ?_⟩ within⟩
      · intro next first
        rw [Option.mem_def.mp first]
        rfl
      · exact (List.pairwise_cons.mp increasing).2
      · rw [segments, List.flatten_cons] at covers
        have split := (List.take_append_drop (finishOf data rest.head? - offset.toNat)
          (data.drop offset.toNat)).symm
        rw [List.drop_drop, Nat.add_sub_cancel' (Nat.le_of_lt before)] at split
        exact List.append_cancel_left (covers.trans split)

theorem isWellFormed_iff {pool : StoredPool} :
    pool.IsWellFormed ↔ Delimits pool.data 0 pool.offsets ∧
      pool.offsets.length < 2 ^ 32 ∧ pool.data.length < 2 ^ 32 := by
  constructor
  · intro wellFormed
    exact ⟨wellFormed.layout.delimits (Nat.zero_le _), wellFormed.few, wellFormed.short⟩
  · rintro ⟨delimits, few, short⟩
    exact ⟨delimits.partitions, few, short⟩

/-- Every segment takes at least a byte. -/
theorem Delimits.length_le (delimits : Delimits data start offsets) :
    start + offsets.length ≤ data.length := by
  induction offsets generalizing start with
  | nil =>
      obtain rfl : start = data.length := delimits
      exact Nat.le_refl _
  | cons offset rest inductionHypothesis =>
      obtain ⟨rfl, before, _, _, later⟩ := delimits
      have behind := inductionHypothesis later
      rw [List.length_cons]
      omega

/-! ## What is accepted -/

theorem length_serialize (pool : StoredPool) :
    pool.serialize.length = 8 + 4 * pool.offsets.length + pool.data.length := by
  have words : (pool.offsets.flatMap Bytes.ofWord32).length = 4 * pool.offsets.length := by
    simp [List.length_flatMap, List.map_const', Nat.mul_comm]
  simp only [serialize, List.length_append, words, Bytes.length_ofNat32]
  omega

theorem IsWellFormed.isAddressable
    {pool : StoredPool}
    (wellFormed : pool.IsWellFormed) :
    pool.serialize.IsAddressable := by
  have few := wellFormed.few
  have short := wellFormed.short
  rw [Bytes.IsAddressable, length_serialize]
  omega

/-- The parts that are read from bytes are those that the bytes store. -/
theorem serialize_of_readParts
    {bytes : Bytes}
    (gives : (readParts.on bytes).Gives (.ok (offsets, data))) :
    serialize ⟨data, offsets⟩ = bytes ∧ offsets.length < 2 ^ 32 ∧ data.length < 2 ^ 32 := by
  obtain ⟨outcome, gives, first⟩ := Access.gives_of_map gives
  obtain ⟨⟨_, next⟩, rfl, rfl⟩ := Outcome.map_eq_ok_iff.mp first
  obtain ⟨count, _, counted, gives⟩ := Cursor.gives_bind_ok_iff.mp gives
  obtain ⟨offsets, _, cut, gives⟩ := Cursor.gives_bind_ok_iff.mp gives
  obtain ⟨length, _, measured, gives⟩ := Cursor.gives_bind_ok_iff.mp gives
  obtain ⟨data, _, taken, gives⟩ := Cursor.gives_bind_ok_iff.mp gives
  obtain ⟨_, _, finished, gives⟩ := Cursor.gives_bind_ok_iff.mp gives
  obtain ⟨equal, _⟩ := Cursor.gives_pure_ok_iff.mp gives
  obtain ⟨rfl, rfl⟩ := Prod.mk.inj equal
  have front := Cursor.passesOver_word32 _ _ _ _ counted
  obtain ⟨many, middle⟩ := Cursor.passesOver_word32.times cut
  have width := Cursor.passesOver_word32 _ _ _ _ measured
  obtain ⟨long, rest⟩ := Cursor.of_take_gives taken
  have few := count.toNat_lt
  have short := length.toNat_lt
  have nothing := Cursor.of_finish_gives finished
  have sameCount : Bytes.ofNat32 count.toNat = Bytes.ofWord32 count :=
    congrArg Bytes.ofWord32 UInt32.ofNat_toNat
  have sameLength : Bytes.ofNat32 length.toNat = Bytes.ofWord32 length :=
    congrArg Bytes.ofWord32 UInt32.ofNat_toNat
  rw [List.drop_zero] at front
  rw [serialize, many, long, sameCount, sameLength, front, middle, width, rest, nothing, List.append_nil]
  simp only [List.append_assoc]
  exact ⟨trivial, few, short⟩

theorem readParts_serialize
    {pool : StoredPool}
    (wellFormed : pool.IsWellFormed) :
    (readParts.on pool.serialize).Gives (.ok (pool.offsets, pool.data)) := by
  have read : StringPool.readParts.on pool.serialize =
      .ok (pool.offsets.map UInt32.toNat, pool.data) :=
    ByteReader.on_eq_ok_iff.mpr ⟨_, StringPool.readParts_stored wellFormed.few wellFormed.short⟩
  have follows := follows_readParts.on wellFormed.isAddressable
  rw [Cursor.on_map, read] at follows
  obtain ⟨outcome, gives, same⟩ := Access.gives_of_map follows
  obtain ⟨⟨offsets, data⟩, rfl, equal⟩ := Outcome.map_eq_ok_iff.mp same
  obtain ⟨sameOffsets, rfl⟩ := Prod.mk.inj equal
  obtain rfl := List.map_injective_iff.mpr (fun _ _ => UInt32.toNat_inj.mp) sameOffsets
  exact gives

theorem deserialize_gives_ok_iff {bytes : Bytes} {pool : StoredPool} :
    (deserialize bytes).Gives (.ok pool) ↔ pool.serialize = bytes ∧ pool.IsWellFormed := by
  constructor
  · intro gives
    obtain ⟨⟨offsets, data⟩, parts, gives⟩ := Access.gives_bind_ok_iff.mp gives
    obtain ⟨_, checked, gives⟩ := Access.gives_bind_ok_iff.mp gives
    obtain rfl := Access.gives_pure_ok_iff.mp gives
    obtain ⟨stored, few, short⟩ := serialize_of_readParts parts
    have delimits : Delimits data 0 offsets := by
      by_contra misfit
      have refused := check_gives data 0 offsets
      rw [if_neg misfit] at refused
      nomatch checked.symm.trans refused
    exact ⟨stored, isWellFormed_iff.mpr ⟨delimits, few, short⟩⟩
  · rintro ⟨rfl, wellFormed⟩
    have checked := check_gives pool.data 0 pool.offsets
    rw [if_pos (isWellFormed_iff.mp wellFormed).1] at checked
    exact (readParts_serialize wellFormed).bind_ok (checked.bind_ok (Access.gives_pure _))

/-! ## The entries of a pool of this layout -/

theorem length_offsets_ofPool (pool : StringPool) : (ofPool pool).offsets.length = pool.size := by
  rw [ofPool, List.length_map, StringPool.length_offsetsFrom]
  rfl

theorem serialize_ofPool (pool : StringPool) : (ofPool pool).serialize = pool.encode := by
  have words : ((StringPool.offsetsFrom 0 pool.entries).map UInt32.ofNat).flatMap Bytes.ofWord32 =
      (StringPool.offsetsFrom 0 pool.entries).flatMap Bytes.ofNat32 :=
    List.flatMap_map _ _ _
  rw [serialize, length_offsets_ofPool, StringPool.encode, ← words]
  rfl

/-- The offsets of entries cut their data into the entries. -/
theorem delimits_ofPool
    {pool : StringPool}
    (short : pool.data.length < 2 ^ 32) :
    Delimits pool.data 0 (ofPool pool).offsets ∧ cut pool.data (ofPool pool).offsets = pool.entries := by
  have numbers : (ofPool pool).offsets.map UInt32.toNat = StringPool.offsetsFrom 0 pool.entries := by
    apply StringPool.map_toNat_map_ofNat
    intro offset present
    have before := StringPool.lt_of_mem_offsetsFrom present
    rw [StringPool.data] at short
    omega
  have found : StringPool.segments? 0 (StringPool.offsetsFrom 0 pool.entries) pool.data =
      some pool.entries :=
    StringPool.segments?_offsetsFrom 0 pool.entries
  have segments : StringPool.segments? 0 ((ofPool pool).offsets.map UInt32.toNat) pool.data =
      if Delimits pool.data 0 (ofPool pool).offsets then
        some (cut pool.data (ofPool pool).offsets)
      else none :=
    segments?_eq (Nat.zero_le _)
  rw [numbers, found] at segments
  by_cases delimits : Delimits pool.data 0 (ofPool pool).offsets
  · rw [if_pos delimits] at segments
    exact ⟨delimits, (Option.some.inj segments).symm⟩
  · rw [if_neg delimits] at segments
    exact absurd segments (Option.some_ne_none _)

theorem isWellFormed_ofPool
    {pool : StringPool}
    (short : pool.data.length < 2 ^ 32) :
    (ofPool pool).IsWellFormed := by
  obtain ⟨delimits, _⟩ := delimits_ofPool short
  have few := delimits.length_le
  exact isWellFormed_iff.mpr ⟨delimits, by omega, short⟩

theorem toPool_ofPool
    {pool : StringPool}
    (short : pool.data.length < 2 ^ 32) :
    (ofPool pool).toPool = pool :=
  congrArg StringPool.mk (delimits_ofPool short).2

/-- Each segment is the entry at its offset with a zero byte. -/
theorem Delimits.segments_eq (delimits : Delimits data start offsets) :
    segments data offsets = (cut data offsets).map StringPool.terminated := by
  induction offsets generalizing start with
  | nil => rfl
  | cons offset rest inductionHypothesis =>
      obtain ⟨rfl, before, within, zero, later⟩ := delimits
      have entry := unterminated?_window before within
      rw [if_pos zero] at entry
      rw [segments, cut, List.map_cons, inductionHypothesis later,
        StringPool.eq_terminated_of_unterminated? entry]

theorem Delimits.offsetsFrom_cut (delimits : Delimits data start offsets) :
    StringPool.offsetsFrom start (cut data offsets) = offsets.map UInt32.toNat := by
  induction offsets generalizing start with
  | nil => rfl
  | cons offset rest inductionHypothesis =>
      obtain ⟨rfl, before, within, _, later⟩ := delimits
      have width : offset.toNat +
          ((data.drop offset.toNat).take (finishOf data rest.head? - 1 - offset.toNat)).length + 1 =
            finishOf data rest.head? := by
        rw [length_window (by omega)]
        omega
      rw [cut, StringPool.offsetsFrom, width, inductionHypothesis later, List.map_cons]

/-- A pool of this layout is that of its entries. -/
theorem IsWellFormed.ofPool_toPool
    {pool : StoredPool}
    (wellFormed : pool.IsWellFormed) :
    ofPool pool.toPool = pool := by
  obtain ⟨delimits, _, _⟩ := isWellFormed_iff.mp wellFormed
  have data : pool.toPool.data = pool.data := by
    rw [StringPool.data, toPool, List.flatMap_def, ← delimits.segments_eq]
    exact wellFormed.layout.covers
  have offsets : (StringPool.offsetsFrom 0 pool.toPool.entries).map UInt32.ofNat = pool.offsets := by
    rw [toPool, delimits.offsetsFrom_cut, List.map_map]
    exact (List.map_congr_left fun _ _ => UInt32.ofNat_toNat).trans (List.map_id _)
  rw [ofPool, data, offsets]

/-! ## Reading the entries -/

/-- Bytes that are read are no more than the sizes in them allow. -/
theorem isAddressable_of_decode
    {bytes : Bytes}
    {pool : StringPool}
    (read : StringPool.decode bytes = .ok pool) :
    bytes.IsAddressable := by
  obtain ⟨⟨numbers, data⟩, parts, _⟩ := Outcome.bind_eq_ok_iff.mp read
  obtain ⟨offsets, _, few, short, stored⟩ := StringPool.stored_of_readParts parts
  have length := length_serialize ⟨data, offsets⟩
  rw [serialize, ← stored] at length
  rw [Bytes.IsAddressable, length]
  dsimp only
  omega

/-- Reading gives the entries of the pool that is accepted. -/
theorem decode_eq_ok_iff {bytes : Bytes} {pool : StringPool} :
    StringPool.decode bytes = .ok pool ↔ (deserialize bytes).Gives (.ok (ofPool pool)) := by
  constructor
  · intro read
    obtain ⟨outcome, gives, same, _⟩ := deserialize_gives (isAddressable_of_decode read)
    obtain ⟨accepted, rfl, rfl⟩ := Outcome.map_eq_ok_iff.mp (same.symm.trans read)
    rw [(deserialize_gives_ok_iff.mp gives).2.ofPool_toPool]
    exact gives
  · intro gives
    obtain ⟨rfl, wellFormed⟩ := deserialize_gives_ok_iff.mp gives
    obtain ⟨outcome, given, same, _⟩ := deserialize_gives wellFormed.isAddressable
    obtain rfl : outcome = .ok (ofPool pool) := Option.some.inj (given.symm.trans gives)
    rw [same, Except.map, toPool_ofPool wellFormed.short]

/-! ## Adding texts -/

@[simp] theorem addAll_cons
    (pool : StoredPool)
    (text : String)
    (texts : List String) :
    pool.addAll (text :: texts) = (pool.add text).2.addAll texts := rfl

/-- Looking through the indices of a complete pool finds the first index of an entry. -/
theorem IsComplete.find?_range_eq
    {pool : StoredPool}
    (complete : pool.IsComplete)
    (entry : Bytes) :
    (List.range pool.offsets.length).find? (fun index => pool.bytesOf index = some (some entry)) =
      pool.toPool.entries.findIdx? (· = entry) := by
  have size : pool.toPool.entries.length = pool.offsets.length := length_cut pool.data pool.offsets
  have same : ∀ index, (pool.bytesOf index = some (some entry)) =
      (pool.toPool.entries[index]? = some entry) := by
    intro index
    rw [complete index, Option.some.injEq]
  simp only [same, ← size]
  cases found : pool.toPool.entries.findIdx? (· = entry) with
  | none =>
      have absent := List.findIdx?_eq_none_iff.mp found
      rw [List.find?_range_eq_none]
      intro index inside
      simp only [List.getElem?_eq_getElem inside, Option.some.injEq]
      rw [absent _ (List.getElem_mem inside), Bool.not_false]
  | some index =>
      obtain ⟨bound, equal, before⟩ := List.findIdx?_eq_some_iff_getElem.mp found
      rw [List.find?_range_eq_some]
      simp only [List.getElem?_eq_getElem bound, Option.some.injEq]
      refine ⟨equal, List.mem_range.mpr bound, ?_⟩
      intro earlier inFront
      simp only [List.getElem?_eq_getElem (Nat.lt_trans inFront bound), Option.some.injEq]
      simpa using before earlier inFront

/-- A further entry puts its offset and its bytes behind the others. -/
theorem ofPool_append_singleton (entries : List Bytes) (entry : Bytes) :
    ofPool ⟨entries ++ [entry]⟩ =
      ⟨(ofPool ⟨entries⟩).data ++ StringPool.terminated entry,
        (ofPool ⟨entries⟩).offsets ++ [UInt32.ofNat (ofPool ⟨entries⟩).data.length]⟩ := by
  simp only [ofPool, StringPool.data, StringPool.offsetsFrom_append_singleton, List.flatMap_append,
    List.flatMap_singleton, List.map_append, List.map_singleton, Nat.zero_add]

/-- Every entry of a short pool can be looked up. -/
theorem isComplete_ofPool
    {pool : StringPool}
    (short : pool.data.length < 2 ^ 32) :
    (ofPool pool).IsComplete := by
  have wellFormed := isWellFormed_ofPool short
  exact isComplete_of_delimits wellFormed.few (isWellFormed_iff.mp wellFormed).1

theorem add_ofPool
    {pool : StringPool}
    (short : pool.data.length < 2 ^ 32)
    (text : String) :
    (ofPool pool).add text = ((pool.add text).1, ofPool (pool.add text).2) := by
  -- All entries can be looked up, so the indices are searched like the entries themselves.
  have found := IsComplete.find?_range_eq (isComplete_ofPool short) (Bytes.ofText text)
  rw [toPool_ofPool short] at found
  rw [add, found, StringPool.add]
  cases pool.entries.findIdx? (· = Bytes.ofText text) with
  | some index => rfl
  | none =>
      rw [length_offsets_ofPool, ofPool_append_singleton]

theorem length_data_le_add (pool : StoredPool) (text : String) :
    pool.data.length ≤ (pool.add text).2.data.length := by
  unfold add
  dsimp only
  split
  · exact Nat.le_refl _
  · exact Nat.le_trans (Nat.le_add_right _ _) (Nat.le_of_eq List.length_append.symm)

/-- Adding texts does not shorten the data. -/
theorem length_data_le_addAll (pool : StoredPool) (texts : List String) :
    pool.data.length ≤ (pool.addAll texts).data.length := by
  induction texts generalizing pool with
  | nil => exact Nat.le_refl _
  | cons text rest inductionHypothesis =>
      exact Nat.le_trans (length_data_le_add pool text) (inductionHypothesis (pool.add text).2)

theorem addAll_ofPool
    {pool : StringPool}
    {texts : List String}
    (short : ((ofPool pool).addAll texts).data.length < 2 ^ 32) :
    (ofPool pool).addAll texts = ofPool (pool.addAll texts) := by
  induction texts generalizing pool with
  | nil => rfl
  | cons text rest inductionHypothesis =>
      have now : pool.data.length < 2 ^ 32 :=
        Nat.lt_of_le_of_lt (length_data_le_addAll (ofPool pool) (text :: rest)) short
      rw [addAll_cons, add_ofPool now] at short ⊢
      exact inductionHypothesis short

/-! ## The accepted pools -/

/--
A stored pool is accepted exactly if it is the stored form of a pool of the layout, and the pools that texts
are added to have it while their data stays below the size of a word.  The same holds of pools as lists of
entries: they are read when their form in memory is accepted, and stored and added to in the same way.
-/
theorem deserialize_accepts_exactly :
    (∀ (bytes : Bytes) (pool : StoredPool),
      (deserialize bytes).Gives (.ok pool) ↔ pool.serialize = bytes ∧ pool.IsWellFormed) ∧
    (∀ texts : List String, (empty.addAll texts).data.length < 2 ^ 32 →
      (empty.addAll texts).IsWellFormed ∧
        empty.addAll texts = ofPool (StringPool.empty.addAll texts)) ∧
    (∀ (bytes : Bytes) (pool : StringPool),
      StringPool.decode bytes = .ok pool ↔ (deserialize bytes).Gives (.ok (ofPool pool))) ∧
    ∀ pool : StringPool, pool.encode = (ofPool pool).serialize := by
  refine ⟨fun _ _ => deserialize_gives_ok_iff, ?_, fun _ _ => decode_eq_ok_iff, ?_⟩
  · intro texts short
    have start : empty = ofPool StringPool.empty := rfl
    rw [start] at short ⊢
    have same := addAll_ofPool short
    rw [same] at short ⊢
    exact ⟨isWellFormed_ofPool short, rfl⟩
  · intro pool
    exact (serialize_ofPool pool).symm

theorem addAll_repeated_isWellFormed :
    empty.addAll ["a", "", "a"] = ⟨[97, 0, 0], [0, 2]⟩ ∧
      (empty.addAll ["a", "", "a"]).data.length < 2 ^ 32 ∧
      (empty.addAll ["a", "", "a"]).IsWellFormed := by
  have added : empty.addAll ["a", "", "a"] = ⟨[97, 0, 0], [0, 2]⟩ := by decide +kernel
  have short : (empty.addAll ["a", "", "a"]).data.length < 2 ^ 32 := by
    rw [added]
    decide
  exact ⟨added, short, (deserialize_accepts_exactly.2.1 ["a", "", "a"] short).1⟩

end StoredPool
end LateBinding
