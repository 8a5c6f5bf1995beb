import LateBinding.Module.StringPool
import LateBinding.Proofs.Bytes.Access
import LateBinding.Proofs.Bytes.Reading
import LateBinding.Proofs.Module.StringPool
import Mathlib.Data.List.Basic

/-!
# Pools by offset

In memory a pool is one byte string and the offset of each entry in it.  What is checked when a stored pool
is read is just what later look-ups rely on: all entries of an accepted pool are there.
-/

namespace LateBinding

/-- A pool in memory. -/
structure StoredPool where
  /-- The entries with a zero byte behind each. -/
  data : Bytes
  /-- The offset of each entry. -/
  offsets : List UInt32
  deriving DecidableEq, Repr

namespace StoredPool

/-- The position behind the zero byte of an entry: the offset of the next entry, or the end. -/
def finishOf (data : Bytes) (next : Option UInt32) : Nat :=
  match next with
  | some offset => offset.toNat
  | none => data.length

/-- The bytes of the entry at an offset; an entry takes at least its zero byte. -/
def entryAt (data : Bytes) (offset : UInt32) (next : Option UInt32) : Option (Option Bytes) :=
  let finish := finishOf data next
  if finish ≤ offset.toNat ∨ data.length < finish then some none
  else do
    let last ← Access.difference? finish 1
    let entry ← data.window? offset.toNat last
    return some entry

/-- The bytes of an index. -/
def bytesOf (pool : StoredPool) (index : Nat) : Option (Option Bytes) :=
  match pool.offsets[index]? with
  | none => some none
  | some offset => do
      let next ← Access.sum? index 1
      entryAt pool.data offset pool.offsets[next]?

/-- The text of an index. -/
def get (pool : StoredPool) (index : UInt32) : Option (Option String) := do
  return (← pool.bytesOf index.toNat).bind Bytes.text?

/-- The text of an index, which must be there. -/
def resolve (pool : StoredPool) (index : UInt32) : Cursor TableError String := do
  Cursor.require (.invalidStringIndex index) (← pool.get index)

/-- Asks that entries lie one after the other from a position on, each with a zero byte at its end. -/
def check (data : Bytes) (start : Nat) : List UInt32 → Access TableError Unit
  | [] => if start = data.length then return () else throw .invalidSize
  | offset :: rest =>
      let finish := finishOf data rest.head?
      if offset.toNat ≠ start ∨ finish ≤ offset.toNat ∨ data.length < finish then
        throw .invalidSize
      else do
        let last ← Access.difference? finish 1
        let byte ← data.byte? last
        if byte ≠ 0 then throw .invalidSize
        else check data finish rest

/-- The offsets and the data of a stored pool. -/
def readParts : Cursor TableError (List UInt32 × Bytes) := do
  let count ← Cursor.word32
  let offsets ← Cursor.word32.times count.toNat
  let length ← Cursor.word32
  let data ← Cursor.take length.toNat
  Cursor.finish
  return (offsets, data)

/-- The pool of its stored form. -/
def deserialize (bytes : Bytes) : Access TableError StoredPool := do
  let (offsets, data) ← readParts.on bytes
  check data 0 offsets
  return ⟨data, offsets⟩

/-- The entries between the offsets, without their zero bytes. -/
def cut (data : Bytes) : List UInt32 → List Bytes
  | [] => []
  | offset :: rest =>
      (data.drop offset.toNat).take (finishOf data rest.head? - 1 - offset.toNat) :: cut data rest

/-- The pool of the entries. -/
def toPool (pool : StoredPool) : StringPool :=
  ⟨cut pool.data pool.offsets⟩

/-- Entries lie one after the other from a position on, each with a zero byte at its end. -/
def Delimits (data : Bytes) (start : Nat) : List UInt32 → Prop
  | [] => start = data.length
  | offset :: rest =>
      offset.toNat = start ∧ start < finishOf data rest.head? ∧
        finishOf data rest.head? ≤ data.length ∧
        data[finishOf data rest.head? - 1]? = some 0 ∧
        Delimits data (finishOf data rest.head?) rest

instance decidableDelimits (data : Bytes) :
    ∀ (start : Nat) (offsets : List UInt32), Decidable (Delimits data start offsets)
  | start, [] => inferInstanceAs (Decidable (start = data.length))
  | start, offset :: rest =>
      have := decidableDelimits data (finishOf data rest.head?) rest
      inferInstanceAs (Decidable (offset.toNat = start ∧ start < finishOf data rest.head? ∧
        finishOf data rest.head? ≤ data.length ∧
        data[finishOf data rest.head? - 1]? = some 0 ∧
        Delimits data (finishOf data rest.head?) rest))

variable {data : Bytes} {start finish : Nat} {offset : UInt32} {offsets rest : List UInt32}

/-! ## What the check decides -/

/-- Behind an entry that lies inside the data it is left to ask for its zero byte and the entries after it. -/
theorem delimits_cons_iff
    (before : offset.toNat < finishOf data rest.head?)
    (within : finishOf data rest.head? ≤ data.length) :
    Delimits data offset.toNat (offset :: rest) ↔
      data[finishOf data rest.head? - 1]? = some 0 ∧
        Delimits data (finishOf data rest.head?) rest := by
  simp only [Delimits, before, within, true_and]

/-- The check looks at the last byte of a segment only when the segment lies inside the data. -/
theorem check_gives
    (data : Bytes)
    (start : Nat)
    (offsets : List UInt32) :
    (check data start offsets).Gives
      (if Delimits data start offsets then .ok () else .error .invalidSize) := by
  induction offsets generalizing start with
  | nil =>
      rw [check]
      by_cases complete : start = data.length
      · have delimits : Delimits data start [] := complete
        rw [if_pos complete, if_pos delimits]
        exact Access.gives_pure ()
      · have overlaps : ¬ Delimits data start [] := complete
        rw [if_neg complete, if_neg overlaps]
        exact Access.gives_throw _
  | cons offset rest inductionHypothesis =>
      rw [check]
      split
      · next outside =>
        rw [if_neg fun delimits => ?_]
        · exact Access.gives_throw _
        · obtain ⟨same, before, inside, _⟩ := delimits
          omega
      · next inside =>
        have there : finishOf data rest.head? - 1 < data.length := by omega
        refine (Access.gives_of_some (if_pos (by omega))).bind_ok ?_
        refine (Access.gives_of_some (List.getElem?_eq_getElem there)).bind_ok ?_
        rw [not_or, not_or, ne_eq, not_not, Nat.not_le, Nat.not_lt] at inside
        obtain ⟨rfl, before, within⟩ := inside
        have same := delimits_cons_iff before within
        rw [List.getElem?_eq_getElem there, Option.some.injEq] at same
        by_cases zero : data[finishOf data rest.head? - 1] = 0
        · rw [if_neg (not_not.mpr zero)]
          simp only [same, zero, true_and]
          exact inductionHypothesis (finishOf data rest.head?)
        · rw [if_pos zero]
          simp only [same, zero, false_and, if_false]
          exact Access.gives_throw _

theorem length_window
    (inside : finish ≤ data.length) :
    ((data.drop start).take (finish - start)).length = finish - start := by
  rw [List.length_take, List.length_drop]
  omega

theorem getLast?_window
    (before : start < finish)
    (inside : finish ≤ data.length) :
    ((data.drop start).take (finish - start)).getLast? = data[finish - 1]? := by
  rw [List.getLast?_eq_getElem?, length_window inside, List.getElem?_take_of_lt (by omega),
    List.getElem?_drop]
  congr 1
  omega

/-- A segment that ends with a zero byte has the entry in front of it. -/
theorem unterminated?_window
    (before : start < finish)
    (inside : finish ≤ data.length) :
    StringPool.unterminated? ((data.drop start).take (finish - start)) =
      if data[finish - 1]? = some 0 then some ((data.drop start).take (finish - 1 - start))
      else none := by
  rw [StringPool.unterminated?, getLast?_window before inside, List.dropLast_eq_take,
    length_window inside, List.take_take, Nat.min_eq_left (by omega)]
  have front : finish - start - 1 = finish - 1 - start := by omega
  rw [front]

/-- The first segment ends where the next one starts, or at the end of the data. -/
theorem segments?_cons (inside : start ≤ data.length) :
    StringPool.segments? start ((offset :: rest).map UInt32.toNat) (data.drop start) =
      if offset.toNat = start ∧ start < finishOf data rest.head? ∧
          finishOf data rest.head? ≤ data.length then do
        let entry ← StringPool.unterminated?
          ((data.drop start).take (finishOf data rest.head? - start))
        let later ← StringPool.segments? (finishOf data rest.head?) (rest.map UInt32.toNat)
          (data.drop (finishOf data rest.head?))
        return entry :: later
      else none := by
  by_cases first : offset.toNat = start
  · subst first
    cases rest with
    | nil =>
        have whole : (data.drop offset.toNat).take (data.length - offset.toNat) =
            data.drop offset.toNat :=
          List.take_of_length_le (List.length_drop ▸ Nat.le_refl _)
        simp only [List.map_cons, List.map_nil, StringPool.segments?, finishOf, List.head?_nil, whole,
          List.drop_length, List.isEmpty_nil, if_true]
        by_cases before : offset.toNat < data.length
        · simp only [before, Nat.le_refl, and_self, if_true]
          cases StringPool.unterminated? (data.drop offset.toNat) <;> rfl
        · have empty : data.drop offset.toNat = [] := List.drop_of_length_le (by omega)
          simp [before, empty, StringPool.unterminated?]
    | cons next further =>
        simp only [List.map_cons, StringPool.segments?, finishOf, List.head?_cons, decide_true,
          Bool.true_and, Bool.and_eq_true, decide_eq_true_eq, List.length_drop, List.drop_drop, true_and]
        by_cases before : offset.toNat < next.toNat
        · have sameBound : next.toNat - offset.toNat ≤ data.length - offset.toNat ↔
              next.toNat ≤ data.length := by
            omega
          simp only [Nat.add_sub_cancel' (Nat.le_of_lt before), sameBound]
        · simp [before]
  · cases rest with
    | nil => simp [StringPool.segments?, first]
    | cons next further => simp [StringPool.segments?, first]

/-- The segments of a stored pool are the entries between its offsets. -/
theorem segments?_eq (inside : start ≤ data.length) :
    StringPool.segments? start (offsets.map UInt32.toNat) (data.drop start) =
      if Delimits data start offsets then some (cut data offsets) else none := by
  induction offsets generalizing start with
  | nil =>
      have complete : data.length ≤ start ↔ Delimits data start [] := by
        simp only [Delimits]
        omega
      simp only [List.map_nil, StringPool.segments?, List.isEmpty_iff, List.drop_eq_nil_iff, complete]
      rfl
  | cons offset rest inductionHypothesis =>
      rw [segments?_cons inside]
      split
      · next fits =>
        obtain ⟨rfl, before, within⟩ := fits
        simp only [unterminated?_window before within, inductionHypothesis within,
          delimits_cons_iff before within]
        by_cases zero : data[finishOf data rest.head? - 1]? = some 0
        · simp only [zero, if_true, true_and]
          split <;> rfl
        · simp only [zero, if_false, false_and]
          rfl
      · next misfit =>
        have outside : ¬ Delimits data start (offset :: rest) := fun delimits =>
          misfit ⟨delimits.1, delimits.2.1, delimits.2.2.1⟩
        rw [if_neg outside]

/-! ## Look-ups in an accepted pool -/

/-- Every look-up comes to the entry of the index, or finds that there is none. -/
def IsComplete (pool : StoredPool) : Prop :=
  ∀ index, pool.bytesOf index = some pool.toPool.entries[index]?

theorem length_cut (data : Bytes) (offsets : List UInt32) :
    (cut data offsets).length = offsets.length := by
  induction offsets with
  | nil => rfl
  | cons offset rest inductionHypothesis => rw [cut, List.length_cons, inductionHypothesis]; rfl

theorem IsComplete.get_eq
    {pool : StoredPool}
    (complete : pool.IsComplete)
    (index : UInt32) :
    pool.get index = some (pool.toPool.get? index) := by
  unfold get
  rw [complete index.toNat]
  rfl

/-- The texts of a complete pool are those of its entries. -/
theorem IsComplete.follows_resolve
    {pool : StoredPool}
    (complete : pool.IsComplete)
    (index : UInt32) :
    Cursor.Follows (pool.resolve index) (pool.toPool.reader index) := by
  unfold resolve
  rw [complete.get_eq index]
  exact Cursor.follows_require _ _

/-- A complete pool has the bytes of an entry for each of its indices. -/
theorem IsComplete.bytesOf_eq_some
    {pool : StoredPool}
    (complete : pool.IsComplete)
    {index : Nat}
    (inside : index < pool.offsets.length) :
    ∃ entry, pool.bytesOf index = some (some entry) ∧ pool.toPool.entries[index]? = some entry := by
  rw [← length_cut pool.data pool.offsets] at inside
  have there : pool.toPool.entries[index]? = some _ := List.getElem?_eq_getElem inside
  exact ⟨_, (complete index).trans (congrArg some there), there⟩

/-- Between offsets that delimit the data each entry lies inside the data. -/
theorem entryAt_of_delimits
    (delimits : Delimits data start offsets)
    {index : Nat}
    (there : offsets[index]? = some offset) :
    entryAt data offset offsets[index + 1]? = some (cut data offsets)[index]? := by
  induction offsets generalizing start index with
  | nil => nomatch there
  | cons first rest inductionHypothesis =>
      obtain ⟨rfl, before, within, _, later⟩ := delimits
      cases index with
      | zero =>
          obtain rfl := Option.some.inj there
          have next : (first :: rest)[0 + 1]? = rest.head? := List.head?_eq_getElem?.symm
          have last : Access.difference? (finishOf data rest.head?) 1 =
              some (finishOf data rest.head? - 1) :=
            if_pos (by omega)
          have entry : data.window? first.toNat (finishOf data rest.head? - 1) =
              some ((data.drop first.toNat).take (finishOf data rest.head? - 1 - first.toNat)) :=
            if_pos (by omega)
          -- The segment is not empty, since it ends with a zero byte.
          rw [next, entryAt, if_neg (by omega), last, Option.bind_eq_bind, Option.bind_some, entry]
          rfl
      | succ index => exact inductionHypothesis later there

/-- All look-ups in a pool with delimited entries come to an end. -/
theorem isComplete_of_delimits
    (few : offsets.length < 2 ^ 32)
    (delimits : Delimits data start offsets) :
    IsComplete ⟨data, offsets⟩ := by
  intro index
  change bytesOf ⟨data, offsets⟩ index = some (cut data offsets)[index]?
  unfold bytesOf
  match there : offsets[index]? with
  | none =>
      rw [List.getElem?_eq_none_iff] at there
      rw [List.getElem?_eq_none (Nat.le_trans (Nat.le_of_eq (length_cut data offsets)) there)]
  | some offset =>
      obtain ⟨inside, _⟩ := List.getElem?_eq_some_iff.mp there
      have next : Access.sum? index 1 = some (index + 1) := if_pos (by omega)
      rw [next]
      exact entryAt_of_delimits delimits there

/-! ## Reading a stored pool -/

/-- The offsets and the data are those that are read from the front. -/
theorem follows_readParts :
    Cursor.Follows ((fun parts => (parts.1.map UInt32.toNat, parts.2)) <$> readParts)
      StringPool.readParts := by
  unfold readParts
  simp only [map_bind, map_pure]
  refine Cursor.follows_word32.bind fun count => ?_
  refine (Cursor.follows_word32.times count.toNat).bind fun offsets => ?_
  refine Cursor.follows_word32.bind fun length => ?_
  refine (Cursor.follows_take length.toNat).bind fun data => ?_
  exact Cursor.follows_finish.bind fun _ => Cursor.follows_pure _

/-- A stored pool is read as the pool of its entries or refused; all entries of an accepted pool are there. -/
theorem deserialize_gives
    {bytes : Bytes}
    (addressable : bytes.IsAddressable) :
    ∃ outcome, (deserialize bytes).Gives outcome ∧
      StringPool.decode bytes = outcome.map toPool ∧
      ∀ pool, outcome = .ok pool → pool.IsComplete := by
  have read := follows_readParts.on addressable
  rw [Cursor.on_map] at read
  obtain ⟨parts, gives, same⟩ := Access.gives_of_map read
  unfold deserialize StringPool.decode
  cases parts with
  | error fault => exact ⟨.error fault, gives.bind_error, by rw [← same]; rfl, nofun⟩
  | ok parts =>
      obtain ⟨offsets, data⟩ := parts
      have few : offsets.length < 2 ^ 32 := by
        obtain ⟨_, equal, few, _⟩ := StringPool.stored_of_readParts same.symm
        rw [← List.length_map UInt32.toNat, equal, List.length_map]
        exact few
      have segments : StringPool.segments? 0 (offsets.map UInt32.toNat) data =
          if Delimits data 0 offsets then some (cut data offsets) else none :=
        segments?_eq (Nat.zero_le data.length)
      have checked := check_gives data 0 offsets
      by_cases delimits : Delimits data 0 offsets
      · rw [if_pos delimits] at segments checked
        refine ⟨.ok ⟨data, offsets⟩, gives.bind_ok (checked.bind_ok (Access.gives_pure _)), ?_, ?_⟩
        · simp only [← same, Except.map, bind, Except.bind, segments]
          rfl
        · intro pool equal
          obtain rfl := Except.ok.inj equal
          exact isComplete_of_delimits few delimits
      · rw [if_neg delimits] at segments checked
        refine ⟨.error .invalidSize, gives.bind_ok checked.bind_error, ?_, nofun⟩
        simp only [← same, Except.map, bind, Except.bind, segments]
        rfl

end StoredPool
end LateBinding
