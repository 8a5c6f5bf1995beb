import LateBinding.Proofs.Bytes.Reading
import LateBinding.Proofs.Outcome

/-!
# Bytes by position

Readers take bytes from the front, which always works out.  A computation that looks at bytes by position
can look outside of them, and then has no outcome at all; one that stays inside comes to an outcome, which
may be a failure.  Positions have 64 bits, and a computation whose positions outgrow them has no outcome
either.
-/

namespace LateBinding

namespace Bytes

/-- Byte strings are as long as an address space of 64 bits allows. -/
def IsAddressable (bytes : Bytes) : Prop :=
  bytes.length < 2 ^ 63

/-- The byte at a position. -/
def byte? (bytes : Bytes) (position : Nat) : Option UInt8 :=
  bytes[position]?

/-- The bytes from a position up to another one, if these are positions of the bytes in this order. -/
def window? (bytes : Bytes) (start finish : Nat) : Option Bytes :=
  if start ≤ finish ∧ finish ≤ bytes.length then some ((bytes.drop start).take (finish - start))
  else none

/-- The word of 16 bits at a position. -/
def word16? (bytes : Bytes) (position : Nat) : Option UInt16 := do
  return word16 (← bytes.byte? position) (← bytes.byte? (position + 1))

/-- The word of 32 bits at a position. -/
def word32? (bytes : Bytes) (position : Nat) : Option UInt32 := do
  return word32 (← bytes.byte? position) (← bytes.byte? (position + 1))
    (← bytes.byte? (position + 2)) (← bytes.byte? (position + 3))

theorem window?_add (bytes : Bytes) (start size : Nat) :
    bytes.window? start (start + size) = bytes.slice? start size := by
  simp [window?, slice?]

theorem IsAddressable.window
    {bytes window : Bytes}
    {start finish : Nat}
    (addressable : bytes.IsAddressable)
    (inside : bytes.window? start finish = some window) :
    window.IsAddressable := by
  unfold window? at inside
  split at inside
  · obtain rfl := Option.some.inj inside
    unfold IsAddressable at addressable ⊢
    rw [List.length_take, List.length_drop]
    omega
  · nomatch inside

section Positions

variable {bytes : Bytes} {position size : Nat}

/-- The bytes behind a position start with so many bytes if there are enough of them. -/
theorem exists_front (inside : position + size ≤ bytes.length) :
    ∃ front : Bytes, front.length = size ∧
      bytes.drop position = front ++ bytes.drop (position + size) := by
  refine ⟨(bytes.drop position).take size, ?_, ?_⟩
  · rw [List.length_take, List.length_drop]
    omega
  · rw [← List.drop_drop, List.take_append_drop]

theorem byte?_eq_some (inside : position < bytes.length) :
    bytes.byte? position = some bytes[position] :=
  List.getElem?_eq_getElem inside

theorem word16?_eq_some (inside : position + 1 < bytes.length) :
    bytes.word16? position = some (word16 bytes[position] bytes[position + 1]) := by
  rw [word16?, byte?_eq_some (Nat.lt_of_succ_lt inside), byte?_eq_some inside]
  rfl

theorem word32?_eq_some (inside : position + 3 < bytes.length) :
    bytes.word32? position =
      some (word32 bytes[position] bytes[position + 1] bytes[position + 2] bytes[position + 3]) := by
  rw [word32?, byte?_eq_some (by omega), byte?_eq_some (by omega), byte?_eq_some (by omega),
    byte?_eq_some inside]
  rfl

end Positions

end Bytes

namespace ByteReader

/-! ## Readers behind a position take what is there -/

variable {bytes : Bytes} {position count : Nat}

theorem byte_drop (inside : position < bytes.length) :
    byte (bytes.drop position) = .ok bytes[position] (bytes.drop (position + 1)) := by
  rw [List.drop_eq_getElem_cons inside]
  rfl

theorem word16_drop (inside : position + 1 < bytes.length) :
    word16 (bytes.drop position) =
      .ok (Bytes.word16 bytes[position] bytes[position + 1]) (bytes.drop (position + 2)) := by
  rw [List.drop_eq_getElem_cons (Nat.lt_of_succ_lt inside), List.drop_eq_getElem_cons inside]
  rfl

theorem word32_drop (inside : position + 3 < bytes.length) :
    word32 (bytes.drop position) =
      .ok (Bytes.word32 bytes[position] bytes[position + 1] bytes[position + 2] bytes[position + 3])
        (bytes.drop (position + 4)) := by
  rw [List.drop_eq_getElem_cons (show position < bytes.length by omega),
    List.drop_eq_getElem_cons (show position + 1 < bytes.length by omega),
    List.drop_eq_getElem_cons (show position + 1 + 1 < bytes.length by omega),
    List.drop_eq_getElem_cons inside]
  rfl

theorem skip_drop (inside : position + count ≤ bytes.length) :
    skip count (bytes.drop position) = .ok () (bytes.drop (position + count)) := by
  have enough : count ≤ (bytes.drop position).length := by
    rw [List.length_drop]
    omega
  change EStateM.bind (take count) (fun _ => pure ()) (bytes.drop position) = _
  rw [EStateM.bind, take, if_pos enough, List.drop_drop]
  rfl

end ByteReader

/-- A computation that may have no outcome, and else succeeds or fails. -/
abbrev Access (Fault : Type) :=
  ExceptT Fault Option

namespace Access

variable {Fault Refusal Item Result : Type}

/-- A sum that has 64 bits. -/
def sum? (left right : Nat) : Option Nat :=
  if left + right < 2 ^ 64 then some (left + right) else none

/-- A difference that is not negative. -/
def difference? (left right : Nat) : Option Nat :=
  if right ≤ left then some (left - right) else none

/-- A computation stays inside and comes to an outcome. -/
def Gives (access : Access Fault Item) (outcome : Except Fault Item) : Prop :=
  access.run = some outcome

theorem gives_pure (item : Item) : Gives (pure item : Access Fault Item) (.ok item) := rfl

theorem gives_throw (fault : Fault) : Gives (throw fault : Access Fault Item) (.error fault) := rfl

/-- A computation that looks at nothing. -/
theorem gives_lift (outcome : Except Fault Item) :
    Gives (liftM outcome : Access Fault Item) outcome := rfl

/-- What is there when it is looked at. -/
theorem gives_of_some
    {found : Option Item}
    {item : Item}
    (there : found = some item) :
    Gives (liftM found : Access Fault Item) (.ok item) := by
  subst there
  rfl

/-- A step that succeeds hands its item on. -/
theorem Gives.bind_ok
    {access : Access Fault Item}
    {next : Item → Access Fault Result}
    {item : Item}
    {outcome : Except Fault Result}
    (first : access.Gives (.ok item))
    (later : (next item).Gives outcome) :
    (access >>= next).Gives outcome := by
  unfold Gives at first later ⊢
  rw [ExceptT.run_bind, first]
  exact later

/-- Nothing happens behind a step that fails. -/
theorem Gives.bind_error
    {access : Access Fault Item}
    {next : Item → Access Fault Result}
    {fault : Fault}
    (first : access.Gives (.error fault)) :
    (access >>= next).Gives (.error fault) := by
  unfold Gives at first ⊢
  rw [ExceptT.run_bind, first]
  rfl

theorem Gives.bind
    {access : Access Fault Item}
    {next : Item → Access Fault Result}
    {outcome : Except Fault Item}
    {rest : Item → Except Fault Result}
    (first : access.Gives outcome)
    (later : ∀ item, outcome = .ok item → (next item).Gives (rest item)) :
    (access >>= next).Gives (outcome >>= rest) := by
  cases outcome with
  | error fault => exact first.bind_error
  | ok item => exact first.bind_ok (later item rfl)

/-- A step whose item stands for another one. -/
theorem Gives.bind_map
    {Image : Type}
    {access : Access Fault Item}
    {next : Item → Access Fault Result}
    {outcome : Except Fault Item}
    {change : Item → Image}
    {rest : Image → Except Fault Result}
    (first : access.Gives outcome)
    (later : ∀ item, outcome = .ok item → (next item).Gives (rest (change item))) :
    (access >>= next).Gives (outcome.map change >>= rest) := by
  cases outcome with
  | error fault => exact first.bind_error
  | ok item => exact first.bind_ok (later item rfl)

theorem Gives.map
    {access : Access Fault Item}
    {outcome : Except Fault Item}
    (gives : access.Gives outcome)
    (change : Item → Result) :
    Gives (change <$> access) (outcome.map change) := by
  unfold Gives at gives ⊢
  rw [ExceptT.run_map, gives]
  rfl

/-- A changed result comes from a result. -/
theorem gives_of_map
    {access : Access Fault Item}
    {change : Item → Result}
    {changed : Except Fault Result}
    (gives : Gives (change <$> access) changed) :
    ∃ outcome, access.Gives outcome ∧ outcome.map change = changed := by
  unfold Gives at gives
  rw [ExceptT.run_map] at gives
  exact Option.map_eq_some_iff.mp gives

theorem Gives.adapt
    {access : Access Fault Item}
    {outcome : Except Fault Item}
    (gives : access.Gives outcome)
    (change : Fault → Refusal) :
    Gives (ExceptT.adapt change access) (outcome.mapError change) := by
  unfold Gives at gives ⊢
  change (Except.mapError change <$> access.run) = _
  rw [gives]
  rfl

end Access

/-- A reader that keeps the bytes and moves a position. -/
abbrev Cursor (Fault : Type) :=
  ReaderT Bytes (StateT Nat (Access Fault))

namespace Cursor

variable {Fault Refusal Item Result : Type}

/-- The next bytes, as many as asked for. -/
def take (count : Nat) : Cursor TableError Bytes := fun bytes position => do
  let remaining ← Access.difference? bytes.length position
  if remaining < count then throw .tooShort
  else
    let finish ← Access.sum? position count
    let window ← bytes.window? position finish
    return (window, finish)

/-- Passes over bytes. -/
def skip (count : Nat) : Cursor TableError Unit := do
  let _ ← take count

/-- The next byte. -/
def byte : Cursor TableError UInt8 := do
  let window ← take 1
  window.byte? 0

/-- The next word of 32 bits. -/
def word32 : Cursor TableError UInt32 := do
  let window ← take 4
  window.word32? 0

/-- Asks that no bytes are left. -/
def finish : Cursor TableError Unit := fun bytes position => do
  let remaining ← Access.difference? bytes.length position
  if remaining = 0 then return ((), position)
  else throw (.trailingBytes remaining)

/-- The items of a cursor that is run a number of times. -/
def times (cursor : Cursor Fault Item) : Nat → Cursor Fault (List Item)
  | 0 => pure []
  | count + 1 => do
      let item ← cursor
      let items ← times cursor count
      return item :: items

/-- A value that must be there. -/
def require (fault : Fault) : Option Item → Cursor Fault Item
  | some item => pure item
  | none => throw fault

/-- A cursor whose failures are told in other words. -/
def adapt (change : Fault → Refusal) (cursor : Cursor Fault Item) : Cursor Refusal Item :=
  fun bytes position => ExceptT.adapt change (cursor bytes position)

/-- The result of a cursor that starts at the first byte. -/
def on (cursor : Cursor Fault Item) (bytes : Bytes) : Access Fault Item :=
  Prod.fst <$> cursor bytes 0

theorem on_map
    (cursor : Cursor Fault Item)
    (change : Item → Result)
    (bytes : Bytes) :
    (change <$> cursor).on bytes = change <$> cursor.on bytes := by
  unfold on
  change Prod.fst <$> ((fun both : Item × Nat => (change both.1, both.2)) <$> cursor bytes 0) = _
  rw [Functor.map_map, Functor.map_map]

/-- From every position a cursor comes to the same as a reader of the bytes behind it. -/
def Follows (cursor : Cursor Fault Item) (reader : EStateM Fault Bytes Item) : Prop :=
  ∀ bytes position, Bytes.IsAddressable bytes → position ≤ bytes.length →
    (∃ item next, next ≤ bytes.length ∧ (cursor bytes position).Gives (.ok (item, next)) ∧
      reader (bytes.drop position) = .ok item (bytes.drop next)) ∨
    ∃ fault behind, (cursor bytes position).Gives (.error fault) ∧
      reader (bytes.drop position) = .error fault behind

theorem follows_pure (item : Item) :
    Follows (pure item : Cursor Fault Item) (pure item) := fun _ position _ inside =>
  .inl ⟨item, position, inside, rfl, rfl⟩

theorem follows_throw (fault : Fault) :
    Follows (throw fault : Cursor Fault Item) (throw fault) := fun _ _ _ _ =>
  .inr ⟨fault, _, rfl, rfl⟩

theorem bind_apply
    (cursor : Cursor Fault Item)
    (next : Item → Cursor Fault Result)
    (bytes : Bytes)
    (position : Nat) :
    (cursor >>= next) bytes position =
      (cursor bytes position >>= fun both => next both.1 bytes both.2) := rfl

theorem Follows.bind
    {cursor : Cursor Fault Item}
    {reader : EStateM Fault Bytes Item}
    {next : Item → Cursor Fault Result}
    {rest : Item → EStateM Fault Bytes Result}
    (first : Follows cursor reader)
    (later : ∀ item, Follows (next item) (rest item)) :
    Follows (cursor >>= next) (reader >>= rest) := by
  intro bytes position addressable inside
  rw [bind_apply]
  rcases first bytes position addressable inside with
    ⟨item, middle, between, gives, read⟩ | ⟨fault, behind, gives, read⟩
  · rw [bind_of_eq_ok read]
    rcases later item bytes middle addressable between with
      ⟨result, final, insideToo, givesToo, readToo⟩ | ⟨fault, behind, givesToo, readToo⟩
    · exact .inl ⟨result, final, insideToo, gives.bind_ok givesToo, readToo⟩
    · exact .inr ⟨fault, behind, gives.bind_ok givesToo, readToo⟩
  · exact .inr ⟨fault, behind, gives.bind_error, bind_of_eq_error read⟩

theorem Follows.map
    {cursor : Cursor Fault Item}
    {reader : EStateM Fault Bytes Item}
    (follows : Follows cursor reader)
    (change : Item → Result) :
    Follows (change <$> cursor) (change <$> reader) :=
  follows.bind fun item => follows_pure (change item)

/-- A computation beside the bytes leaves the position where it is. -/
theorem follows_of_gives_ok
    {access : Access Fault Item}
    {item : Item}
    (gives : access.Gives (.ok item)) :
    Follows (liftM access : Cursor Fault Item) (pure item) := fun _ position _ inside =>
  .inl ⟨item, position, inside, gives.bind_ok (Access.gives_pure _), rfl⟩

theorem follows_of_gives_error
    {access : Access Fault Item}
    {fault : Fault}
    (gives : access.Gives (.error fault)) :
    Follows (liftM access : Cursor Fault Item) (throw fault) := fun _ _ _ _ =>
  .inr ⟨fault, _, gives.bind_error, rfl⟩

theorem Follows.cases_on
    {cursor : Cursor Fault Item}
    {reader : EStateM Fault Bytes Item}
    (follows : Follows cursor reader)
    {bytes : Bytes}
    (addressable : Bytes.IsAddressable bytes) :
    (∃ item behind, (cursor.on bytes).Gives (.ok item) ∧ reader bytes = .ok item behind) ∨
      ∃ fault behind, (cursor.on bytes).Gives (.error fault) ∧ reader bytes = .error fault behind := by
  rcases follows bytes 0 addressable (Nat.zero_le _) with
    ⟨item, next, _, gives, read⟩ | ⟨fault, behind, gives, read⟩
  · exact .inl ⟨item, _, gives.map Prod.fst, read⟩
  · exact .inr ⟨fault, behind, gives.map Prod.fst, read⟩

theorem Follows.on
    {cursor : Cursor TableError Item}
    {reader : ByteReader Item}
    (follows : Follows cursor reader)
    {bytes : Bytes}
    (addressable : Bytes.IsAddressable bytes) :
    (cursor.on bytes).Gives (reader.on bytes) := by
  unfold ByteReader.on
  rcases follows.cases_on addressable with ⟨item, behind, gives, read⟩ | ⟨fault, behind, gives, read⟩
  · rw [read]
    exact gives
  · rw [read]
    exact gives

/-! ## The cursors of bytes and words -/

section Primitives

variable {bytes behind : Bytes} {position count : Nat}

/-- Taking more bytes than there are fails. -/
theorem take_gives_tooShort
    (inside : position ≤ bytes.length)
    (parts : bytes.drop position = behind)
    (short : behind.length < count) :
    (take count bytes position).Gives (.error .tooShort) := by
  rw [← parts, List.length_drop] at short
  refine (Access.gives_of_some (if_pos inside)).bind_ok ?_
  rw [if_pos short]
  exact Access.gives_throw _

/-- Taking bytes that are there moves the position behind them. -/
theorem take_gives
    (addressable : bytes.IsAddressable)
    (inside : position ≤ bytes.length)
    (front : Bytes)
    (parts : bytes.drop position = front ++ behind) :
    position + front.length ≤ bytes.length ∧ behind = bytes.drop (position + front.length) ∧
      (take front.length bytes position).Gives (.ok (front, position + front.length)) := by
  have length := congrArg List.length parts
  rw [List.length_drop, List.length_append] at length
  unfold Bytes.IsAddressable at addressable
  refine ⟨by omega, ?_, ?_⟩
  · rw [← List.drop_drop, parts, List.drop_left]
  · refine (Access.gives_of_some (if_pos inside)).bind_ok ?_
    rw [if_neg (by omega)]
    refine (Access.gives_of_some (if_pos (by omega))).bind_ok ?_
    have window : bytes.window? position (position + front.length) = some front := by
      rw [Bytes.window?, if_pos ⟨by omega, by omega⟩, parts, Nat.add_sub_cancel_left, List.take_left]
    exact (Access.gives_of_some window).bind_ok (Access.gives_pure _)

end Primitives

theorem follows_take (count : Nat) : Follows (take count) (ByteReader.take count) := by
  intro bytes position addressable inside
  rw [ByteReader.take]
  by_cases enough : count ≤ (bytes.drop position).length
  · rw [if_pos enough]
    have parts := (List.take_append_drop count (bytes.drop position)).symm
    obtain ⟨insideToo, rest, gives⟩ := take_gives addressable inside _ parts
    rw [List.length_take_of_le enough] at insideToo rest gives
    exact .inl ⟨_, _, insideToo, gives, by rw [rest]⟩
  · rw [if_neg enough]
    exact .inr ⟨_, _, take_gives_tooShort inside rfl (Nat.lt_of_not_le enough), rfl⟩

theorem follows_skip (count : Nat) : Follows (skip count) (ByteReader.skip count) :=
  (follows_take count).bind fun _ => follows_pure ()

theorem follows_byte : Follows byte ByteReader.byte := by
  intro bytes position addressable inside
  match parts : bytes.drop position with
  | [] => exact .inr ⟨_, _, (take_gives_tooShort inside parts (by simp)).bind_error, rfl⟩
  | byte0 :: behind =>
      obtain ⟨insideToo, rest, gives⟩ := take_gives addressable inside [byte0] parts
      exact .inl ⟨byte0, _, insideToo, gives.bind_ok (Access.gives_pure _), by rw [← rest]; rfl⟩

theorem follows_word32 : Follows word32 ByteReader.word32 := by
  intro bytes position addressable inside
  match parts : bytes.drop position with
  | byte0 :: byte1 :: byte2 :: byte3 :: behind =>
      obtain ⟨insideToo, rest, gives⟩ :=
        take_gives addressable inside [byte0, byte1, byte2, byte3] parts
      exact .inl ⟨_, _, insideToo, gives.bind_ok (Access.gives_pure _), by rw [← rest]; rfl⟩
  | [] => exact .inr ⟨_, _, (take_gives_tooShort inside parts (by simp)).bind_error, rfl⟩
  | [_] => exact .inr ⟨_, _, (take_gives_tooShort inside parts (by simp)).bind_error, rfl⟩
  | [_, _] => exact .inr ⟨_, _, (take_gives_tooShort inside parts (by simp)).bind_error, rfl⟩
  | [_, _, _] => exact .inr ⟨_, _, (take_gives_tooShort inside parts (by simp)).bind_error, rfl⟩

theorem follows_finish : Follows finish ByteReader.finish := by
  intro bytes position _ inside
  have counted : Access.Gives (liftM (Access.difference? bytes.length position))
      (.ok (bytes.drop position).length : Except TableError Nat) := by
    rw [List.length_drop]
    exact Access.gives_of_some (if_pos inside)
  cases parts : bytes.drop position with
  | nil =>
      rw [parts] at counted
      exact .inl ⟨(), position, inside, counted.bind_ok (Access.gives_pure _), by rw [parts]; rfl⟩
  | cons byte0 behind =>
      rw [parts] at counted
      exact .inr ⟨_, _, counted.bind_ok (Access.gives_throw _), rfl⟩

theorem follows_require (fault : TableError) (found : Option Item) :
    Follows (require fault found) (ByteReader.require fault found) := by
  cases found with
  | none => exact follows_throw fault
  | some item => exact follows_pure item

theorem Follows.times
    {cursor : Cursor TableError Item}
    {reader : ByteReader Item}
    (follows : Follows cursor reader)
    (count : Nat) :
    Follows (cursor.times count) (reader.times count) := by
  induction count with
  | zero => exact follows_pure []
  | succ count inductionHypothesis =>
      exact follows.bind fun item => inductionHypothesis.bind fun items =>
        follows_pure (item :: items)

end Cursor
end LateBinding
