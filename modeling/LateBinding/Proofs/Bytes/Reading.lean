import LateBinding.Bytes.Reader
import Mathlib.Algebra.Group.Nat.Defs

/-!
# Laws of reading

A reader undoes an encoder when it takes exactly the encoded bytes from the front, whatever comes
behind them.  Stated with arbitrary bytes behind, the laws of the parts of a table compose to the law
of the table.  In the other direction, a successful reading is taken apart into the readings of which
it consists.
-/

namespace LateBinding

namespace Bytes

theorem toNat_ofNat32
    {number : Nat}
    (small : number < 2 ^ 32) :
    (UInt32.ofNat number).toNat = number :=
  UInt32.toNat_ofNat_of_lt' small

theorem toNat_ofNat16
    {number : Nat}
    (small : number < 2 ^ 16) :
    (UInt16.ofNat number).toNat = number :=
  UInt16.toNat_ofNat_of_lt' small

theorem toNat_ofNat8
    {number : Nat}
    (small : number < 2 ^ 8) :
    (UInt8.ofNat number).toNat = number :=
  UInt8.toNat_ofNat_of_lt' small

end Bytes

/-- A reader takes exactly these bytes from the front, and they stand for this item. -/
def Reads (reader : EStateM Fault Bytes Item) (bytes : Bytes) (item : Item) : Prop :=
  ∀ behind, reader (bytes ++ behind) = .ok item behind

namespace Reads

theorem pure (item : Item) :
    Reads (Pure.pure item : EStateM Fault Bytes Item) [] item := by
  intro behind
  rfl

/-- Readers one after the other take the bytes of both. -/
theorem bind
    {reader : EStateM Fault Bytes Item}
    {next : Item → EStateM Fault Bytes Result}
    {bytes later : Bytes}
    {item : Item}
    {result : Result}
    (first : Reads reader bytes item)
    (second : Reads (next item) later result) :
    Reads (reader >>= next) (bytes ++ later) result := by
  intro behind
  change EStateM.bind reader next (bytes ++ later ++ behind) = _
  rw [EStateM.bind, List.append_assoc, first (later ++ behind)]
  exact second behind

/-- A reader behind the last byte takes nothing. -/
theorem bind_last
    {reader : EStateM Fault Bytes Item}
    {next : Item → EStateM Fault Bytes Result}
    {bytes : Bytes}
    {item : Item}
    {result : Result}
    (first : Reads reader bytes item)
    (second : Reads (next item) [] result) :
    Reads (reader >>= next) bytes result := by
  have both := first.bind second
  rwa [List.append_nil] at both

/-- A reader in front of the first byte takes nothing. -/
theorem bind_first
    {reader : EStateM Fault Bytes Item}
    {next : Item → EStateM Fault Bytes Result}
    {bytes : Bytes}
    {item : Item}
    {result : Result}
    (first : Reads reader [] item)
    (second : Reads (next item) bytes result) :
    Reads (reader >>= next) bytes result :=
  first.bind second

/-- A reader whose result is only rearranged takes the same bytes. -/
theorem bind_pure
    {reader : EStateM Fault Bytes Item}
    {bytes : Bytes}
    {item : Item}
    (first : Reads reader bytes item)
    (result : Item → Result) :
    Reads (reader >>= fun item => Pure.pure (result item)) bytes (result item) :=
  first.bind_last (Reads.pure (result item))

theorem map
    {reader : EStateM Fault Bytes Item}
    {bytes : Bytes}
    {item : Item}
    (first : Reads reader bytes item)
    (change : Item → Result) :
    Reads (change <$> reader) bytes (change item) := by
  intro behind
  change EStateM.map change reader (bytes ++ behind) = _
  rw [EStateM.map, first behind]

/-- A reader that takes all bytes leaves none. -/
theorem toAll
    {reader : EStateM Fault Bytes Item}
    {bytes : Bytes}
    {item : Item}
    (reads : Reads reader bytes item) :
    reader bytes = .ok item [] := by
  have all := reads []
  rwa [List.append_nil] at all

end Reads

/-- A successful reading by two readers is one by the first and then one by the second. -/
theorem bind_eq_ok_iff
    {reader : EStateM Fault Bytes Item}
    {next : Item → EStateM Fault Bytes Result}
    {bytes behind : Bytes}
    {result : Result} :
    (reader >>= next) bytes = .ok result behind ↔
      ∃ item middle, reader bytes = .ok item middle ∧ next item middle = .ok result behind := by
  change EStateM.bind reader next bytes = _ ↔ _
  unfold EStateM.bind
  cases first : reader bytes with
  | ok item middle =>
      constructor
      · intro second
        exact ⟨item, middle, rfl, second⟩
      · rintro ⟨found, rest, equal, second⟩
        injection equal with sameItem sameRest
        subst sameItem sameRest
        exact second
  | error fault middle => simp

/-- A reader that succeeds hands its item and the bytes behind it on. -/
theorem bind_of_eq_ok
    {reader : EStateM Fault Bytes Item}
    {next : Item → EStateM Fault Bytes Result}
    {bytes behind : Bytes}
    {item : Item}
    (first : reader bytes = .ok item behind) :
    (reader >>= next) bytes = next item behind := by
  change EStateM.bind reader next bytes = _
  rw [EStateM.bind, first]

theorem bind_of_eq_error
    {reader : EStateM Fault Bytes Item}
    {next : Item → EStateM Fault Bytes Result}
    {bytes behind : Bytes}
    {fault : Fault}
    (first : reader bytes = .error fault behind) :
    (reader >>= next) bytes = .error fault behind := by
  change EStateM.bind reader next bytes = _
  rw [EStateM.bind, first]

@[simp] theorem pure_eq_ok_iff
    {item result : Item}
    {bytes behind : Bytes} :
    (pure item : EStateM Fault Bytes Item) bytes = .ok result behind ↔
      item = result ∧ bytes = behind := by
  change EStateM.Result.ok item bytes = .ok result behind ↔ _
  simp

theorem map_eq_ok_iff
    {reader : EStateM Fault Bytes Item}
    {change : Item → Result}
    {bytes behind : Bytes}
    {result : Result} :
    (change <$> reader) bytes = .ok result behind ↔
      ∃ item, reader bytes = .ok item behind ∧ change item = result := by
  change EStateM.map change reader bytes = _ ↔ _
  unfold EStateM.map
  cases reader bytes with
  | ok item middle =>
      simp only [EStateM.Result.ok.injEq]
      constructor
      · rintro ⟨same, rfl⟩
        exact ⟨item, ⟨rfl, rfl⟩, same⟩
      · rintro ⟨found, ⟨rfl, rfl⟩, same⟩
        exact ⟨same, rfl⟩
  | error fault middle => simp

namespace ByteReader

/-! ## What the readers of words take -/

theorem reads_byte (value : UInt8) : Reads byte [value] value := by
  intro behind
  rfl

theorem reads_word16 (word : UInt16) : Reads word16 (Bytes.ofWord16 word) word := by
  intro behind
  change EStateM.Result.ok (Bytes.word16 _ _) behind = _
  rw [Bytes.word16_ofWord16]

theorem reads_word32 (word : UInt32) : Reads word32 (Bytes.ofWord32 word) word := by
  intro behind
  change EStateM.Result.ok (Bytes.word32 _ _ _ _) behind = _
  rw [Bytes.word32_ofWord32]

/-- A number below the size of a word is read back as itself. -/
theorem reads_ofNat32 (number : Nat) :
    Reads word32 (Bytes.ofNat32 number) (UInt32.ofNat number) :=
  reads_word32 _

theorem reads_take (bytes : Bytes) : Reads (take bytes.length) bytes bytes := by
  intro behind
  simp [take]

theorem reads_skip (bytes : Bytes) : Reads (skip bytes.length) bytes () :=
  (reads_take bytes).bind_pure fun _ => ()

theorem reads_require
    {error : TableError}
    {found : Option Item}
    {item : Item}
    (there : found = some item) :
    Reads (require error found) [] item := by
  subst there
  exact Reads.pure item

/-- Items encoded one after the other are read by as many runs of their reader. -/
theorem reads_times
    {reader : ByteReader Item}
    {encode : Item → Bytes}
    {items : List Item}
    (each : ∀ item ∈ items, Reads reader (encode item) item) :
    Reads (reader.times items.length) (items.flatMap encode) items := by
  induction items with
  | nil => exact Reads.pure []
  | cons item rest inductionHypothesis =>
      obtain ⟨first, later⟩ := List.forall_mem_cons.mp each
      exact first.bind ((inductionHypothesis later).bind_pure fun items => item :: items)

theorem finish_nil : finish [] = .ok () [] := rfl

/-! ## What a successful reading tells -/

theorem require_eq_ok_iff
    {error : TableError}
    {found : Option Item}
    {item : Item}
    {bytes behind : Bytes} :
    require error found bytes = .ok item behind ↔ found = some item ∧ bytes = behind := by
  cases found with
  | none =>
      change EStateM.Result.error error bytes = _ ↔ _
      simp
  | some value =>
      change (Pure.pure value : ByteReader Item) bytes = _ ↔ _
      simp

/-- What holds of each item that a reader gives holds of all items of its runs. -/
theorem forall_mem_of_times
    {reader : ByteReader Item}
    {property : Item → Prop}
    (each : ∀ bytes item behind, reader bytes = .ok item behind → property item)
    {count : Nat}
    {bytes behind : Bytes}
    {items : List Item}
    (read : reader.times count bytes = .ok items behind) :
    ∀ item ∈ items, property item := by
  induction count generalizing bytes items with
  | zero =>
      obtain ⟨rfl, _⟩ := pure_eq_ok_iff.mp read
      simp
  | succ count inductionHypothesis =>
      obtain ⟨item, middle, first, following⟩ := bind_eq_ok_iff.mp read
      obtain ⟨later, rest, second, combined⟩ := bind_eq_ok_iff.mp following
      obtain ⟨rfl, rfl⟩ := pure_eq_ok_iff.mp combined
      exact List.forall_mem_cons.mpr ⟨each _ _ _ first, inductionHypothesis second⟩

/-- The runs of a reader give as many items as there are runs. -/
theorem length_of_times
    {reader : ByteReader Item}
    {count : Nat}
    {bytes behind : Bytes}
    {items : List Item}
    (read : reader.times count bytes = .ok items behind) :
    items.length = count := by
  induction count generalizing bytes items with
  | zero =>
      obtain ⟨rfl, _⟩ := pure_eq_ok_iff.mp read
      rfl
  | succ count inductionHypothesis =>
      obtain ⟨item, middle, first, following⟩ := bind_eq_ok_iff.mp read
      obtain ⟨later, rest, second, combined⟩ := bind_eq_ok_iff.mp following
      obtain ⟨rfl, rfl⟩ := pure_eq_ok_iff.mp combined
      rw [List.length_cons, inductionHypothesis second]

/-- A reader that succeeds has taken the bytes of its item from the front. -/
def Takes (reader : ByteReader Item) (encode : Item → Bytes) : Prop :=
  ∀ bytes item behind, reader bytes = .ok item behind → bytes = encode item ++ behind

theorem takes_word32 : Takes word32 Bytes.ofWord32 := by
  intro bytes word behind read
  match bytes, read with
  | byte0 :: byte1 :: byte2 :: byte3 :: rest, read =>
      obtain ⟨rfl, rfl⟩ := EStateM.Result.ok.inj read
      rw [Bytes.ofWord32_word32]
      rfl

theorem take_eq_ok_iff {count : Nat} {bytes taken behind : Bytes} :
    take count bytes = .ok taken behind ↔ taken.length = count ∧ bytes = taken ++ behind := by
  constructor
  · intro read
    unfold take at read
    split at read
    · next enough =>
      cases read
      exact ⟨List.length_take_of_le enough, (List.take_append_drop count bytes).symm⟩
    · nomatch read
  · rintro ⟨rfl, rfl⟩
    exact reads_take taken behind

theorem Takes.times
    {reader : ByteReader Item}
    {encode : Item → Bytes}
    (takes : Takes reader encode)
    (count : Nat) :
    Takes (reader.times count) fun items => items.flatMap encode := by
  intro bytes items behind read
  induction count generalizing bytes items with
  | zero =>
      obtain ⟨rfl, rfl⟩ := pure_eq_ok_iff.mp read
      rfl
  | succ count inductionHypothesis =>
      obtain ⟨item, middle, first, read⟩ := bind_eq_ok_iff.mp read
      obtain ⟨later, rest, second, read⟩ := bind_eq_ok_iff.mp read
      obtain ⟨rfl, rfl⟩ := pure_eq_ok_iff.mp read
      rw [takes bytes item middle first, inductionHypothesis middle later second, ← List.append_assoc]
      rfl

theorem finish_eq_ok_iff {bytes behind : Bytes} : finish bytes = .ok () behind ↔ bytes = [] ∧ behind = [] := by
  cases bytes with
  | nil =>
      change EStateM.Result.ok () [] = _ ↔ _
      simp [eq_comm]
  | cons byte rest => exact ⟨nofun, nofun⟩

theorem on_eq_ok_iff
    {reader : ByteReader Item}
    {bytes : Bytes}
    {item : Item} :
    reader.on bytes = .ok item ↔ ∃ behind, reader bytes = .ok item behind := by
  unfold on
  cases reader bytes <;> simp

end ByteReader
end LateBinding
