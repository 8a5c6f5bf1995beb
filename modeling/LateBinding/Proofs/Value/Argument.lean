import LateBinding.Calling.Dispatch
import LateBinding.Proofs.Text.Characters
import LateBinding.Proofs.Text.Slices
import LateBinding.Value.Argument

/-!
# Values and their arguments

The value of an argument is found by trying the kinds of values in a fixed order.  Between quotes every text
is an argument for itself, and the decimal digits of an integer are one for the narrowest integer.  So of
the values other than fractions and objects exactly the long integers that fit 32 bits have no argument.
The system ends an argument at a zero character, so a process can be given all the others except for the
texts that hold one.
-/

namespace LateBinding

open Text Decimal

/-- The types of truth values, integers and texts. -/
def ValueType.IsSimple : ValueType → Prop
  | boolean | int | long | string => True
  | _ => False

instance : DecidablePred ValueType.IsSimple
  | .boolean | .int | .long | .string => isTrue trivial
  | .void | .double | .named _ => isFalse id

/-- A text that a process can be given as an argument, which a zero character would end. -/
def IsProcessArgument (text : String) : Prop :=
  '\x00' ∉ text.toList

instance : DecidablePred IsProcessArgument :=
  fun text => inferInstanceAs (Decidable ('\x00' ∉ text.toList))

@[simp] theorem isProcessArgument_append {front behind : String} :
    IsProcessArgument (front ++ behind) ↔ IsProcessArgument front ∧ IsProcessArgument behind := by
  simp [IsProcessArgument]

namespace Value

/-- A value that is neither a fraction nor an object. -/
def IsSimple : Value → Prop
  | double _ | object _ => False
  | _ => True

/-- A long integer that fits 32 bits. -/
def IsShortLong : Value → Prop
  | long number =>
      Int32.minValue.toInt ≤ number.toInt ∧ number.toInt ≤ Int32.maxValue.toInt
  | _ => False

instance : DecidablePred IsShortLong
  | long number =>
      inferInstanceAs
        (Decidable (Int32.minValue.toInt ≤ number.toInt ∧ number.toInt ≤ Int32.maxValue.toInt))
  | null | boolean _ | int _ | double _ | string _ | object _ => isFalse id

/-- A text that holds a zero character. -/
def HasZeroCharacter : Value → Prop
  | string text => '\x00' ∈ text.toList
  | _ => False

instance : DecidablePred HasZeroCharacter
  | string text => inferInstanceAs (Decidable ('\x00' ∈ text.toList))
  | null | boolean _ | int _ | long _ | double _ | object _ => isFalse id

theorem isSimple_of_isAccepted
    {type : ValueType}
    {loader : LoaderId}
    {value : Value}
    (simple : type.IsSimple)
    (accepted : value.isAccepted type loader = true) :
    value.IsSimple := by
  cases value with
  | double number =>
      obtain rfl : type = .double := by simpa [isAccepted] using accepted
      exact simple
  | object reference =>
      obtain ⟨rfl, _⟩ : type = .named reference.typeName ∧ reference.loader = loader := by
        simpa [isAccepted] using accepted
      exact simple
  | _ => trivial

end Value

/-! ## Integers -/

namespace Decimal

/-- An integer is written as its digits, behind a minus if it is negative. -/
theorem toList_toString (number : Int) :
    (toString number).toList =
      if 0 ≤ number then Nat.toDigits 10 number.natAbs else '-' :: Nat.toDigits 10 number.natAbs := by
  rw [Int.toString_eq_repr, Int.repr_eq_if]
  split
  · next natural =>
    have magnitude : number.toNat = number.natAbs := by omega
    rw [Nat.toList_repr, magnitude]
  · next negative =>
    have magnitude : (-number).toNat = number.natAbs := by omega
    rw [String.toList_append, Nat.toList_repr, magnitude]
    rfl

theorem splitSign_of_digits {digits : List Char} (all : ∀ digit ∈ digits, isAsciiDigit digit = true) :
    splitSign digits = (false, digits) := by
  unfold splitSign
  split
  · have minus := all '-' List.mem_cons_self
    nomatch minus
  · have plus := all '+' List.mem_cons_self
    nomatch plus
  · rfl

/-- An integer is read back from its text. -/
theorem integer?_toString (number : Int) : integer? (toString number).toList = some number := by
  rw [toList_toString]
  split
  · next natural =>
    rw [integer?, splitSign_of_digits fun _ => isAsciiDigit_of_mem_toDigits]
    simp only [natural?_toDigits]
    change some (number.natAbs : Int) = some number
    rw [Int.natAbs_of_nonneg natural]
  · next negative =>
    simp only [integer?, splitSign, natural?_toDigits]
    change some (-(number.natAbs : Int)) = some number
    rw [Int.ofNat_natAbs_of_nonpos (by omega), Int.neg_neg]

theorem isAsciiDigit_of_mem_toString
    {number : Int}
    {character : Char}
    (among : character ∈ (toString number).toList) :
    isAsciiDigit character = true ∨ character = '-' := by
  rw [toList_toString] at among
  split at among
  · exact .inl (isAsciiDigit_of_mem_toDigits among)
  · rcases List.mem_cons.mp among with minus | digit
    · exact .inr minus
    · exact .inl (isAsciiDigit_of_mem_toDigits digit)

theorem isProcessArgument_toString (number : Int) : IsProcessArgument (toString number) := by
  intro among
  rcases isAsciiDigit_of_mem_toString among with digit | minus
  · exact absurd digit (by decide)
  · exact absurd minus (by decide)

theorem trim_toString (number : Int) : trim (toString number).toList = (toString number).toList := by
  have noSpace : ∀ character ∈ (toString number).toList, isWhiteSpace character = false := by
    intro character among
    rcases isAsciiDigit_of_mem_toString among with digit | rfl
    · exact isWhiteSpace_of_isAsciiDigit digit
    · rfl
  exact Text.trim_eq_self (fun character first => noSpace character (List.mem_of_mem_head? first))
    (fun character last => noSpace character (List.mem_of_getLast? last))

end Decimal

namespace Value

theorem ofArgument_toString {number : Int} {value : Value} (fits : ofInteger? number = some value) :
    ofArgument (toString number) = value := by
  have noKeyword (letter : Char) (keyword : List Char) (inside : letter ∈ keyword)
      (strange : isAsciiDigit letter = false ∧ letter ≠ '-') : (toString number).toList ≠ keyword := by
    rintro rfl
    rcases isAsciiDigit_of_mem_toString inside with digit | minus
    · simp [strange.1] at digit
    · exact strange.2 minus
  have read : number? (toString number).toList = some value := by
    rw [number?, integer?_toString, Option.bind_some, fits, Option.some_or]
  rw [ofArgument, trim_toString]
  simp only [read, noKeyword 'n' "null".toList (by decide) (by decide),
    noKeyword 't' "true".toList (by decide) (by decide),
    noKeyword 'f' "false".toList (by decide) (by decide), if_false]

theorem ofInteger?_int (number : Int32) : ofInteger? number.toInt = some (.int number) := by
  have least := Int32.le_toInt number
  have greatest := Int32.toInt_lt number
  rw [ofInteger?, if_pos, Int32.ofInt_toInt]
  rw [Bool.and_eq_true, decide_eq_true_iff, decide_eq_true_iff]
  change -2147483648 ≤ number.toInt ∧ number.toInt ≤ 2147483647
  omega

theorem ofInteger?_long {number : Int64} (long : ¬ (Value.long number).IsShortLong) :
    ofInteger? number.toInt = some (.long number) := by
  have least := Int64.le_toInt number
  have greatest := Int64.toInt_lt number
  rw [ofInteger?, if_neg, if_pos, Int64.ofInt_toInt]
  · rw [Bool.and_eq_true, decide_eq_true_iff, decide_eq_true_iff]
    change -9223372036854775808 ≤ number.toInt ∧ number.toInt ≤ 9223372036854775807
    omega
  · simpa [IsShortLong] using long

/-! ## Texts -/

/-- A text that starts with a quote is no number. -/
theorem number?_quote (rest : List Char) : number? ('"' :: rest) = none := by
  have noInteger : integer? ('"' :: rest) = none := rfl
  have noFraction : finite? ('"' :: rest) = none := rfl
  rw [number?, noInteger, noFraction]
  simp

theorem ofArgument_quoted (text : String) : ofArgument ("\"" ++ text ++ "\"") = .string text := by
  have spelled : ("\"" ++ text ++ "\"").toList = '"' :: (text.toList ++ ['"']) := by simp
  have kept : trim ('"' :: (text.toList ++ ['"'])) = '"' :: (text.toList ++ ['"']) := by
    refine Text.trim_eq_self (fun character first => ?_) (fun character last => ?_)
    · obtain rfl := Option.some.inj first
      rfl
    · rw [← List.cons_append, List.getLast?_concat] at last
      obtain rfl := Option.some.inj last
      rfl
  rw [ofArgument, spelled, kept]
  simp [number?_quote, unquoted?]

/-! ## Values that have arguments -/

/-- The narrowest kind that an integer fits decides, so no argument is a short long integer. -/
theorem not_isShortLong_of_ofInteger? {number : Int} {value : Value} (found : ofInteger? number = some value) :
    ¬ value.IsShortLong := by
  unfold ofInteger? at found
  split at found
  · obtain rfl := Option.some.inj found
    exact id
  next wide =>
  obtain ⟨fits, rfl⟩ := Option.ite_some_none_eq_some.mp found
  rw [Bool.and_eq_true, decide_eq_true_iff, decide_eq_true_iff] at fits
  change -9223372036854775808 ≤ number ∧ number ≤ 9223372036854775807 at fits
  have same : (Int64.ofInt number).toInt = number :=
    Int64.toInt_ofInt_of_le (by omega) (by omega)
  intro short
  rw [IsShortLong, same] at short
  exact wide (by simpa using short)

theorem number?_cases
    {text : List Char}
    {value : Value}
    (found : number? text = some value) :
    (∃ number, ofInteger? number = some value) ∨ ∃ number, value = .double number := by
  rcases Option.or_eq_some_iff.mp found with integer | ⟨_, fraction⟩
  · obtain ⟨number, _, fits⟩ := Option.bind_eq_some_iff.mp integer
    exact .inl ⟨number, fits⟩
  · split at fraction
    · obtain ⟨number, _, same⟩ := Option.map_eq_some_iff.mp fraction
      exact .inr ⟨number, same.symm⟩
    · nomatch fraction

theorem subset_of_unquoted? {text inner : List Char} (found : unquoted? text = some inner) :
    inner ⊆ text := by
  unfold unquoted? at found
  split at found
  · next rest =>
    obtain ⟨_, rfl⟩ := Option.ite_some_none_eq_some.mp found
    exact List.subset_cons_of_subset _ (List.dropLast_subset rest)
  · nomatch found

/-- An argument denotes the value of a keyword, a number or a text of characters among its own. -/
theorem ofArgument_cases (argument : String) :
    ofArgument argument = .null ∨ (∃ truth, ofArgument argument = .boolean truth) ∨
      (∃ number, ofInteger? number = some (ofArgument argument)) ∨
      (∃ number, ofArgument argument = .double number) ∨
      ∃ text, ofArgument argument = .string text ∧ text.toList ⊆ argument.toList := by
  unfold ofArgument
  dsimp only
  split
  · exact .inl rfl
  split
  · exact .inr (.inl ⟨_, rfl⟩)
  split
  · exact .inr (.inl ⟨_, rfl⟩)
  split
  · next read =>
    rcases number?_cases read with integer | fraction
    · exact .inr (.inr (.inl integer))
    · exact .inr (.inr (.inr (.inl fraction)))
  split
  · next inner found =>
    refine .inr (.inr (.inr (.inr ⟨_, rfl, ?_⟩)))
    rw [String.toList_ofList]
    exact List.Subset.trans (subset_of_unquoted? found) (Text.trim_isInfix _).subset
  · exact .inr (.inr (.inr (.inr ⟨_, rfl, List.Subset.refl _⟩)))

theorem not_isShortLong_ofArgument (text : String) : ¬ (ofArgument text).IsShortLong := by
  rcases ofArgument_cases text with same | ⟨_, same⟩ | ⟨_, fits⟩ | ⟨_, same⟩ | ⟨_, same, _⟩
  case inr.inr.inl => exact not_isShortLong_of_ofInteger? fits
  all_goals
    rw [same]
    exact id

/-- Only a text with a zero character needs an argument that a process cannot be given. -/
theorem exists_ofArgument
    {value : Value}
    (simple : value.IsSimple)
    (notShort : ¬ value.IsShortLong) :
    ∃ text, ofArgument text = value ∧ (¬ value.HasZeroCharacter → IsProcessArgument text) := by
  cases value with
  | null => exact ⟨"null", by decide, fun _ => by decide⟩
  | boolean truth =>
      cases truth with
      | false => exact ⟨"false", by decide, fun _ => by decide⟩
      | true => exact ⟨"true", by decide, fun _ => by decide⟩
  | int number =>
      exact ⟨_, ofArgument_toString (ofInteger?_int number), fun _ => isProcessArgument_toString _⟩
  | long number =>
      exact ⟨_, ofArgument_toString (ofInteger?_long notShort), fun _ => isProcessArgument_toString _⟩
  | string text =>
      refine ⟨_, ofArgument_quoted text, fun (noZero : IsProcessArgument text) => ?_⟩
      have quote : IsProcessArgument "\"" := by decide
      simp [quote, noZero]
  | double number => exact simple.elim
  | object reference => exact simple.elim

/-- The values other than fractions and objects have arguments, except for the short long integers. -/
theorem exists_ofArgument_iff {value : Value} (simple : value.IsSimple) :
    (∃ text, ofArgument text = value) ↔ ¬ value.IsShortLong := by
  constructor
  · rintro ⟨text, rfl⟩
    exact not_isShortLong_ofArgument text
  · intro notShort
    obtain ⟨text, meant, _⟩ := exists_ofArgument simple notShort
    exact ⟨text, meant⟩

/-! ## Arguments of processes -/

theorem not_hasZeroCharacter_of_ofInteger?
    {number : Int}
    {value : Value}
    (found : ofInteger? number = some value) :
    ¬ value.HasZeroCharacter := by
  unfold ofInteger? at found
  split at found
  · obtain rfl := Option.some.inj found
    exact id
  · obtain ⟨_, rfl⟩ := Option.ite_some_none_eq_some.mp found
    exact id

theorem not_hasZeroCharacter_ofArgument {argument : String} (given : IsProcessArgument argument) :
    ¬ (ofArgument argument).HasZeroCharacter := by
  rcases ofArgument_cases argument with same | ⟨_, same⟩ | ⟨_, fits⟩ | ⟨_, same⟩ | ⟨_, same, among⟩
  case inr.inr.inl => exact not_hasZeroCharacter_of_ofInteger? fits
  case inr.inr.inr.inr =>
    rw [same]
    exact fun zero => given (among zero)
  all_goals
    rw [same]
    exact id

/-- A process can be given arguments for the same values, except for the texts with zero characters. -/
theorem exists_isProcessArgument_iff {value : Value} (simple : value.IsSimple) :
    (∃ text, IsProcessArgument text ∧ ofArgument text = value) ↔
      ¬ value.IsShortLong ∧ ¬ value.HasZeroCharacter := by
  constructor
  · rintro ⟨text, given, rfl⟩
    exact ⟨not_isShortLong_ofArgument text, not_hasZeroCharacter_ofArgument given⟩
  · rintro ⟨notShort, noZero⟩
    obtain ⟨text, meant, given⟩ := exists_ofArgument simple notShort
    exact ⟨text, given noZero, meant⟩

end Value
end LateBinding
