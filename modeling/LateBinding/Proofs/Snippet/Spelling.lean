import LateBinding.Proofs.Text.Characters
import LateBinding.Snippet.Token
import Mathlib.Data.List.TakeWhile

/-!
# The spelling of tokens

How tokens are spelled, with white space between them.  White space is needed only where the text of a
token would be read as more of the token in front of it.  Every spelling is cut into the tokens that are
spelled.
-/

namespace LateBinding

open Text

/-! ## Texts of tokens -/

namespace Token

/-- A character between the quotes of a string. -/
def escaped : Char → List Char
  | '"' => ['\\', '"']
  | '\\' => ['\\', '\\']
  | '\n' => ['\\', 'n']
  | '\t' => ['\\', 't']
  | character => [character]

/-- The characters of a token.  An integer is taken to be natural. -/
def text : Token → List Char
  | identifier name => name.toList
  | parameter number => '$' :: Nat.toDigits 10 number
  | string text => '"' :: (text.toList.flatMap escaped ++ ['"'])
  | int number => Nat.toDigits 10 number.toNatClampNeg
  | plus => ['+']
  | equals => ['=']
  | openParenthesis => ['(']
  | closeParenthesis => [')']
  | semicolon => [';']
  | openBrace => ['\x7b']
  | closeBrace => ['\x7d']

/-- The tokens that stand in some text. -/
def IsReadable : Token → Prop
  | identifier name =>
      ∃ first rest, name.toList = first :: rest ∧ startsIdentifier first = true ∧
        ∀ character ∈ rest, continuesIdentifier character = true
  | parameter number => 0 < number ∧ number < UInt64.size
  | int number => 0 ≤ number
  | _ => True

/-- The characters that are read as more of a token. -/
def isContinuedBy : Token → Char → Bool
  | identifier _ => continuesIdentifier
  | parameter _ | int _ => isAsciiDigit
  | _ => fun _ => false

/-- The tokens of one character. -/
def IsPunctuation : Token → Prop
  | plus | equals | openParenthesis | closeParenthesis | semicolon | openBrace | closeBrace => True
  | _ => False

/-- Without white space between them, the second token is read as more of the first one. -/
def RunsInto : Token → Token → Prop
  | identifier _, identifier _ | identifier _, int _ => True
  | parameter _, int _ | int _, int _ => True
  | _, _ => False

/-- White space follows the token where the next one is read as more of it otherwise. -/
def IsSetApart (token : Token) (tokens : List Token) (text : List Char) : Prop :=
  ∀ next ∈ tokens.head?, token.RunsInto next → ∃ space ∈ text.head?, isWhiteSpace space = true

end Token

/-- White space alone, or nothing. -/
def IsGap (characters : List Char) : Prop :=
  ∀ character ∈ characters, isWhiteSpace character = true

/-- The text has the tokens' texts in their order, with white space around them. -/
inductive Spells : List Token → List Char → Prop
  | nil {gap : List Char} : IsGap gap → Spells [] gap
  | cons {gap text : List Char} {token : Token} {tokens : List Token} :
      IsGap gap →
      token.IsSetApart tokens text →
      Spells tokens text →
      Spells (token :: tokens) (gap ++ token.text ++ text)

/-! ## First characters of tokens -/

namespace Token

variable {character : Char}

theorem continuesIdentifier_of_isWhiteSpace (white : isWhiteSpace character = true) :
    continuesIdentifier character = false := by
  have noUnderscore : character ≠ '_' := by
    rintro rfl
    revert white
    decide
  have noPoint : character ≠ '.' := by
    rintro rfl
    revert white
    decide
  simp [continuesIdentifier, isAlphanumeric_of_isWhiteSpace white, noUnderscore, noPoint]

theorem continuesIdentifier_of_startsIdentifier (starts : startsIdentifier character = true) :
    continuesIdentifier character = true := by
  obtain alphabetic | underscore := Bool.or_eq_true_iff.mp starts
  · simp [continuesIdentifier, isAlphanumeric_of_isAlphabetic alphabetic]
  · simp_all [continuesIdentifier]

theorem isWhiteSpace_of_startsIdentifier (starts : startsIdentifier character = true) :
    isWhiteSpace character = false := by
  by_contra white
  have noContinuation := continuesIdentifier_of_isWhiteSpace (Bool.of_not_eq_false white)
  simp [continuesIdentifier_of_startsIdentifier starts] at noContinuation

theorem isAsciiDigit_of_startsIdentifier (starts : startsIdentifier character = true) :
    isAsciiDigit character = false := by
  by_contra digit
  have noUnderscore : character ≠ '_' := by
    rintro rfl
    exact absurd rfl digit
  simp [startsIdentifier, isAlphabetic_of_isAsciiDigit (Bool.of_not_eq_false digit), noUnderscore]
    at starts

/-- The characters that start a token which is neither an identifier nor an integer. -/
def marks : List Char :=
  ['+', '=', '(', ')', ';', '\x7b', '\x7d', '$', '"']

theorem not_mem_marks_of_startsIdentifier (starts : startsIdentifier character = true) :
    character ∉ marks := by
  have noStart : (marks.all fun mark => !startsIdentifier mark) = true := rfl
  intro member
  simpa [starts] using List.all_eq_true.mp noStart character member

theorem not_mem_marks_of_isAsciiDigit (digit : isAsciiDigit character = true) : character ∉ marks := by
  have noDigit : (marks.all fun mark => !isAsciiDigit mark) = true := rfl
  intro member
  simpa [digit] using List.all_eq_true.mp noDigit character member

theorem first?_of_not_mem_marks (noMark : character ∉ marks) (rest : List Char) :
    first? character rest =
      if isAsciiDigit character then
        (integerLiteral? (character :: rest.takeWhile isAsciiDigit)).map fun number =>
          (int number, rest.dropWhile isAsciiDigit)
      else if startsIdentifier character then
        some (identifier (String.ofList (character :: rest.takeWhile continuesIdentifier)),
          rest.dropWhile continuesIdentifier)
      else none := by
  simp only [marks, List.mem_cons, List.not_mem_nil, or_false, not_or] at noMark
  simp [first?, ofPunctuation?, noMark]

/-! ## What the pieces of a text are read as -/

theorem stringLiteral?_escaped_append (character : Char) (rest : List Char) :
    stringLiteral? (escaped character ++ rest) =
      (stringLiteral? rest).map fun (text, after) => (character :: text, after) := by
  unfold escaped
  split
  · rfl
  · rfl
  · rfl
  · rfl
  · rw [List.singleton_append, stringLiteral?] <;> grind

theorem stringLiteral?_escaped (text after : List Char) :
    stringLiteral? (text.flatMap escaped ++ '"' :: after) = some (text, after) := by
  induction text with
  | nil => rfl
  | cons character text inductionHypothesis =>
      rw [List.flatMap_cons, List.append_assoc, stringLiteral?_escaped_append, inductionHypothesis]
      rfl

theorem parameterNumber?_toDigits {number : Nat} (readable : (parameter number).IsReadable) :
    parameterNumber? (Nat.toDigits 10 number) = some number := by
  obtain ⟨positive, small⟩ := readable
  rw [parameterNumber?, Decimal.natural?_toDigits, Option.bind_some]
  exact if_pos (by simp [positive, small])

theorem integerLiteral?_toDigits {number : Int32} (natural : 0 ≤ number) :
    integerLiteral? (Nat.toDigits 10 number.toNatClampNeg) = some number := by
  have small : number.toNatClampNeg < 1 <<< 31 := Int32.toNatClampNeg_lt number
  rw [integerLiteral?, Decimal.natural?_toDigits, Option.bind_some, if_pos small,
    Int32.ofNat_toNatClampNeg number natural]

/-- Text that belongs together is taken up to where it stops, and left behind. -/
theorem takeWhile_append_of_stops
    {belongs : Char → Bool}
    {front after : List Char}
    (belonging : ∀ character ∈ front, belongs character = true)
    (stops : ∀ character ∈ after.head?, belongs character = false) :
    (front ++ after).takeWhile belongs = front ∧ (front ++ after).dropWhile belongs = after := by
  rw [List.takeWhile_append_of_pos belonging, List.dropWhile_append_of_pos belonging]
  cases after with
  | nil => simp
  | cons character after => simp [stops character rfl]

/-! ## Tokens are read off their texts -/

/-- The text of a token in front of other text is read as the token, and the other text is left. -/
def IsReadOff (token : Token) (after : List Char) : Prop :=
  ∃ first rest, token.text = first :: rest ∧ isWhiteSpace first = false ∧
    first? first (rest ++ after) = some (token, after)

variable {after : List Char}

theorem isReadOff_identifier
    {name : String}
    (readable : (identifier name).IsReadable)
    (ended : ∀ character ∈ after.head?, continuesIdentifier character = false) :
    (identifier name).IsReadOff after := by
  obtain ⟨first, rest, spelled, starts, continues⟩ := readable
  obtain ⟨taken, dropped⟩ := takeWhile_append_of_stops continues ended
  refine ⟨first, rest, spelled, isWhiteSpace_of_startsIdentifier starts, ?_⟩
  rw [first?_of_not_mem_marks (not_mem_marks_of_startsIdentifier starts),
    isAsciiDigit_of_startsIdentifier starts, starts, taken, dropped, ← spelled]
  simp

theorem isReadOff_parameter
    {number : Nat}
    (readable : (parameter number).IsReadable)
    (ended : ∀ character ∈ after.head?, isAsciiDigit character = false) :
    (parameter number).IsReadOff after := by
  obtain ⟨taken, dropped⟩ :=
    takeWhile_append_of_stops (fun _ => @Decimal.isAsciiDigit_of_mem_toDigits number _) ended
  have noPunctuation : ofPunctuation? '$' = none := rfl
  refine ⟨'$', Nat.toDigits 10 number, rfl, rfl, ?_⟩
  simp [first?, noPunctuation, taken, dropped, parameterNumber?_toDigits readable]

theorem isReadOff_string (text : String) : (string text).IsReadOff after := by
  have noPunctuation : ofPunctuation? '"' = none := rfl
  refine ⟨'"', _, rfl, rfl, ?_⟩
  rw [List.append_assoc, List.singleton_append]
  simp [first?, noPunctuation, stringLiteral?_escaped]

theorem isReadOff_int
    {number : Int32}
    (natural : 0 ≤ number)
    (ended : ∀ character ∈ after.head?, isAsciiDigit character = false) :
    (int number).IsReadOff after := by
  have filled : Nat.toDigits 10 number.toNatClampNeg ≠ [] := Nat.toDigits_ne_nil
  obtain ⟨first, rest, spelled⟩ := List.exists_cons_of_ne_nil filled
  have digits : ∀ character ∈ first :: rest, isAsciiDigit character = true :=
    fun _ member => Decimal.isAsciiDigit_of_mem_toDigits (spelled ▸ member)
  obtain ⟨digit, others⟩ := List.forall_mem_cons.mp digits
  obtain ⟨taken, dropped⟩ := takeWhile_append_of_stops others ended
  refine ⟨first, rest, spelled, isWhiteSpace_of_isAsciiDigit digit, ?_⟩
  rw [first?_of_not_mem_marks (not_mem_marks_of_isAsciiDigit digit), if_pos digit, taken, dropped,
    ← spelled, integerLiteral?_toDigits natural]
  rfl

theorem isReadOff_of_isReadable
    {token : Token}
    (readable : token.IsReadable)
    (ended : ∀ character ∈ after.head?, token.isContinuedBy character = false) :
    token.IsReadOff after := by
  cases token with
  | identifier name => exact isReadOff_identifier readable ended
  | parameter number => exact isReadOff_parameter readable ended
  | string text => exact isReadOff_string text
  | int number => exact isReadOff_int readable ended
  | _ => exact ⟨_, _, rfl, rfl, rfl⟩

/-! ## Tokens end where they should -/

theorem isContinuedBy_of_isWhiteSpace (token : Token) {space : Char} (white : isWhiteSpace space = true) :
    token.isContinuedBy space = false := by
  cases token with
  | identifier name => exact continuesIdentifier_of_isWhiteSpace white
  | parameter number => exact isAsciiDigit_of_isWhiteSpace white
  | int number => exact isAsciiDigit_of_isWhiteSpace white
  | _ => rfl

theorem isContinuedBy_of_not_runsInto
    {token next : Token}
    (readable : next.IsReadable)
    (apart : ¬ token.RunsInto next)
    {first : Char}
    {rest : List Char}
    (spelled : next.text = first :: rest) :
    token.isContinuedBy first = false := by
  cases next with
  | identifier name =>
      obtain ⟨start, others, named, starts, _⟩ := readable
      obtain rfl : start = first := (List.cons.inj (named.symm.trans spelled)).1
      cases token with
      | identifier name => exact absurd trivial apart
      | parameter number => exact isAsciiDigit_of_startsIdentifier starts
      | int number => exact isAsciiDigit_of_startsIdentifier starts
      | _ => rfl
  | int number =>
      cases token with
      | identifier name => exact absurd trivial apart
      | parameter number => exact absurd trivial apart
      | int number => exact absurd trivial apart
      | _ => rfl
  | _ =>
      obtain ⟨rfl, _⟩ := List.cons.inj spelled
      cases token <;> rfl

end Token

variable {tokens : List Token} {text : List Char}

theorem Spells.not_isContinuedBy
    (spells : Spells tokens text)
    (readable : ∀ token ∈ tokens, token.IsReadable)
    {token : Token}
    (setApart : token.IsSetApart tokens text) :
    ∀ character ∈ text.head?, token.isContinuedBy character = false := by
  intro character head
  cases spells with
  | nil white =>
      exact token.isContinuedBy_of_isWhiteSpace (white character (List.mem_of_mem_head? head))
  | @cons gap rest next tokens white _ _ =>
      have nextReadable : next.IsReadable := readable next List.mem_cons_self
      obtain ⟨first, others, spelled, _, _⟩ : next.IsReadOff [] :=
        Token.isReadOff_of_isReadable nextReadable nofun
      cases gap with
      | cons space gap =>
          obtain rfl : space = character := Option.some.inj head
          exact token.isContinuedBy_of_isWhiteSpace (white space List.mem_cons_self)
      | nil =>
          rw [spelled] at head setApart
          obtain rfl : first = character := Option.some.inj head
          -- Without a gap the next token starts here, and it is one that does not run on.
          by_cases runs : token.RunsInto next
          · obtain ⟨space, start, white⟩ := setApart next rfl runs
            obtain rfl : first = space := Option.some.inj start
            exact token.isContinuedBy_of_isWhiteSpace white
          · exact Token.isContinuedBy_of_not_runsInto nextReadable runs spelled

/-! ## Texts are cut into tokens -/

theorem tokensFrom_gap {gap : List Char} (white : IsGap gap) (offset : Nat) (text : List Char) :
    tokensFrom offset (gap ++ text) = tokensFrom (offset + gap.length) text := by
  induction gap generalizing offset with
  | nil => rfl
  | cons space gap inductionHypothesis =>
      obtain ⟨first, others⟩ := List.forall_mem_cons.mp white
      rw [List.cons_append, tokensFrom, if_pos first, inductionHypothesis others, List.length_cons,
        Nat.add_assoc, Nat.add_comm 1]

theorem tokensFrom_of_isReadOff
    {token : Token}
    {after : List Char}
    (readOff : token.IsReadOff after)
    (offset : Nat) :
    tokensFrom offset (token.text ++ after) =
      (tokensFrom (offset + token.text.length) after).map (⟨token, offset⟩ :: ·) := by
  obtain ⟨first, rest, spelled, noSpace, read⟩ := readOff
  rw [spelled, List.cons_append, tokensFrom, if_neg (by simp [noSpace])]
  split
  · next failed => exact absurd (read.symm.trans failed) (Option.some_ne_none _)
  · next found behind again =>
    obtain ⟨rfl, rfl⟩ := Prod.mk.inj (Option.some.inj (read.symm.trans again))
    have taken : (rest ++ after).length + 1 - after.length = (first :: rest).length := by
      simp only [List.length_append, List.length_cons]
      omega
    rw [taken]

/-- A text that spells tokens is cut into these tokens. -/
theorem Spells.exists_tokensFrom
    (spells : Spells tokens text)
    (readable : ∀ token ∈ tokens, token.IsReadable)
    (offset : Nat) :
    ∃ located, tokensFrom offset text = .ok located ∧ located.map LocatedToken.token = tokens := by
  induction spells generalizing offset with
  | @nil gap white =>
      refine ⟨[], ?_, rfl⟩
      rw [← List.append_nil gap, tokensFrom_gap white, tokensFrom]
  | @cons gap text token tokens white setApart spelled inductionHypothesis =>
      obtain ⟨first, others⟩ := List.forall_mem_cons.mp readable
      have readOff : token.IsReadOff text :=
        Token.isReadOff_of_isReadable first (spelled.not_isContinuedBy others setApart)
      let start := offset + gap.length
      obtain ⟨located, read, same⟩ := inductionHypothesis others (start + token.text.length)
      refine ⟨⟨token, start⟩ :: located, ?_, by rw [List.map_cons, same]⟩
      rw [List.append_assoc, tokensFrom_gap white, tokensFrom_of_isReadOff readOff, read]
      rfl

end LateBinding
