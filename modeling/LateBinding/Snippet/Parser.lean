import LateBinding.Snippet.Statement
import LateBinding.Snippet.Token

/-!
# Statements of tokens

The grammar of a snippet's tokens.  A body is a sequence of statements and semicolons, with or
without braces around it.  A parser returns the result with the tokens behind it, or else the
tokens from the one at fault on.
-/

namespace LateBinding

/-- A result, or the tokens from the one at fault on. -/
abbrev Parsed :=
  Except (List LocatedToken)

/--
The field that an identifier names: one leading `this.` is left out, and what remains is neither
empty nor dotted nor the keyword `return`.
-/
def fieldName? (identifier : String) : Option String :=
  let name :=
    match identifier.toList with
    | 't' :: 'h' :: 'i' :: 's' :: '.' :: rest => rest
    | characters => characters
  if name.isEmpty || name.contains '.' || name = "return".toList then none
  else some (String.ofList name)

/-- The two names of the printing statement. -/
def isPrintKeyword (identifier : String) : Bool :=
  identifier = "println" || identifier = "System.out.println"

/-- The operand that a token is. -/
def Operand.ofToken? : Token → Option Operand
  | .identifier name => (fieldName? name).map field
  | .parameter number => some (parameter number)
  | .string text => some (string text)
  | .int number => some (int number)
  | _ => none

/-- The tokens behind an expected one. -/
def expect (expected : Token) : List LocatedToken → Parsed (List LocatedToken)
  | [] => .error []
  | located :: rest => if located.token = expected then .ok rest else .error (located :: rest)

/-- One operand. -/
def parseOperand : List LocatedToken → Parsed (Operand × List LocatedToken)
  | [] => .error []
  | located :: rest =>
      match Operand.ofToken? located.token with
      | some operand => .ok (operand, rest)
      | none => .error (located :: rest)

/-- The operands behind the first of a printing statement, up to the closing parenthesis. -/
def parseMoreOperands : List LocatedToken → Parsed (List Operand × List LocatedToken)
  | [] => .error []
  | [located] =>
      if located.token = .closeParenthesis then .ok ([], [])
      else if located.token = .plus then .error []
      else .error [located]
  | located :: next :: rest =>
      if located.token = .closeParenthesis then .ok ([], next :: rest)
      else if located.token = .plus then
        match Operand.ofToken? next.token with
        | some operand =>
            (parseMoreOperands rest).map fun (operands, after) => (operand :: operands, after)
        | none => .error (next :: rest)
      else .error (located :: next :: rest)

/-- The operands of a printing statement, the closing parenthesis included. -/
def parseOperands : List LocatedToken → Parsed (List Operand × List LocatedToken)
  | [] => .error []
  | located :: rest =>
      if located.token = .closeParenthesis then .ok ([], rest)
      else
        match Operand.ofToken? located.token with
        | some operand =>
            (parseMoreOperands rest).map fun (operands, after) => (operand :: operands, after)
        | none => .error (located :: rest)

/-- A returning statement behind its keyword. -/
def parseReturn (tokens : List LocatedToken) : Parsed (Statement × List LocatedToken) :=
  match expect .semicolon tokens with
  | .ok after => .ok (.returns none, after)
  | .error _ => do
      let (value, rest) ← parseOperand tokens
      let after ← expect .semicolon rest
      return (.returns (some value), after)

/-- A printing statement behind its keyword. -/
def parsePrint (tokens : List LocatedToken) : Parsed (Statement × List LocatedToken) := do
  let opened ← expect .openParenthesis tokens
  let (operands, rest) ← parseOperands opened
  let after ← expect .semicolon rest
  return (.print operands, after)

/-- The number of a parameter. -/
def parseParameter : List LocatedToken → Parsed (Nat × List LocatedToken)
  | ⟨.parameter number, _⟩ :: rest => .ok (number, rest)
  | tokens => .error tokens

/-- An assignment behind its field. -/
def parseAssignment (field : String) (tokens : List LocatedToken) : Parsed (Statement × List LocatedToken) := do
  let source ← expect .equals tokens
  let (parameter, rest) ← parseParameter source
  let after ← expect .semicolon rest
  return (.assign field parameter, after)

/-- One statement, told by its first identifier. -/
def parseStatement : List LocatedToken → Parsed (Statement × List LocatedToken)
  | ⟨.identifier name, offset⟩ :: rest =>
      if name = "return" then parseReturn rest
      else if isPrintKeyword name then parsePrint rest
      else
        match fieldName? name with
        | some field => parseAssignment field rest
        | none => .error (⟨.identifier name, offset⟩ :: rest)
  | tokens => .error tokens

theorem length_of_expect
    {expected : Token}
    {tokens after : List LocatedToken}
    (found : expect expected tokens = .ok after) :
    after.length < tokens.length := by
  cases tokens with
  | nil => simp [expect] at found
  | cons located rest =>
      simp only [expect] at found
      split at found <;> simp_all

theorem length_of_parseOperand
    {tokens after : List LocatedToken}
    {operand : Operand}
    (parsed : parseOperand tokens = .ok (operand, after)) :
    after.length < tokens.length := by
  cases tokens with
  | nil => simp [parseOperand] at parsed
  | cons located rest =>
      simp only [parseOperand] at parsed
      split at parsed <;> simp_all

theorem length_of_parseMoreOperands
    {tokens after : List LocatedToken}
    {operands : List Operand}
    (parsed : parseMoreOperands tokens = .ok (operands, after)) :
    after.length < tokens.length := by
  fun_induction parseMoreOperands tokens generalizing operands after with
  | case1 => simp at parsed
  | case2 => simp_all
  | case3 => simp at parsed
  | case4 => simp at parsed
  | case5 => simp_all
  | case6 located next rest _ _ operand _ ih =>
      rcases more : parseMoreOperands rest with _ | ⟨found, behind⟩
      · simp [more, Except.map] at parsed
      · simp only [more, Except.map, Except.ok.injEq, Prod.mk.injEq] at parsed
        obtain ⟨_, rfl⟩ := parsed
        have := ih more
        simp only [List.length_cons]
        omega
  | case7 => simp at parsed
  | case8 => simp at parsed

theorem length_of_parseOperands
    {tokens after : List LocatedToken}
    {operands : List Operand}
    (parsed : parseOperands tokens = .ok (operands, after)) :
    after.length < tokens.length := by
  cases tokens with
  | nil => simp [parseOperands] at parsed
  | cons located rest =>
      simp only [parseOperands] at parsed
      split at parsed
      · simp_all
      · split at parsed
        · rcases more : parseMoreOperands rest with _ | ⟨found, behind⟩
          · simp [more, Except.map] at parsed
          · simp only [more, Except.map, Except.ok.injEq, Prod.mk.injEq] at parsed
            obtain ⟨_, rfl⟩ := parsed
            have := length_of_parseMoreOperands more
            simp only [List.length_cons]
            omega
        · simp at parsed

theorem length_of_parseReturn
    {tokens after : List LocatedToken}
    {statement : Statement}
    (parsed : parseReturn tokens = .ok (statement, after)) :
    after.length < tokens.length := by
  unfold parseReturn at parsed
  rcases ending : expect .semicolon tokens with _ | rest
  · rcases operand : parseOperand tokens with _ | ⟨value, behind⟩
    · simp [ending, operand, bind, Except.bind] at parsed
    · rcases closing : expect .semicolon behind with _ | last
      · simp [ending, operand, closing, bind, Except.bind] at parsed
      · simp only [ending, operand, closing, bind, Except.bind, pure, Except.pure,
          Except.ok.injEq, Prod.mk.injEq] at parsed
        obtain ⟨_, rfl⟩ := parsed
        have := length_of_parseOperand operand
        have := length_of_expect closing
        omega
  · simp only [ending, Except.ok.injEq, Prod.mk.injEq] at parsed
    obtain ⟨_, rfl⟩ := parsed
    have := length_of_expect ending
    omega

theorem length_of_parsePrint
    {tokens after : List LocatedToken}
    {statement : Statement}
    (parsed : parsePrint tokens = .ok (statement, after)) :
    after.length < tokens.length := by
  unfold parsePrint at parsed
  rcases opening : expect .openParenthesis tokens with _ | opened
  · simp [opening, bind, Except.bind] at parsed
  · rcases operands : parseOperands opened with _ | ⟨values, behind⟩
    · simp [opening, operands, bind, Except.bind] at parsed
    · rcases closing : expect .semicolon behind with _ | last
      · simp [opening, operands, closing, bind, Except.bind] at parsed
      · simp only [opening, operands, closing, bind, Except.bind, pure, Except.pure,
          Except.ok.injEq, Prod.mk.injEq] at parsed
        obtain ⟨_, rfl⟩ := parsed
        have := length_of_expect opening
        have := length_of_parseOperands operands
        have := length_of_expect closing
        omega

theorem length_of_parseParameter
    {tokens after : List LocatedToken}
    {number : Nat}
    (parsed : parseParameter tokens = .ok (number, after)) :
    after.length < tokens.length := by
  unfold parseParameter at parsed
  split at parsed <;> simp_all

theorem length_of_parseAssignment
    {field : String}
    {tokens after : List LocatedToken}
    {statement : Statement}
    (parsed : parseAssignment field tokens = .ok (statement, after)) :
    after.length < tokens.length := by
  unfold parseAssignment at parsed
  rcases opening : expect .equals tokens with _ | source
  · simp [opening, bind, Except.bind] at parsed
  · rcases parameter : parseParameter source with _ | ⟨number, behind⟩
    · simp [opening, parameter, bind, Except.bind] at parsed
    · rcases closing : expect .semicolon behind with _ | last
      · simp [opening, parameter, closing, bind, Except.bind] at parsed
      · simp only [opening, parameter, closing, bind, Except.bind, pure, Except.pure,
          Except.ok.injEq, Prod.mk.injEq] at parsed
        obtain ⟨_, rfl⟩ := parsed
        have := length_of_expect opening
        have := length_of_parseParameter parameter
        have := length_of_expect closing
        omega

/-- A statement takes at least one token. -/
theorem length_of_parseStatement
    {tokens after : List LocatedToken}
    {statement : Statement}
    (parsed : parseStatement tokens = .ok (statement, after)) :
    after.length < tokens.length := by
  unfold parseStatement at parsed
  split at parsed
  · split at parsed
    · have := length_of_parseReturn parsed
      simp only [List.length_cons]
      omega
    · split at parsed
      · have := length_of_parsePrint parsed
        simp only [List.length_cons]
        omega
      · split at parsed
        · have := length_of_parseAssignment parsed
          simp only [List.length_cons]
          omega
        · simp at parsed
  · simp at parsed

/--
The statements of a body.  Semicolons between statements are skipped; a body in braces ends with
its closing brace, behind which nothing follows.
-/
def parseItems
    (braced : Bool)
    (tokens : List LocatedToken) :
    Parsed (List Statement) :=
  match tokens with
  | [] => if braced then .error [] else .ok []
  | located :: rest =>
      if braced && located.token = .closeBrace then
        if rest.isEmpty then .ok [] else .error rest
      else if located.token = .semicolon then parseItems braced rest
      else
        match _parsed : parseStatement (located :: rest) with
        | .error fault => .error fault
        | .ok (statement, after) => (parseItems braced after).map (statement :: ·)
termination_by tokens.length
decreasing_by
  · simp
  · exact length_of_parseStatement _parsed

/-- The statements of a snippet's tokens. -/
def parseBody : List LocatedToken → Parsed (List Statement)
  | ⟨.openBrace, _⟩ :: rest => parseItems true rest
  | tokens => parseItems false tokens

end LateBinding
