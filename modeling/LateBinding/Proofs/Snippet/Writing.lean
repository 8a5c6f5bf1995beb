import LateBinding.Proofs.Snippet.Grammar
import LateBinding.Proofs.Snippet.Spelling
import LateBinding.Snippet.Basic

/-!
# Writing bodies as text

How a body of expressible statements is written: as the statements' tokens, with semicolons and white
space added anywhere between them.  Every such text is read as the statements.
-/

namespace LateBinding

open Text

/-! ## Expressible statements -/

/-- A name that reads as a field: a letter or an underscore, then letters, numbers and underscores. -/
def IsFieldName (name : String) : Prop :=
  name ≠ "return" ∧
    ∃ first rest, name.toList = first :: rest ∧ Token.startsIdentifier first = true ∧
      ∀ character ∈ rest, isAlphanumeric character = true ∨ character = '_'

/-- The number of a parameter that a snippet can name. -/
def IsParameterNumber (number : Nat) : Prop :=
  0 < number ∧ number < UInt64.size

/-- An operand that a snippet can name. -/
def Operand.IsExpressible : Operand → Prop
  | field name => IsFieldName name
  | parameter number => IsParameterNumber number
  | string _ => True
  | int number => 0 ≤ number

/-- A statement that a snippet can say. -/
def Statement.IsExpressible : Statement → Prop
  | assign field parameter => IsFieldName field ∧ IsParameterNumber parameter
  | print operands => ∀ operand ∈ operands, operand.IsExpressible
  | returns value => ∀ operand ∈ value, operand.IsExpressible

/-! ## Written statements -/

/-- The identifier of a field. -/
def fieldToken (name : String) : Token :=
  .identifier ("this." ++ name)

/-- The token of an operand. -/
def Operand.toToken : Operand → Token
  | field name => fieldToken name
  | parameter number => .parameter number
  | string text => .string text
  | int number => .int number

/-- The tokens of a statement. -/
def Statement.toTokens : Statement → List Token
  | assign field parameter => [fieldToken field, .equals, .parameter parameter, .semicolon]
  | print operands =>
      .identifier "println" :: .openParenthesis ::
        ((operands.map Operand.toToken).intersperse .plus ++ [.closeParenthesis, .semicolon])
  | returns none => [.identifier "return", .semicolon]
  | returns (some value) => [.identifier "return", value.toToken, .semicolon]

/-- The statements' tokens in their order, with any semicolons around them. -/
inductive WritesItems : List Statement → List Token → Prop
  | nil : WritesItems [] []
  | semicolon {statements : List Statement} {tokens : List Token} :
      WritesItems statements tokens → WritesItems statements (.semicolon :: tokens)
  | statement {statement : Statement} {statements : List Statement} {tokens : List Token} :
      WritesItems statements tokens → WritesItems (statement :: statements) (statement.toTokens ++ tokens)

/-- The tokens of a body, with or without braces around them. -/
inductive WritesBody (statements : List Statement) : List Token → Prop
  | plain {tokens : List Token} : WritesItems statements tokens → WritesBody statements tokens
  | braced {tokens : List Token} :
      WritesItems statements tokens → WritesBody statements (.openBrace :: (tokens ++ [.closeBrace]))

/-- A text in which the statements are written. -/
def IsSourceOf (source : String) (statements : List Statement) : Prop :=
  ∃ tokens, WritesBody statements tokens ∧ Spells tokens source.toList

/-! ## The plain source -/

/-- The text of an operand. -/
def Operand.source (operand : Operand) : String :=
  String.ofList operand.toToken.text

/-- The text of a statement. -/
def Statement.source : Statement → String
  | assign field parameter => "this." ++ field ++ " = " ++ (Operand.parameter parameter).source ++ ";"
  | print operands => "println(" ++ " + ".intercalate (operands.map Operand.source) ++ ");"
  | returns none => "return;"
  | returns (some value) => "return " ++ value.source ++ ";"

/-- The texts of the statements, one behind the other. -/
def plainSource (statements : List Statement) : String :=
  String.join (statements.map Statement.source)

section Plain

variable {tokens : List Token} {text : List Char}

theorem isGap_nil : IsGap [] := nofun

theorem isGap_space : IsGap [' '] :=
  List.forall_mem_singleton.mpr rfl

/-- White space may be added in front. -/
theorem Spells.gap_append {gap : List Char} (white : IsGap gap) (spells : Spells tokens text) :
    Spells tokens (gap ++ text) := by
  have both {own : List Char} (ownWhite : IsGap own) : IsGap (gap ++ own) :=
    List.forall_mem_append.mpr ⟨white, ownWhite⟩
  cases spells with
  | nil ownWhite => exact .nil (both ownWhite)
  | @cons own text token tokens ownWhite setApart spells =>
      rw [← List.append_assoc, ← List.append_assoc]
      exact .cons (both ownWhite) setApart spells

/-- White space is needed neither in front of punctuation nor behind it. -/
theorem Token.not_runsInto_of_isPunctuation
    {token next : Token}
    (mark : token.IsPunctuation ∨ next.IsPunctuation) :
    ¬ token.RunsInto next := by
  intro runs
  cases token <;> cases next <;> first | exact runs | exact mark.elim id id

/-- Punctuation in front of any tokens. -/
theorem Spells.mark {token : Token} (spells : Spells tokens text) (mark : token.IsPunctuation) :
    Spells (token :: tokens) (token.text ++ text) :=
  .cons isGap_nil (fun _ _ runs => absurd runs (Token.not_runsInto_of_isPunctuation (.inl mark)))
    spells

/-- Any token in front of punctuation. -/
theorem Spells.before
    (token : Token)
    {next : Token}
    (spells : Spells (next :: tokens) text)
    (mark : next.IsPunctuation) :
    Spells (token :: next :: tokens) (token.text ++ text) := by
  refine .cons isGap_nil ?_ spells
  rintro _ ⟨⟩ runs
  exact absurd runs (Token.not_runsInto_of_isPunctuation (.inr mark))

/-- Any token with a space behind it. -/
theorem Spells.spaced (token : Token) (spells : Spells tokens text) :
    Spells (token :: tokens) (token.text ++ ' ' :: text) :=
  .cons isGap_nil (fun _ _ _ => ⟨' ', rfl, rfl⟩) (spells.gap_append isGap_space)

theorem Spells.terms
    (first : Operand)
    (others : List Operand)
    (spells : Spells (.closeParenthesis :: tokens) text) :
    Spells (((first :: others).map Operand.toToken).intersperse .plus ++ .closeParenthesis :: tokens)
      ((" + ".intercalate ((first :: others).map Operand.source)).toList ++ text) := by
  induction others generalizing first with
  | nil => simpa [Operand.source] using spells.before first.toToken trivial
  | cons second others inductionHypothesis =>
      have more := ((inductionHypothesis second).spaced .plus).spaced first.toToken
      simpa [Operand.source, Token.text] using more

theorem Spells.toTokens (spells : Spells tokens text) (statement : Statement) :
    Spells (statement.toTokens ++ tokens) (statement.source.toList ++ text) := by
  have ended : Spells (.semicolon :: tokens) (';' :: text) := spells.mark trivial
  cases statement with
  | assign field parameter =>
      have valued := ended.before (Operand.parameter parameter).toToken trivial
      have stored := (valued.spaced .equals).spaced (fieldToken field)
      simpa [Statement.source, Statement.toTokens, Operand.source, Operand.toToken, Token.text,
        fieldToken] using stored
  | print operands =>
      have closed : Spells (.closeParenthesis :: .semicolon :: tokens) (')' :: ';' :: text) :=
        ended.mark trivial
      have printed {behind : List Token} {characters : List Char} (spells : Spells behind characters) :
          Spells (.identifier "println" :: .openParenthesis :: behind)
            ("println(".toList ++ characters) := by
        have opened : Spells (.openParenthesis :: behind) ('(' :: characters) := spells.mark trivial
        exact opened.before (.identifier "println") trivial
      cases operands with
      | nil => simpa [Statement.source, Statement.toTokens] using printed closed
      | cons first others =>
          simpa [Statement.source, Statement.toTokens] using printed (closed.terms first others)
  | returns value =>
      cases value with
      | none => exact ended.before (.identifier "return") trivial
      | some value =>
          have valued := (ended.before value.toToken trivial).spaced (.identifier "return")
          simpa [Statement.source, Statement.toTokens, Operand.source, Token.text] using valued

theorem isSourceOf_plainSource (statements : List Statement) :
    IsSourceOf (plainSource statements) statements := by
  refine ⟨statements.flatMap Statement.toTokens, .plain ?_, ?_⟩
  · induction statements with
    | nil => exact .nil
    | cons statement statements inductionHypothesis => exact .statement inductionHypothesis
  · induction statements with
    | nil => exact .nil isGap_nil
    | cons statement statements inductionHypothesis =>
        rw [plainSource, List.map_cons, String.join_cons, String.toList_append]
        exact inductionHypothesis.toTokens statement

end Plain

/-! ## Written bodies are bodies of the grammar -/

theorem IsFieldName.namesField {name : String} (named : IsFieldName name) :
    NamesField ("this." ++ name) name := by
  obtain ⟨ordinary, first, rest, spelled, starts, continues⟩ := named
  have filled : name ≠ "" := by
    rintro rfl
    nomatch spelled
  have undotted : '.' ∉ name.toList := by
    rw [spelled]
    rintro (_ | ⟨_, member⟩)
    · revert starts
      decide
    · obtain alphanumeric | underscore := continues '.' member
      · revert alphanumeric
        decide
      · nomatch underscore
  exact ⟨.inr rfl, filled, undotted, ordinary⟩

theorem not_isKeyword_this (name : String) : ¬ IsKeyword ("this." ++ name) := by
  simp [IsKeyword, IsPrintName, ← String.toList_inj]

theorem Operand.IsExpressible.termForm {operand : Operand} (expressible : operand.IsExpressible) :
    TermForm operand.toToken operand := by
  cases operand with
  | field name => exact .field (IsFieldName.namesField expressible)
  | parameter number => exact .parameter number
  | string text => exact .string text
  | int number => exact .int number

theorem Statement.IsExpressible.statementForm
    {statement : Statement}
    (expressible : statement.IsExpressible) :
    StatementForm statement.toTokens statement := by
  cases statement with
  | assign field parameter => exact .assigns (not_isKeyword_this field) expressible.1.namesField
  | print operands =>
      refine .prints (.inl rfl) (List.forall₂_map_left_iff.mpr (List.forall₂_same.mpr ?_))
      exact fun operand member => (expressible operand member).termForm
  | returns value =>
      cases value with
      | none => exact .returnsNothing
      | some value => exact .returnsValue (expressible value rfl).termForm

variable {statements : List Statement} {tokens : List Token}

theorem WritesItems.itemsForm
    (listed : WritesItems statements tokens)
    (expressible : ∀ statement ∈ statements, statement.IsExpressible) :
    ItemsForm tokens statements := by
  induction listed with
  | nil => exact .nil
  | semicolon _ inductionHypothesis => exact .semicolon (inductionHypothesis expressible)
  | statement _ inductionHypothesis =>
      obtain ⟨first, others⟩ := List.forall_mem_cons.mp expressible
      exact .statement first.statementForm (inductionHypothesis others)

theorem WritesBody.bodyForm
    (written : WritesBody statements tokens)
    (expressible : ∀ statement ∈ statements, statement.IsExpressible) :
    BodyForm tokens statements := by
  cases written with
  | plain listed => exact .plain (listed.itemsForm expressible)
  | braced listed => exact .braced (listed.itemsForm expressible)

/-! ## Written tokens are readable -/

theorem IsFieldName.isReadable {name : String} (named : IsFieldName name) :
    (fieldToken name).IsReadable := by
  obtain ⟨ordinary, first, rest, spelled, starts, continues⟩ := named
  refine ⟨'t', 'h' :: 'i' :: 's' :: '.' :: name.toList, by simp, by decide, ?_⟩
  have front : ∀ character ∈ ['h', 'i', 's', '.'], Token.continuesIdentifier character = true :=
    List.all_eq_true.mp rfl
  have others : ∀ character ∈ rest, Token.continuesIdentifier character = true := by
    intro character member
    obtain alphanumeric | underscore := continues character member
    · simp [Token.continuesIdentifier, alphanumeric]
    · simp [Token.continuesIdentifier, underscore]
  rw [spelled]
  have start := Token.continuesIdentifier_of_startsIdentifier starts
  exact List.forall_mem_append.mpr ⟨front, List.forall_mem_cons.mpr ⟨start, others⟩⟩

theorem Operand.IsExpressible.isReadable {operand : Operand} (expressible : operand.IsExpressible) :
    operand.toToken.IsReadable := by
  cases operand with
  | field name => exact IsFieldName.isReadable expressible
  | parameter number => exact expressible
  | string text => trivial
  | int number => exact expressible

theorem forall_mem_intersperse
    {holds : Token → Prop}
    {terms : List Token}
    (plus : holds .plus)
    (all : ∀ term ∈ terms, holds term) :
    ∀ token ∈ terms.intersperse .plus, holds token := by
  induction terms with
  | nil => nofun
  | cons first others inductionHypothesis =>
      obtain ⟨firstHolds, othersHold⟩ := List.forall_mem_cons.mp all
      cases others with
      | nil => exact List.forall_mem_singleton.mpr firstHolds
      | cons second others =>
          rw [List.intersperse_cons_cons, List.forall_mem_cons, List.forall_mem_cons]
          exact ⟨firstHolds, plus, inductionHypothesis othersHold⟩

theorem Statement.IsExpressible.isReadable
    {statement : Statement}
    (expressible : statement.IsExpressible) :
    ∀ token ∈ statement.toTokens, token.IsReadable := by
  have keyword : (Token.identifier "return").IsReadable :=
    ⟨'r', ['e', 't', 'u', 'r', 'n'], rfl, rfl, List.all_eq_true.mp rfl⟩
  have printing : (Token.identifier "println").IsReadable :=
    ⟨'p', ['r', 'i', 'n', 't', 'l', 'n'], rfl, rfl, List.all_eq_true.mp rfl⟩
  cases statement with
  | assign field parameter =>
      have field := expressible.1.isReadable
      have parameter : (Token.parameter parameter).IsReadable := expressible.2
      simp only [Statement.toTokens, List.forall_mem_cons]
      exact ⟨field, trivial, parameter, trivial, nofun⟩
  | print operands =>
      have terms : ∀ token ∈ (operands.map Operand.toToken).intersperse .plus, token.IsReadable :=
        forall_mem_intersperse trivial
          (List.forall_mem_map.mpr fun operand member => (expressible operand member).isReadable)
      simp only [Statement.toTokens, List.forall_mem_cons, List.forall_mem_append]
      exact ⟨printing, trivial, terms, trivial, trivial, nofun⟩
  | returns value =>
      cases value with
      | none => exact List.forall_mem_cons.mpr ⟨keyword, List.forall_mem_singleton.mpr trivial⟩
      | some value =>
          simp only [Statement.toTokens, List.forall_mem_cons]
          exact ⟨keyword, (expressible value rfl).isReadable, trivial, nofun⟩

theorem WritesItems.isReadable
    (listed : WritesItems statements tokens)
    (expressible : ∀ statement ∈ statements, statement.IsExpressible) :
    ∀ token ∈ tokens, token.IsReadable := by
  induction listed with
  | nil => nofun
  | semicolon _ inductionHypothesis =>
      exact List.forall_mem_cons.mpr ⟨trivial, inductionHypothesis expressible⟩
  | statement _ inductionHypothesis =>
      obtain ⟨first, others⟩ := List.forall_mem_cons.mp expressible
      exact List.forall_mem_append.mpr ⟨first.isReadable, inductionHypothesis others⟩

theorem WritesBody.isReadable
    (written : WritesBody statements tokens)
    (expressible : ∀ statement ∈ statements, statement.IsExpressible) :
    ∀ token ∈ tokens, token.IsReadable := by
  cases written with
  | plain listed => exact listed.isReadable expressible
  | braced listed =>
      have items := listed.isReadable expressible
      exact List.forall_mem_cons.mpr
        ⟨trivial, List.forall_mem_append.mpr ⟨items, List.forall_mem_singleton.mpr trivial⟩⟩

/-! ## Written bodies are read -/

/--
Every body of expressible statements can be written as text, for one as its plain source, and however it
is written its text is read as exactly these statements.
-/
theorem parseSnippet_of_isSourceOf
    (expressible : ∀ statement ∈ statements, statement.IsExpressible) :
    IsSourceOf (plainSource statements) statements ∧
      ∀ source, IsSourceOf source statements → parseSnippet source = .ok statements := by
  refine ⟨isSourceOf_plainSource statements, ?_⟩
  rintro source ⟨tokens, written, spells⟩
  obtain ⟨located, cut, rfl⟩ := spells.exists_tokensFrom (written.isReadable expressible) 0
  have parsed : parseBody located = .ok statements :=
    parseBody_of_bodyForm (written.bodyForm expressible)
  simp only [parseSnippet, parseCharacters, LateBinding.tokens, cut, parsed]

theorem parseSnippet_printsId :
    (∀ statement ∈ [Statement.print [.string "id \"", .field "id"]], statement.IsExpressible) ∧
      parseSnippet "println(\"id \\\"\" + this.id);" = .ok [.print [.string "id \"", .field "id"]] := by
  have expressible :
      ∀ statement ∈ [Statement.print [.string "id \"", .field "id"]], statement.IsExpressible := by
    rw [List.forall_mem_singleton]
    have named : IsFieldName "id" :=
      ⟨by decide, 'i', ['d'], rfl, rfl, List.forall_mem_singleton.mpr (.inl rfl)⟩
    simpa [Statement.IsExpressible, Operand.IsExpressible] using named
  obtain ⟨written, read⟩ := parseSnippet_of_isSourceOf expressible
  exact ⟨expressible, read _ written⟩

end LateBinding
