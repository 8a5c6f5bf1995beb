import LateBinding.Proofs.Outcome
import LateBinding.Snippet.Parser
import Mathlib.Data.List.Forall2

/-!
# The grammar of snippets

Which tokens are a body, and of which statements, said by rules that know nothing of reading.  The reader
of a body answers with statements exactly when its tokens are a body of these statements.  Each reader
takes off the front of the tokens what one rule allows, so the two are compared front by front.
-/

namespace LateBinding

/-! ## The rules -/

/--
An identifier names a field, with or without one `this.` in front of the name.  The name is neither empty
nor dotted nor the keyword of returns.
-/
def NamesField (identifier name : String) : Prop :=
  (identifier = name ∨ identifier = "this." ++ name) ∧
    name ≠ "" ∧ '.' ∉ name.toList ∧ name ≠ "return"

/-- The two names of the printing statement. -/
def IsPrintName (identifier : String) : Prop :=
  identifier = "println" ∨ identifier = "System.out.println"

/-- An identifier that is not read as a field where a statement starts. -/
def IsKeyword (identifier : String) : Prop :=
  identifier = "return" ∨ IsPrintName identifier

/-- A token that is an operand. -/
inductive TermForm : Token → Operand → Prop
  | field {identifier name : String} :
      NamesField identifier name → TermForm (.identifier identifier) (.field name)
  | parameter (number : Nat) : TermForm (.parameter number) (.parameter number)
  | string (text : String) : TermForm (.string text) (.string text)
  | int (number : Int32) : TermForm (.int number) (.int number)

/-- The tokens of one statement. -/
inductive StatementForm : List Token → Statement → Prop
  | returnsNothing : StatementForm [.identifier "return", .semicolon] (.returns none)
  | returnsValue {term : Token} {operand : Operand} :
      TermForm term operand →
      StatementForm [.identifier "return", term, .semicolon] (.returns (some operand))
  | prints {keyword : String} {terms : List Token} {operands : List Operand} :
      IsPrintName keyword →
      List.Forall₂ TermForm terms operands →
      StatementForm
        (.identifier keyword :: .openParenthesis ::
          (terms.intersperse .plus ++ [.closeParenthesis, .semicolon]))
        (.print operands)
  | assigns {identifier name : String} {number : Nat} :
      ¬ IsKeyword identifier →
      NamesField identifier name →
      StatementForm [.identifier identifier, .equals, .parameter number, .semicolon]
        (.assign name number)

/-- Statements and semicolons one after the other. -/
inductive ItemsForm : List Token → List Statement → Prop
  | nil : ItemsForm [] []
  | semicolon {tokens : List Token} {statements : List Statement} :
      ItemsForm tokens statements →
      ItemsForm (.semicolon :: tokens) statements
  | statement {front tokens : List Token} {statement : Statement} {statements : List Statement} :
      StatementForm front statement →
      ItemsForm tokens statements →
      ItemsForm (front ++ tokens) (statement :: statements)

/-- The tokens of a body, with or without braces around them. -/
inductive BodyForm : List Token → List Statement → Prop
  | plain {tokens : List Token} {statements : List Statement} :
      ItemsForm tokens statements → BodyForm tokens statements
  | braced {tokens : List Token} {statements : List Statement} :
      ItemsForm tokens statements → BodyForm (.openBrace :: (tokens ++ [.closeBrace])) statements

/-! ## Fields and operands -/

theorem isPrintKeyword_iff {identifier : String} :
    isPrintKeyword identifier = true ↔ IsPrintName identifier := by
  simp [isPrintKeyword, IsPrintName]

/-- The text of a name alone is accepted unless it is empty, dotted or the keyword. -/
theorem plainName_eq_some_iff {characters : List Char} {name : String} :
    (if characters.isEmpty || characters.contains '.' || characters = "return".toList then none
      else some (String.ofList characters)) = some name ↔
      characters = name.toList ∧ name ≠ "" ∧ '.' ∉ name.toList ∧ name ≠ "return" := by
  obtain ⟨found, rfl⟩ : ∃ found : String, characters = found.toList :=
    ⟨String.ofList characters, String.toList_ofList.symm⟩
  have empty : found = "" ↔ found.toList = [] := String.toList_inj.symm
  have keyword : found = "return" ↔ found.toList = "return".toList := String.toList_inj.symm
  have refused :
      (found.toList.isEmpty || found.toList.contains '.' || found.toList = "return".toList) = true ↔
        found = "" ∨ '.' ∈ found.toList ∨ found = "return" := by
    simp only [empty, keyword, Bool.or_eq_true, List.isEmpty_iff, List.contains_iff_mem,
      decide_eq_true_eq, or_assoc]
  rw [Option.ite_none_left_eq_some, refused, String.ofList_toList, String.toList_inj, not_or, not_or,
    Option.some_inj, and_comm]
  exact and_congr_right fun same => by rw [same]

theorem fieldName?_eq_some_iff {identifier name : String} :
    fieldName? identifier = some name ↔ NamesField identifier name := by
  unfold fieldName? NamesField
  split
  · next rest spelled =>
    have prefixed : rest = name.toList ↔ identifier = "this." ++ name := by
      rw [← String.toList_inj, String.toList_append, spelled]
      simp
    -- The whole identifier has a point, so it names nothing itself.
    have dotted : '.' ∉ name.toList → identifier ≠ name := by
      rintro undotted rfl
      simp [spelled] at undotted
    rw [plainName_eq_some_iff, prefixed]
    grind
  · next notPrefixed =>
    have unprefixed : identifier ≠ "this." ++ name := by
      rintro rfl
      exact notPrefixed name.toList (by simp)
    rw [plainName_eq_some_iff, String.toList_inj]
    simp [unprefixed]

theorem ofToken?_eq_some_iff {token : Token} {operand : Operand} :
    Operand.ofToken? token = some operand ↔ TermForm token operand := by
  constructor
  · intro read
    cases token with
    | identifier identifier =>
        obtain ⟨name, named, rfl⟩ := Option.map_eq_some_iff.mp read
        exact .field (fieldName?_eq_some_iff.mp named)
    | parameter number => exact Option.some.inj read ▸ .parameter number
    | string text => exact Option.some.inj read ▸ .string text
    | int number => exact Option.some.inj read ▸ .int number
    | _ => nomatch read
  · rintro (named | _ | _ | _)
    · exact Option.map_eq_some_iff.mpr ⟨_, fieldName?_eq_some_iff.mpr named, rfl⟩
    all_goals rfl

/-! ## Tokens taken off the front -/

/-- The tokens start with these, and others follow. -/
def TakesOff (tokens : List LocatedToken) (front : List Token) (after : List LocatedToken) : Prop :=
  ∃ taken, tokens = taken ++ after ∧ taken.map LocatedToken.token = front

section TakesOff

variable {tokens after rest : List LocatedToken} {front behind : List Token} {token : Token}

theorem takesOff_nil : TakesOff tokens [] after ↔ tokens = after := by
  simp [TakesOff]

theorem takesOff_cons :
    TakesOff tokens (token :: front) after ↔
      ∃ located rest, tokens = located :: rest ∧ located.token = token ∧ TakesOff rest front after := by
  constructor
  · rintro ⟨taken, rfl, shown⟩
    obtain ⟨located, others, rfl, rfl, rfl⟩ := List.map_eq_cons_iff.mp shown
    exact ⟨located, others ++ after, rfl, rfl, others, rfl, rfl⟩
  · rintro ⟨located, _, rfl, rfl, taken, rfl, rfl⟩
    exact ⟨located :: taken, rfl, rfl⟩

theorem takesOff_append :
    TakesOff tokens (front ++ behind) after ↔
      ∃ rest, TakesOff tokens front rest ∧ TakesOff rest behind after := by
  induction front generalizing tokens with
  | nil => simp [takesOff_nil]
  | cons token front inductionHypothesis =>
      simp only [List.cons_append, takesOff_cons, inductionHypothesis]
      grind

theorem takesOff_first :
    TakesOff tokens (token :: front) after ↔
      ∃ rest, TakesOff tokens [token] rest ∧ TakesOff rest front after := by
  rw [← List.singleton_append, takesOff_append]

end TakesOff

/-! ## Readers of parts of statements -/

variable {tokens after : List LocatedToken} {statement : Statement} {statements : List Statement}

theorem expect_eq_ok_iff {expected : Token} :
    expect expected tokens = .ok after ↔ TakesOff tokens [expected] after := by
  rw [takesOff_cons]
  cases tokens with
  | nil => simp [expect]
  | cons located rest =>
      rw [expect]
      split <;> simp_all [takesOff_nil]

theorem parseOperand_eq_ok_iff {operand : Operand} :
    parseOperand tokens = .ok (operand, after) ↔
      ∃ term, TermForm term operand ∧ TakesOff tokens [term] after := by
  cases tokens with
  | nil => simp [parseOperand, takesOff_cons]
  | cons located rest =>
      have term := @ofToken?_eq_some_iff located.token
      rw [parseOperand]
      cases read : Operand.ofToken? located.token with
      | none =>
          have noTerm : ¬ TermForm located.token operand := by simp [← term, read]
          simpa [takesOff_cons, takesOff_nil] using fun formed => absurd formed noTerm
      | some found =>
          have same : TermForm located.token operand ↔ found = operand := by simp [← term, read]
          simp [takesOff_cons, takesOff_nil, same]

theorem parseMoreOperands_eq_nil_iff :
    parseMoreOperands tokens = .ok ([], after) ↔ TakesOff tokens [.closeParenthesis] after := by
  fun_cases parseMoreOperands tokens <;> simp_all [takesOff_cons, takesOff_nil]

theorem parseOperands_eq_nil_iff :
    parseOperands tokens = .ok ([], after) ↔ TakesOff tokens [.closeParenthesis] after := by
  fun_cases parseOperands tokens <;> simp_all [takesOff_cons, takesOff_nil]

theorem parseOperands_eq_cons_iff {operand : Operand} {operands : List Operand} :
    parseOperands tokens = .ok (operand :: operands, after) ↔
      ∃ term rest, TermForm term operand ∧ TakesOff tokens [term] rest ∧
        parseMoreOperands rest = .ok (operands, after) := by
  simp only [takesOff_cons, takesOff_nil, ← ofToken?_eq_some_iff]
  fun_cases parseOperands tokens <;> simp_all [Operand.ofToken?, and_comm]

/-- Behind a plus the operands go on as they start. -/
theorem parseMoreOperands_eq_cons_iff {operand : Operand} {operands : List Operand} :
    parseMoreOperands tokens = .ok (operand :: operands, after) ↔
      ∃ rest, TakesOff tokens [.plus] rest ∧ parseOperands rest = .ok (operand :: operands, after) := by
  simp only [parseOperands_eq_cons_iff, takesOff_cons, takesOff_nil, ← ofToken?_eq_some_iff]
  fun_cases parseMoreOperands tokens <;> simp_all
  all_goals grind

theorem parseOperands_eq_ok_iff {operands : List Operand} :
    parseOperands tokens = .ok (operands, after) ↔
      ∃ terms, List.Forall₂ TermForm terms operands ∧
        TakesOff tokens (terms.intersperse .plus ++ [.closeParenthesis]) after := by
  -- Each operand but the first stands behind a plus, where the reader goes on as it starts.
  induction operands generalizing tokens with
  | nil => simp [parseOperands_eq_nil_iff]
  | cons first others inductionHypothesis =>
      rw [parseOperands_eq_cons_iff]
      cases others with
      | nil =>
          simp only [parseMoreOperands_eq_nil_iff]
          constructor
          · rintro ⟨term, rest, formed, taken, closed⟩
            exact ⟨[term], .cons formed .nil, takesOff_first.mpr ⟨rest, taken, closed⟩⟩
          · rintro ⟨terms, all, listed⟩
            obtain ⟨term, _, formed, ⟨⟩, rfl⟩ := List.forall₂_cons_right_iff.mp all
            obtain ⟨rest, taken, closed⟩ := takesOff_first.mp listed
            exact ⟨term, rest, formed, taken, closed⟩
      | cons second others =>
          simp only [parseMoreOperands_eq_cons_iff, inductionHypothesis]
          constructor
          · rintro ⟨term, rest, formed, taken, behind, plus, terms, all, listed⟩
            obtain ⟨next, more, _, _, rfl⟩ := List.forall₂_cons_right_iff.mp all
            exact ⟨term :: next :: more, .cons formed all,
              takesOff_first.mpr ⟨rest, taken, takesOff_first.mpr ⟨behind, plus, listed⟩⟩⟩
          · rintro ⟨terms, all, listed⟩
            obtain ⟨term, _, formed, remaining, rfl⟩ := List.forall₂_cons_right_iff.mp all
            obtain ⟨next, more, _, _, rfl⟩ := List.forall₂_cons_right_iff.mp remaining
            obtain ⟨rest, taken, between⟩ := takesOff_first.mp listed
            obtain ⟨behind, plus, later⟩ := takesOff_first.mp between
            exact ⟨term, rest, formed, taken, behind, plus, next :: more, remaining, later⟩

/-! ## The reader of one statement -/

theorem parseParameter_eq_ok_iff {number : Nat} :
    parseParameter tokens = .ok (number, after) ↔ TakesOff tokens [.parameter number] after := by
  cases tokens with
  | nil => simp [parseParameter, takesOff_cons]
  | cons located rest =>
      obtain ⟨token, offset⟩ := located
      cases token <;> simp [parseParameter, takesOff_cons, takesOff_nil, and_comm]

theorem TermForm.ne_semicolon {term : Token} {operand : Operand} (formed : TermForm term operand) :
    term ≠ .semicolon := by
  cases formed <;> simp

theorem parseReturn_eq_ok_iff :
    parseReturn tokens = .ok (statement, after) ↔
      (TakesOff tokens [.semicolon] after ∧ statement = .returns none) ∨
        ∃ term operand, TermForm term operand ∧ TakesOff tokens [term, .semicolon] after ∧
          statement = .returns (some operand) := by
  constructor
  · intro parsed
    unfold parseReturn at parsed
    split at parsed
    · next rest ended =>
      obtain ⟨rfl, rfl⟩ := Prod.mk.inj (Except.ok.inj parsed)
      exact .inl ⟨expect_eq_ok_iff.mp ended, rfl⟩
    · obtain ⟨⟨operand, rest⟩, read, parsed⟩ := Outcome.bind_eq_ok_iff.mp parsed
      obtain ⟨behind, ended, parsed⟩ := Outcome.bind_eq_ok_iff.mp parsed
      obtain ⟨rfl, rfl⟩ := Prod.mk.inj (Except.ok.inj parsed)
      obtain ⟨term, formed, first⟩ := parseOperand_eq_ok_iff.mp read
      have taken : TakesOff tokens [term, .semicolon] behind :=
        takesOff_first.mpr ⟨rest, first, expect_eq_ok_iff.mp ended⟩
      exact .inr ⟨term, operand, formed, taken, rfl⟩
  · rintro (⟨ended, rfl⟩ | ⟨term, operand, formed, taken, rfl⟩)
    · rw [parseReturn, expect_eq_ok_iff.mpr ended]
    · -- A term is no semicolon, so the reader of the short form has failed before.
      obtain ⟨located, rest, rfl, rfl, ended⟩ := takesOff_cons.mp taken
      have notShort : expect .semicolon (located :: rest) = .error (located :: rest) :=
        if_neg formed.ne_semicolon
      have read : parseOperand (located :: rest) = .ok (operand, rest) :=
        parseOperand_eq_ok_iff.mpr ⟨_, formed, [located], rfl, rfl⟩
      rw [parseReturn, notShort]
      exact Outcome.bind_eq_ok_iff.mpr ⟨_, read,
        Outcome.bind_eq_ok_iff.mpr ⟨after, expect_eq_ok_iff.mpr ended, rfl⟩⟩

theorem parsePrint_eq_ok_iff :
    parsePrint tokens = .ok (statement, after) ↔
      ∃ terms operands, List.Forall₂ TermForm terms operands ∧
        TakesOff tokens
          (.openParenthesis :: (terms.intersperse .plus ++ [.closeParenthesis, .semicolon])) after ∧
        statement = .print operands := by
  simp only [parsePrint, Outcome.bind_eq_ok_iff, Prod.exists, expect_eq_ok_iff, parseOperands_eq_ok_iff]
  constructor
  · rintro ⟨opened, opens, operands, rest, ⟨terms, formed, listed⟩, behind, ended, made⟩
    obtain ⟨rfl, rfl⟩ := Prod.mk.inj (Except.ok.inj made)
    refine ⟨terms, operands, formed, takesOff_first.mpr ⟨opened, opens, ?_⟩, rfl⟩
    rw [List.append_cons, takesOff_append]
    exact ⟨rest, listed, ended⟩
  · rintro ⟨terms, operands, formed, taken, rfl⟩
    obtain ⟨opened, opens, taken⟩ := takesOff_first.mp taken
    rw [List.append_cons, takesOff_append] at taken
    obtain ⟨rest, listed, ended⟩ := taken
    exact ⟨opened, opens, operands, rest, ⟨terms, formed, listed⟩, after, ended, rfl⟩

theorem parseAssignment_eq_ok_iff {name : String} :
    parseAssignment name tokens = .ok (statement, after) ↔
      ∃ number, TakesOff tokens [.equals, .parameter number, .semicolon] after ∧
        statement = .assign name number := by
  simp only [parseAssignment, Outcome.bind_eq_ok_iff, Prod.exists, expect_eq_ok_iff,
    parseParameter_eq_ok_iff]
  constructor
  · rintro ⟨source, stored, number, rest, numbered, behind, ended, made⟩
    obtain ⟨rfl, rfl⟩ := Prod.mk.inj (Except.ok.inj made)
    have taken : TakesOff source [.parameter number, .semicolon] behind :=
      takesOff_first.mpr ⟨rest, numbered, ended⟩
    exact ⟨number, takesOff_first.mpr ⟨source, stored, taken⟩, rfl⟩
  · rintro ⟨number, taken, rfl⟩
    obtain ⟨source, stored, taken⟩ := takesOff_first.mp taken
    obtain ⟨rest, numbered, ended⟩ := takesOff_first.mp taken
    exact ⟨source, stored, number, rest, numbered, after, ended, rfl⟩

theorem parseStatement_eq_ok_iff :
    parseStatement tokens = .ok (statement, after) ↔
      ∃ front, StatementForm front statement ∧ TakesOff tokens front after := by
  constructor
  · intro parsed
    unfold parseStatement at parsed
    split at parsed
    · next name offset rest =>
      have keyword {behind : List Token} (taken : TakesOff rest behind after) :
          TakesOff (⟨.identifier name, offset⟩ :: rest) (.identifier name :: behind) after :=
        takesOff_cons.mpr ⟨_, rest, rfl, rfl, taken⟩
      split at parsed
      · next returning =>
        subst returning
        obtain ⟨ended, rfl⟩ | ⟨term, operand, formed, taken, rfl⟩ := parseReturn_eq_ok_iff.mp parsed
        · exact ⟨_, .returnsNothing, keyword ended⟩
        · exact ⟨_, .returnsValue formed, keyword taken⟩
      · next notReturning =>
        split at parsed
        · next printing =>
          obtain ⟨terms, operands, formed, taken, rfl⟩ := parsePrint_eq_ok_iff.mp parsed
          exact ⟨_, .prints (isPrintKeyword_iff.mp printing) formed, keyword taken⟩
        · next notPrinting =>
          have noKeyword : ¬ IsKeyword name :=
            not_or.mpr ⟨notReturning, mt isPrintKeyword_iff.mpr notPrinting⟩
          split at parsed
          · next field named =>
            obtain ⟨number, taken, rfl⟩ := parseAssignment_eq_ok_iff.mp parsed
            exact ⟨_, .assigns noKeyword (fieldName?_eq_some_iff.mp named), keyword taken⟩
          · nomatch parsed
    · nomatch parsed
  · rintro ⟨front, formed, taken⟩
    cases formed with
    | returnsNothing =>
        obtain ⟨⟨_, offset⟩, rest, rfl, rfl, followed⟩ := takesOff_cons.mp taken
        exact parseReturn_eq_ok_iff.mpr (.inl ⟨followed, rfl⟩)
    | returnsValue formed =>
        obtain ⟨⟨_, offset⟩, rest, rfl, rfl, followed⟩ := takesOff_cons.mp taken
        exact parseReturn_eq_ok_iff.mpr (.inr ⟨_, _, formed, followed, rfl⟩)
    | @prints keyword terms operands printing formed =>
        obtain ⟨⟨_, offset⟩, rest, rfl, rfl, followed⟩ := takesOff_cons.mp taken
        have notReturning : keyword ≠ "return" := by
          rintro rfl
          simp [IsPrintName] at printing
        rw [parseStatement, if_neg notReturning, if_pos (isPrintKeyword_iff.mpr printing)]
        exact parsePrint_eq_ok_iff.mpr ⟨_, _, formed, followed, rfl⟩
    | @assigns identifier name number noKeyword named =>
        obtain ⟨⟨_, offset⟩, rest, rfl, rfl, followed⟩ := takesOff_cons.mp taken
        obtain ⟨notReturning, notPrinting⟩ := not_or.mp noKeyword
        rw [parseStatement, if_neg notReturning, if_neg (mt isPrintKeyword_iff.mp notPrinting),
          fieldName?_eq_some_iff.mpr named]
        exact parseAssignment_eq_ok_iff.mpr ⟨number, followed, rfl⟩

/-! ## The reader of a body -/

/-- What ends the items of a body. -/
def bodyEnd (braced : Bool) : List Token :=
  if braced then [.closeBrace] else []

theorem StatementForm.starts {front : List Token} (formed : StatementForm front statement) :
    ∃ name behind, front = .identifier name :: behind := by
  cases formed <;> exact ⟨_, _, rfl⟩

theorem itemsForm_of_parseItems {braced : Bool} (parsed : parseItems braced tokens = .ok statements) :
    ∃ items, ItemsForm items statements ∧
      tokens.map LocatedToken.token = items ++ bodyEnd braced := by
  fun_induction parseItems braced tokens generalizing statements with
  | case1 => nomatch parsed
  | case2 notBraced =>
      obtain rfl := Except.ok.inj parsed
      exact ⟨[], .nil, by simp [bodyEnd, notBraced]⟩
  | case3 located rest closing ended =>
      obtain rfl := Except.ok.inj parsed
      exact ⟨[], .nil, by simp_all [bodyEnd]⟩
  | case4 => nomatch parsed
  | case5 located rest notClosing semicolon inductionHypothesis =>
      obtain ⟨items, formed, shown⟩ := inductionHypothesis parsed
      exact ⟨_, .semicolon formed, by rw [List.map_cons, semicolon, shown, List.cons_append]⟩
  | case6 => nomatch parsed
  | case7 located rest notClosing notSemicolon statement after read inductionHypothesis =>
      obtain ⟨others, following, rfl⟩ := Outcome.map_eq_ok_iff.mp parsed
      obtain ⟨front, first, taken, split, rfl⟩ := parseStatement_eq_ok_iff.mp read
      obtain ⟨items, formed, shown⟩ := inductionHypothesis following
      exact ⟨_, .statement first formed, by rw [split, List.map_append, shown, List.append_assoc]⟩

theorem parseItems_of_itemsForm
    {braced : Bool}
    {items : List Token}
    (formed : ItemsForm items statements)
    (shown : tokens.map LocatedToken.token = items ++ bodyEnd braced) :
    parseItems braced tokens = .ok statements := by
  induction formed generalizing tokens with
  | nil =>
      cases braced with
      | false =>
          obtain rfl := List.map_eq_nil_iff.mp shown
          simp [parseItems]
      | true =>
          obtain ⟨located, rest, rfl, closing, ended⟩ := List.map_eq_cons_iff.mp shown
          simp_all [parseItems]
  | semicolon _ inductionHypothesis =>
      obtain ⟨located, rest, rfl, semicolon, shown⟩ := List.map_eq_cons_iff.mp shown
      rw [parseItems, if_neg (by simp [semicolon]), if_pos semicolon]
      exact inductionHypothesis shown
  | @statement front _ statement _ formed _ inductionHypothesis =>
      obtain ⟨name, behind, rfl⟩ := formed.starts
      rw [List.append_assoc] at shown
      obtain ⟨taken, after, rfl, first, following⟩ := List.map_eq_append_iff.mp shown
      have read : parseStatement (taken ++ after) = .ok (statement, after) :=
        parseStatement_eq_ok_iff.mpr ⟨_, formed, taken, rfl, first⟩
      obtain ⟨located, rest, rfl, identifier, _⟩ := List.map_eq_cons_iff.mp first
      rw [List.cons_append] at read ⊢
      -- A statement starts with an identifier, so it is neither skipped nor taken for the end.
      rw [parseItems, if_neg (by simp [identifier]), if_neg (by simp [identifier])]
      split
      · next failed => exact absurd (failed.symm.trans read) (Outcome.error_ne_ok _ _)
      · next reread =>
        obtain ⟨rfl, rfl⟩ := Prod.mk.inj (Except.ok.inj (read.symm.trans reread))
        exact Outcome.map_eq_ok_iff.mpr ⟨_, inductionHypothesis following, rfl⟩

theorem ItemsForm.not_openBrace {items : List Token} (formed : ItemsForm items statements) :
    items.head? ≠ some .openBrace := by
  cases formed with
  | nil => nofun
  | semicolon => nofun
  | statement first => 
    obtain ⟨name, behind, rfl⟩ := first.starts
    nofun

theorem bodyForm_of_parseBody (parsed : parseBody tokens = .ok statements) :
    BodyForm (tokens.map LocatedToken.token) statements := by
  unfold parseBody at parsed
  split at parsed
  · next offset rest =>
    obtain ⟨items, formed, shown⟩ := itemsForm_of_parseItems parsed
    rw [List.map_cons, shown]
    exact .braced formed
  · obtain ⟨items, formed, shown⟩ := itemsForm_of_parseItems parsed
    rw [shown, bodyEnd, if_neg (by simp), List.append_nil]
    exact .plain formed

theorem parseBody_of_bodyForm (formed : BodyForm (tokens.map LocatedToken.token) statements) :
    parseBody tokens = .ok statements := by
  generalize shown : tokens.map LocatedToken.token = shown at formed
  cases formed with
  | plain formed =>
      rw [parseBody]
      · exact parseItems_of_itemsForm formed (by simp [bodyEnd, shown])
      · rintro offset rest rfl
        exact formed.not_openBrace (shown ▸ rfl)
  | braced formed => 
      obtain ⟨⟨_, offset⟩, rest, rfl, rfl, listed⟩ := List.map_eq_cons_iff.mp shown
      exact parseItems_of_itemsForm formed listed

/--
The reader of a body succeeds exactly on the bodies of the grammar, and with the statements of the body
in their order.
-/
theorem parseBody_eq_ok_iff :
    parseBody tokens = .ok statements ↔ BodyForm (tokens.map LocatedToken.token) statements :=
  ⟨bodyForm_of_parseBody, parseBody_of_bodyForm⟩

end LateBinding
