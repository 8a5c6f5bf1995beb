import LateBinding.Proofs.Descriptor.Steps
import LateBinding.Proofs.Snippet.Writing

/-!
# Fields that snippets can name

A field has an identifier as its name, in which dollar signs may stand; in a snippet a dollar sign starts a
parameter.  So the fields that snippets can name are exactly those without a dollar sign in their names, the
keyword of returns apart.  Each of them can be assigned to, and no snippet says anything about the others.
-/

namespace LateBinding

open Text

/-- A statement stores in the field of a name, prints it or returns it. -/
inductive Statement.Names (name : String) : Statement → Prop
  | assign (parameter : Nat) : Names name (.assign name parameter)
  | print {operands : List Operand} : .field name ∈ operands → Names name (.print operands)
  | returns : Names name (.returns (some (.field name)))

/-- The text that assigns the first parameter to the field of a name. -/
def assignmentSource (name : String) : String :=
  "this." ++ name ++ " = $1;"

/-! ## Texts are cut into readable tokens -/

namespace Token

theorem isReadable_of_parameterNumber?
    {digits : List Char}
    {number : Nat}
    (read : parameterNumber? digits = some number) :
    (parameter number).IsReadable := by
  obtain ⟨found, _, kept⟩ := Option.bind_eq_some_iff.mp read
  obtain ⟨inRange, rfl⟩ := Option.ite_some_none_eq_some.mp kept
  simpa [IsReadable] using inRange

theorem isReadable_of_integerLiteral?
    {digits : List Char}
    {number : Int32}
    (read : integerLiteral? digits = some number) :
    (int number).IsReadable := by
  obtain ⟨found, _, kept⟩ := Option.bind_eq_some_iff.mp read
  obtain ⟨small, rfl⟩ := Option.ite_some_none_eq_some.mp kept
  exact Int32.zero_le_ofNat_of_lt small

theorem isReadable_of_ofPunctuation?
    {character : Char}
    {token : Token}
    (read : ofPunctuation? character = some token) :
    token.IsReadable := by
  unfold ofPunctuation? at read
  grind [IsReadable]

/-- A token that is read off a text can be spelled. -/
theorem isReadable_of_first?
    {character : Char}
    {rest after : List Char}
    {token : Token}
    (read : first? character rest = some (token, after)) :
    token.IsReadable := by
  unfold first? at read
  split at read
  · next mark =>
    obtain ⟨rfl, rfl⟩ := Prod.mk.inj (Option.some.inj read)
    exact isReadable_of_ofPunctuation? mark
  split at read
  · obtain ⟨number, numbered, same⟩ := Option.map_eq_some_iff.mp read
    obtain ⟨rfl, rfl⟩ := Prod.mk.inj same
    exact isReadable_of_parameterNumber? numbered
  split at read
  · obtain ⟨⟨text, behind⟩, _, same⟩ := Option.map_eq_some_iff.mp read
    obtain ⟨rfl, rfl⟩ := Prod.mk.inj same
    trivial
  split at read
  · obtain ⟨number, numbered, same⟩ := Option.map_eq_some_iff.mp read
    obtain ⟨rfl, rfl⟩ := Prod.mk.inj same
    exact isReadable_of_integerLiteral? numbered
  split at read
  · next starts =>
    obtain ⟨rfl, rfl⟩ := Prod.mk.inj (Option.some.inj read)
    exact ⟨character, _, String.toList_ofList, starts, fun _ => List.mem_takeWhile_imp⟩
  · nomatch read

end Token

theorem isReadable_of_tokensFrom
    {offset : Nat}
    {text : List Char}
    {located : List LocatedToken}
    (cut : tokensFrom offset text = .ok located) :
    ∀ found ∈ located, found.token.IsReadable := by
  fun_induction tokensFrom offset text generalizing located with
  | case1 =>
      obtain rfl := Except.ok.inj cut
      nofun
  | case2 offset character rest white inductionHypothesis => exact inductionHypothesis cut
  | case3 => nomatch cut
  | case4 offset character rest notWhite token after read inductionHypothesis =>
      obtain ⟨later, cutLater, rfl⟩ := Outcome.map_eq_ok_iff.mp cut
      exact List.forall_mem_cons.mpr ⟨Token.isReadable_of_first? read, inductionHypothesis cutLater⟩

/-- A snippet is understood exactly when it is cut into tokens that are a body of the grammar. -/
theorem parseSnippet_eq_ok_iff {source : String} {statements : List Statement} :
    parseSnippet source = .ok statements ↔
      ∃ located, tokens source.toList = .ok located ∧
        BodyForm (located.map LocatedToken.token) statements := by
  unfold parseSnippet parseCharacters
  constructor
  · intro parsed
    dsimp only at parsed
    split at parsed
    · nomatch parsed
    next understood =>
    split at understood
    · nomatch understood
    next located cut =>
    split at understood
    · nomatch understood
    next body =>
    obtain rfl := Except.ok.inj understood
    obtain rfl := Except.ok.inj parsed
    exact ⟨located, cut, bodyForm_of_parseBody body⟩
  · rintro ⟨located, cut, formed⟩
    simp only [cut, parseBody_of_bodyForm formed]

/-! ## Named fields stand in the tokens -/

variable {name : String} {statement : Statement} {statements : List Statement}

theorem mem_intersperse_of_mem {token : Token} (between : Token) {terms : List Token} (among : token ∈ terms) :
    token ∈ terms.intersperse between := by
  obtain ⟨index, there⟩ := List.mem_iff_getElem?.mp among
  exact List.mem_of_getElem? (List.getElem?_intersperse_two_mul.trans there)

/-- A field among operands stands as an identifier among their terms. -/
theorem exists_identifier_of_terms
    {terms : List Token}
    {operands : List Operand}
    (formed : List.Forall₂ TermForm terms operands)
    (among : .field name ∈ operands) :
    ∃ identifier, .identifier identifier ∈ terms ∧ NamesField identifier name := by
  induction formed with
  | nil => nomatch among
  | cons first _ inductionHypothesis =>
      rcases List.mem_cons.mp among with rfl | behind
      · cases first with
        | field named => exact ⟨_, List.mem_cons_self, named⟩
      · obtain ⟨identifier, found, named⟩ := inductionHypothesis behind
        exact ⟨identifier, List.mem_cons_of_mem _ found, named⟩

theorem StatementForm.exists_identifier
    {front : List Token}
    (formed : StatementForm front statement)
    (names : statement.Names name) :
    ∃ identifier, .identifier identifier ∈ front ∧ NamesField identifier name := by
  cases names with
  | assign parameter =>
      cases formed with
      | assigns _ named => exact ⟨_, List.mem_cons_self, named⟩
  | print among =>
      cases formed with
      | prints _ terms =>
          obtain ⟨identifier, found, named⟩ := exists_identifier_of_terms terms among
          have inside := mem_intersperse_of_mem .plus found
          exact ⟨identifier, by simp [inside], named⟩
  | returns =>
      cases formed with
      | returnsValue term =>
          cases term with
          | field named => exact ⟨_, by simp, named⟩

theorem ItemsForm.exists_identifier
    {items : List Token}
    (formed : ItemsForm items statements)
    (among : statement ∈ statements)
    (names : statement.Names name) :
    ∃ identifier, .identifier identifier ∈ items ∧ NamesField identifier name := by
  induction formed with
  | nil => nomatch among
  | semicolon _ inductionHypothesis =>
      obtain ⟨identifier, found, named⟩ := inductionHypothesis among
      exact ⟨identifier, List.mem_cons_of_mem _ found, named⟩
  | statement first _ inductionHypothesis =>
      rcases List.mem_cons.mp among with rfl | behind
      · obtain ⟨identifier, found, named⟩ := first.exists_identifier names
        exact ⟨identifier, List.mem_append_left _ found, named⟩
      · obtain ⟨identifier, found, named⟩ := inductionHypothesis behind
        exact ⟨identifier, List.mem_append_right _ found, named⟩

/-- A field that a body names stands as an identifier among the body's tokens. -/
theorem BodyForm.exists_identifier
    {tokens : List Token}
    (formed : BodyForm tokens statements)
    (among : statement ∈ statements)
    (names : statement.Names name) :
    ∃ identifier, .identifier identifier ∈ tokens ∧ NamesField identifier name := by
  cases formed with
  | plain listed => exact listed.exists_identifier among names
  | braced listed =>
      obtain ⟨identifier, found, named⟩ := listed.exists_identifier among names
      exact ⟨identifier, by simp [found], named⟩

/-! ## The fields that can be named -/

theorem Token.continuesIdentifier_of_mem
    {identifier : String}
    (readable : (Token.identifier identifier).IsReadable)
    {character : Char}
    (among : character ∈ identifier.toList) :
    Token.continuesIdentifier character = true := by
  obtain ⟨first, rest, spelled, starts, continues⟩ := readable
  rw [spelled] at among
  rcases List.mem_cons.mp among with rfl | behind
  · exact Token.continuesIdentifier_of_startsIdentifier starts
  · exact continues character behind

/-- The name of a field is no keyword and has the characters of identifiers, whatever names it. -/
theorem continuesIdentifier_of_parseSnippet
    {source : String}
    (parsed : parseSnippet source = .ok statements)
    (among : statement ∈ statements)
    (names : statement.Names name) :
    name ≠ "return" ∧ ∀ character ∈ name.toList, Token.continuesIdentifier character = true := by
  obtain ⟨located, cut, formed⟩ := parseSnippet_eq_ok_iff.mp parsed
  obtain ⟨identifier, found, spelled, _, _, ordinary⟩ := formed.exists_identifier among names
  obtain ⟨token, listed, same⟩ := List.mem_map.mp found
  have readable : (Token.identifier identifier).IsReadable :=
    same ▸ isReadable_of_tokensFrom cut token listed
  refine ⟨ordinary, fun character inside => Token.continuesIdentifier_of_mem readable ?_⟩
  obtain rfl | rfl := spelled
  · exact inside
  · rw [String.toList_append]
    exact List.mem_append_right _ inside

/-- An identifier without dollar signs reads as a field. -/
theorem isFieldName_of_isIdentifier
    (identifies : isIdentifier name.toList = true)
    (noDollar : '$' ∉ name.toList)
    (ordinary : name ≠ "return") :
    IsFieldName name := by
  refine ⟨ordinary, ?_⟩
  cases spelled : name.toList with
  | nil => simp [spelled, isIdentifier] at identifies
  | cons first rest =>
      rw [spelled, List.mem_cons, not_or] at noDollar
      obtain ⟨starts, continues⟩ : startsName first = true ∧ rest.all continuesName = true := by
        simpa [spelled, isIdentifier] using identifies
      refine ⟨first, rest, rfl, ?_, ?_⟩
      · simpa [startsName, Token.startsIdentifier, Ne.symm noDollar.1] using starts
      · intro character inside
        have noSign : character ≠ '$' := fun same => noDollar.2 (same ▸ inside)
        simpa [continuesName, noSign] using List.all_eq_true.mp continues character inside

theorem plainSource_assign (name : String) :
    plainSource [.assign name 1] = assignmentSource name := by
  have digits : Nat.toDigits 10 1 = ['1'] := rfl
  apply String.toList_inj.mp
  simp [plainSource, Statement.source, assignmentSource, Operand.source, Operand.toToken, Token.text, digits]

theorem parseSnippet_assignmentSource (named : IsFieldName name) :
    parseSnippet (assignmentSource name) = .ok [.assign name 1] := by
  have expressible : ∀ statement ∈ [Statement.assign name 1], statement.IsExpressible :=
    List.forall_mem_singleton.mpr ⟨named, Nat.one_pos, by decide⟩
  obtain ⟨tokens, written, spells⟩ := isSourceOf_plainSource [.assign name 1]
  rw [plainSource_assign] at spells
  obtain ⟨located, cut, rfl⟩ := spells.exists_tokensFrom (written.isReadable expressible) 0
  exact parseSnippet_eq_ok_iff.mpr ⟨located, cut, written.bodyForm expressible⟩

/--
A field that a type can have is assigned to by the text that says so, unless its name has a dollar sign or
is the keyword of returns.  Such a field is named by no snippet at all.
-/
theorem parseSnippet_names_exactly
    {description extended : TypeDescription}
    {type : ValueType}
    {visibility : Visibility}
    (added : description.addField name type visibility = .ok extended) :
    ('$' ∉ name.toList ∧ name ≠ "return" →
      parseSnippet (assignmentSource name) = .ok [.assign name 1]) ∧
    ('$' ∈ name.toList ∨ name = "return" →
      ∀ source statements, parseSnippet source = .ok statements →
        ∀ statement ∈ statements, ¬ statement.Names name) := by
  obtain ⟨_, identifies, _⟩ := TypeDescription.of_addField added
  constructor
  · rintro ⟨noDollar, ordinary⟩
    exact parseSnippet_assignmentSource (isFieldName_of_isIdentifier identifies noDollar ordinary)
  · rintro unnamed source statements parsed statement among names
    obtain ⟨ordinary, continues⟩ := continuesIdentifier_of_parseSnippet parsed among names
    rcases unnamed with dollar | keyword
    · have wrong := continues '$' dollar
      revert wrong
      decide
    · exact ordinary keyword

theorem parseSnippet_assigns_to_umlautName :
    (TypeDescription.new "A").addField "größe_2" .int .privateAccess =
      .ok { TypeDescription.new "A" with fields := [⟨"größe_2", .int, .privateAccess⟩] } ∧
    parseSnippet "this.größe_2 = $1;" = .ok [.assign "größe_2" 1] := by
  have added : (TypeDescription.new "A").addField "größe_2" .int .privateAccess =
      .ok { TypeDescription.new "A" with fields := [⟨"größe_2", .int, .privateAccess⟩] } := by
    decide +kernel
  exact ⟨added, (parseSnippet_names_exactly added).1 (by decide)⟩

/-- A field can have a dollar sign in its name, and the text that would assign to it is refused. -/
theorem parseSnippet_refuses_dollarName :
    ((TypeDescription.new "A").addField "a$b" .int .privateAccess).isOk = true ∧
      "a$b" ≠ "return" ∧
      parseSnippet (assignmentSource "a$b") = .error "this.a$b = $1;" := by
  refine ⟨?_, by decide, ?_⟩ <;> decide +kernel

end LateBinding
