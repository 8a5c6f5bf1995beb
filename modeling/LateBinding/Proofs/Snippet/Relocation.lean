import LateBinding.Snippet.Parser

/-!
# Tokens at other offsets

A parser looks at tokens and hands their offsets on without looking at them.  So tokens at other offsets are
parsed to the same statements, or are refused from the same token on.  It follows that the tokens of a fault
have offsets of the tokens that were parsed.
-/

namespace LateBinding

/-- A token at another offset. -/
def LocatedToken.relocate (move : Nat → Nat) (located : LocatedToken) : LocatedToken :=
  { located with offset := move located.offset }

/-- What a parser answers for tokens at other offsets. -/
def Parsed.relocate
    {Result : Type}
    (move : Nat → Nat)
    (behind : Result → Result) :
    Parsed Result → Parsed Result
  | .ok result => .ok (behind result)
  | .error rest => .error (rest.map (LocatedToken.relocate move))

section

variable (move : Nat → Nat)

/-- Tokens at other offsets. -/
def relocateAll (tokens : List LocatedToken) : List LocatedToken :=
  tokens.map (LocatedToken.relocate move)

/-- A result with the tokens behind it at other offsets. -/
def relocateBehind {Result : Type} (parsed : Result × List LocatedToken) :
    Result × List LocatedToken :=
  (parsed.1, relocateAll move parsed.2)

@[simp] theorem relocateAll_nil : relocateAll move [] = [] := rfl

@[simp] theorem relocateAll_cons (located : LocatedToken) (rest : List LocatedToken) :
    relocateAll move (located :: rest) =
      ⟨located.token, move located.offset⟩ :: relocateAll move rest := rfl

@[simp] theorem relocate_ok {Result : Type} (behind : Result → Result) (result : Result) :
    Parsed.relocate move behind (.ok result) = .ok (behind result) := rfl

@[simp] theorem relocate_error {Result : Type} (behind : Result → Result) (rest : List LocatedToken) :
    Parsed.relocate move behind (.error rest) = .error (relocateAll move rest) := rfl

@[simp] theorem relocateBehind_mk {Result : Type} (result : Result) (after : List LocatedToken) :
    relocateBehind move (result, after) = (result, relocateAll move after) := rfl

variable {move}

theorem relocate_bind
    {First Result : Type}
    {behindFirst : First → First}
    {behind : Result → Result}
    {first : Parsed First}
    {next : First → Parsed Result}
    (later : ∀ item, next (behindFirst item) = (next item).relocate move behind) :
    (Parsed.relocate move behindFirst first >>= next) =
      (first >>= next).relocate move behind := by
  cases first with
  | error rest => rfl
  | ok item => exact later item

theorem relocate_map
    {First Result : Type}
    {behindFirst : First → First}
    {behind : Result → Result}
    {first : Parsed First}
    {change : First → Result}
    (later : ∀ item, change (behindFirst item) = behind (change item)) :
    (Parsed.relocate move behindFirst first).map change =
      Parsed.relocate move behind (first.map change) := by
  cases first with
  | error rest => rfl
  | ok item => exact congrArg Except.ok (later item)

end

/-! ## Parsers -/

section

variable {move : Nat → Nat} {tokens : List LocatedToken}

theorem expect_relocateAll (expected : Token) :
    expect expected (relocateAll move tokens) =
      (expect expected tokens).relocate move (relocateAll move) := by
  cases tokens with
  | nil => rfl
  | cons located rest =>
      simp only [relocateAll_cons, expect]
      split <;> rfl

theorem parseOperand_relocateAll :
    parseOperand (relocateAll move tokens) =
      (parseOperand tokens).relocate move (relocateBehind move) := by
  cases tokens with
  | nil => rfl
  | cons located rest =>
      simp only [relocateAll_cons, parseOperand]
      split <;> rfl

theorem parseMoreOperands_relocateAll :
    parseMoreOperands (relocateAll move tokens) =
      (parseMoreOperands tokens).relocate move (relocateBehind move) := by
  fun_induction parseMoreOperands tokens with
  | case6 located next rest notClosing plus operand term inductionHypothesis =>
      rw [relocateAll_cons, relocateAll_cons, parseMoreOperands, if_neg notClosing, if_pos plus, term]
      dsimp only
      rw [inductionHypothesis]
      exact relocate_map fun _ => rfl
  | _ => simp_all [parseMoreOperands]

theorem parseOperands_relocateAll :
    parseOperands (relocateAll move tokens) =
      (parseOperands tokens).relocate move (relocateBehind move) := by
  cases tokens with
  | nil => rfl
  | cons located rest =>
      simp only [relocateAll_cons, parseOperands]
      split
      · rfl
      · split
        · rw [parseMoreOperands_relocateAll]
          exact relocate_map fun _ => rfl
        · rfl

theorem parseReturn_relocateAll :
    parseReturn (relocateAll move tokens) =
      (parseReturn tokens).relocate move (relocateBehind move) := by
  unfold parseReturn
  rw [expect_relocateAll]
  cases expect .semicolon tokens with
  | ok after => rfl
  | error _ =>
      rw [relocate_error, parseOperand_relocateAll]
      refine relocate_bind fun (value, rest) => ?_
      rw [relocateBehind_mk]
      dsimp only
      rw [expect_relocateAll]
      exact relocate_bind fun after => rfl

theorem parsePrint_relocateAll :
    parsePrint (relocateAll move tokens) =
      (parsePrint tokens).relocate move (relocateBehind move) := by
  unfold parsePrint
  rw [expect_relocateAll]
  refine relocate_bind fun opened => ?_
  rw [parseOperands_relocateAll]
  refine relocate_bind fun (operands, rest) => ?_
  rw [relocateBehind_mk]
  dsimp only
  rw [expect_relocateAll]
  exact relocate_bind fun after => rfl

theorem parseParameter_relocateAll :
    parseParameter (relocateAll move tokens) =
      (parseParameter tokens).relocate move (relocateBehind move) := by
  cases tokens with
  | nil => rfl
  | cons located rest =>
      obtain ⟨token, offset⟩ := located
      cases token <;> rfl

theorem parseAssignment_relocateAll (field : String) :
    parseAssignment field (relocateAll move tokens) =
      (parseAssignment field tokens).relocate move (relocateBehind move) := by
  unfold parseAssignment
  rw [expect_relocateAll]
  refine relocate_bind fun source => ?_
  rw [parseParameter_relocateAll]
  refine relocate_bind fun (parameter, rest) => ?_
  rw [relocateBehind_mk]
  dsimp only
  rw [expect_relocateAll]
  exact relocate_bind fun after => rfl

theorem parseStatement_relocateAll :
    parseStatement (relocateAll move tokens) =
      (parseStatement tokens).relocate move (relocateBehind move) := by
  cases tokens with
  | nil => rfl
  | cons located rest =>
      obtain ⟨token, offset⟩ := located
      cases token with
      | identifier name =>
          simp only [relocateAll_cons, parseStatement]
          split
          · exact parseReturn_relocateAll
          · split
            · exact parsePrint_relocateAll
            · split
              · exact parseAssignment_relocateAll _
              · rfl
      | _ => rfl

theorem parseItems_relocateAll (braced : Bool) :
    parseItems braced (relocateAll move tokens) =
      (parseItems braced tokens).relocate move id := by
  fun_induction parseItems braced tokens with
  | case1 | case2 => simp_all [parseItems]
  | case3 located rest closing ended =>
      obtain rfl := List.isEmpty_iff.mp ended
      rw [relocateAll_cons, parseItems, if_pos closing]
      rfl
  | case4 located rest closing continued =>
      rw [relocateAll_cons, parseItems, if_pos closing, if_neg (by simpa [relocateAll] using continued)]
      rfl
  | case5 located rest notClosing semicolon inductionHypothesis =>
      rw [relocateAll_cons, parseItems, if_neg notClosing, if_pos semicolon]
      exact inductionHypothesis
  | case6 located rest notClosing notSemicolon fault failed =>
      have refused := @parseStatement_relocateAll move (located :: rest)
      rw [failed, relocateAll_cons] at refused
      rw [relocateAll_cons, parseItems, if_neg notClosing, if_neg notSemicolon]
      split
      · next same => rw [same] at refused; exact congrArg Except.error (Except.error.inj refused)
      · next other => rw [other] at refused; nomatch refused
  | case7 located rest notClosing notSemicolon statement after read inductionHypothesis =>
      have reread := @parseStatement_relocateAll move (located :: rest)
      rw [read, relocateAll_cons] at reread
      rw [relocateAll_cons, parseItems, if_neg notClosing, if_neg notSemicolon]
      split
      · next failed => rw [failed] at reread; nomatch reread
      · next same =>
        obtain ⟨rfl, rfl⟩ := Prod.mk.inj (Except.ok.inj (same.symm.trans reread))
        rw [inductionHypothesis]
        exact relocate_map fun _ => rfl

theorem parseBody_relocateAll :
    parseBody (relocateAll move tokens) =
      (parseBody tokens).relocate move id := by
  match tokens with
  | [] => exact parseItems_relocateAll false
  | ⟨token, offset⟩ :: rest =>
      cases token with
      | openBrace => exact parseItems_relocateAll true
      | _ => exact @parseItems_relocateAll move (⟨_, offset⟩ :: rest) false

/-- A fault is found at the offset of a token. -/
theorem offset_mem_of_parseBody
    {rest : List LocatedToken}
    {located : LocatedToken}
    (failed : parseBody tokens = .error rest)
    (among : located ∈ rest) :
    located.offset ∈ tokens.map LocatedToken.offset := by
  -- Offsets that no token has are changed, which changes nothing in the tokens parsed.
  let offsets := tokens.map LocatedToken.offset
  let move (offset : Nat) : Nat := if offset ∈ offsets then offset else offset + 1
  have fixed : relocateAll move tokens = tokens := by
    refine (List.map_congr_left fun item listed => ?_).trans (List.map_id _)
    change { item with offset := move item.offset } = item
    rw [show move item.offset = item.offset from if_pos (List.mem_map_of_mem listed)]
  have moved := @parseBody_relocateAll move tokens
  rw [fixed, failed, relocate_error] at moved
  have same : relocateAll move rest = rest := (Except.error.inj moved).symm
  have kept : move located.offset = located.offset :=
    congrArg LocatedToken.offset (List.map_inj_left.mp (same.trans (List.map_id _).symm) located among)
  refine Decidable.byContradiction fun missing => ?_
  rw [show move located.offset = located.offset + 1 from if_neg missing] at kept
  omega

end
end LateBinding
