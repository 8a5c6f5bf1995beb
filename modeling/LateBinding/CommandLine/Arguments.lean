import LateBinding.CommandLine.Options

/-!
# Arguments of the command line

The arguments in one place, either in front of the subcommand or behind it, as words and options.
An option is a name behind two dashes or a letter behind one dash; letters can share their dash.
A value follows behind an equals sign or as the next argument.  Behind two dashes alone all
arguments are words.
-/

namespace LateBinding

/-- What arguments stand for. -/
inductive ArgumentItem where
  /-- A word. -/
  | word (text : String)
  /-- An option, with an empty value if it takes none. -/
  | option (name : OptionName) (value : String)
  /-- Something that is not understood. -/
  | unknown
  deriving DecidableEq, Repr, Inhabited

/-- What one argument is. -/
inductive ArgumentForm where
  /-- Items that are complete. -/
  | items (items : List ArgumentItem)
  /-- An option whose value is the next argument. -/
  | awaiting (name : OptionName)
  /-- Two dashes alone. -/
  | separator

/-- The item of an option without a value. -/
def ArgumentItem.ofFlag : Option OptionName → ArgumentItem
  | none => unknown
  | some name => option name ""

/-- The form of an argument behind its two dashes. -/
def ArgumentForm.ofLong (place : Option Subcommand) (body : List Char) : ArgumentForm :=
  let name := String.ofList (body.takeWhile (· ≠ '='))
  match OptionName.ofText? place name, body.dropWhile (· ≠ '=') with
  | none, _ => .items [.unknown]
  | some name, [] => if name.takesValue then .awaiting name else .items [.option name ""]
  | some name, _ :: value =>
      .items [if name.takesValue then .option name (String.ofList value) else .unknown]

/-- The form of an argument. -/
def ArgumentForm.of (place : Option Subcommand) (argument : String) : ArgumentForm :=
  match argument.toList with
  | ['-', '-'] => .separator
  | '-' :: '-' :: body => ofLong place body
  | '-' :: letter :: letters =>
      .items ((letter :: letters).map fun letter =>
        .ofFlag (OptionName.ofLetter? place letter))
  | _ => .items [.word argument]

/-- Whether an argument can be the value of an option that awaits one. -/
def OptionName.takesArgument (name : OptionName) (argument : String) : Bool :=
  name.takesDashes || argument = "-" || argument.toList.head? ≠ some '-'

/--
The items of arguments in a place, and the arguments that are left: in front of the subcommand the
items end before the first word.
-/
def scanArguments
    (place : Option Subcommand) :
    List String → List ArgumentItem × List String
  | [] => ([], [])
  | argument :: rest =>
      match ArgumentForm.of place argument with
      | .separator => (rest.map .word, [])
      | .awaiting name =>
          match rest with
          | [] => ([.unknown], [])
          | value :: later =>
              if name.takesArgument value then
                let (items, left) := scanArguments place later
                (.option name value :: items, left)
              else ([.unknown], [])
      | .items [.word text] =>
          if place = none then ([], argument :: rest)
          else
            let (items, left) := scanArguments place rest
            (.word text :: items, left)
      | .items found =>
          let (items, left) := scanArguments place rest
          (found ++ items, left)

/-- Why there is no command to carry out. -/
inductive NoCommand where
  /-- The arguments are not understood. -/
  | misuse
  /-- Help is asked for. -/
  | help
  /-- The version is asked for. -/
  | version
  deriving DecidableEq, Repr, Inhabited

/-- The options and words that have been given in one place. -/
structure GivenArguments where
  /-- The options with their values. -/
  options : List (OptionName × String)
  /-- The words. -/
  words : List String
  deriving DecidableEq, Repr, Inhabited

namespace GivenArguments

/-- Nothing at all. -/
def nothing : GivenArguments :=
  ⟨[], []⟩

/-- The values that have been given for an option. -/
def values (given : GivenArguments) (name : OptionName) : List String :=
  (given.options.filter fun option => option.1 = name).map Prod.snd

/-- How many times an option has been given. -/
def count (given : GivenArguments) (name : OptionName) : Nat :=
  (given.values name).length

/-- Whether an option has been given. -/
def has (given : GivenArguments) (name : OptionName) : Bool :=
  0 < given.count name

/-- The value that has been given for an option. -/
def value? (given : GivenArguments) (name : OptionName) : Option String :=
  (given.values name).head?

/-- Whether one more word can be given in a place; in front of the subcommand none can. -/
def takesWord (given : GivenArguments) (place : Option Subcommand) : Bool :=
  place.any fun subcommand => subcommand.takesWord given.words.length

/-- Whether an option can be given besides what has been given. -/
def takesOption (given : GivenArguments) (name : OptionName) (value : String) : Bool :=
  name.acceptsValue value && (name.isRepeatable || !given.has name)

/-- What has been given after some items, the first of which that is not in order decides. -/
def addItems
    (place : Option Subcommand)
    (given : GivenArguments) :
    List ArgumentItem → Except NoCommand GivenArguments
  | [] => .ok given
  | .unknown :: _ => .error .misuse
  | .word text :: rest =>
      if given.takesWord place then
        addItems place { given with words := given.words ++ [text] } rest
      else .error .misuse
  | .option .help _ :: _ => .error .help
  | .option .version _ :: _ => .error .version
  | .option name value :: rest =>
      if given.takesOption name value then
        addItems place { given with options := given.options ++ [(name, value)] } rest
      else .error .misuse

end GivenArguments
end LateBinding
