/-!
# Command arguments

The words behind a command, told apart: options with a value, flags, and operands. The value of an
option stands behind an equals sign or is the next word, which then must not look like an option.
Behind two dashes every word is an operand. Which options there are is a parameter; the commands
give theirs.
-/

namespace StyleAudit.Command

set_option autoImplicit false

inductive Misuse where
  | noCommand
  | unexpected (word : String)
  | missingValue (option : String)
  | needlessValue (option : String)
  | invalidValue (option value : String)
  | repeated (option : String)
  | conflict (option other : String)
  | missingOperand (operand : String)
  deriving Repr, DecidableEq

def Misuse.message : Misuse → String
  | noCommand => "a command is required"
  | unexpected word => "unexpected argument '" ++ word ++ "'"
  | missingValue option => "a value is required for '--" ++ option ++ "'"
  | needlessValue option => "'--" ++ option ++ "' takes no value"
  | invalidValue option value => "invalid value '" ++ value ++ "' for '--" ++ option ++ "'"
  | repeated option => "'--" ++ option ++ "' cannot be used multiple times"
  | conflict option other => "'--" ++ option ++ "' cannot be used with '--" ++ other ++ "'"
  | missingOperand operand => "'" ++ operand ++ "' is required"

inductive Argument where
  | option (name value : String)
  | flag (name : String)
  | operand (word : String)
  deriving Repr, DecidableEq

/-- What a command understands. A flag has a letter as its short name. -/
structure Vocabulary where
  single : List String
  repeatable : List String
  flags : List (Char × String)

namespace Vocabulary

def takesValue (v : Vocabulary) (name : String) : Bool :=
  v.single.contains name || v.repeatable.contains name

def hasFlag (v : Vocabulary) (name : String) : Bool :=
  v.flags.any fun flag => flag.2 == name

end Vocabulary

/-- Whether a word cannot be the value of the option before it. A dash alone can. -/
def looksLikeOption (word : String) : Bool :=
  match word.toList with
  | '-' :: _ :: _ => true
  | _ => false

def flagsOfLetters (v : Vocabulary) (word : String) : List Char → Except Misuse (List Argument)
  | [] => .ok []
  | letter :: letters =>
    match v.flags.lookup letter with
    | some name => (flagsOfLetters v word letters).map (.flag name :: ·)
    | none => .error (.unexpected word)

/-- A word behind two dashes: the name of an option and the value behind an equals sign, if any. -/
def splitLong (long : List Char) : String × Option String :=
  let name := long.takeWhile fun c => c != '='
  match long.drop name.length with
  | '=' :: value => (String.ofList name, some (String.ofList value))
  | _ => (String.ofList name, none)

def arguments (v : Vocabulary) : List String → Except Misuse (List Argument)
  | [] => .ok []
  | word :: words =>
    match word.toList with
    | ['-', '-'] => .ok (words.map .operand)
    | '-' :: '-' :: long =>
      let (name, value?) := splitLong long
      if v.takesValue name then
        match value? with
        | some value => (arguments v words).map (.option name value :: ·)
        | none =>
          match words with
          | [] => .error (.missingValue name)
          | value :: words =>
            if looksLikeOption value then .error (.missingValue name)
            else (arguments v words).map (.option name value :: ·)
      else if v.hasFlag name then
        if value?.isSome then .error (.needlessValue name)
        else (arguments v words).map (.flag name :: ·)
      else .error (.unexpected word)
    | '-' :: letter :: letters => do
      let flags ← flagsOfLetters v word (letter :: letters)
      return flags ++ (← arguments v words)
    | _ => (arguments v words).map (.operand word :: ·)

def valuesOf (option : String) (given : List Argument) : List String :=
  given.filterMap fun
    | .option name value => if name == option then some value else none
    | _ => none

def operandsOf (given : List Argument) : List String :=
  given.filterMap fun
    | .operand word => some word
    | _ => none

def flagCount (name : String) (given : List Argument) : Nat :=
  given.count (.flag name)

def value? (option : String) (given : List Argument) : Except Misuse (Option String) :=
  match valuesOf option given with
  | [] => .ok none
  | [value] => .ok (some value)
  | _ => .error (.repeated option)

def isGiven (name : String) (given : List Argument) : Except Misuse Bool :=
  if 1 < flagCount name given then .error (.repeated name) else .ok (flagCount name given == 1)

def path? (option : String) (given : List Argument) : Except Misuse (Option String) := do
  match ← value? option given with
  | some "" => .error (.invalidValue option "")
  | path => return path

end StyleAudit.Command
