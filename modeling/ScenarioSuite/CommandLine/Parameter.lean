import ScenarioSuite.Text.Blank

/-!
# Parameters of commands

A command is given options, which begin with hyphens, and may want an operand. An option is a
switch, or it has a value.

## Main definitions

* `ValueForm`, `ValueForm.fault?`: what a value has to look like.
* `Slot`: a place for a value.
* `Parameter`: an option.
* `Command`: the options and the operand of a command.
* `Misuse`, `Misuse.message`: why a command line is refused.
-/

namespace ScenarioSuite.CommandLine

/-- The variable and the value of an assignment. Blanks around the variable do not count, and there
has to be one. -/
def assignment? (text : String) : Option (String × String) :=
  match text.toList.dropWhile (· != '=') with
  | [] => none
  | _ :: value =>
    let key := Text.trim (String.ofList (text.toList.takeWhile (· != '=')))
    if key.isEmpty then none else some (key, String.ofList value)

/-- What a value has to look like. -/
inductive ValueForm where
  | text
  | path
  | assignment
deriving Repr, DecidableEq

/-- A place for a value: the key under which it is kept, and how it is spelled in messages. -/
structure Slot where
  key : String
  spelling : String
  form : ValueForm
  isRepeatable : Bool
deriving Repr, DecidableEq

/-- What an option does. -/
inductive Effect where
  | switch
  | value (label : String) (form : ValueForm) (isRepeatable : Bool)
  | showHelp
  | showVersion
deriving Repr, DecidableEq

/-- An option. -/
structure Parameter where
  short : Option Char
  long : String
  effect : Effect
  about : String
deriving Repr, DecidableEq

/-- The option as it is spelled in messages. -/
def Parameter.spelling (p : Parameter) : String :=
  "--" ++ p.long ++ match p.effect with
    | .value label _ _ => " <" ++ label ++ ">"
    | _ => ""

/-- What stands behind the options. -/
structure Operand where
  label : String
  form : ValueForm
deriving Repr, DecidableEq

/-- The place for the operand. -/
def Operand.slot (o : Operand) : Slot :=
  ⟨o.label, "<" ++ o.label ++ ">", o.form, true⟩

/-- A command. -/
structure Command where
  /-- The words that call it. -/
  call : String
  about : String
  operand : Option Operand
  parameters : List Parameter
deriving Repr, DecidableEq

namespace Command

/-- The option of a long name. -/
def long? (c : Command) (name : String) : Option Parameter :=
  c.parameters.find? (·.long == name)

/-- The option of a letter. -/
def short? (c : Command) (letter : Char) : Option Parameter :=
  c.parameters.find? (·.short == some letter)

end Command

/-- Why a command line is refused. -/
inductive Misuse where
  | unexpectedArgument (argument : String)
  | unexpectedValue (value parameter : String)
  | missingValue (parameter : String)
  | repeated (parameter : String)
  | notAssignment (value parameter : String)
  | missingOperand (operand : String)
  | unknownCommand (name : String)
  | missingCommand (call : String)
deriving Repr, DecidableEq

/-- The reason in words. -/
def Misuse.message : Misuse → String
  | .unexpectedArgument a => "unexpected argument '" ++ a ++ "' found"
  | .unexpectedValue v p => "unexpected value '" ++ v ++ "' for '" ++ p ++
      "' found; no more were expected"
  | .missingValue p => "a value is required for '" ++ p ++ "' but none was supplied"
  | .repeated p => "the argument '" ++ p ++ "' cannot be used multiple times"
  | .notAssignment v p => "invalid value '" ++ v ++ "' for '" ++ p ++
      "': expected KEY=VALUE, got '" ++ v ++ "'"
  | .missingOperand o => "the following required arguments were not provided:\n  " ++ o
  | .unknownCommand name => "unrecognized subcommand '" ++ name ++ "'"
  | .missingCommand call => "'" ++ call ++ "' requires a subcommand but one was not provided"

/-- Why a value cannot be put into a place. -/
def Slot.fault? (s : Slot) (value : String) : Option Misuse :=
  match s.form with
  | .text => none
  | .path => if value.isEmpty then some (.missingValue s.spelling) else none
  | .assignment =>
    if (assignment? value).isNone then some (.notAssignment value s.spelling) else none

end ScenarioSuite.CommandLine
