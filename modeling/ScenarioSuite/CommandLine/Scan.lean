import ScenarioSuite.CommandLine.Parameter

/-!
# Reading command lines

Arguments are read from left to right. An option that wants a value takes the next argument, unless
that begins with a hyphen. A value is put into its place only when the next option or operand comes
up, or at the end; what is wrong with a later argument can therefore be found out first.

## Main definitions

* `Findings`: the values that were found, in order.
* `Stop`: why reading ends before the last argument.
* `Scan.option?`: reads an argument that begins with a hyphen.
* `Command.scan`: reads the arguments of a command.
-/

namespace ScenarioSuite.CommandLine

/-- The values that were found under their keys, in order. A switch has an empty value. -/
structure Findings where
  entries : List (String × String)
deriving Repr, DecidableEq

namespace Findings

/-- Whether there is a value under a key. -/
def has (f : Findings) (key : String) : Bool :=
  f.entries.any (·.1 == key)

/-- The value under a key. -/
def get? (f : Findings) (key : String) : Option String :=
  f.entries.lookup key

/-- All values under a key. -/
def all (f : Findings) (key : String) : List String :=
  f.entries.filterMap fun entry => if entry.1 == key then some entry.2 else none

end Findings

/-- Why reading ends before the last argument. -/
inductive Stop where
  | help (command : Command)
  | version
  | misuse (reason : Misuse) (command : Command)

/-- How far reading has come. -/
structure Scan where
  command : Command
  found : Findings
  /-- A place that is being filled, and its value as soon as it is there. -/
  pending : Option (Slot × Option String)
  /-- Whether the operand has come up. -/
  hasOperand : Bool

namespace Scan

/-- The beginning. -/
def start (c : Command) : Scan := ⟨c, ⟨[]⟩, none, false⟩

/-- Ends reading. -/
def refuse {α : Type} (s : Scan) (reason : Misuse) : Except Stop α :=
  .error (.misuse reason s.command)

/-- Puts a value into a place. -/
def fill (s : Scan) (slot : Slot) (value : String) : Except Stop Scan :=
  if !slot.isRepeatable && s.found.has slot.key then s.refuse (.repeated slot.spelling)
  else match slot.fault? value with
    | some reason => s.refuse reason
    | none => .ok { s with found := ⟨s.found.entries ++ [(slot.key, value)]⟩ }

/-- Fills the place that is being filled. -/
def settle (s : Scan) : Except Stop Scan :=
  match s.pending with
  | none => .ok s
  | some (slot, none) => s.refuse (.missingValue slot.spelling)
  | some (slot, some value) => { s with pending := none }.fill slot value

/-- Takes an option that has no value of its own. -/
def signal (s : Scan) (p : Parameter) : Except Stop Scan := do
  let s ← s.settle
  match p.effect with
  | .showHelp => .error (.help s.command)
  | .showVersion => .error .version
  | _ => s.fill ⟨p.long, p.spelling, .text, false⟩ ""

/-- Takes an option that wants a value, which may be part of the same argument. -/
def want (s : Scan) (slot : Slot) (value : Option String) : Except Stop Scan := do
  let s ← s.settle
  match value with
  | some value => s.fill slot value
  | none => return { s with pending := some (slot, none) }

/-- Reads an option by its long name, behind two hyphens. -/
def long (s : Scan) (body : List Char) : Except Stop Scan :=
  let name := String.ofList (body.takeWhile (· != '='))
  let value := match body.dropWhile (· != '=') with
    | [] => none
    | _ :: value => some (String.ofList value)
  match s.command.long? name with
  | none => s.refuse (.unexpectedArgument ("--" ++ name))
  | some p =>
    match p.effect, value with
    | .value _ form isRepeatable, value => s.want ⟨p.long, p.spelling, form, isRepeatable⟩ value
    | _, some value => s.refuse (.unexpectedValue value p.spelling)
    | _, none => s.signal p

/-- Reads options by their letters, behind one hyphen. An option with a value takes the rest. -/
def letters (s : Scan) : List Char → Except Stop Scan
  | [] => .ok s
  | letter :: rest =>
    match s.command.short? letter with
    | none => s.refuse (.unexpectedArgument ("-" ++ String.singleton letter))
    | some p =>
      match p.effect with
      | .value _ form isRepeatable =>
        let value := match rest with
          | [] => none
          | '=' :: value => some (String.ofList value)
          | value => some (String.ofList value)
        s.want ⟨p.long, p.spelling, form, isRepeatable⟩ value
      | _ => do (← s.signal p).letters rest

/-- Reads an argument that begins with a hyphen; of others, and of a single hyphen, there is
nothing to read. -/
def option? (s : Scan) (argument : String) : Option (Except Stop Scan) :=
  match argument.toList with
  | '-' :: '-' :: body => some (s.long body)
  | '-' :: c :: rest => some (s.letters (c :: rest))
  | _ => none

/-- Takes an argument as the operand. -/
def operand (s : Scan) (argument : String) : Except Stop Scan :=
  match s.command.operand with
  | some operand =>
    if s.hasOperand then s.refuse (.unexpectedArgument argument)
    else do
      let s ← s.settle
      return { s with pending := some (operand.slot, some argument), hasOperand := true }
  | none => s.refuse (.unexpectedArgument argument)

/-- Takes an argument that does not begin with a hyphen. -/
def word (s : Scan) (argument : String) : Except Stop Scan :=
  match s.pending with
  | some (slot, none) => .ok { s with pending := some (slot, some argument) }
  | _ => s.operand argument

/-- Ends with the last argument. -/
def finish (s : Scan) : Except Stop Findings := do
  let s ← s.settle
  match s.command.operand with
  | some operand =>
    if s.hasOperand then return s.found else s.refuse (.missingOperand operand.slot.spelling)
  | none => return s.found

/-- Reads arguments up to the last one. Behind two hyphens alone there are no options. -/
def arguments (s : Scan) : List String → Except Stop Findings
  | [] => s.finish
  | argument :: rest =>
    if argument = "--" then do (← rest.foldlM operand s).finish
    else match s.option? argument with
      | some result => do (← result).arguments rest
      | none => do (← s.word argument).arguments rest

end Scan

/-- Reads the arguments of a command. -/
def Command.scan (c : Command) (arguments : List String) : Except Stop Findings :=
  (Scan.start c).arguments arguments

end ScenarioSuite.CommandLine
