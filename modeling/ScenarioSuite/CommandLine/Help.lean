import ScenarioSuite.CommandLine.Invocation

/-!
# Help

The help of a command has a paragraph for what it does, one for how it is called, and a table each
for its commands, its operand and its options. The second column of a table is broken into lines
so that none is longer than 100 characters, unless a single word is.

## Main definitions

* `Command.usage`: how a command is called.
* `Command.help`: the help of a command.
-/

namespace ScenarioSuite.CommandLine

/-- The longest line. -/
def lineWidth : Nat := 100

/-- So many spaces. -/
def spaces (n : Nat) : String :=
  String.ofList (List.replicate n ' ')

/-- Splits a text at its spaces, with the characters since the last one in front. -/
def splitSpaces (run : List Char) : List Char → List String
  | [] => [String.ofList run]
  | ' ' :: rest => String.ofList run :: splitSpaces [] rest
  | c :: rest => splitSpaces (run ++ [c]) rest

/-- Fills lines of a width with words; the first line has begun. -/
def fillLines (width : Nat) (line : String) : List String → List String
  | [] => [line]
  | word :: rest =>
    if line.length + 1 + word.length ≤ width then fillLines width (line ++ " " ++ word) rest
    else line :: fillLines width word rest

/-- A text in lines of a width. -/
def lines (width : Nat) (text : String) : List String :=
  match splitSpaces [] text.toList with
  | [] => []
  | word :: rest => fillLines width word rest

/-- A table of two columns. -/
def table (rows : List (String × String)) : String :=
  let indent := (rows.map (·.1.length)).foldl max 0 + 4
  String.join <| rows.map fun (left, right) =>
    "  " ++ left ++ spaces (indent - 2 - left.length) ++
      ("\n" ++ spaces indent).intercalate (lines (lineWidth - indent) right) ++ "\n"

/-- A table under its title; nothing if it is empty. -/
def titled (title : String) (rows : List (String × String)) : String :=
  if rows.isEmpty then "" else "\n" ++ title ++ ":\n" ++ table rows

/-- The option in the first column of a table. -/
def Parameter.entry (p : Parameter) : String :=
  (match p.short with
   | some letter => "-" ++ String.singleton letter ++ ", "
   | none => "    ") ++ p.spelling

namespace Command

/-- Whether the command takes the name of another one. -/
def isProgram (c : Command) : Bool :=
  c.call == programName

/-- How the operand is spelled where the command is explained. -/
def operandEntry (c : Command) : Option String :=
  c.operand.map fun o => if c == helpCommand then "[" ++ o.label ++ "]..." else o.slot.spelling

/-- How the command is called. -/
def usage (c : Command) : String :=
  "Usage: " ++ c.call ++ (if c.parameters.isEmpty then "" else " [OPTIONS]") ++
    (if c.isProgram then " <COMMAND>" else "") ++
    match c.operandEntry with
    | some entry => " " ++ entry
    | none => ""

/-- The help of the command. -/
def help (c : Command) : String :=
  let operands := c.operandEntry.toList.map fun entry =>
    (entry, if c == helpCommand then "Print help for the subcommand(s)" else "")
  c.about ++ "\n\n" ++ c.usage ++ "\n" ++
    titled "Commands" (if c.isProgram then commands.map fun (name, c) => (name, c.about) else []) ++
    titled "Arguments" operands ++
    titled "Options" (c.parameters.map fun p => (p.entry, p.about))

end Command

end ScenarioSuite.CommandLine
