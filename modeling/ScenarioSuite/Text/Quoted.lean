import ScenarioSuite.Text.Printable

/-!
# Quoted texts in messages

Messages show a text in double quotes, with an escape for quotes, backslashes and every character
that is not printable.
-/

namespace ScenarioSuite.Text

/-- A character inside the quotes of a message. -/
def escapeInMessage (c : Char) : List Char :=
  if c.toNat = 0 then ['\\', '0']
  else if c = '\t' then ['\\', 't']
  else if c = '\r' then ['\\', 'r']
  else if c = '\n' then ['\\', 'n']
  else if c = '"' then ['\\', '"']
  else if c = '\\' then ['\\', '\\']
  else if isPrintable c then [c]
  else ['\\', 'u', '\x7b'] ++ Nat.toDigits 16 c.toNat ++ ['\x7d']

/-- A text in the quotes of a message. -/
def quoteInMessage (s : String) : String :=
  String.ofList ('"' :: s.toList.flatMap escapeInMessage ++ ['"'])

end ScenarioSuite.Text
