import ScenarioSuite.Text.Quoted
import ScenarioSuite.Decimal.Notation

/-!
# What does not fit a schema

Reading a value by a schema fails with a cause. JSON and YAML share the causes and differ in a few
words of the messages, which a `Wording` holds.

## Main definitions

* `Found`: what stood where something else was wanted.
* `Mismatch`: the causes.
* `Mismatch.message`: the cause in words.
-/

namespace ScenarioSuite.Schema

/-- What stood where something else was wanted. -/
inductive Found where
  | null
  | bool (value : Bool)
  | integer (value : Int)
  | wideInteger (value : Int)
  | real (value : Float)
  | text (value : String)
  | sequence
  | mapping
  | choice

/-- The words in which two formats differ. -/
structure Wording where
  null : String
  real : Float → String

/-- What was found, in words. -/
def Found.describe (w : Wording) : Found → String
  | .null => w.null
  | .bool value => "boolean `" ++ toString value ++ "`"
  | .integer value => "integer `" ++ toString value ++ "`"
  | .wideInteger value =>
    "integer `" ++ toString value ++ "` as " ++ (if value < 0 then "i128" else "u128")
  | .real value => "floating point `" ++ w.real value ++ "`"
  | .text value => "string " ++ Text.quoteInMessage value
  | .sequence => "sequence"
  | .mapping => "map"
  | .choice => "enum"

/-- Why a value does not fit a schema. -/
inductive Mismatch where
  /-- Another kind of value was wanted. -/
  | kind (found : Found) (wanted : String)
  /-- The kind is right, the value is not. -/
  | value (found : Found) (wanted : String)
  /-- A sequence with the wrong number of items. -/
  | length (found : Nat) (wanted : String)
  /-- A field that must be there is not. -/
  | missing (field : String)
  /-- A field that is there twice. -/
  | duplicate (field : String)
  /-- None of the known names. -/
  | unknownName (name : String) (known : List String)
  /-- None of the alternatives of a type. -/
  | noAlternative (type : String)
  /-- A tagged value where an alternative is chosen by the kind of value. -/
  | taggedAlternative
  /-- The value was read and then turned down. -/
  | rejected (reason : String)

/-- Names in backticks, parted by commas. -/
def listNames (names : List String) : String :=
  ", ".intercalate (names.map fun name => "`" ++ name ++ "`")

/-- A mismatch in words. -/
def Mismatch.message (w : Wording) : Mismatch → String
  | .kind found wanted => "invalid type: " ++ found.describe w ++ ", expected " ++ wanted
  | .value found wanted => "invalid value: " ++ found.describe w ++ ", expected " ++ wanted
  | .length found wanted => "invalid length " ++ toString found ++ ", expected " ++ wanted
  | .missing field => "missing field `" ++ field ++ "`"
  | .duplicate field => "duplicate field `" ++ field ++ "`"
  | .unknownName name known =>
    "unknown variant `" ++ name ++ "`, expected one of " ++ listNames known
  | .noAlternative type => "data did not match any variant of untagged enum " ++ type
  | .taggedAlternative => "untagged and internally tagged enums do not support enum input"
  | .rejected reason => reason

end ScenarioSuite.Schema
