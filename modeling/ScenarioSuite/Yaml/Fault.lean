/-!
# Faults of a YAML text

Why a text is no YAML, whatever it is to be read into.
-/

namespace ScenarioSuite.Yaml

/-- Why a text is no YAML. -/
inductive Fault where
  /-- A character that no text may hold. -/
  | badCharacter (c : Char)
  /-- A character that begins no token. -/
  | strayCharacter (c : Char)
  /-- A tab in the indentation. -/
  | tab
  /-- A key that its colon does not follow. -/
  | keyWithoutColon
  /-- An indicator of block style where none may stand. -/
  | misplacedIndicator (c : Char)
  | badDirective
  | badAnchor
  | badTag
  | badBlockHeader
  | openQuote
  | badEscape
  /-- A colon in front of a flow indicator, with no blank between. -/
  | colonInFlow
  /-- A document marker inside quotes. -/
  | markerInQuotes
  /-- A token that the grammar does not allow at its place. -/
  | unexpectedToken
  | unknownTagHandle
  | unknownAnchor (name : String)
  | severalDocuments
  /-- Collections are nested too deep. -/
  | tooDeep
  /-- Aliases stand for too much. -/
  | tooManyAliases
  /-- A mapping has a key twice. -/
  | duplicateKey
  /-- A scalar is not what its tag says. -/
  | badScalar
deriving Repr, DecidableEq

/-- The fault in words. -/
def Fault.message : Fault → String
  | .badCharacter _ => "control characters are not allowed"
  | .strayCharacter _ => "found character that cannot start any token"
  | .tab => "found a tab character where an indentation space is expected"
  | .keyWithoutColon => "could not find expected ':'"
  | .misplacedIndicator _ => "indicator is not allowed in this context"
  | .badDirective => "malformed directive"
  | .badAnchor => "did not find expected alphabetic or numeric character"
  | .badTag => "malformed tag"
  | .badBlockHeader => "malformed header of a block scalar"
  | .openQuote => "found unexpected end of stream"
  | .badEscape => "found unknown escape character"
  | .colonInFlow => "found unexpected ':'"
  | .markerInQuotes => "found unexpected document indicator"
  | .unexpectedToken => "did not find expected node content"
  | .unknownTagHandle => "found undefined tag handle"
  | .unknownAnchor _ => "unknown anchor"
  | .severalDocuments => "deserializing from YAML containing more than one document is not supported"
  | .tooDeep => "recursion limit exceeded"
  | .tooManyAliases => "repetition limit exceeded"
  | .duplicateKey => "duplicate entry with this key"
  | .badScalar => "scalar does not fit its tag"

end ScenarioSuite.Yaml
