/-!
# UTF-8

Response bodies and files are bytes; most of what reads them wants characters. Decoding looks at
one lead byte at a time. What does not decode is cut into the shortest pieces that show the
mistake, so that the position and the length of the first mistake are known and each piece can be
replaced by one mark.

## Main definitions

* `Piece`, `piece`: what the bytes begin with.
* `decode`: the text, or where and how it goes wrong.
* `decodeLossy`: the text with a mark for each mistake.
* `Symbol`, `symbols`: the characters, with the bytes that are part of none.
-/

namespace ScenarioSuite.Text.Utf8

/-- What a sequence of bytes begins with. -/
inductive Piece where
  /-- A character and the number of bytes it takes. -/
  | char (c : Char) (width : Nat)
  /-- Bytes that begin no character. -/
  | invalid (width : Nat)
  /-- The beginning of a character that the input cuts short. -/
  | incomplete
deriving Repr, DecidableEq

/-- Whether a byte can stand behind a lead byte. -/
def isTail (b : UInt8) : Bool :=
  0x80 ≤ b && b ≤ 0xBF

/-- The payload bits of a byte behind a lead byte. -/
def tailBits (b : UInt8) : Nat :=
  b.toNat % 64

/-- The second bytes that may follow a lead byte; the bounds keep out overlong forms, surrogates
and what lies beyond the last code point. -/
def isSecond (lead second : UInt8) : Bool :=
  if lead == 0xE0 then 0xA0 ≤ second && second ≤ 0xBF
  else if lead == 0xED then 0x80 ≤ second && second ≤ 0x9F
  else if lead == 0xF0 then 0x90 ≤ second && second ≤ 0xBF
  else if lead == 0xF4 then 0x80 ≤ second && second ≤ 0x8F
  else isTail second

/-- The piece that `lead :: rest` begins with. -/
def piece (lead : UInt8) (rest : List UInt8) : Piece :=
  if lead < 0x80 then .char (Char.ofNat lead.toNat) 1
  else if lead < 0xC2 || 0xF4 < lead then .invalid 1
  else if lead < 0xE0 then
    match rest with
    | [] => .incomplete
    | b :: _ =>
      if isTail b then .char (Char.ofNat (lead.toNat % 32 * 64 + tailBits b)) 2 else .invalid 1
  else if lead < 0xF0 then
    match rest with
    | [] => .incomplete
    | b :: rest =>
      if !isSecond lead b then .invalid 1
      else match rest with
        | [] => .incomplete
        | c :: _ =>
          if isTail c then
            .char (Char.ofNat ((lead.toNat % 16 * 64 + tailBits b) * 64 + tailBits c)) 3
          else .invalid 2
  else
    match rest with
    | [] => .incomplete
    | b :: rest =>
      if !isSecond lead b then .invalid 1
      else match rest with
        | [] => .incomplete
        | c :: rest =>
          if !isTail c then .invalid 2
          else match rest with
            | [] => .incomplete
            | d :: _ =>
              if isTail d then
                .char (Char.ofNat
                  (((lead.toNat % 8 * 64 + tailBits b) * 64 + tailBits c) * 64 + tailBits d)) 4
              else .invalid 3

/-- How decoding fails. -/
inductive Error where
  /-- Bytes that begin no character, at an index. -/
  | invalid (width index : Nat)
  /-- A character cut short by the end, from an index. -/
  | incomplete (index : Nat)
deriving Repr, DecidableEq

/-- The error in words. -/
def Error.message : Error → String
  | .invalid width index => s!"invalid utf-8 sequence of {width} bytes from index {index}"
  | .incomplete index => s!"incomplete utf-8 byte sequence from index {index}"

/-- Decodes the bytes that stand from `index` on. -/
def decodeFrom (index : Nat) : List UInt8 → Except Error (List Char)
  | [] => .ok []
  | lead :: rest =>
    match piece lead rest with
    | .char c width => (decodeFrom (index + width) (rest.drop (width - 1))).map (c :: ·)
    | .invalid width => .error (.invalid width index)
    | .incomplete => .error (.incomplete index)
termination_by bytes => bytes.length
decreasing_by simp only [List.length_cons, List.length_drop]; omega

/-- The text that the bytes encode. -/
def decode (bytes : List UInt8) : Except Error String :=
  (decodeFrom 0 bytes).map String.ofList

/-- The characters, with U+FFFD for each piece that is none. -/
def decodeLossyChars : List UInt8 → List Char
  | [] => []
  | lead :: rest =>
    match piece lead rest with
    | .char c width => c :: decodeLossyChars (rest.drop (width - 1))
    | .invalid width => '\uFFFD' :: decodeLossyChars (rest.drop (width - 1))
    | .incomplete => ['\uFFFD']
termination_by bytes => bytes.length
decreasing_by all_goals simp only [List.length_cons, List.length_drop]; omega

/-- The text with U+FFFD for each piece that is no character. -/
def decodeLossy (bytes : List UInt8) : String :=
  String.ofList (decodeLossyChars bytes)

/-- The bytes of a text. -/
def encode (s : String) : List UInt8 :=
  s.toUTF8.data.toList

/-- A character, or a byte that is part of none. -/
inductive Symbol where
  | char (c : Char)
  | stray (byte : UInt8)
deriving Repr, DecidableEq

/-- The number of bytes a symbol takes. -/
def Symbol.size : Symbol → Nat
  | .char c => c.utf8Size
  | .stray _ => 1

/-- The symbols of a sequence of bytes. -/
def symbols : List UInt8 → List Symbol
  | [] => []
  | lead :: rest =>
    match piece lead rest with
    | .char c width => .char c :: symbols (rest.drop (width - 1))
    | _ => .stray lead :: symbols rest
termination_by bytes => bytes.length
decreasing_by all_goals simp only [List.length_cons, List.length_drop]; omega

/-- The symbols of a text: its characters. -/
def symbolsOf (s : String) : List Symbol :=
  s.toList.map .char

end ScenarioSuite.Text.Utf8
