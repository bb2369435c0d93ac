/-!
# Letters written in ASCII

A label with letters beyond ASCII can be written in ASCII: its plain characters come first, and
behind the last hyphen a row of numbers says which characters to insert and where. Each number is
written in digits of a base that depends on the place of the digit and on a bias, which follows the
size of the numbers before.

## Main definitions

* `Punycode.decode?`: the label that is written so.
-/

namespace ScenarioSuite.Address.Domain.Punycode

/-- The value of a digit: the letters come before the figures. -/
def digit? (c : Char) : Option Nat :=
  if 'a' ≤ c ∧ c ≤ 'z' then some (c.toNat - 97)
  else if 'A' ≤ c ∧ c ≤ 'Z' then some (c.toNat - 65)
  else if '0' ≤ c ∧ c ≤ '9' then some (c.toNat - 48 + 26)
  else none

/-- The least digit that does not end a number, at a place. -/
def threshold (place bias : Nat) : Nat :=
  if place ≤ bias then 1 else if bias + 26 ≤ place then 26 else place - bias

/-- Divides by the range of digits until the rest is small, counting the places. -/
def settle (delta places : Nat) : Nat :=
  if 455 < delta then settle (delta / 35) (places + 36)
  else places + 36 * delta / (delta + 38)
termination_by delta
decreasing_by exact Nat.div_lt_self (by omega) (by omega)

/-- The bias behind a number. -/
def adapt (delta count : Nat) (first : Bool) : Nat :=
  let delta := if first then delta / 700 else delta / 2
  settle (delta + delta / count) 0

/-- Takes one number off the digits, added to a start. -/
def number? (bias : Nat) : List Char → Nat → Nat → Nat → Option (Nat × List Char)
  | [], _, _, _ => none
  | c :: rest, place, weight, sum =>
    match digit? c with
    | none => none
    | some d =>
      let t := threshold place bias
      if d < t then some (sum + d * weight, rest)
      else number? bias rest (place + 36) (weight * (36 - t)) (sum + d * weight)

/-- A number takes at least one digit. -/
theorem length_lt_of_number? {bias : Nat} {cs : List Char} {place weight sum : Nat}
    {result : Nat × List Char} (h : number? bias cs place weight sum = some result) :
    result.2.length < cs.length := by
  induction cs generalizing place weight sum with
  | nil => simp [number?] at h
  | cons c rest ih =>
    rw [number?] at h
    split at h
    · simp at h
    · simp only at h
      split at h
      · rw [← Option.some.inj h]; simp
      · have := ih h
        simp; omega

/-- Inserts characters until the digits are used up. The code point and the place of the next
character follow from those of the last one. -/
def insertAll (bias codePoint index : Nat) (label : List Char) (digits : List Char) :
    Option (List Char) :=
  match digits with
  | [] => some label
  | c :: rest =>
    match _h : number? bias (c :: rest) 36 1 index with
    | none => none
    | some (sum, left) =>
      let count := label.length + 1
      let codePoint := codePoint + sum / count
      if codePoint.isValidChar then
        insertAll (adapt (sum - index) count (index == 0)) codePoint (sum % count + 1)
          (label.insertIdx (sum % count) (Char.ofNat codePoint)) left
      else none
termination_by digits.length
decreasing_by exact length_lt_of_number? (by assumption)

/-- The plain characters and the digits: the last hyphen parts them. -/
def split (cs : List Char) : List Char × List Char :=
  let digits := (cs.reverse.takeWhile (· != '-')).reverse
  ((cs.take (cs.length - digits.length)).dropLast, digits)

/-- The label that is written in ASCII. -/
def decode? (cs : List Char) : Option (List Char) :=
  let (plain, digits) := split cs
  insertAll 72 128 0 plain digits

end ScenarioSuite.Address.Domain.Punycode
