import ScenarioSuite.Text.Blank

/-!
# Segments of a template

A template is a text with placeholders. A placeholder opens with two braces, names a variable in a
run of characters other than the closing brace, and closes with two braces; blanks around the name
do not count. Everything else stands for itself, stray braces included.

## Main definitions

* `Segment`: a character that stands for itself, or a placeholder.
* `segments`: the segments of a text, from left to right.
* `placeholders`: the names in order.

## Main statements

* `segmentsOf_of_not_hasOpening`: texts without two opening braces side by side.
-/

namespace ScenarioSuite.Template

/-- A part of a template. -/
inductive Segment where
  /-- A character that stands for itself. -/
  | literal (c : Char)
  /-- A variable to be put in. -/
  | placeholder (name : String)
deriving Repr, DecidableEq

/-- Whether a character can stand between the braces of a placeholder. -/
def isInside (c : Char) : Bool :=
  c != '\x7d'

/-- The name inside the braces at the beginning of a text, with the text behind them. -/
def opening? : List Char → Option (List Char × List Char)
  | '\x7b' :: '\x7b' :: rest =>
    match rest.takeWhile isInside, rest.dropWhile isInside with
    | c :: run, '\x7d' :: '\x7d' :: behind => some (c :: run, behind)
    | _, _ => none
  | _ => none

theorem opening?_length {cs run behind : List Char} (h : opening? cs = some (run, behind)) :
    behind.length < cs.length := by
  unfold opening? at h
  split at h
  · next rest =>
    split at h
    · next heq =>
      simp only [Option.some.injEq, Prod.mk.injEq] at h
      obtain ⟨-, rfl⟩ := h
      have := congrArg List.length (List.takeWhile_append_dropWhile (p := isInside) (l := rest))
      rw [heq] at this
      simp at this ⊢
      omega
    · simp at h
  · simp at h

/-- Whether two opening braces stand side by side somewhere in a text. -/
def hasOpening : List Char → Bool
  | '\x7b' :: '\x7b' :: _ => true
  | _ :: rest => hasOpening rest
  | [] => false

/-- The name that stands between braces. -/
def nameOf (run : List Char) : String :=
  String.ofList (Text.dropAround Text.isBlank run)

/-- The segments of a text. -/
def segmentsOf (cs : List Char) : List Segment :=
  match h : opening? cs with
  | some (run, behind) =>
    have := opening?_length h
    .placeholder (nameOf run) :: segmentsOf behind
  | none =>
    match cs with
    | [] => []
    | c :: rest => .literal c :: segmentsOf rest
termination_by cs.length
decreasing_by all_goals simp_all

theorem opening?_of_not_hasOpening {c : Char} {cs : List Char} (h : ¬ hasOpening (c :: cs)) :
    opening? (c :: cs) = none ∧ ¬ hasOpening cs := by
  unfold hasOpening at h
  split at h
  · exact absurd rfl h
  · next other heq =>
    cases heq
    refine ⟨?_, h⟩
    unfold opening?
    split
    · next heq =>
      cases heq
      exact absurd rfl (other _ rfl)
    · rfl
  · next heq => cases heq

/-- Without two opening braces side by side every character stands for itself. -/
theorem segmentsOf_of_not_hasOpening {cs : List Char} (h : ¬ hasOpening cs) :
    segmentsOf cs = cs.map .literal := by
  induction cs with
  | nil =>
    rw [segmentsOf]
    rfl
  | cons c rest ih =>
    obtain ⟨absent, hrest⟩ := opening?_of_not_hasOpening h
    rw [segmentsOf]
    split
    · next found => cases absent.symm.trans found
    · exact congrArg (Segment.literal c :: ·) (ih hrest)

/-- The segments of a text. -/
def segments (text : String) : List Segment :=
  segmentsOf text.toList

/-- The variable that a segment names, if it does. -/
def Segment.name? : Segment → Option String
  | .literal _ => none
  | .placeholder name => some name

/-- The names of the placeholders in order. -/
def placeholders (text : String) : List String :=
  (segments text).filterMap Segment.name?

/-- Whether a text has a placeholder. -/
def hasPlaceholders (text : String) : Bool :=
  (segments text).any fun segment => segment.name?.isSome

end ScenarioSuite.Template
