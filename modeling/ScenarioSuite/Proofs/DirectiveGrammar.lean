import ScenarioSuite.Proofs.DirectiveText

/-!
# The grammar of directives

A directive is a name, an equals sign and a path that can be used, with any blanks around each of
them. One kind of text is read as a directive without being one: where nothing but blanks stands
behind the equals sign, and not all of them are line breaks, the path is taken to be the root, so
the whole body is captured.

## Main definitions

* `Capture.Directive.Spells`: a text is a directive.
* `Capture.Directive.SpellsBlank`: a text is a directive but for its path, which is blank.

## Main statements

* `Capture.Directive.parse_spells`: which texts are read, as what, and what becomes of the others.
* `Capture.Directive.parse_blankPath`: a text without a path that is read.
-/

namespace ScenarioSuite.Capture.Directive

open Text (isBlank dropAround trim toList_trim trim_eq_empty_iff)

/-- What stands behind an equals sign is a path on one line, which leads to a header with a proper
name or to a place in the body with brackets that match. -/
structure SpellsPath (remainder : String) (selector : Selector) : Prop where
  ne_blank : trim remainder ≠ ""
  single : '\n' ∉ (trim remainder).toList
  selector_eq : selector = .ofText (trim remainder)
  usable : (∃ name, selector = .header name ∧ Selector.isHeaderName name) ∨
    ∃ path, selector = .body path ∧ Json.Path.isBalanced path

/-- A text is a directive. -/
def Spells (text : String) (d : Directive) : Prop :=
  ∃ remainder : String, Assigns text.toList d.variableName.toList remainder.toList ∧
    SpellsPath remainder d.selector

/-- A text is a directive but for its path. In place of the path stand blanks, among them another
one than a line break. -/
def SpellsBlank (text : String) (d : Directive) : Prop :=
  ∃ remainder : String, Assigns text.toList d.variableName.toList remainder.toList ∧
    trim remainder = "" ∧ (∃ c ∈ remainder.toList, c ≠ '\n') ∧ d.selector = .body "$."

theorem isValid_iff {s : Selector} : s.isValid ↔
    (∃ name, s = .header name ∧ Selector.isHeaderName name) ∨
      ∃ path, s = .body path ∧ Json.Path.isBalanced path := by
  cases s <;> simp [Selector.isValid]

theorem ofText_trim (s : String) :
    Selector.ofText (trim s) = .ofTrimmed (dropAround isBlank s.toList) := by
  rw [Selector.ofText, trim, String.toList_ofList, Text.dropAround_dropAround]

/-- A path that is not blank has other characters than line breaks. -/
theorem exists_ne_newline {s : String} (h : trim s ≠ "") : ∃ c ∈ s.toList, c ≠ '\n' := by
  by_contra none
  push Not at none
  refine h (trim_eq_empty_iff.2 (Text.dropAround_eq_nil_iff.2 fun c hc => ?_))
  rw [none c hc]
  decide

theorem parse_eq_ok_iff_spells {text : String} {d : Directive} :
    parse text = .ok d ↔ Spells text d ∨ SpellsBlank text d := by
  rw [parse_eq_ok_iff]
  constructor
  · rintro ⟨behind, assigns, single, other, hselector, valid⟩
    obtain ⟨remainder, rfl⟩ : ∃ remainder : String, remainder.toList = behind :=
      ⟨String.ofList behind, String.toList_ofList⟩
    by_cases blank : trim remainder = ""
    · rw [trim_eq_empty_iff.1 blank] at hselector
      exact .inr ⟨remainder, assigns, blank, other, hselector⟩
    · rw [← ofText_trim] at hselector
      rw [← toList_trim] at single
      exact .inl ⟨remainder, assigns, blank, single, hselector, isValid_iff.1 valid⟩
  · rintro (⟨remainder, assigns, path⟩ | ⟨remainder, assigns, blank, other, hselector⟩)
    · refine ⟨_, assigns, toList_trim remainder ▸ path.single, exists_ne_newline path.ne_blank, ?_,
        isValid_iff.2 path.usable⟩
      rw [path.selector_eq, ofText_trim]
    · have root : (Selector.ofTrimmed []) = .body "$." := rfl
      have bare := trim_eq_empty_iff.1 blank
      refine ⟨_, assigns, ?_, other, ?_, ?_⟩
      · simp [bare]
      · rw [bare, root, hselector]
      · rw [hselector]
        decide

theorem Error.exists_message (e : Error) : ∃ detail, e.message = "Invalid syntax: " ++ detail := by
  cases e with
  | malformed text =>
    refine ⟨"Capture directive must look like 'name = path', got '" ++ text ++ "'", ?_⟩
    rw [← String.append_assoc, ← String.append_assoc]
    rfl
  | badSelector selector =>
    refine ⟨"Invalid capture path '" ++ selector.text ++ "'", ?_⟩
    rw [← String.append_assoc, ← String.append_assoc]
    rfl

/-- The texts that are read are the directives and those that lack nothing but a path, which are
taken to name the root of the body. All other texts are invalid syntax. -/
theorem parse_spells (text : String) :
    (∀ d, parse text = .ok d ↔ Spells text d ∨ SpellsBlank text d) ∧
      ((∀ d, ¬ Spells text d ∧ ¬ SpellsBlank text d) ↔
        ∃ e detail, parse text = .error e ∧ e.message = "Invalid syntax: " ++ detail) := by
  refine ⟨fun d => parse_eq_ok_iff_spells, ?_⟩
  simp only [← not_or, ← parse_eq_ok_iff_spells]
  cases h : parse text with
  | ok d => simp
  | error e =>
    obtain ⟨detail, hdetail⟩ := e.exists_message
    simp [hdetail]

/-- A space behind the equals sign is read as the path of the whole body, though it is no path. -/
theorem parse_blankPath :
    parse "token = " = .ok ⟨"token", .body "$."⟩ ∧ (∀ body : Json, body.at? "$." = some body) ∧
      ∀ d, ¬ Spells "token = " d := by
  refine ⟨by decide +kernel, fun body => ?_, ?_⟩
  · have steps : Json.Path.steps "$." = [] := by decide +kernel
    rw [Json.at?, steps]
    rfl
  · rintro d ⟨remainder, assigns, path⟩
    have split : split? "token = ".toList = some ("token".toList, [' ']) := by decide +kernel
    have same := (split?_eq_some_iff.2 assigns).symm.trans split
    have remainder_eq : remainder.toList = [' '] := congrArg Prod.snd (Option.some.inj same)
    exact path.ne_blank (trim_eq_empty_iff.2 (by rw [remainder_eq]; decide))

end ScenarioSuite.Capture.Directive
