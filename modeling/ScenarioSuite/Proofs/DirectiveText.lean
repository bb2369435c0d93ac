import ScenarioSuite.Proofs.DirectivePattern

/-!
# Directives in normal form

A directive can be written with any blanks around its parts and with a path that leaves out the
dollar sign. Reading brings it to a normal form, the text of which spells the same directive.

## Main definitions

* `Capture.Directive.Normal`: directives that reading leaves as they are.

## Main statements

* `Capture.Directive.parse_eq_ok_iff`: which texts are read, and as what.
* `Capture.Directive.normal_of_parse`: what is read is in normal form.
* `Capture.Directive.Normal.parse_text`: the text of a normal form spells it.
* `Capture.Directive.parse_text_of_parse`: writing and reading again changes nothing.
-/

namespace ScenarioSuite

open Text (isBlank dropAround)

namespace Selector

/-- Selectors that reading leaves as they are. -/
def Normal : Selector → Prop
  | .body path =>
    Json.Path.isBalanced path ∧ '\n' ∉ path.toList ∧ ∀ c ∈ path.toList.getLast?, ¬ isBlank c
  | .header name => isHeaderName name

theorem Normal.isValid {s : Selector} (h : s.Normal) : s.isValid := by
  cases s with
  | body path => exact h.1
  | header name => exact h

theorem not_isBlank_of_isHeaderChar {c : Char} (h : isHeaderChar c) : ¬ isBlank c := by
  simp only [isHeaderChar, Bool.or_eq_true, beq_iff_eq] at h
  rcases h with (h | rfl) | rfl
  · exact Text.not_isBlank_of_isAlphanum h
  · decide
  · decide

theorem exists_of_isBalanced {path : String} (h : Json.Path.isBalanced path) :
    ∃ cs, path.toList = '$' :: cs := by
  simp only [Json.Path.isBalanced, Bool.and_eq_true, beq_iff_eq] at h
  exact List.head?_eq_some_iff.1 h.1

theorem all_isHeaderChar {name : String} (h : isHeaderName name) :
    ∀ c ∈ name.toList, isHeaderChar c := by
  simp only [isHeaderName, Bool.and_eq_true] at h
  exact List.all_eq_true.1 h.2

theorem headerMark_eq : headerMark = ['h', 'e', 'a', 'd', 'e', 'r', 's', '.'] := by decide

theorem toList_text_header (name : String) :
    (header name).text.toList = headerMark ++ name.toList :=
  String.toList_append

theorem ofTrimmed_header (cs : List Char) :
    ofTrimmed (headerMark ++ cs) = .header (String.ofList (dropAround isBlank cs)) := by
  rw [ofTrimmed, if_pos (by simp [headerMark_eq]), List.drop_left]
  all_goals simp [headerMark_eq]

theorem ofTrimmed_dollar (cs : List Char) :
    ofTrimmed ('$' :: cs) = .body (String.ofList ('$' :: cs)) := by
  rw [ofTrimmed, if_neg (by simp [headerMark_eq])]

/-- A selector of the body is the text written, behind a dollar sign and a dot if need be. -/
theorem ofTrimmed_of_not_header {cs : List Char} (h : ¬ headerMark.isPrefixOf cs) :
    ∃ front : List Char, (∀ c ∈ front, ¬ isBlank c) ∧ (∃ rest, front ++ cs = '$' :: rest) ∧
      ofTrimmed cs = .body (String.ofList (front ++ cs)) := by
  unfold ofTrimmed
  rw [if_neg h]
  split
  · exact ⟨[], by simp, ⟨_, rfl⟩, rfl⟩
  · exact ⟨['$'], List.forall_mem_singleton.2 (by decide), ⟨_, rfl⟩, rfl⟩
  · have solid : ∀ c ∈ ['$', '.'], ¬ isBlank c :=
      List.forall_mem_cons.2 ⟨by decide, List.forall_mem_singleton.2 (by decide)⟩
    exact ⟨['$', '.'], solid, ⟨_, rfl⟩, rfl⟩

theorem not_isBlank_of_mem_headerMark {c : Char} (h : c ∈ headerMark) : ¬ isBlank c := by
  have solid : headerMark.all (!isBlank ·) := by decide
  simpa using List.all_eq_true.1 solid c h

/-- Writing a selector that was read and reading it again changes nothing. -/
theorem ofText_text_ofText (path : String) : ofText (ofText path).text = ofText path := by
  unfold ofText
  have bare : dropAround isBlank (dropAround isBlank path.toList) =
      dropAround isBlank path.toList := Text.dropAround_dropAround
  generalize dropAround isBlank path.toList = cs at bare
  by_cases h : headerMark.isPrefixOf cs
  · obtain ⟨rest, rfl⟩ := List.isPrefixOf_iff_prefix.1 h
    have bareName : dropAround isBlank (dropAround isBlank rest) = dropAround isBlank rest :=
      Text.dropAround_dropAround
    have stays := Text.dropAround_append_of_neg (fun _ => not_isBlank_of_mem_headerMark) bareName
    rw [ofTrimmed_header, toList_text_header, String.toList_ofList, stays, ofTrimmed_header,
      bareName]
  · obtain ⟨front, solid, ⟨rest, dollar⟩, heq⟩ := ofTrimmed_of_not_header h
    have stays := Text.dropAround_append_of_neg solid bare
    rw [heq, text, String.toList_ofList, stays, dollar, ofTrimmed_dollar]

theorem Normal.single {s : Selector} (h : s.Normal) : '\n' ∉ s.text.toList := by
  cases s with
  | body path => exact h.2.1
  | header name =>
    have : '\n' ∉ name.toList := fun hmem => absurd (all_isHeaderChar h _ hmem) (by decide)
    rw [toList_text_header, headerMark_eq]
    simpa using this

/-- Neither end of a selector's text is blank. -/
theorem Normal.dropAround_text {s : Selector} (h : s.Normal) :
    dropAround isBlank s.text.toList = s.text.toList := by
  cases s with
  | body path =>
    obtain ⟨cs, hcs⟩ := exists_of_isBalanced h.1
    refine Text.dropAround_eq_self (fun c hc => ?_) h.2.2
    rw [text, hcs, List.head?_cons, Option.mem_some_iff] at hc
    subst hc
    decide
  | header name =>
    have solid : ∀ c ∈ headerMark ++ name.toList, ¬ isBlank c := fun c hc =>
      (List.mem_append.1 hc).elim not_isBlank_of_mem_headerMark
        fun hc => not_isBlank_of_isHeaderChar (all_isHeaderChar h c hc)
    rw [toList_text_header, ← List.append_nil (headerMark ++ _)]
    exact Text.dropAround_append_of_neg solid rfl

theorem Normal.ofTrimmed_text {s : Selector} (h : s.Normal) : ofTrimmed s.text.toList = s := by
  cases s with
  | body path =>
    obtain ⟨cs, hcs⟩ := exists_of_isBalanced h.1
    rw [text, hcs, ofTrimmed_dollar, ← hcs, String.ofList_toList]
  | header name =>
    have chars : ∀ c ∈ name.toList, ¬ isBlank c := fun c hc =>
      not_isBlank_of_isHeaderChar (all_isHeaderChar h c hc)
    rw [toList_text_header, ofTrimmed_header,
      Text.dropAround_eq_self (fun c hc => chars c (List.mem_of_mem_head? hc))
        fun c hc => chars c (List.mem_of_mem_getLast? hc),
      String.ofList_toList]

theorem normal_ofTrimmed {cs : List Char} (hcs : dropAround isBlank cs = cs) (single : '\n' ∉ cs)
    (valid : (ofTrimmed cs).isValid) : (ofTrimmed cs).Normal := by
  by_cases h : headerMark.isPrefixOf cs
  · obtain ⟨rest, rfl⟩ := List.isPrefixOf_iff_prefix.1 h
    rw [ofTrimmed_header] at valid ⊢
    exact valid
  · obtain ⟨front, solid, -, heq⟩ := ofTrimmed_of_not_header h
    have stays := Text.dropAround_append_of_neg solid hcs
    have hfront : '\n' ∉ front := fun hmem => solid _ hmem (by decide)
    rw [heq] at valid ⊢
    refine ⟨valid, by simp [hfront, single], fun c hc => ?_⟩
    rw [String.toList_ofList, ← stays] at hc
    exact Text.not_of_mem_getLast?_dropAround hc

end Selector

namespace Capture.Directive

/-- Directives that reading leaves as they are. -/
structure Normal (d : Directive) : Prop where
  variableName : ∃ c rest, d.variableName.toList = c :: rest ∧ isNameStart c ∧
    ∀ x ∈ rest, isNameChar x
  selector : d.selector.Normal

/-- The selector of a path is that of the text behind the equals sign. -/
theorem ofText_of_path? {behind path : List Char} (h : path? behind = some path) :
    Selector.ofText (String.ofList path) = .ofTrimmed (dropAround isBlank behind) := by
  obtain ⟨gap, trail, prefers⟩ := path?_eq_some_iff.1 h
  rw [Selector.ofText, String.toList_ofList, prefers.takes.dropAround_eq]

theorem parse_eq_ok_iff {text : String} {d : Directive} : parse text = .ok d ↔
    ∃ behind, Assigns text.toList d.variableName.toList behind ∧
      '\n' ∉ dropAround isBlank behind ∧ (∃ c ∈ behind, c ≠ '\n') ∧
      d.selector = .ofTrimmed (dropAround isBlank behind) ∧ d.selector.isValid := by
  constructor
  · intro h
    unfold parse at h
    split at h
    · cases h
    next name behind hsplit =>
      split at h
      · cases h
      next path hpath =>
        obtain ⟨single, other⟩ := isSome_path?_iff.1 (Option.isSome_of_eq_some hpath)
        rw [ofText_of_path? hpath] at h
        by_cases valid : (Selector.ofTrimmed (dropAround isBlank behind)).isValid
        · simp only [valid, if_true] at h
          cases h
          rw [← String.toList_ofList (l := name)] at hsplit
          exact ⟨behind, split?_eq_some_iff.1 hsplit, single, other, rfl, valid⟩
        · simp [valid] at h
  · rintro ⟨behind, assigns, single, other, hselector, valid⟩
    obtain ⟨path, hpath⟩ := Option.isSome_iff_exists.1 (isSome_path?_iff.2 ⟨single, other⟩)
    simp [parse, split?_eq_some_iff.2 assigns, hpath, ofText_of_path? hpath, ← hselector, valid]

/-- What is read is in normal form. -/
theorem normal_of_parse {text : String} {d : Directive} (h : parse text = .ok d) : d.Normal := by
  obtain ⟨behind, assigns, single, -, hselector, valid⟩ := parse_eq_ok_iff.1 h
  refine ⟨isName_iff.1 assigns.1, ?_⟩
  rw [hselector] at valid ⊢
  exact Selector.normal_ofTrimmed Text.dropAround_dropAround single valid

/-- The text of a normal form spells it. -/
theorem Normal.parse_text {d : Directive} (h : d.Normal) : parse d.text = .ok d := by
  have text_eq : d.text.toList = [] ++ (d.variableName.toList ++
      ([' '] ++ '=' :: ' ' :: d.selector.text.toList)) := by
    simp [text, String.toList_append]
  have assigns : Assigns d.text.toList d.variableName.toList (' ' :: d.selector.text.toList) :=
    ⟨isName_iff.2 h.variableName, [], [' '], text_eq, List.forall_mem_nil _,
      List.forall_mem_singleton.2 (by decide)⟩
  have bare : dropAround isBlank (' ' :: d.selector.text.toList) = d.selector.text.toList :=
    (Text.dropAround_cons_of_pos (by decide)).trans h.selector.dropAround_text
  have other : ∃ c ∈ ' ' :: d.selector.text.toList, c ≠ '\n' := ⟨' ', List.mem_cons_self, by decide⟩
  refine parse_eq_ok_iff.2 ⟨_, assigns, bare.symm ▸ h.selector.single, other, ?_,
    h.selector.isValid⟩
  rw [bare, h.selector.ofTrimmed_text]

/-- A directive that was read is read again from its own text, and a path that was read, whether or
not it can be used, is read again from its own text. -/
theorem parse_text_of_parse :
    (∀ (text : String) (d : Directive), parse text = .ok d → parse d.text = .ok d) ∧
      ∀ path : String, Selector.ofText (Selector.ofText path).text = Selector.ofText path :=
  ⟨fun _ _ h => (normal_of_parse h).parse_text, Selector.ofText_text_ofText⟩

/-- An equals sign and a carriage return in the path, and other blanks than spaces around it. -/
theorem parse_text_of_parse_equalsSign :
    let text := "\tid\n=\u00a0headers=\ra \u2003"
    let d : Directive := ⟨"id", .body "$.headers=\ra"⟩
    parse text = .ok d ∧ parse d.text = .ok d ∧
      Selector.ofText (Selector.ofText " headers.\u00a0 [b").text =
        Selector.ofText " headers.\u00a0 [b" := by
  intro text d
  have h : parse text = .ok d := by decide +kernel
  exact ⟨h, parse_text_of_parse.1 text d h, parse_text_of_parse.2 _⟩

end Capture.Directive

end ScenarioSuite
