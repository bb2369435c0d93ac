import Mathlib.Data.List.DropRight
import ScenarioSuite.Text.Blank

/-!
# Texts without what stands around them

What is left of a text when its ends are dropped as far as they satisfy a predicate has ends that do
not satisfy it, and a text with such ends stays as it is.

## Main statements

* `Text.dropAround_eq_self`: a text whose ends do not satisfy the predicate stays as it is.
* `Text.dropAround_dropAround`: to drop the ends once more changes nothing.
* `Text.dropAround_eq_nil_iff`: nothing is left of a text that satisfies the predicate throughout.
-/

namespace ScenarioSuite

namespace Text

variable {p : Char → Bool} {cs : List Char} {c : Char}

/-- A run ends in front of the first character that does not belong to it. -/
theorem takeWhile_run (inside : ∀ d ∈ cs, p d) (stop : ¬ p c) (rest : List Char) :
    (cs ++ c :: rest).takeWhile p = cs := by
  rw [List.takeWhile_append_of_pos inside, List.takeWhile_cons_of_neg stop, List.append_nil]

theorem dropWhile_run (inside : ∀ d ∈ cs, p d) (stop : ¬ p c) (rest : List Char) :
    (cs ++ c :: rest).dropWhile p = c :: rest := by
  rw [List.dropWhile_append_of_pos inside, List.dropWhile_cons_of_neg stop]

theorem dropAround_eq_self (hfirst : ∀ c ∈ cs.head?, ¬ p c) (hlast : ∀ c ∈ cs.getLast?, ¬ p c) :
    dropAround p cs = cs := by
  have front : cs.dropWhile p = cs := by
    cases cs with
    | nil => rfl
    | cons c rest => simpa using hfirst c rfl
  rw [dropAround, front]
  refine List.rdropWhile_eq_self_iff.2 fun h => hlast _ ?_
  simp [List.getLast?_eq_getLast_of_ne_nil h]

theorem not_of_mem_getLast?_dropAround (h : c ∈ (dropAround p cs).getLast?) : ¬ p c := by
  obtain ⟨hne, rfl⟩ := List.mem_getLast?_eq_getLast h
  exact List.rdropWhile_last_not p _ hne

theorem not_of_mem_head?_dropAround (h : c ∈ (dropAround p cs).head?) : ¬ p c := by
  obtain ⟨tail, htail⟩ := List.rdropWhile_prefix p (cs.dropWhile p)
  have hd : (cs.dropWhile p).head? = some c := by
    rw [← htail, List.head?_append]
    exact Option.or_eq_some_iff.2 (.inl h)
  simpa [hd] using List.head?_dropWhile_not p cs

theorem dropAround_dropAround : dropAround p (dropAround p cs) = dropAround p cs :=
  dropAround_eq_self (fun _ hc => not_of_mem_head?_dropAround hc)
    fun _ hc => not_of_mem_getLast?_dropAround hc

theorem dropAround_eq_nil_iff : dropAround p cs = [] ↔ ∀ c ∈ cs, p c := by
  constructor
  · intro h
    have all : ∀ c ∈ cs.dropWhile p, p c := List.rdropWhile_eq_nil_iff.1 h
    cases hd : cs.dropWhile p with
    | nil => exact List.dropWhile_eq_nil_iff.1 hd
    | cons c rest =>
      have first := List.head?_dropWhile_not p cs
      rw [hd] at first all
      simp [all c List.mem_cons_self] at first
  · intro h
    rw [dropAround, List.dropWhile_eq_nil_iff.2 h, dropEndWhile_nil]

/-- What is dropped does not count where only other characters do. -/
theorem filter_dropAround {q : Char → Bool} (apart : ∀ c, p c → ¬ q c) (cs : List Char) :
    (dropAround p cs).filter q = cs.filter q := by
  have front : ∀ cs : List Char, (cs.dropWhile p).filter q = cs.filter q := by
    intro cs
    have dropped : (cs.takeWhile p).filter q = [] :=
      List.filter_eq_nil_iff.2 fun c hc => apart c (List.mem_takeWhile_imp hc)
    calc (cs.dropWhile p).filter q
      _ = (cs.takeWhile p).filter q ++ (cs.dropWhile p).filter q := by rw [dropped, List.nil_append]
      _ = cs.filter q := by rw [← List.filter_append, List.takeWhile_append_dropWhile]
  rw [dropAround, dropEndWhile, List.filter_reverse, front, ← List.filter_reverse,
    List.reverse_reverse, front]

theorem dropAround_append_of_neg {front : List Char} (hfront : ∀ c ∈ front, ¬ p c)
    (hcs : dropAround p cs = cs) : dropAround p (front ++ cs) = front ++ cs := by
  refine dropAround_eq_self (fun c hc => ?_) fun c hc => ?_
  · rw [List.head?_append, Option.mem_def, Option.or_eq_some_iff] at hc
    rcases hc with hc | ⟨-, hc⟩
    · exact hfront c (List.mem_of_mem_head? hc)
    · exact not_of_mem_head?_dropAround (hcs.symm ▸ hc)
  · rw [List.getLast?_append, Option.mem_def, Option.or_eq_some_iff] at hc
    rcases hc with hc | ⟨-, hc⟩
    · exact not_of_mem_getLast?_dropAround (hcs.symm ▸ hc)
    · exact hfront c (List.mem_of_mem_getLast? hc)

theorem dropAround_cons_of_neg (hc : ¬ p c) (hcs : dropAround p cs = cs) :
    dropAround p (c :: cs) = c :: cs :=
  dropAround_append_of_neg (List.forall_mem_singleton.2 hc) hcs

theorem dropAround_cons_of_pos (h : p c) : dropAround p (c :: cs) = dropAround p cs := by
  simp [dropAround, h]

theorem dropAround_concat_of_pos (h : p c) : dropAround p (cs ++ [c]) = dropAround p cs := by
  by_cases all : ∀ d ∈ cs, p d
  · have all' : ∀ d ∈ cs ++ [c], p d := by
      intro d hd
      rcases List.mem_append.1 hd with hd | hd
      · exact all d hd
      · exact List.mem_singleton.1 hd ▸ h
    rw [dropAround_eq_nil_iff.2 all, dropAround_eq_nil_iff.2 all']
  · have front : (cs ++ [c]).dropWhile p = cs.dropWhile p ++ [c] := by
      rw [List.dropWhile_append, if_neg]
      simpa using all
    rw [dropAround, front]
    exact List.rdropWhile_concat_pos _ _ _ h

theorem dropAround_append_of_pos {front : List Char} (h : ∀ c ∈ front, p c) :
    dropAround p (front ++ cs) = dropAround p cs := by
  induction front with
  | nil => rfl
  | cons c front ih =>
    obtain ⟨hc, hfront⟩ := List.forall_mem_cons.1 h
    rw [List.cons_append, dropAround_cons_of_pos hc, ih hfront]

theorem dropAround_append_right_of_pos {back : List Char} (h : ∀ c ∈ back, p c) :
    dropAround p (cs ++ back) = dropAround p cs := by
  induction back generalizing cs with
  | nil => rw [List.append_nil]
  | cons c back ih =>
    obtain ⟨hc, hback⟩ := List.forall_mem_cons.1 h
    rw [List.append_cons, ih hback, dropAround_concat_of_pos hc]

/-- A text is what is left of it between what is dropped at its ends. -/
theorem exists_dropAround (p : Char → Bool) (cs : List Char) :
    ∃ front back, cs = front ++ (dropAround p cs ++ back) ∧ (∀ c ∈ front, p c) ∧
      ∀ c ∈ back, p c := by
  refine ⟨cs.takeWhile p, (cs.dropWhile p).rtakeWhile p, ?_, fun c => List.mem_takeWhile_imp,
    fun c => List.mem_rtakeWhile_imp⟩
  have ends : dropAround p cs ++ (cs.dropWhile p).rtakeWhile p = cs.dropWhile p :=
    List.rdropWhile_append_rtakeWhile ..
  rw [ends, List.takeWhile_append_dropWhile]

theorem mem_of_mem_dropAround (h : c ∈ dropAround p cs) : c ∈ cs := by
  obtain ⟨front, back, heq, -, -⟩ := exists_dropAround p cs
  rw [heq]
  exact List.mem_append_right _ (List.mem_append_left _ h)

theorem toList_trim (s : String) : (trim s).toList = dropAround isBlank s.toList :=
  String.toList_ofList

theorem trim_eq_empty_iff {s : String} : trim s = "" ↔ dropAround isBlank s.toList = [] := by
  rw [← String.toList_inj, toList_trim, String.toList_empty]

theorem not_isBlank_of_isAlphanum (h : c.isAlphanum) : ¬ isBlank c := by
  delta Char.isAlphanum Char.isAlpha Char.isUpper Char.isLower Char.isDigit at h
  simp [UInt32.le_iff_toNat_le] at h
  simp only [isBlank, Bool.or_eq_true, Bool.and_eq_true, decide_eq_true_eq, beq_iff_eq]
  omega

end Text

end ScenarioSuite
