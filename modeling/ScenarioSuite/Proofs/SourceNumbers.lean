import ScenarioSuite.Proofs.SourceReading
import ScenarioSuite.Yaml.Decode

/-!
# Numbers of JSON in YAML

An integer of at most 64 bits means the same in JSON and in YAML. A real number may not: JSON
rounds step by step, and takes minus zero and what has more than 64 bits for real numbers.

## Main definitions

* `Json.Literal.Agrees`: YAML takes a literal for the number that it is in JSON.

## Main statements

* `Json.Literal.agrees_of_integer`: an integer means the same in both.
* `Json.Literal.unsigned?_chars`: so does a natural number where one is wanted.
-/

namespace ScenarioSuite.Json

/-- If all digits fit, they are the number. -/
theorem Number.eq_of_gather {cs : List Char} {n significand : Nat}
    (h : gather n (cs.map fun c => c.toNat - 48) = (significand, [])) (hn : n < Nat.pow 2 64) :
    significand = Nat.ofDigitChars 10 cs n ∧ significand < Nat.pow 2 64 := by
  induction cs generalizing n with
  | nil =>
    cases h
    exact ⟨rfl, hn⟩
  | cons c cs ih =>
    rw [List.map_cons, gather] at h
    split at h
    · next fits =>
      rw [Nat.ofDigitChars_cons, Nat.mul_comm]
      exact ih h fits
    · cases h

namespace Literal

theorem scale_ne_integer (negative : Bool) (significand : Nat) (e n : Int) :
    (Number.scale? significand e).map (Number.signed negative) ≠ some (.integer n) := by
  cases Number.scale? significand e <;> simp [Number.signed]

/-- The integers that literals stand for are written as their digits. -/
theorem chars_of_integer {l : Literal} {n : Int} (h : l.value? = some (.integer n)) :
    ∃ m : Nat, m < Nat.pow 2 64 ∧ (l.chars = Nat.toDigits 10 m ∧ n = m ∨
      l.chars = '-' :: Nat.toDigits 10 m ∧ n = -m ∧ 0 < m ∧ m ≤ Nat.pow 2 63) := by
  obtain ⟨negative, whole, fraction, exponent⟩ := l
  cases exponent with
  | some e =>
    simp only [value?] at h
    split at h
    · exact absurd h (scale_ne_integer _ _ _ _)
    · split at h
      · cases h
      · simp [Number.signed] at h
  | none =>
    simp only [value?] at h
    split at h
    · next isWhole =>
      cases fraction with
      | some ds => simp [parts] at isWhole
      | none =>
        rcases hw : Number.gather 0 ((Nat.toDigits 10 whole).map fun c => c.toNat - 48) with
          ⟨significand, excess⟩
        simp only [parts, hw, Option.map_none, Option.getD_none, Number.gather, Option.isNone_none,
          Bool.true_and, List.isEmpty_iff] at h isWhole
        subst isWhole
        obtain ⟨hs, fits⟩ := Number.eq_of_gather hw (by decide)
        rw [Nat.ofDigitChars_ten_toDigits] at hs
        subst hs
        refine ⟨significand, fits, ?_⟩
        simp only [chars, unsigned, fractionChars, exponentChars, List.append_nil]
        cases negative with
        | false =>
          simp only [Number.ofSignificand, Bool.not_false, if_true, Option.some.injEq,
            Number.integer.injEq] at h
          exact .inl ⟨rfl, h.symm⟩
        | true =>
          simp only [Number.ofSignificand, Bool.not_true, Bool.false_eq_true, if_false] at h
          split at h
          · simp [Number.signed] at h
          · next range =>
            rw [not_or, Nat.not_lt] at range
            simp only [Option.some.injEq, Number.integer.injEq] at h
            exact .inr ⟨rfl, h.symm, Nat.pos_of_ne_zero range.1, range.2⟩
    · exact absurd h (scale_ne_integer _ _ _ _)

end Literal

end ScenarioSuite.Json

namespace ScenarioSuite.Yaml

open Json (exists_toDigits_head isDigit_of_mem_toDigits)

theorem digit?_of_isDigit {c : Char} (h : c.isDigit) : digit? 10 c = some (c.toNat - 48) := by
  have upper : c.toNat ≤ 57 := (Char.isDigit_iff_toNat.1 h).2
  have small : c.toNat - 48 < 10 := by omega
  simp [digit?, Quoted.hexDigit?, h, small]

theorem foldlM_digit? {cs : List Char} (h : ∀ c ∈ cs, c.isDigit) (n : Nat) :
    cs.foldlM (fun n c => (digit? 10 c).map (n * 10 + ·)) n = some (Nat.ofDigitChars 10 cs n) := by
  induction cs generalizing n with
  | nil => rfl
  | cons c cs ih =>
    obtain ⟨hc, hcs⟩ := List.forall_mem_cons.1 h
    rw [List.foldlM_cons, digit?_of_isDigit hc, Nat.ofDigitChars_cons, Nat.mul_comm 10]
    exact ih hcs _

theorem digits?_toDigits (n : Nat) : digits? 10 (Nat.toDigits 10 n) = some n := by
  rw [digits?, if_neg (by simp [Nat.toDigits_ne_nil]), foldlM_digit? isDigit_of_mem_toDigits,
    Nat.ofDigitChars_ten_toDigits]

/-- Only zero itself begins with a zero. -/
theorem toDigits_eq_zero_cons {n : Nat} {cs : List Char} (h : Nat.toDigits 10 n = '0' :: cs) :
    cs = [] := by
  rcases Nat.eq_zero_or_pos n with rfl | pos
  · rw [Nat.toDigits_zero] at h
    exact (List.cons.inj h).2.symm
  · obtain ⟨d, ds, hpos, hlt, hd⟩ := Json.exists_toDigits_eq_cons pos
    have := (List.cons.inj (hd.symm.trans h)).1
    have : ∀ d < 10, 0 < d → Nat.digitChar d ≠ '0' := by decide
    exact absurd ‹Nat.digitChar d = '0'› (this d hlt hpos)

theorem natural?_toDigits (n : Nat) : natural? (Nat.toDigits 10 n) = some n := by
  have digits := digits?_toDigits n
  unfold natural?
  split
  · next h => exact absurd (toDigits_eq_zero_cons h) (List.cons_ne_nil _ _)
  · next h => exact absurd (toDigits_eq_zero_cons h) (List.cons_ne_nil _ _)
  · next h => exact absurd (toDigits_eq_zero_cons h) (List.cons_ne_nil _ _)
  · exact digits

theorem isPadded_of_dropSign {cs : List Char} {n : Nat} (h : dropSign cs = Nat.toDigits 10 n) :
    isPadded cs = false := by
  unfold isPadded
  split
  · next hcs => exact absurd (toDigits_eq_zero_cons (h.symm.trans hcs)) (List.cons_ne_nil _ _)
  · rfl

theorem unsigned?_toDigits (n : Nat) : unsigned? (Nat.toDigits 10 n) = some n := by
  obtain ⟨c, cs, hcs, digit⟩ := exists_toDigits_head n
  have plus : c ≠ '+' := Json.Reader.ne_of_isDigit digit rfl
  have minus : c ≠ '-' := Json.Reader.ne_of_isDigit digit rfl
  have bare : dropSign (Nat.toDigits 10 n) = Nat.toDigits 10 n := by
    simp [hcs, dropSign, plus, minus]
  have padded := isPadded_of_dropSign bare
  unfold unsigned?
  rw [padded, if_neg Bool.false_ne_true]
  split
  · next h => exact absurd (List.cons.inj (hcs.symm.trans h)).1 plus
  · exact natural?_toDigits n

theorem integer?_toDigits {n : Nat} (h : n < Nat.pow 2 64) :
    integer? (Nat.toDigits 10 n) = some (n : Int) := by
  obtain ⟨c, cs, hcs, digit⟩ := exists_toDigits_head n
  have minus : c ≠ '-' := Json.Reader.ne_of_isDigit digit rfl
  have unsigned := unsigned?_toDigits n
  have fits : n < Nat.pow 2 128 := Nat.lt_trans h (by decide)
  unfold integer?
  split
  · next h => exact absurd (List.cons.inj (hcs.symm.trans h)).1 minus
  · rw [unsigned, Option.filter_some, if_pos (by simpa using fits)]
    rfl

theorem integer?_minus_toDigits {n : Nat} (h : n ≤ Nat.pow 2 63) :
    integer? ('-' :: Nat.toDigits 10 n) = some (-n : Int) := by
  have fits : n ≤ Nat.pow 2 127 := Nat.le_trans h (by decide)
  have padded : isPadded ('-' :: Nat.toDigits 10 n) = false := isPadded_of_dropSign rfl
  simp only [integer?, padded, natural?_toDigits, Bool.false_eq_true, if_false]
  rw [Option.filter_some, if_pos (by simpa using fits)]
  rfl

/-- What begins with a digit or a minus is no word. -/
theorem ne_word {c : Char} {cs : List Char} (hc : c.isDigit ∨ c = '-') {word : String}
    (h : word.toList.head?.any (fun d => d.isDigit || d == '-') = false) :
    String.ofList (c :: cs) ≠ word := by
  rintro rfl
  rw [String.toList_ofList, List.head?_cons, Option.any_some, Bool.or_eq_false_iff,
    beq_eq_false_iff_ne] at h
  rcases hc with hc | hc
  · rw [h.1] at hc
    cases hc
  · exact h.2 hc

theorem isNull_eq_false {c : Char} (hc : c.isDigit ∨ c = '-') (cs : List Char) :
    ((String.ofList (c :: cs)).isEmpty || isNull (String.ofList (c :: cs))) = false := by
  have other {word : String}
      (h : word.toList.head?.any (fun d => d.isDigit || d == '-') = false) :
      (String.ofList (c :: cs) == word) = false := beq_false_of_ne (ne_word hc h)
  have empty : (String.ofList (c :: cs)).isEmpty = false := by
    rw [Bool.eq_false_iff, ne_eq, String.isEmpty_iff]
    exact ne_word hc (by simp)
  simp only [isNull]
  rw [empty, other (by decide), other (by decide), other (by decide), other (by decide)]
  rfl

theorem bool?_eq_none {c : Char} (hc : c.isDigit ∨ c = '-') (cs : List Char) :
    bool? (String.ofList (c :: cs)) = none := by
  have other {word : String}
      (h : word.toList.head?.any (fun d => d.isDigit || d == '-') = false) :
      (String.ofList (c :: cs) == word) = false := beq_false_of_ne (ne_word hc h)
  simp only [bool?]
  rw [other (by decide), other (by decide), other (by decide), other (by decide),
    other (by decide), other (by decide)]
  rfl

theorem ofPlain_of_integer? {c : Char} {cs : List Char} (hc : c.isDigit ∨ c = '-') {n : Int}
    (h : integer? (c :: cs) = some n) (least : -2 ^ 63 ≤ n) (greatest : n < 2 ^ 64) :
    Meaning.ofPlain (String.ofList (c :: cs)) = .integer n := by
  simp only [Meaning.ofPlain, isNull_eq_false hc, bool?_eq_none hc, String.toList_ofList, h,
    Bool.false_eq_true, if_false]
  exact if_pos ⟨least, greatest⟩

end ScenarioSuite.Yaml

namespace ScenarioSuite.Json.Literal

/-- YAML takes the literal for the number that it is. -/
def Agrees (l : Literal) : Prop :=
  ∃ n, l.value? = some n ∧
    Yaml.jsonOfMeaning (Yaml.Meaning.ofPlain (String.ofList l.chars)) = some (.number n)

/-- An integer is the same in YAML. -/
theorem agrees_of_integer {l : Literal} {n : Int} (h : l.value? = some (.integer n)) :
    l.Agrees := by
  refine ⟨.integer n, h, ?_⟩
  have meaning : Yaml.Meaning.ofPlain (String.ofList l.chars) = .integer n := by
    obtain ⟨m, fits, ⟨hchars, rfl⟩ | ⟨hchars, rfl, pos, least⟩⟩ := chars_of_integer h
    · obtain ⟨c, cs, hcs, digit⟩ := exists_toDigits_head m
      have integer := Yaml.integer?_toDigits fits
      rw [hcs] at integer hchars
      rw [hchars]
      exact Yaml.ofPlain_of_integer? (.inl digit) integer (by omega) (by exact_mod_cast fits)
    · have limit : Nat.pow 2 63 = 2 ^ 63 := rfl
      rw [hchars]
      exact Yaml.ofPlain_of_integer? (.inr rfl) (Yaml.integer?_minus_toDigits least)
        (by omega) (by omega)
  rw [meaning]
  rfl

/-- Where a natural number is wanted, YAML takes the literal for it as well. -/
theorem unsigned?_chars {l : Literal} {n : Int} (h : l.value? = some (.integer n)) (pos : 0 ≤ n) :
    Yaml.unsigned? l.chars = some n.toNat ∧ n.toNat < Nat.pow 2 64 := by
  obtain ⟨m, fits, ⟨hchars, rfl⟩ | ⟨hchars, rfl, hpos, least⟩⟩ := chars_of_integer h
  · rw [hchars, Yaml.unsigned?_toDigits]
    exact ⟨rfl, fits⟩
  · omega

end ScenarioSuite.Json.Literal
