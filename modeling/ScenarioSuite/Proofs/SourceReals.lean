import ScenarioSuite.Proofs.FiniteReals
import ScenarioSuite.Proofs.SourceNumbers

/-!
# Real numbers of few digits

JSON multiplies the digits of a real number with a power of ten, or divides them by one; YAML looks
for the nearest real number. For digits of less than 53 bits and powers of ten that have no error
the two are the same, so a real number with at most 15 digits and a small power of ten means the
same in both.

## Main definitions

* `Json.Literal.Short`: a literal has at most 15 digits and a small power of ten.

## Main statements

* `Json.scale?_eq_nearest?`: both find the same number.
* `Json.Literal.agrees_of_short`: a short literal means the same in YAML.
-/

namespace ScenarioSuite.Json

open Decimal (Bounded)
open Yaml (decimal nearest?)

/-! ## Digits -/

theorem ofDigitChars_cons (c : Char) (cs : List Char) (n : Nat) :
    Nat.ofDigitChars 10 (c :: cs) n = Nat.ofDigitChars 10 cs (n * 10 + (c.toNat - 48)) := by
  rw [Nat.ofDigitChars_cons, Nat.mul_comm]
  rfl

theorem le_ofDigitChars (cs : List Char) (n : Nat) : n ≤ Nat.ofDigitChars 10 cs n := by
  rw [Nat.ofDigitChars_eq_ofDigitChars_zero]
  exact Nat.le_add_right_of_le (Nat.le_mul_of_pos_left n (Nat.pow_pos (by decide)))

theorem ofDigitChars_lt {cs : List Char} (h : ∀ c ∈ cs, c.isDigit) :
    Nat.ofDigitChars 10 cs 0 < 10 ^ cs.length := by
  induction cs with
  | nil => decide
  | cons c cs ih =>
    obtain ⟨hc, hcs⟩ := List.forall_mem_cons.1 h
    have digit : c.toNat ≤ 57 := (Char.isDigit_iff_toNat.1 hc).2
    rw [ofDigitChars_cons, Nat.ofDigitChars_eq_ofDigitChars_zero, Nat.zero_mul, Nat.zero_add,
      List.length_cons, Nat.pow_succ]
    calc 10 ^ cs.length * (c.toNat - 48) + Nat.ofDigitChars 10 cs 0
      _ < 10 ^ cs.length * (c.toNat - 48) + 10 ^ cs.length := Nat.add_lt_add_left (ih hcs) _
      _ = 10 ^ cs.length * (c.toNat - 48 + 1) := (Nat.mul_succ _ _).symm
      _ ≤ 10 ^ cs.length * 10 := Nat.mul_le_mul_left _ (by omega)

theorem decimal_eq (cs : List Char) : decimal cs = Nat.ofDigitChars 10 cs 0 := by
  rw [decimal, Nat.ofDigitChars_eq_foldl]
  simp only [Nat.mul_comm]
  rfl

/-- Digits that fit are all gathered. -/
theorem Number.gather_eq {cs : List Char} {n : Nat} (h : Nat.ofDigitChars 10 cs n < Nat.pow 2 64) :
    gather n (cs.map fun c => c.toNat - 48) = (Nat.ofDigitChars 10 cs n, []) := by
  induction cs generalizing n with
  | nil => rfl
  | cons c cs ih =>
    rw [ofDigitChars_cons] at h ⊢
    rw [List.map_cons, gather, if_pos (Nat.lt_of_le_of_lt (le_ofDigitChars cs _) h)]
    exact ih h

theorem Literal.power?_eq {cs : List Char} {n : Nat} (h : Nat.ofDigitChars 10 cs n < Nat.pow 2 31) :
    power? n (cs.map fun c => c.toNat - 48) = some (Nat.ofDigitChars 10 cs n) := by
  induction cs generalizing n with
  | nil => rfl
  | cons c cs ih =>
    rw [ofDigitChars_cons] at h ⊢
    rw [List.map_cons, power?, if_pos (Nat.lt_of_le_of_lt (le_ofDigitChars cs _) h)]
    exact ih h

/-! ## Scaling -/

open Number (powerOfTen scaleDown scale?)

/-- Nothing is left of zero. -/
theorem zero_scaled : ((0 : Nat).toUInt64.toFloat = 0.0) ∧
    (∀ n : Fin 23, (0 : Nat).toUInt64.toFloat / powerOfTen n = 0.0) := by
  decide +kernel

theorem scaleDown_eq {n : Nat} (hn : n ≤ 22) (x : Float) : scaleDown 4 x n = x / powerOfTen n := by
  rw [scaleDown, if_pos (Nat.le_trans hn (by decide))]

/-- Digits of less than 53 bits and a small power of ten give the same number in JSON and in YAML,
which is not infinite. -/
theorem scale?_eq_nearest? {s : Nat} {e : Int} (hs : s < 2 ^ 53) (he : e.natAbs ≤ 22) :
    ∃ x, scale? s e = some x ∧ nearest? s e = some x ∧ Bounded 87 x.toModel.unpack := by
  have exact := (Decimal.powerOfTen_spec ⟨e.natAbs, Nat.lt_succ_of_le he⟩).2
  have start := Decimal.bounded_ofUInt64 s.toUInt64
  rcases Nat.eq_zero_or_pos s with rfl | pos
  · refine ⟨0.0, ?_, rfl, .zero _⟩
    obtain ⟨zero, quotient⟩ := zero_scaled
    simp only [scale?]
    split
    · rw [scaleDown_eq he]
      exact congrArg some (quotient ⟨e.natAbs, Nat.lt_succ_of_le he⟩)
    · rw [if_pos trivial, zero]
  · have length : (Nat.toDigits 10 s).length ≤ 16 :=
      (Nat.length_toDigits_le_iff (by decide) (by decide)).2 (Nat.lt_trans hs (by decide))
    have middle : ¬ (s = 0 || e + (Nat.toDigits 10 s).length < -400) ∧
        ¬ 400 < e + (Nat.toDigits 10 s).length := by
      constructor
      · simp only [Bool.or_eq_true, decide_eq_true_eq]
        omega
      · omega
    simp only [scale?, nearest?, if_neg middle.1, if_neg middle.2, Decimal.ofScientific_eq hs he,
      Bool.false_eq_true, if_true, if_false]
    split
    · have bounded := Decimal.bounded_div start exact
      exact ⟨_, congrArg some (scaleDown_eq he _), if_pos bounded.isFinite.1, bounded⟩
    · next up =>
      have small : e.toNat = e.natAbs := by omega
      have bounded := Decimal.bounded_mul start exact
      rw [if_neg (Nat.ne_of_gt pos), if_neg (by omega), small]
      refine ⟨_, if_neg ?_, if_pos bounded.isFinite.1, bounded⟩
      rw [bounded.isFinite.2]
      exact Bool.false_ne_true

/-! ## Literals -/

namespace Literal

/-- The digits behind the point. -/
def fractionDigits (l : Literal) : List Char :=
  (l.fraction.map Digits.chars).getD []

/-- The digits of a number without its power of ten. -/
def digits (l : Literal) : List Char :=
  Nat.toDigits 10 l.whole ++ l.fractionDigits

/-- The power of ten as it is written, without one zero. -/
def writtenPower (l : Literal) : Int :=
  match l.exponent with
  | none => 0
  | some e =>
    let n : Int := Nat.ofDigitChars 10 e.digits.chars 0
    if e.sign == some true then -n else n

/-- The power of ten that the digits are multiplied with. -/
def power (l : Literal) : Int :=
  l.writtenPower - l.fractionDigits.length

/-- A real number with at most 15 digits and a small power of ten. -/
structure Short (l : Literal) : Prop where
  isReal : l.fraction.isSome ∨ l.exponent.isSome
  length_le : l.digits.length ≤ 15
  ne_nil : ∀ e ∈ l.exponent, e.digits.chars ≠ []
  power_le : l.power.natAbs ≤ 22

/-- The digits as a number. -/
def significand (l : Literal) : Nat :=
  Nat.ofDigitChars 10 l.digits 0

variable {l : Literal}

theorem isDigit_of_mem_digits : ∀ c ∈ l.digits, c.isDigit := by
  refine List.forall_mem_append.2 ⟨isDigit_of_mem_toDigits, ?_⟩
  rw [fractionDigits]
  cases l.fraction with
  | none => exact List.forall_mem_nil _
  | some ds => exact ds.isDigit

theorem Short.significand_lt (h : l.Short) : l.significand < 10 ^ 15 :=
  Nat.lt_of_lt_of_le (ofDigitChars_lt isDigit_of_mem_digits)
    (Nat.pow_le_pow_right (by decide) h.length_le)

/-- All digits count. -/
theorem Short.parts_eq (h : l.Short) :
    l.parts = (l.significand, -(l.fractionDigits.length : Int), l.fraction.isNone) := by
  have values : (l.fraction.map Digits.values).getD [] =
      l.fractionDigits.map fun c => c.toNat - 48 := by
    rw [fractionDigits]
    cases l.fraction <;> rfl
  have fits : l.significand < Nat.pow 2 64 := Nat.lt_trans h.significand_lt (by decide)
  rw [significand, digits, Nat.ofDigitChars_append] at fits ⊢
  have whole := Number.gather_eq (Nat.lt_of_le_of_lt (le_ofDigitChars l.fractionDigits _) fits)
  simp only [parts, values, whole, Number.gather_eq fits]
  simp

theorem Short.value?_eq (h : l.Short) :
    l.value? = (scale? l.significand l.power).map (Number.signed l.negative) := by
  have parts := h.parts_eq
  have small := h.power_le
  have length : l.fractionDigits.length ≤ l.digits.length := by simp [digits]
  have short := h.length_le
  unfold power writtenPower at small ⊢
  rw [value?, parts]
  cases hexponent : l.exponent with
  | none =>
    have isReal : l.fraction.isNone = false := by
      have := h.isReal
      rw [hexponent] at this
      simpa using this
    simp [isReal]
  | some e =>
    simp only [hexponent] at small
    have fits : Nat.ofDigitChars 10 e.digits.chars 0 < Nat.pow 2 31 := by
      have : Nat.pow 2 31 = 2147483648 := rfl
      split at small <;> omega
    simp only [Digits.values, power?_eq fits]
    split <;> simp [Int.sub_eq_add_neg, Int.add_comm]

end Literal

end ScenarioSuite.Json

namespace ScenarioSuite.Yaml

/-- What may follow the whole part of a real number. -/
def isMark (c : Char) : Bool := c == '.' || c == 'e' || c == 'E'

theorem foldlM_eq_none {α β : Type} {f : β → α → Option β} {as : List α} {a : α} (h : a ∈ as)
    (stops : ∀ b, f b a = none) (b : β) : as.foldlM f b = none := by
  induction as generalizing b with
  | nil => cases h
  | cons a' as ih =>
    rw [List.foldlM_cons]
    rcases List.mem_cons.1 h with rfl | h
    · rw [stops]
      rfl
    · cases f b a' with
      | none => rfl
      | some b => exact ih h b

/-- Characters of a real number without its sign: a digit, and behind it a digit or a mark, and a
mark anywhere. -/
structure IsReal (c d : Char) (cs : List Char) : Prop where
  first : c.isDigit
  second : d.isDigit ∨ isMark d
  marked : ∃ m ∈ d :: cs, isMark m

variable {c d : Char} {cs : List Char}

theorem IsReal.natural? (h : IsReal c d cs) : natural? (c :: d :: cs) = none := by
  obtain ⟨m, hm, mark⟩ := h.marked
  have other : d ≠ 'x' ∧ d ≠ 'o' ∧ d ≠ 'b' := by
    have second := h.second
    refine ⟨?_, ?_, ?_⟩ <;> rintro rfl <;> revert second <;> decide
  have stops : digit? 10 m = none := by
    rcases (by simpa [isMark, or_assoc] using mark : m = '.' ∨ m = 'e' ∨ m = 'E') with
      rfl | rfl | rfl <;> rfl
  have digits : digits? 10 (c :: d :: cs) = none := by
    rw [digits?, if_neg (by simp)]
    exact foldlM_eq_none (List.mem_cons_of_mem c hm) (fun n => by rw [stops]; rfl) 0
  unfold Yaml.natural?
  split
  · next h => exact absurd (List.cons.inj (List.cons.inj h).2).1 other.1
  · next h => exact absurd (List.cons.inj (List.cons.inj h).2).1 other.2.1
  · next h => exact absurd (List.cons.inj (List.cons.inj h).2).1 other.2.2
  · exact digits

theorem IsReal.isPadded_of_dropSign (h : IsReal c d cs) {signed : List Char}
    (bare : dropSign signed = c :: d :: cs) : isPadded signed = false := by
  obtain ⟨m, hm, mark⟩ := h.marked
  have other : (d :: cs).all Char.isDigit = false := by
    refine List.all_eq_false.2 ⟨m, hm, ?_⟩
    rcases (by simpa [isMark, or_assoc] using mark : m = '.' ∨ m = 'e' ∨ m = 'E') with
      rfl | rfl | rfl <;> decide
  unfold Yaml.isPadded
  rw [bare]
  split
  · next heq => rw [← (List.cons.inj heq).2]; exact other
  · rfl

theorem IsReal.isPadded (h : IsReal c d cs) :
    isPadded (c :: d :: cs) = false ∧ isPadded ('-' :: c :: d :: cs) = false := by
  have plus : c ≠ '+' := Json.Reader.ne_of_isDigit h.first rfl
  have minus : c ≠ '-' := Json.Reader.ne_of_isDigit h.first rfl
  exact ⟨h.isPadded_of_dropSign (by simp [dropSign, plus, minus]), h.isPadded_of_dropSign rfl⟩

theorem IsReal.integer? (h : IsReal c d cs) :
    integer? (c :: d :: cs) = none ∧ integer? ('-' :: c :: d :: cs) = none := by
  have unsigned : unsigned? (c :: d :: cs) = none := by
    unfold unsigned?
    rw [h.isPadded.1, if_neg Bool.false_ne_true]
    split
    · next heq => exact absurd (List.cons.inj heq).1 (Json.Reader.ne_of_isDigit h.first rfl)
    · exact h.natural?
  constructor
  · unfold Yaml.integer?
    split
    · next heq => exact absurd (List.cons.inj heq).1 (Json.Reader.ne_of_isDigit h.first rfl)
    · rw [unsigned]
      rfl
  · simp only [Yaml.integer?, h.isPadded.2, h.natural?, Bool.false_eq_true, if_false]
    rfl

theorem isInfinity_eq_false (h : c.isDigit) (cs : List Char) :
    isInfinity (String.ofList (c :: cs)) = false ∧
      isNotNumber (String.ofList (c :: cs)) = false := by
  have other {word : String}
      (hword : word.toList.head?.any (fun d => d.isDigit || d == '-') = false) :
      (String.ofList (c :: cs) == word) = false := beq_false_of_ne (ne_word (.inl h) hword)
  simp only [isInfinity, isNotNumber]
  rw [other (by decide), other (by decide), other (by decide), other (by decide),
    other (by decide), other (by decide)]
  exact ⟨rfl, rfl⟩

theorem real?_of_isDigit (h : c.isDigit) (cs : List Char) :
    real? (String.ofList (c :: cs)) = magnitude? (c :: cs) ∧
      real? (String.ofList ('-' :: c :: cs)) = (magnitude? (c :: cs)).map (-·) := by
  obtain ⟨infinity, nan⟩ := isInfinity_eq_false h cs
  have plus : c ≠ '+' := Json.Reader.ne_of_isDigit h rfl
  have minus : c ≠ '-' := Json.Reader.ne_of_isDigit h rfl
  constructor
  · unfold real?
    rw [String.toList_ofList]
    split
    · next heq => exact absurd (List.cons.inj heq).1 minus
    · next heq => exact absurd (List.cons.inj heq).1 plus
    · rw [infinity, nan, if_neg Bool.false_ne_true, if_neg Bool.false_ne_true]
  · simp only [real?, String.toList_ofList, infinity, Bool.false_eq_true, if_false]

/-- The characters mean a real number, with and without a minus in front. -/
theorem IsReal.ofPlain (h : IsReal c d cs) {x : Float} (hx : magnitude? (c :: d :: cs) = some x) :
    Meaning.ofPlain (String.ofList (c :: d :: cs)) = .real x ∧
      Meaning.ofPlain (String.ofList ('-' :: c :: d :: cs)) = .real (-x) := by
  obtain ⟨integer, integer'⟩ := h.integer?
  obtain ⟨real, real'⟩ := real?_of_isDigit h.first (d :: cs)
  constructor
  · simp only [Meaning.ofPlain, isNull_eq_false (.inl h.first), bool?_eq_none (.inl h.first),
      String.toList_ofList, integer, h.isPadded.1, real, hx, Bool.false_eq_true, if_false]
  · simp only [Meaning.ofPlain, isNull_eq_false (.inr rfl), bool?_eq_none (.inr rfl),
      String.toList_ofList, integer', h.isPadded.2, real', hx, Option.map_some,
      Bool.false_eq_true, if_false]

end ScenarioSuite.Yaml

namespace ScenarioSuite.Json.Literal

open Number (scale?)
open Yaml (IsReal exponent? isMark magnitude? nearest?)

variable {l : Literal}

/-- What stands behind digits does not begin with one. -/
theorem span_digits {cs : List Char} (digits : ∀ c ∈ cs, c.isDigit) (rest : List Char)
    (stop : ∀ c ∈ rest.head?, isMark c) :
    (cs ++ rest).takeWhile Char.isDigit = cs ∧ (cs ++ rest).dropWhile Char.isDigit = rest := by
  rw [List.takeWhile_append_of_pos digits, List.dropWhile_append_of_pos digits]
  cases rest with
  | nil => exact ⟨List.append_nil cs, rfl⟩
  | cons c rest =>
    have stop : ¬ c.isDigit := by
      rcases (by simpa [isMark, or_assoc] using stop c rfl : c = '.' ∨ c = 'e' ∨ c = 'E') with
        rfl | rfl | rfl <;> decide
    rw [List.takeWhile_cons_of_neg stop, List.dropWhile_cons_of_neg stop]
    exact ⟨List.append_nil cs, rfl⟩

theorem isMark_exponentChars (e : Option Exponent) :
    ∀ c ∈ (exponentChars e).head?, isMark c ∧ c ≠ '.' := by
  cases e with
  | none => simp [exponentChars]
  | some e =>
    intro c hc
    cases hc
    rcases e.isMark with h | h <;> rw [h] <;> decide

theorem exponent?_exponentChars (h : ∀ e ∈ l.exponent, e.digits.chars ≠ []) :
    exponent? (exponentChars l.exponent) = some l.writtenPower := by
  unfold writtenPower
  cases he : l.exponent with
  | none => rfl
  | some e =>
    obtain ⟨mark, isMark, sign, digits⟩ := e
    have nonempty : digits.chars.isEmpty = false := List.isEmpty_eq_false_iff.2 (h _ he)
    have all : digits.chars.all Char.isDigit := List.all_eq_true.2 digits.isDigit
    have isMark : (mark != 'e' && mark != 'E') = false := by rcases isMark with rfl | rfl <;> rfl
    have unsigned (sign : Char) (hsign : sign.isDigit = false) :
        digits.chars.head? ≠ some sign := by
      intro head
      have := digits.isDigit sign (List.mem_of_mem_head? head)
      rw [hsign] at this
      cases this
    have bare : Yaml.dropSign digits.chars = digits.chars := by
      unfold Yaml.dropSign
      split
      · next heq => exact absurd (by rw [heq]; rfl) (unsigned '+' rfl)
      · next heq => exact absurd (by rw [heq]; rfl) (unsigned '-' rfl)
      · rfl
    simp only [exponentChars, exponent?, isMark, Bool.false_eq_true, if_false]
    rcases sign with _ | _ | _
    · have minus : (digits.chars.head? == some '-') = false := beq_false_of_ne (unsigned '-' rfl)
      simp [signChars, bare, nonempty, all, minus, decimal_eq]
    · simp [signChars, Yaml.dropSign, nonempty, all, decimal_eq]
    · simp [signChars, Yaml.dropSign, nonempty, all, decimal_eq]

/-- YAML looks for the number nearest to the digits, scaled by their power of ten. -/
theorem Short.magnitude?_unsigned (h : l.Short) :
    magnitude? l.unsigned = nearest? l.significand l.power := by
  have power := exponent?_exponentChars h.ne_nil
  have behind : ∀ c ∈ (exponentChars l.exponent).head?, isMark c := fun c hc =>
    (isMark_exponentChars l.exponent c hc).1
  have digits : ∀ c ∈ Nat.toDigits 10 l.whole, c.isDigit := isDigit_of_mem_toDigits
  have nonempty : (Nat.toDigits 10 l.whole).isEmpty = false :=
    List.isEmpty_eq_false_iff.2 Nat.toDigits_ne_nil
  unfold Literal.power significand Literal.digits fractionDigits
  rw [Literal.unsigned, magnitude?]
  cases l.fraction with
  | none =>
    obtain ⟨whole, rest⟩ := span_digits digits (exponentChars l.exponent) behind
    -- The text goes on with a power of ten or ends.
    have point : ∀ cs, exponentChars l.exponent ≠ '.' :: cs := fun cs heq =>
      (isMark_exponentChars l.exponent '.' (by rw [heq]; rfl)).2 rfl
    simp only [fractionChars, List.nil_append, whole, rest, nonempty, power]
    simp [decimal_eq]
  | some ds =>
    obtain ⟨whole, rest⟩ := span_digits digits
      ('.' :: (ds.chars ++ exponentChars l.exponent)) (by rintro c hc; cases hc; rfl)
    obtain ⟨fraction, rest'⟩ := span_digits ds.isDigit (exponentChars l.exponent) behind
    simp only [fractionChars, List.cons_append, whole, rest, fraction, rest', nonempty, power]
    simp [decimal_eq]

/-- Behind the digits of the whole part there is a point or a power of ten. -/
theorem Short.isReal_unsigned (h : l.Short) :
    ∃ c d cs, l.unsigned = c :: d :: cs ∧ IsReal c d cs := by
  obtain ⟨c, whole, hwhole, digit⟩ := exists_toDigits_head l.whole
  obtain ⟨m, rest, hrest, mark⟩ : ∃ m rest,
      fractionChars l.fraction ++ exponentChars l.exponent = m :: rest ∧ isMark m := by
    cases hf : l.fraction with
    | some ds => exact ⟨'.', _, rfl, rfl⟩
    | none =>
      obtain ⟨e, he⟩ := Option.isSome_iff_exists.1 (h.isReal.resolve_left (by simp [hf]))
      rw [he]
      exact ⟨e.mark, _, rfl, by rcases e.isMark with h | h <;> rw [h] <;> rfl⟩
  rw [Literal.unsigned, hwhole, hrest]
  cases whole with
  | nil => exact ⟨c, m, rest, rfl, digit, .inr mark, m, List.mem_cons_self, mark⟩
  | cons d whole =>
    have hd : d.isDigit :=
      isDigit_of_mem_toDigits d (by rw [hwhole]; exact List.mem_cons_of_mem c List.mem_cons_self)
    exact ⟨c, d, whole ++ m :: rest, rfl, digit, .inl hd, m, by simp, mark⟩

/-- A real number with at most 15 digits and a small power of ten is the same in YAML. -/
theorem agrees_of_short (h : l.Short) : l.Agrees := by
  have small : l.significand < 2 ^ 53 := Nat.lt_trans h.significand_lt (by decide)
  obtain ⟨x, scaled, nearest, bounded⟩ := scale?_eq_nearest? small h.power_le
  obtain ⟨c, d, cs, hunsigned, real⟩ := h.isReal_unsigned
  have magnitude := h.magnitude?_unsigned
  rw [nearest, hunsigned] at magnitude
  obtain ⟨positive, negative⟩ := real.ofPlain magnitude
  refine ⟨Number.signed l.negative x, by rw [h.value?_eq, scaled]; rfl, ?_⟩
  rw [chars, hunsigned]
  cases l.negative with
  | false =>
    rw [if_neg Bool.false_ne_true, positive]
    exact congrArg some (if_pos bounded.isFinite.1)
  | true =>
    have bounded' := Decimal.bounded_neg bounded (by decide) (by decide)
    rw [if_pos rfl, negative]
    exact congrArg some (if_pos bounded'.isFinite.1)

end ScenarioSuite.Json.Literal
