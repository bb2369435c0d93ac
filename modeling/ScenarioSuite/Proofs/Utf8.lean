import ScenarioSuite.Proofs.ByteOrder

/-!
# UTF-8 round trip

The bytes of a character are of one of four forms, with the digits of its number to base 64 as
payload. What follows them does not count, so a text is read back from its bytes character by
character.

## Main statements

* `Text.Utf8.exists_piece`: the bytes of a character are the piece of this character.
* `Text.Utf8.decode_encode`, `Text.Utf8.decodeLossy_encode`, `Text.Utf8.symbols_encode`: a text is
  read back from its bytes.
* `Text.Utf8.ofNat_mem_of_mem_encode`: a byte below 128 is that of a character.
-/

namespace ScenarioSuite.Text.Utf8

/-! ## The forms of a character -/

theorem isTail_iff {b : UInt8} : isTail b = true ↔ 128 ≤ b.toNat ∧ b.toNat ≤ 191 := by
  simp [isTail, UInt8.le_iff_toNat_le]

theorem isTail_tail {n : Nat} (h : n < 64) : isTail (UInt8.ofNat (n + 128)) = true := by
  rw [isTail_iff, UInt8.toNat_ofNat_of_lt' (show n + 128 < 256 by omega)]
  omega

theorem tailBits_tail {n : Nat} (h : n < 64) : tailBits (UInt8.ofNat (n + 128)) = n := by
  rw [tailBits, UInt8.toNat_ofNat_of_lt' (show n + 128 < 256 by omega)]
  omega

theorem isSecond_iff {a b : Nat} (ha : a < 256) (hb : b < 64) :
    isSecond (UInt8.ofNat a) (UInt8.ofNat (b + 128)) = true ↔
      (a = 0xE0 → 32 ≤ b) ∧ (a = 0xED → b < 32) ∧ (a = 0xF0 → 16 ≤ b) ∧ (a = 0xF4 → b < 16) := by
  have lead : (UInt8.ofNat a).toNat = a := UInt8.toNat_ofNat_of_lt' ha
  have tail : (UInt8.ofNat (b + 128)).toNat = b + 128 :=
    UInt8.toNat_ofNat_of_lt' (show b + 128 < 256 by omega)
  simp only [isSecond, beq_iff_eq, ← UInt8.toNat_inj, lead, UInt8.reduceToNat]
  repeat' split
  all_goals
    simp only [Bool.and_eq_true, decide_eq_true_eq, UInt8.le_iff_toNat_le, tail,
      UInt8.reduceToNat, isTail_iff]
    omega

theorem piece_one {a : Nat} (ha : a < 128) (rest : List UInt8) :
    piece (UInt8.ofNat a) rest = .char (Char.ofNat a) 1 := by
  have lead : (UInt8.ofNat a).toNat = a :=
    UInt8.toNat_ofNat_of_lt' (show a < 256 by omega)
  have ascii : UInt8.ofNat a < 0x80 := UInt8.lt_iff_toNat_lt.2 (by rw [lead]; exact ha)
  simp only [piece, if_pos ascii, lead]

theorem piece_two {a b : Nat} (ha : 2 ≤ a) (ha' : a < 32) (hb : b < 64) (rest : List UInt8) :
    piece (UInt8.ofNat (a + 192)) (UInt8.ofNat (b + 128) :: rest) =
      .char (Char.ofNat (a * 64 + b)) 2 := by
  have lead : (UInt8.ofNat (a + 192)).toNat = a + 192 :=
    UInt8.toNat_ofNat_of_lt' (show a + 192 < 256 by omega)
  have bits : (a + 192) % 32 = a := by omega
  simp only [piece, UInt8.lt_iff_toNat_lt, lead, UInt8.reduceToNat, Bool.or_eq_true,
    decide_eq_true_eq, isTail_tail hb, tailBits_tail hb, bits, if_true]
  rw [if_neg (by omega), if_neg (by omega), if_pos (by omega)]

theorem piece_three {a b c : Nat} (ha : a < 16) (hb : b < 64) (hc : c < 64)
    (overlong : a = 0 → 32 ≤ b) (surrogate : a = 13 → b < 32) (rest : List UInt8) :
    piece (UInt8.ofNat (a + 224)) (UInt8.ofNat (b + 128) :: UInt8.ofNat (c + 128) :: rest) =
      .char (Char.ofNat ((a * 64 + b) * 64 + c)) 3 := by
  have lead : (UInt8.ofNat (a + 224)).toNat = a + 224 :=
    UInt8.toNat_ofNat_of_lt' (show a + 224 < 256 by omega)
  have bits : (a + 224) % 16 = a := by omega
  have second := (isSecond_iff (a := a + 224) (by omega) hb).2 (by omega)
  simp only [piece, UInt8.lt_iff_toNat_lt, lead, UInt8.reduceToNat, Bool.or_eq_true,
    decide_eq_true_eq, second, isTail_tail hc, tailBits_tail hb, tailBits_tail hc, bits, if_true]
  rw [if_neg (by omega), if_neg (by omega), if_neg (by omega), if_pos (by omega),
    if_neg (by decide)]

theorem piece_four {a b c d : Nat} (ha : a < 5) (hb : b < 64) (hc : c < 64) (hd : d < 64)
    (overlong : a = 0 → 16 ≤ b) (beyond : a = 4 → b < 16) (rest : List UInt8) :
    piece (UInt8.ofNat (a + 240))
        (UInt8.ofNat (b + 128) :: UInt8.ofNat (c + 128) :: UInt8.ofNat (d + 128) :: rest) =
      .char (Char.ofNat (((a * 64 + b) * 64 + c) * 64 + d)) 4 := by
  have lead : (UInt8.ofNat (a + 240)).toNat = a + 240 :=
    UInt8.toNat_ofNat_of_lt' (show a + 240 < 256 by omega)
  have bits : (a + 240) % 8 = a := by omega
  have second := (isSecond_iff (a := a + 240) (by omega) hb).2 (by omega)
  simp only [piece, UInt8.lt_iff_toNat_lt, lead, UInt8.reduceToNat, Bool.or_eq_true,
    decide_eq_true_eq, second, isTail_tail hc, isTail_tail hd, tailBits_tail hb, tailBits_tail hc,
    tailBits_tail hd, bits, if_true]
  rw [if_neg (by omega), if_neg (by omega), if_neg (by omega), if_neg (by omega),
    if_neg (by decide), if_neg (by decide)]

/-- The bytes of a character begin with the character, whatever follows. -/
theorem exists_piece (c : Char) : ∃ lead tail, String.utf8EncodeChar c = lead :: tail ∧
    ∀ rest, piece lead (tail ++ rest) = .char c (tail.length + 1) := by
  have valid : c.val.toNat < 0xD800 ∨ 0xDFFF < c.val.toNat ∧ c.val.toNat < 0x110000 := c.valid
  have char {n : Nat} (h : n = c.val.toNat) : Char.ofNat n = c := h ▸ Char.ofNat_toNat c
  unfold String.utf8EncodeChar
  generalize c.val.toNat = v at *
  dsimp only
  -- One case for each width; the bounds of `valid` keep out what `isSecond` keeps out.
  split
  · refine ⟨_, _, rfl, fun rest => ?_⟩
    exact (piece_one (by omega) rest).trans (congrArg (Piece.char · 1) (char rfl))
  split
  · refine ⟨_, _, rfl, fun rest => ?_⟩
    exact (piece_two (by omega) (by omega) (by omega) rest).trans
      (congrArg (Piece.char · 2) (char (by omega)))
  split
  · refine ⟨_, _, rfl, fun rest => ?_⟩
    exact (piece_three (by omega) (by omega) (by omega) (by omega) (by omega) rest).trans
      (congrArg (Piece.char · 3) (char (by omega)))
  · refine ⟨_, _, rfl, fun rest => ?_⟩
    exact (piece_four (by omega) (by omega) (by omega) (by omega) (by omega) (by omega) rest).trans
      (congrArg (Piece.char · 4) (char (by omega)))

/-! ## Texts -/

theorem symbols_utf8EncodeChar (c : Char) (rest : List UInt8) :
    symbols (String.utf8EncodeChar c ++ rest) = .char c :: symbols rest := by
  obtain ⟨lead, tail, bytes, hpiece⟩ := exists_piece c
  rw [bytes, List.cons_append, symbols, hpiece]
  simp

theorem decodeFrom_utf8EncodeChar (index : Nat) (c : Char) (rest : List UInt8) :
    decodeFrom index (String.utf8EncodeChar c ++ rest) =
      (decodeFrom (index + (String.utf8EncodeChar c).length) rest).map (c :: ·) := by
  obtain ⟨lead, tail, bytes, hpiece⟩ := exists_piece c
  rw [bytes, List.cons_append, decodeFrom, hpiece]
  simp

/-- The symbols of the bytes of a text are its characters. -/
theorem symbols_encode (s : String) : symbols (encode s) = symbolsOf s := by
  rw [encode_eq, symbolsOf]
  induction s.toList with
  | nil => rw [List.flatMap_nil, symbols, List.map_nil]
  | cons c cs ih => rw [List.flatMap_cons, symbols_utf8EncodeChar, ih, List.map_cons]

/-- Decoding the bytes of a text gives the text. -/
theorem decode_encode (s : String) : decode (encode s) = .ok s := by
  have chars (cs : List Char) (index : Nat) :
      decodeFrom index (cs.flatMap String.utf8EncodeChar) = .ok cs := by
    induction cs generalizing index with
    | nil => rw [List.flatMap_nil, decodeFrom]
    | cons c cs ih => rw [List.flatMap_cons, decodeFrom_utf8EncodeChar, ih]; rfl
  rw [decode, encode_eq, chars]
  exact congrArg Except.ok (String.ofList_toList)

theorem decodeLossyChars_utf8EncodeChar (c : Char) (rest : List UInt8) :
    decodeLossyChars (String.utf8EncodeChar c ++ rest) = c :: decodeLossyChars rest := by
  obtain ⟨lead, tail, bytes, hpiece⟩ := exists_piece c
  rw [bytes, List.cons_append, decodeLossyChars, hpiece]
  simp

/-- A text is shown as it is. -/
theorem decodeLossy_encode (s : String) : decodeLossy (encode s) = s := by
  have chars (cs : List Char) : decodeLossyChars (cs.flatMap String.utf8EncodeChar) = cs := by
    induction cs with
    | nil => rw [List.flatMap_nil, decodeLossyChars]
    | cons c cs ih => rw [List.flatMap_cons, decodeLossyChars_utf8EncodeChar, ih]
  rw [decodeLossy, encode_eq, chars, String.ofList_toList]

/-! ## Bytes of one character -/

/-- A byte below 128 stands for the character with its number, and for nothing else. -/
theorem val_of_mem_utf8EncodeChar {c : Char} {b : UInt8} (h : b ∈ String.utf8EncodeChar c)
    (ascii : b.toNat < 128) : c.val.toNat = b.toNat := by
  have bound := val_lt c
  unfold String.utf8EncodeChar at h
  generalize c.val.toNat = v at *
  dsimp only at h
  have high {n : Nat} (hn : n < 256) (hb : b = UInt8.ofNat n) : n < 128 := by
    rw [hb, UInt8.toNat_ofNat_of_lt' hn] at ascii
    exact ascii
  split at h
  · rw [List.mem_singleton.1 h, UInt8.toNat_ofNat_of_lt' (show v < 256 by omega)]
  -- The bytes of a wider character all have the highest bit.
  exfalso
  split at h
  · simp only [List.mem_cons, List.not_mem_nil, or_false] at h
    rcases h with h | h <;> exact absurd (high (by omega) h) (by omega)
  split at h
  · simp only [List.mem_cons, List.not_mem_nil, or_false] at h
    rcases h with h | h | h <;> exact absurd (high (by omega) h) (by omega)
  · simp only [List.mem_cons, List.not_mem_nil, or_false] at h
    rcases h with h | h | h | h <;> exact absurd (high (by omega) h) (by omega)

/-- The bytes of a text have a byte below 128 only if the text has its character. -/
theorem ofNat_mem_of_mem_encode {s : String} {b : UInt8} (h : b ∈ encode s)
    (ascii : b.toNat < 128) : Char.ofNat b.toNat ∈ s.toList := by
  rw [encode_eq] at h
  obtain ⟨c, hc, hb⟩ := List.mem_flatMap.1 h
  rw [← val_of_mem_utf8EncodeChar hb ascii]
  exact (Char.ofNat_toNat c).symm ▸ hc

end ScenarioSuite.Text.Utf8
