import WikiCasing.Json.Syntax

/-!
# Reading what is written

Every text between quotes reads as the text it was written from, whatever follows it
(`readText?_writeText`). A character stands for itself or for one escape, and a character beyond the
first 65536 for two, the halves of a surrogate pair; what is read of a written character is that
character (`readText?_writeChar`), since no single unit of a character is half a pair.
-/

namespace WikiCasing.Json

theorem after?_append (word rest : Text) : after? word (word ++ rest) = some rest := by
  have hbefore : word.isPrefixOf (word ++ rest) = true :=
    List.isPrefixOf_iff_prefix.mpr (List.prefix_append word rest)
  rw [after?, if_pos hbefore, List.drop_left]

/-! ## Hexadecimal digits -/

theorem hexValue?_hexDigit : ∀ d < 16, hexValue? (Text.hexDigit d) = some d := by decide

theorem hexFour?_hex {n : Nat} (h : n < 0x10000) (rest : Text) :
    hexFour? (Text.hex 4 n ++ rest) = some n := by
  have hdigit (m : Nat) : hexValue? (Text.hexDigit (m % 16)) = some (m % 16) :=
    hexValue?_hexDigit _ (Nat.mod_lt _ (by omega))
  simp only [Text.hex, List.nil_append, List.cons_append, hexFour?, hdigit, Option.bind_eq_bind,
    Option.bind_some, Option.pure_def, Option.some.injEq]
  omega

theorem length_hex (width n : Nat) : (Text.hex width n).length = width := by
  induction width generalizing n with
  | zero => rfl
  | succ width ih => rw [Text.hex, List.length_append, ih, List.length_singleton]

theorem drop_hex (n : Nat) (rest : Text) : (Text.hex 4 n ++ rest).drop 4 = rest :=
  List.drop_left' (length_hex 4 n)

/-! ## Surrogate pairs -/

theorem charOf_toNat (c : Char) : charOf c.toNat = c := by
  have hvalid : c.toNat.isValidChar := c.valid
  rw [charOf, if_pos hvalid, Char.ofNat_toNat]

theorem isHighSurrogate_toNat (c : Char) : isHighSurrogate c.toNat = false := by
  have hvalid : c.toNat.isValidChar := c.valid
  unfold Nat.isValidChar at hvalid
  simp only [isHighSurrogate, Bool.and_eq_false_iff, decide_eq_false_iff_not]
  omega

/-! ## One character -/

theorem readTextAfter_eq (n : Nat) (t : Text) : readTextAfter n t = readText? (t.drop n) := by
  induction t generalizing n with
  | nil => cases n <;> rfl
  | cons c t ih =>
      cases n with
      | zero => rfl
      | succ n => exact ih n

theorem readText?_plain {c : Char} (hquote : c ≠ '"') (hbackslash : c ≠ '\\')
    (hprintable : 0x20 ≤ c.toNat) (rest : Text) :
    readText? (c :: rest) = (readText? rest).map fun (t, r) => (c :: t, r) := by
  rw [readText?, readTextAfter, if_neg hquote, if_neg hbackslash, if_neg (by omega)]
  rfl

theorem readText?_escape {cs : Text} {e : Char} {width : Nat}
    (h : readEscape? cs = some (e, width)) :
    readText? ('\\' :: cs) = (readText? (cs.drop width)).map fun (t, r) => (e :: t, r) := by
  rw [readText?, readTextAfter, if_neg (by decide), if_pos rfl, h]
  dsimp only
  rw [readTextAfter_eq]

theorem readText?_letter {c e : Char} (hu : c ≠ 'u') (h : escapedChar? c = some e) (rest : Text) :
    readText? ('\\' :: c :: rest) = (readText? rest).map fun (t, r) => (e :: t, r) := by
  have hread : readEscape? (c :: rest) = some (e, 1) := by
    unfold readEscape?
    split
    · rename_i heq
      exact absurd (List.cons.inj heq).1 hu
    · rename_i heq
      obtain ⟨rfl, -⟩ := List.cons.inj heq
      rw [h]
      rfl
    · rename_i heq
      exact absurd heq (by simp)
  rw [readText?_escape hread, List.drop_succ_cons, List.drop_zero]

theorem readText?_unit {c : Char} (h : c.toNat < 0x10000) (rest : Text) :
    readText? ('\\' :: 'u' :: (Text.hex 4 c.toNat ++ rest)) =
      (readText? rest).map fun (t, r) => (c :: t, r) := by
  have hread : readEscape? ('u' :: (Text.hex 4 c.toNat ++ rest)) = some (c, 5) := by
    simp only [readEscape?, hexFour?_hex h, isHighSurrogate_toNat, charOf_toNat,
      Option.bind_eq_bind, Option.bind_some, Option.pure_def, Bool.false_eq_true, if_false]
  rw [readText?_escape hread, List.drop_succ_cons, drop_hex]

theorem readText?_pair {c : Char} {high low : Nat} (hhigh : isHighSurrogate high = true)
    (hlow : isLowSurrogate low = true) (hjoin : joinSurrogates high low = c.toNat) (rest : Text) :
    readText? ('\\' :: 'u' :: (Text.hex 4 high ++ '\\' :: 'u' :: (Text.hex 4 low ++ rest))) =
      (readText? rest).map fun (t, r) => (c :: t, r) := by
  have hhigh' : high < 0x10000 := by
    rw [isHighSurrogate, Bool.and_eq_true, decide_eq_true_iff, decide_eq_true_iff] at hhigh
    omega
  have hlow' : low < 0x10000 := by
    rw [isLowSurrogate, Bool.and_eq_true, decide_eq_true_iff, decide_eq_true_iff] at hlow
    omega
  have hread : readEscape?
      ('u' :: (Text.hex 4 high ++ '\\' :: 'u' :: (Text.hex 4 low ++ rest))) = some (c, 11) := by
    simp only [readEscape?, hexFour?_hex hhigh', drop_hex, hhigh, hexFour?_hex hlow', hlow, hjoin,
      charOf_toNat, Option.bind_eq_bind, Option.bind_some, Option.pure_def, if_true]
  -- what is passed over is a letter, four digits, a backslash and a letter, and four digits
  rw [readText?_escape hread, List.drop_succ_cons, show 10 = 4 + 6 from rfl, ← List.drop_drop,
    drop_hex, List.drop_succ_cons, List.drop_succ_cons, drop_hex]

theorem readText?_units (c : Char) (rest : Text) :
    readText? (((units c).flatMap fun n => '\\' :: 'u' :: Text.hex 4 n) ++ rest) =
      (readText? rest).map fun (t, r) => (c :: t, r) := by
  unfold units
  split
  · rename_i hone
    simpa using readText?_unit hone rest
  · have hvalid : c.toNat.isValidChar := c.valid
    unfold Nat.isValidChar at hvalid
    have hhigh : isHighSurrogate (0xD800 + (c.toNat - 0x10000) / 0x400) = true := by
      rw [isHighSurrogate, Bool.and_eq_true, decide_eq_true_iff, decide_eq_true_iff]
      omega
    have hlow : isLowSurrogate (0xDC00 + (c.toNat - 0x10000) % 0x400) = true := by
      rw [isLowSurrogate, Bool.and_eq_true, decide_eq_true_iff, decide_eq_true_iff]
      omega
    simpa using readText?_pair hhigh hlow (by unfold joinSurrogates; omega) rest

theorem readText?_writeChar (c : Char) (rest : Text) :
    readText? (writeChar c ++ rest) = (readText? rest).map fun (t, r) => (c :: t, r) := by
  unfold writeChar
  split
  · rename_i hmark
    rw [Bool.or_eq_true, decide_eq_true_iff, decide_eq_true_iff] at hmark
    rcases hmark with rfl | rfl <;> exact readText?_letter (by decide) (by decide) rest
  · rename_i hmark
    rw [Bool.or_eq_true, decide_eq_true_iff, decide_eq_true_iff, not_or] at hmark
    -- five characters are escaped by a letter
    iterate 5
      split
      · subst c
        exact readText?_letter (by decide) (by decide) rest
    split
    · rename_i hprintable
      exact readText?_plain hmark.1 hmark.2 hprintable.1 rest
    · exact readText?_units c rest

/-- What is written between quotes reads as the text it was written from. -/
theorem readText?_writeText (t rest : Text) :
    readText? (t.flatMap writeChar ++ '"' :: rest) = some (t, rest) := by
  induction t with
  | nil => rfl
  | cons c t ih => rw [List.flatMap_cons, List.append_assoc, readText?_writeChar, ih]; rfl

end WikiCasing.Json
