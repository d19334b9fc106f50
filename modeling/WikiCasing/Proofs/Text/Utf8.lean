import WikiCasing.Text.Utf8

/-!
# Decoding is the inverse of encoding

The first byte of a character says how many bytes it has and the others carry six bits each, so a
character can be read off its bytes whatever follows them (`leading_encodeChar_append`). Hence a
text is read back from its bytes (`decode_encode`), and since decoding accepts only what encoding
writes, bytes that are a text at all are the bytes of that text (`decode_eq_some_iff`): a file
whose text does not change keeps its bytes.
-/

namespace WikiCasing.Utf8

/-! ## The first character -/

section

variable {a b c d : UInt8} (rest : Bytes)

theorem leading_one (h : a.toNat < 0x80) : leading (a :: rest) = a.toNat := by
  match rest with
  | [] | [_] | [_, _] | _ :: _ :: _ :: _ => simp [leading, h]

theorem leading_two (h : 0x80 ≤ a.toNat) (h' : a.toNat < 0xE0) :
    leading (a :: b :: rest) = (a.toNat - 0xC0) * 0x40 + tail b := by
  match rest with
  | [] | [_] | _ :: _ :: _ => simp [leading, h', Nat.not_lt.mpr h]

theorem leading_three (h : 0xE0 ≤ a.toNat) (h' : a.toNat < 0xF0) :
    leading (a :: b :: c :: rest) = (a.toNat - 0xE0) * 0x1000 + tail b * 0x40 + tail c := by
  have h'' : ¬ a.toNat < 0x80 := by omega
  match rest with
  | [] | _ :: _ => simp [leading, h', h'', Nat.not_lt.mpr h]

theorem leading_four (h : 0xF0 ≤ a.toNat) :
    leading (a :: b :: c :: d :: rest) =
      (a.toNat - 0xF0) * 0x40000 + tail b * 0x1000 + tail c * 0x40 + tail d := by
  have h' : ¬ a.toNat < 0x80 := by omega
  have h'' : ¬ a.toNat < 0xE0 := by omega
  simp [leading, h', h'', Nat.not_lt.mpr h]

end

theorem toNat_ofNat {n : Nat} (h : n < 0x100) : (UInt8.ofNat n).toNat = n := by
  rw [UInt8.toNat_ofNat']
  exact Nat.mod_eq_of_lt h

theorem tail_ofNat (n : Nat) : tail (UInt8.ofNat (0x80 + n % 0x40)) = n % 0x40 := by
  have h : 0x80 + n % 0x40 < 0x100 := by omega
  unfold tail
  rw [toNat_ofNat h, Nat.add_sub_cancel_left]

theorem toNat_lt (c : Char) : c.toNat < 0x110000 := by
  rcases c.valid with h | h <;> rw [Char.toNat_val] at h <;> omega

/-- The bytes of a character begin with a byte that says how many they are, so the character can be
read off them whatever follows. -/
theorem leading_encodeChar_append (c : Char) (rest : Bytes) :
    leading (encodeChar c ++ rest) = c.toNat := by
  have hlt : c.toNat < 0x110000 := toNat_lt c
  simp only [encodeChar]
  split
  · have hlead : (UInt8.ofNat c.toNat).toNat = c.toNat := toNat_ofNat (by omega)
    rw [List.cons_append, leading_one _ (by omega), hlead]
  split
  · have hlead : (UInt8.ofNat (0xC0 + c.toNat / 0x40)).toNat = 0xC0 + c.toNat / 0x40 :=
      toNat_ofNat (by omega)
    rw [List.cons_append, List.cons_append, leading_two _ (by omega) (by omega), tail_ofNat, hlead]
    omega
  split
  · have hlead : (UInt8.ofNat (0xE0 + c.toNat / 0x1000)).toNat = 0xE0 + c.toNat / 0x1000 :=
      toNat_ofNat (by omega)
    simp only [List.cons_append]
    rw [leading_three _ (by omega) (by omega), tail_ofNat, tail_ofNat, hlead]
    omega
  · have hlead : (UInt8.ofNat (0xF0 + c.toNat / 0x40000)).toNat = 0xF0 + c.toNat / 0x40000 :=
      toNat_ofNat (by omega)
    simp only [List.cons_append]
    rw [leading_four _ (by omega), tail_ofNat, tail_ofNat, tail_ofNat, hlead]
    omega

theorem readChar?_encodeChar_append (c : Char) (rest : Bytes) :
    readChar? (encodeChar c ++ rest) = some c := by
  have hprefix : (encodeChar c).isPrefixOf (encodeChar c ++ rest) = true :=
    List.isPrefixOf_iff_prefix.mpr (List.prefix_append _ _)
  simp only [readChar?]
  rw [leading_encodeChar_append, Char.ofNat_toNat, if_pos hprefix]

theorem encodeChar_ne_nil (c : Char) : encodeChar c ≠ [] := by
  simp only [encodeChar]
  split
  · simp
  split
  · simp
  split <;> simp

/-! ## A whole text -/

theorem decodeAfter_eq (n : Nat) (bytes : Bytes) :
    decodeAfter n bytes = decode (bytes.drop n) := by
  induction bytes generalizing n with
  | nil => cases n <;> rfl
  | cons b bytes ih =>
      cases n with
      | zero => rfl
      | succ n => exact ih n

theorem decode_cons (b : UInt8) (bytes : Bytes) :
    decode (b :: bytes) =
      match readChar? (b :: bytes) with
      | some c => (decode ((b :: bytes).drop (encodeChar c).length)).map (c :: ·)
      | none => none := by
  rw [decode, decodeAfter]
  cases readChar? (b :: bytes) with
  | none => rfl
  | some c =>
      obtain ⟨n, hn⟩ := Nat.exists_eq_succ_of_ne_zero
        (mt List.eq_nil_of_length_eq_zero (encodeChar_ne_nil c))
      simp only [hn, decodeAfter_eq]
      rfl

theorem decode_encodeChar_append (c : Char) (rest : Bytes) :
    decode (encodeChar c ++ rest) = (decode rest).map (c :: ·) := by
  obtain ⟨b, bytes, hb⟩ := List.exists_cons_of_ne_nil (encodeChar_ne_nil c)
  have hread := readChar?_encodeChar_append c rest
  rw [hb, List.cons_append] at hread ⊢
  rw [decode_cons, hread]
  dsimp only
  rw [hb, ← List.cons_append, List.drop_left]

theorem decode_encode (t : Text) : decode (encode t) = some t := by
  induction t with
  | nil => rfl
  | cons c t ih =>
      rw [encode, List.flatMap_cons, decode_encodeChar_append, ← encode, ih]
      rfl

theorem encode_injective {t t' : Text} (h : encode t = encode t') : t = t' := by
  have hdecode := decode_encode t
  rw [h, decode_encode] at hdecode
  exact (Option.some.inj hdecode).symm

theorem eq_encode_of_decode {bytes : Bytes} {t : Text} (h : decode bytes = some t) :
    bytes = encode t := by
  induction t generalizing bytes with
  | nil =>
      cases bytes with
      | nil => rfl
      | cons b bytes =>
          rw [decode_cons] at h
          split at h
          · simp at h
          · exact absurd h (by simp)
  | cons c t ih =>
      cases bytes with
      | nil => exact absurd h (by simp [decode, decodeAfter])
      | cons b bytes =>
          rw [decode_cons] at h
          split at h
          · rename_i c' hread
            obtain ⟨t', ht', heq⟩ := Option.map_eq_some_iff.mp h
            obtain ⟨rfl, rfl⟩ := List.cons.inj heq
            -- a character is read only if its own bytes stand there
            obtain ⟨rest, hrest⟩ : encodeChar c' <+: b :: bytes := by
              simp only [readChar?] at hread
              split at hread
              · rename_i hprefix
                rw [← Option.some.inj hread]
                exact List.isPrefixOf_iff_prefix.mp hprefix
              · exact absurd hread (by simp)
            rw [← hrest, List.drop_left] at ht'
            rw [← hrest, ih ht']
            rfl
          · exact absurd h (by simp)

theorem decode_eq_some_iff {bytes : Bytes} {t : Text} :
    decode bytes = some t ↔ bytes = encode t := by
  constructor
  · exact eq_encode_of_decode
  · rintro rfl
    exact decode_encode t

theorem encode_inj {t u : Text} : encode t = encode u ↔ t = u := by
  constructor
  · intro h
    have hdecode := decode_encode u
    rw [← h, decode_encode] at hdecode
    exact Option.some.inj hdecode
  · exact congrArg encode

theorem encode_append (t u : Text) : encode (t ++ u) = encode t ++ encode u := List.flatMap_append

end WikiCasing.Utf8
