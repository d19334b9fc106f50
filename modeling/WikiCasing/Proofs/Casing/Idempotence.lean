import WikiCasing.Casing.Transform
import WikiCasing.Proofs.Text.Cut
import WikiCasing.Proofs.Unicode.CaseClosure

/-!
# Lowering and raising twice

A text that has been lowered holds lowered characters only (`Lowered`), and lowering leaves those
alone. No capital sigma is among them, so the context of a sigma makes no difference the second
time. Raising is a case mapping of each character by itself.

The leading word needs one thing more. Letters, marks and apostrophes are lowered to letters, marks
and apostrophes, so the lowered word ends where the word itself did, and the second lowering takes
up the same stretch.
-/

namespace WikiCasing.Casing

open Unicode

/-! ## Lowered characters -/

/-- A character that lowering leaves alone wherever it stands. -/
def Lowered (c : Char) : Prop := lowerChar c = [c]

instance (c : Char) : Decidable (Lowered c) := inferInstanceAs (Decidable (lowerChar c = [c]))

theorem Lowered.ne_sigma {c : Char} (h : Lowered c) : c ≠ 'Σ' := by
  rintro rfl
  exact absurd h (by decide +kernel)

theorem mem_lowerFrom {afterCased : Bool} {t : Text} {d : Char} (h : d ∈ lowerFrom afterCased t) :
    (∃ c ∈ t, d ∈ lowerChar c) ∨ d = 'ς' ∨ d = 'σ' := by
  induction t generalizing afterCased with
  | nil => exact absurd h List.not_mem_nil
  | cons c t ih =>
      rw [lowerFrom] at h
      rcases List.mem_append.mp h with hhead | htail
      · split at hhead
        · rw [List.mem_singleton.mp hhead, lowerSigma]
          right
          split
          · exact Or.inl rfl
          · exact Or.inr rfl
        · exact Or.inl ⟨c, List.mem_cons_self, hhead⟩
      · rcases ih htail with ⟨e, he, hd⟩ | hsigma
        · exact Or.inl ⟨e, List.mem_cons_of_mem c he, hd⟩
        · exact Or.inr hsigma

theorem lowered_of_mem_lowerFrom {afterCased : Bool} {t : Text} {d : Char}
    (h : d ∈ lowerFrom afterCased t) : Lowered d := by
  rcases mem_lowerFrom h with ⟨c, -, hd⟩ | rfl | rfl
  · exact closed_lower.mapChar_of_mem hd
  · decide +kernel
  · decide +kernel

theorem lowerFrom_of_lowered {t : Text} (h : ∀ c ∈ t, Lowered c) (afterCased : Bool) :
    lowerFrom afterCased t = t := by
  induction t generalizing afterCased with
  | nil => rfl
  | cons c t ih =>
      have hc : Lowered c := h c List.mem_cons_self
      have ht : ∀ d ∈ t, Lowered d := fun d hd => h d (List.mem_cons_of_mem c hd)
      rw [lowerFrom, if_neg hc.ne_sigma, hc, ih ht, List.singleton_append]

theorem lower_lower (t : Text) : lower (lower t) = lower t :=
  lowerFrom_of_lowered (fun _ => lowered_of_mem_lowerFrom) false

example : lower "ΟΔΟΣ ΣΑΣ".toList = "οδος σας".toList := by decide +kernel

theorem upper_upper (t : Text) : upper (upper t) = upper t := closed_upper.flatMap_flatMap t

/-! ## The leading word -/

theorem opensText_iff {c : Char} :
    opensText c = true ↔ isApostrophe c = true ∨ isLetter c = true ∨ isMark c = true := by
  rw [opensText, Bool.or_eq_true, Bool.or_eq_true, or_assoc]

theorem lowered_of_isApostrophe {c : Char} (h : isApostrophe c = true) : Lowered c := by
  simp only [isApostrophe, Bool.or_eq_true, decide_eq_true_eq] at h
  rcases h with rfl | rfl
  · decide +kernel
  · decide +kernel

theorem opensText_of_mem_lowerChar {c d : Char} (hc : opensText c = true)
    (hd : d ∈ lowerChar c) : opensText d = true := by
  rcases opensText_iff.mp hc with happ | hword
  · rw [lowered_of_isApostrophe happ, List.mem_singleton] at hd
    rwa [hd]
  · exact opensText_iff.mpr (Or.inr (keepsLetters_lower.of_mem_mapChar hword hd))

theorem opensText_of_mem_lowerFrom {afterCased : Bool} {t : Text}
    (ht : ∀ c ∈ t, opensText c = true) {d : Char} (hd : d ∈ lowerFrom afterCased t) :
    opensText d = true := by
  rcases mem_lowerFrom hd with ⟨c, hc, hd⟩ | rfl | rfl
  · exact opensText_of_mem_lowerChar (ht c hc) hd
  · decide +kernel
  · decide +kernel

theorem takeWhile_lowerFirstWord (t : Text) :
    (lowerFirstWord t).takeWhile opensText = lower (t.takeWhile opensText) := by
  have hword : ∀ d ∈ lower (t.takeWhile opensText), opensText d = true :=
    fun _ => opensText_of_mem_lowerFrom fun _ => List.mem_takeWhile_imp
  rw [lowerFirstWord, List.takeWhile_append_of_pos hword, Text.takeWhile_dropWhile,
    List.append_nil]

theorem dropWhile_lowerFirstWord (t : Text) :
    (lowerFirstWord t).dropWhile opensText = t.dropWhile opensText := by
  have hcut := List.takeWhile_append_dropWhile (p := opensText) (l := lowerFirstWord t)
  rw [takeWhile_lowerFirstWord] at hcut
  exact List.append_cancel_left hcut

theorem lowerFirstWord_lowerFirstWord (t : Text) :
    lowerFirstWord (lowerFirstWord t) = lowerFirstWord t := by
  conv_lhs => rw [lowerFirstWord]
  rw [takeWhile_lowerFirstWord, dropWhile_lowerFirstWord, lower_lower, lowerFirstWord]

/-- Lowering a text, raising it and lowering its leading word change nothing the second time. -/
theorem lowering_and_raising_idempotent (t : Text) :
    lower (lower t) = lower t ∧ upper (upper t) = upper t ∧
      lowerFirstWord (lowerFirstWord t) = lowerFirstWord t :=
  ⟨lower_lower t, upper_upper t, lowerFirstWord_lowerFirstWord t⟩

end WikiCasing.Casing
