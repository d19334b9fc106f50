import WikiCasing.Proofs.Casing.Idempotence
import WikiCasing.Proofs.Unicode.CaseReturn

/-!
# Upper case of lower case

Lowering a text before it is raised loses nothing exactly when the text holds none of the six
capitals that do not come back (`upper_lower_iff`). Raised, a text never holds one of the six that
it did not hold before, so each of them shows what has been lost.

Which form a capital sigma is lowered to depends on what stands around it, and raising does not tell
the forms apart. `LowersTo` is lower case without that choice: a text is related to what it is
lowered to when each capital sigma takes any of its forms. What is said of lower case through this
relation needs no context.
-/

namespace WikiCasing.Casing

open Unicode

/-! ## Lower case with any form of sigma -/

/-- What a character may be lowered to, a capital sigma to its final form too. -/
def LowerForm (c : Char) (image : Text) : Prop := image = lowerChar c ∨ c = 'Σ' ∧ image = ['ς']

/-- A text and what it may be lowered to, character by character. -/
inductive LowersTo : Text → Text → Prop
  | nil : LowersTo [] []
  | cons {c : Char} {image t u : Text} :
      LowerForm c image → LowersTo t u → LowersTo (c :: t) (image ++ u)

theorem lowerForm_sigma (afterCased : Bool) (rest : Text) :
    LowerForm 'Σ' [lowerSigma afterCased rest] := by
  unfold lowerSigma
  split
  · exact Or.inr ⟨rfl, rfl⟩
  · exact Or.inl (by decide +kernel)

theorem lowersTo_lowerFrom (afterCased : Bool) (t : Text) :
    LowersTo t (lowerFrom afterCased t) := by
  induction t generalizing afterCased with
  | nil => exact .nil
  | cons c t ih =>
      rw [lowerFrom]
      split
      · rename_i hsigma
        subst hsigma
        exact .cons (lowerForm_sigma afterCased t) (ih _)
      · exact .cons (Or.inl rfl) (ih _)

theorem lowersTo_lower (t : Text) : LowersTo t (lower t) := lowersTo_lowerFrom false t

theorem LowersTo.exists_append {s t u : Text} (h : LowersTo (s ++ t) u) :
    ∃ v w, u = v ++ w ∧ LowersTo s v ∧ LowersTo t w := by
  induction s generalizing u with
  | nil => exact ⟨[], u, rfl, .nil, h⟩
  | cons c s ih =>
      cases h with
      | @cons _ image _ rest hc hrest =>
          obtain ⟨v, w, rfl, hv, hw⟩ := ih hrest
          exact ⟨image ++ v, w, (List.append_assoc image v w).symm, .cons hc hv, hw⟩

/-! ## Raising what has been lowered -/

theorem upper_cons (c : Char) (t : Text) : upper (c :: t) = upperChar c ++ upper t := rfl

theorem upper_append (s t : Text) : upper (s ++ t) = upper s ++ upper t :=
  List.flatMap_append

theorem mem_upper_iff {t : Text} {d : Char} : d ∈ upper t ↔ ∃ c ∈ t, d ∈ upperChar c :=
  List.mem_flatMap

theorem mem_upper_of_mem_oneWayCapitals {t : Text} {c : Char} (hc : c ∈ oneWayCapitals)
    (hct : c ∈ t) : c ∈ upper t := by
  refine mem_upper_iff.mpr ⟨c, hct, ?_⟩
  rw [(upperChar_lowerChar_of_mem hc).1]
  exact List.mem_singleton_self c

/-- Raising does not tell the forms of a sigma apart. -/
theorem LowerForm.upper_eq {c : Char} {image : Text} (h : LowerForm c image) :
    upper image = upper (lowerChar c) := by
  rcases h with rfl | ⟨rfl, rfl⟩
  · rfl
  · decide +kernel

theorem LowerForm.upper_eq_upperChar {c : Char} {image : Text} (h : LowerForm c image)
    (hc : c ∉ oneWayCapitals) : upper image = upperChar c :=
  h.upper_eq.trans (flatMap_upperChar_lowerChar hc)

theorem LowersTo.upper_eq {t u v : Text} (hu : LowersTo t u) (hv : LowersTo t v) :
    upper u = upper v := by
  induction hu generalizing v with
  | nil =>
      cases hv
      rfl
  | cons hc _ ih =>
      cases hv with
      | cons hc' hv => rw [upper_append, upper_append, hc.upper_eq, hc'.upper_eq, ih hv]

/-- A text without the six capitals is raised as what it is lowered to. -/
theorem LowersTo.upper_eq_upper {t u : Text} (h : LowersTo t u)
    (ht : ∀ c ∈ t, c ∉ oneWayCapitals) : upper u = upper t := by
  induction h with
  | nil => rfl
  | cons hc _ ih =>
      obtain ⟨hhead, htail⟩ := List.forall_mem_cons.mp ht
      rw [upper_append, upper_cons, hc.upper_eq_upperChar hhead, ih htail]

theorem Lowered.not_mem_oneWayCapitals {c : Char} (h : Lowered c) : c ∉ oneWayCapitals := by
  intro hc
  exact (upperChar_lowerChar_of_mem hc).2 h

theorem not_mem_upper_lower {t : Text} {d : Char} (hd : d ∈ upper (lower t)) :
    d ∉ oneWayCapitals := by
  obtain ⟨c, hc, hdc⟩ := mem_upper_iff.mp hd
  have hlowered : Lowered c := lowered_of_mem_lowerFrom hc
  exact not_mem_of_mem_upperChar hlowered.not_mem_oneWayCapitals hdc

/-- Lowering loses nothing for raising exactly when the text holds none of the six capitals, and
whichever form each sigma is lowered to, the raised text is the same. -/
theorem upper_lower_iff (t : Text) :
    (upper (lower t) = upper t ↔ ∀ c ∈ oneWayCapitals, c ∉ t) ∧
      ∀ u, LowersTo t u → upper u = upper (lower t) := by
  constructor
  · constructor
    · intro h c hc hct
      have hraised : c ∈ upper t := mem_upper_of_mem_oneWayCapitals hc hct
      rw [← h] at hraised
      exact not_mem_upper_lower hraised hc
    · intro h
      exact (lowersTo_lower t).upper_eq_upper fun c hct hc => h c hc hct
  · intro u hu
    exact hu.upper_eq (lowersTo_lower t)

/-- A sigma at the end of a word is lowered to its final form, but raised as the other form is. -/
theorem upper_lower_iff_sigma :
    LowersTo "ΑΣ".toList "ασ".toList ∧ upper "ασ".toList = upper (lower "ΑΣ".toList) ∧
      lower "ΑΣ".toList = "ας".toList ∧ upper (lower "ΑΣ".toList) = upper "ΑΣ".toList := by
  have hlowers : LowersTo ['Α', 'Σ'] (['α'] ++ (['σ'] ++ [])) :=
    .cons (Or.inl (by decide +kernel)) (.cons (Or.inl (by decide +kernel)) .nil)
  have hnone : (oneWayCapitals.all fun c => c ∉ "ΑΣ".toList) = true := by decide +kernel
  refine ⟨hlowers, (upper_lower_iff _).2 _ hlowers, by decide +kernel,
    (upper_lower_iff _).1.mpr ?_⟩
  intro c hc
  exact of_decide_eq_true (List.all_eq_true.mp hnone c hc)

end WikiCasing.Casing
