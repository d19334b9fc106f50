import WikiCasing.Proofs.Markup.Overlap

/-!
# The occurrence around a caret

The search for the occurrence that a caret is in gives up on a form as soon as one of its
occurrences starts behind the caret. It is exact all the same (`enclosing?_exact`): it finds the
first of all occurrences of all forms, in the order of the forms, that the caret is in. Both ends of
a span count for that, so an occurrence that merely ends at the caret may be found. It is not found
where the caret stands strictly inside another one, unless the two have a character in common, and
then it contains the other one (`within_of_enclosing?`).
-/

namespace WikiCasing

variable {t : Text} {caret : Int}

theorem enclosing?_eq_find? (t : Text) (caret : Int) :
    enclosing? t caret =
      (Form.all.flatMap fun f => f.occurrences t).find? fun o => o.contains caret := by
  simp only [enclosing?, Form.firstAround?_occurrences, List.find?_flatMap]

/-- The occurrence found contains every occurrence that the caret is strictly inside of. -/
theorem within_of_enclosing? {f : Form} {o p : Occurrence} (ho : o ∈ f.occurrences t)
    (hstart : o.start < caret) (hstop : caret < o.stop) (hp : enclosing? t caret = some p) :
    o.within p = true := by
  obtain ⟨hmem, hin, hearlier⟩ := of_enclosing? hp
  obtain ⟨hform, -, -, -, -⟩ := Form.mem_occurrences ho
  obtain ⟨-, -, -, hlt, -⟩ := Form.mem_occurrences hmem
  rw [Occurrence.contains_iff] at hin
  -- one of the two characters at the caret belongs to both
  obtain ⟨i, hi, hi'⟩ : ∃ i, o.covers i = true ∧ p.covers i = true := by
    simp only [Occurrence.covers_iff]
    rcases Int.lt_or_le p.start caret with hbefore | hbehind
    · exact ⟨(caret - 1).toNat, by omega, by omega⟩
    · exact ⟨caret.toNat, by omega, by omega⟩
  rcases f.earlier_or_eq_or_earlier p.form with hf | rfl | hf
  · have hout := hearlier f hf o ho
    have hin : o.contains caret = true := Occurrence.contains_iff.mpr (by omega)
    rw [hin] at hout
    exact Bool.noConfusion hout
  · rw [eq_of_covers ho hmem hi hi', Occurrence.within_iff]
    exact ⟨Nat.le_refl _, Nat.le_refl _⟩
  · exact within_of_covers hf hmem ho hi' hi

/-- The occurrence found for a caret is the first one that it is in, form by form and from left to
right; there is none if it is in none. If the caret stands strictly inside an occurrence of any
form, there is one, and its span contains the span of that occurrence. -/
theorem enclosing?_exact (t : Text) (caret : Int) :
    enclosing? t caret =
        (Form.all.flatMap fun f => f.occurrences t).find? (fun o => o.contains caret) ∧
      ∀ f : Form, ∀ o ∈ f.occurrences t, o.start < caret → caret < o.stop →
        ∃ p, enclosing? t caret = some p ∧ o.within p = true := by
  refine ⟨enclosing?_eq_find? t caret, fun f o ho hstart hstop => ?_⟩
  have hin : o.contains caret = true := Occurrence.contains_iff.mpr (by omega)
  obtain ⟨p, hp⟩ := exists_enclosing? ho hin
  exact ⟨p, hp, within_of_enclosing? ho hstart hstop hp⟩

/-- A caret between two links is in that of the earlier form, though it stands to the right. -/
example :
    let t := "[[Ab\\u]][[Cd]]\\l".toList
    (enclosing? t 8).map (·.form) = some .postfixLink ∧
      (enclosing? t 7).map (·.form) = some .inlineLink := by
  decide +kernel

end WikiCasing
