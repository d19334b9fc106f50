import WikiCasing.Proofs.Markup.Accounting
import WikiCasing.Proofs.Markup.Landing

/-!
# Whether recasing changes a text

Whoever recases a text learns from a comparison of the two texts whether there is anything to
write. No replacement goes unnoticed in this way, although replacements next to each other may
lengthen and shorten the text by turns: each of them uses up a backslash for good, so a text that
comes out as it went in has had nothing replaced (`recase_eq_iff_count`), and then it holds no link
of any form. Hence the two branches of a plan say the same thing (`plan_eq`): a text that does not
change has no link for a caret to be in.
-/

namespace WikiCasing

variable {s : Settings} {t : Text}

theorem recase_eq_iff_count : recase s t = t ↔ (recaseCounted s t).count = 0 := by
  constructor
  · intro h
    have hcost := count_backslash_recaseForms s Form.all t
    rw [← recaseCounted] at hcost
    rw [recase] at h
    rw [h] at hcost
    omega
  · intro h
    have hsettled : Settled t := settled_iff_count.mpr h
    exact congrArg Recased.text (hsettled.recase s)

theorem recase_eq_iff_settled : recase s t = t ↔ Settled t := by
  rw [recase_eq_iff_count, settled_iff_count]

theorem not_settled_iff : ¬ Settled t ↔ ∃ f : Form, f.occurrences t ≠ [] := by
  simp [Settled]

theorem Settled.enclosing?_eq_none (h : Settled t) (caret : Int) : enclosing? t caret = none := by
  cases henclosing : enclosing? t caret with
  | none => rfl
  | some o =>
      obtain ⟨ho, -, -⟩ := of_enclosing? henclosing
      rw [h o.form] at ho
      exact absurd ho List.not_mem_nil

theorem plan_eq (s : Settings) (t : Text) (caret : Int) :
    plan s t caret = ⟨recase s t, (enclosing? t caret).map (·.landing s t),
      decide (recase s t ≠ t), enclosing? t caret⟩ := by
  unfold plan
  dsimp only
  split
  · rename_i hsame
    have hnone := (recase_eq_iff_settled.mp hsame).enclosing?_eq_none caret
    simp [hnone, hsame]
  · rename_i hchanged
    simp [hchanged]

/-- A text is unchanged by recasing exactly if nothing is replaced, and exactly if no form occurs
in it. So a plan reports a change exactly where some form occurs, it names the occurrence that the
caret is in whether or not the text changes, and it leaves the caret to the editor exactly if there
is none. -/
theorem recase_eq_self_iff (s : Settings) (t : Text) :
    (recase s t = t ↔ (recaseCounted s t).count = 0) ∧
      ((recaseCounted s t).count = 0 ↔ ∀ f : Form, f.occurrences t = []) ∧
      ∀ caret : Int, ((plan s t caret).changed = true ↔ ∃ f : Form, f.occurrences t ≠ []) ∧
        (plan s t caret).occurrence = enclosing? t caret ∧
        ((plan s t caret).caret = none ↔ enclosing? t caret = none) := by
  refine ⟨recase_eq_iff_count, settled_iff_count.symm, fun caret => ?_⟩
  rw [plan_eq]
  refine ⟨?_, rfl, Option.map_eq_none_iff⟩
  rw [decide_eq_true_iff, Ne, recase_eq_iff_settled]
  exact not_settled_iff

end WikiCasing
