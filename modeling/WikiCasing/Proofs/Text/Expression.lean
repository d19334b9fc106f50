import Mathlib.Data.List.Infix
import WikiCasing.Text.Expression

/-!
# What an expression leaves

Whichever way a part takes through a text, what comes next is tried on an end of it
(`Part.exists_of_pass`), so that what an expression leaves is an end of the text that it was matched
against (`suffix_of_rest?`). As long as what comes next succeeds, the first way is the one taken
(`passMost_of_next`, `passFewest_of_next`).
-/

namespace WikiCasing

variable {α : Type} {kind : Char → Bool} {next : Text → Option α} {c : Char} {t : Text} {a : α}

/-! ## One part -/

theorem passOne_eq_some_iff : passOne c next t = some a ↔ ∃ u, t = c :: u ∧ next u = some a := by
  cases t with
  | nil => simp [passOne]
  | cons d u =>
      rw [passOne]
      by_cases hd : d = c
      · simp [hd]
      · simp [hd]

theorem passOne_eq_none (h : t.head? ≠ some c) : passOne c next t = none := by
  rw [Option.eq_none_iff_forall_ne_some]
  intro a ha
  obtain ⟨u, rfl, -⟩ := passOne_eq_some_iff.mp ha
  exact h rfl

theorem passMost_cons_of_pos (h : kind c = true) :
    passMost kind next (c :: t) = (passMost kind next t <|> next (c :: t)) := by
  rw [passMost, if_pos h]

theorem passMost_cons_of_neg (h : ¬ kind c = true) :
    passMost kind next (c :: t) = next (c :: t) := by
  rw [passMost, if_neg h]
  rfl

/-- Nothing is given back as long as what comes next succeeds. -/
theorem passMost_of_next (h : next (t.dropWhile kind) = some a) :
    passMost kind next t = some a := by
  induction t with
  | nil => exact h
  | cons c t ih =>
      by_cases hc : kind c = true
      · rw [List.dropWhile_cons_of_pos hc] at h
        rw [passMost_cons_of_pos hc, ih h]
        rfl
      · rw [List.dropWhile_cons_of_neg hc] at h
        rw [passMost_cons_of_neg hc, h]

theorem passFewest_of_next (h : next t = some a) : passFewest next t = some a := by
  cases t with
  | nil => exact h
  | cons c t =>
      rw [passFewest, h]
      rfl

theorem exists_of_passMost (h : passMost kind next t = some a) :
    ∃ u, u <:+ t ∧ next u = some a := by
  induction t with
  | nil => exact ⟨[], List.suffix_refl [], h⟩
  | cons c t ih =>
      rw [passMost, Option.orElse_eq_orElse, Option.orElse_eq_or, Option.or_eq_some_iff] at h
      rcases h with h | ⟨-, h⟩
      · split at h
        · obtain ⟨u, hu, ha⟩ := ih h
          exact ⟨u, hu.trans (List.suffix_cons c t), ha⟩
        · exact absurd h (by simp)
      · exact ⟨c :: t, List.suffix_refl _, h⟩

theorem exists_of_passFewest (h : passFewest next t = some a) :
    ∃ u, u <:+ t ∧ next u = some a := by
  induction t with
  | nil => exact ⟨[], List.suffix_refl [], h⟩
  | cons c t ih =>
      rw [passFewest, Option.orElse_eq_orElse, Option.orElse_eq_or, Option.or_eq_some_iff] at h
      rcases h with h | ⟨-, h⟩
      · exact ⟨c :: t, List.suffix_refl _, h⟩
      · obtain ⟨u, hu, ha⟩ := ih h
        exact ⟨u, hu.trans (List.suffix_cons c t), ha⟩

theorem Part.exists_of_pass {p : Part} (h : p.pass next t = some a) :
    ∃ u, u <:+ t ∧ next u = some a := by
  have hone {c : Char} (h : passOne c next t = some a) : ∃ u, u <:+ t ∧ next u = some a := by
    obtain ⟨u, rfl, ha⟩ := passOne_eq_some_iff.mp h
    exact ⟨u, List.suffix_cons c u, ha⟩
  cases p with
  | one c => exact hone h
  | optional c =>
      rw [pass, Option.orElse_eq_orElse, Option.orElse_eq_or, Option.or_eq_some_iff] at h
      rcases h with h | ⟨-, h⟩
      · exact hone h
      · exact ⟨t, List.suffix_refl t, h⟩
  | most kind => exact exists_of_passMost h
  | fewest => exact exists_of_passFewest h

/-! ## Part after part -/

namespace Expression

variable {e e' : Expression} {w : Text}

theorem pass_append (e e' : Expression) (next : Text → Option α) :
    pass (e ++ e') next = pass e (pass e' next) := by
  induction e with
  | nil => rfl
  | cons p e ih =>
      funext t
      show p.pass (pass (e ++ e') next) t = p.pass (pass e (pass e' next)) t
      rw [ih]

theorem pass_literal_append (w t : Text) (next : Text → Option α) :
    pass (literal w) next (w ++ t) = next t := by
  induction w with
  | nil => rfl
  | cons c w ih =>
      show passOne c (pass (literal w) next) (c :: (w ++ t)) = next t
      rw [passOne, if_pos rfl, ih]

theorem pass_literal_eq_none (h : ¬ w <+: t) : pass (literal w) next t = none := by
  induction w generalizing t with
  | nil => exact absurd List.nil_prefix h
  | cons c w ih =>
      rw [Option.eq_none_iff_forall_ne_some]
      intro a ha
      obtain ⟨u, rfl, hu⟩ := passOne_eq_some_iff.mp ha
      have hw : ¬ w <+: u := fun hprefix => h (List.cons_prefix_cons.mpr ⟨rfl, hprefix⟩)
      exact absurd ((ih hw).symm.trans hu) (by simp)

theorem exists_of_pass (h : pass e next t = some a) : ∃ u, u <:+ t ∧ next u = some a := by
  induction e generalizing t with
  | nil => exact ⟨t, List.suffix_refl t, h⟩
  | cons p e ih =>
      obtain ⟨u, hu, hrest⟩ := Part.exists_of_pass h
      obtain ⟨v, hv, ha⟩ := ih hrest
      exact ⟨v, hv.trans hu, ha⟩

/-- What an expression leaves of a text is an end of it. -/
theorem suffix_of_rest? {rest : Text} (h : e.rest? t = some rest) : rest <:+ t := by
  obtain ⟨u, hu, hrest⟩ := exists_of_pass h
  rwa [← Option.some.inj hrest]

end Expression

end WikiCasing
