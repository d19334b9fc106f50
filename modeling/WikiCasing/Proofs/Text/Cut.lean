import Mathlib.Data.List.DropRight
import WikiCasing.Text.Basic

/-!
# Cutting what was joined

Texts joined by a sign that is in none of them are found again by cutting at the sign, so they can
be told from what they are joined to (`joinWith_inj`). No text at all and one empty text are joined
to the same. A text cut behind a run of characters has no more of them in front
(`takeWhile_dropWhile`), and one that goes on behind a character of another kind is cut where it
would be without what follows (`takeWhile_append_cons`).
-/

namespace WikiCasing.Text

variable {sign : Char} {t : Text}

theorem cutAt_of_not_mem (h : sign ∉ t) : t.cutAt sign = [t] := by
  unfold cutAt
  induction t with
  | nil => rfl
  | cons c t ih =>
      rw [List.mem_cons, not_or] at h
      obtain ⟨hc, ht⟩ := h
      rw [cutWhere, if_neg (by simpa using Ne.symm hc), ih ht]

theorem cutAt_append_sign (h : sign ∉ t) (rest : Text) :
    (t ++ sign :: rest).cutAt sign = t :: rest.cutAt sign := by
  unfold cutAt
  induction t with
  | nil => rw [List.nil_append, cutWhere, if_pos (by simp)]
  | cons c t ih =>
      rw [List.mem_cons, not_or] at h
      obtain ⟨hc, ht⟩ := h
      rw [List.cons_append, cutWhere, if_neg (by simpa using Ne.symm hc), ih ht]

theorem cutAt_joinWith {ts : List Text} (hne : ts ≠ []) (h : ∀ t ∈ ts, sign ∉ t) :
    (joinWith sign ts).cutAt sign = ts := by
  induction ts with
  | nil => exact absurd rfl hne
  | cons t ts ih =>
      obtain ⟨ht, hts⟩ := List.forall_mem_cons.mp h
      cases ts with
      | nil => exact cutAt_of_not_mem ht
      | cons u us =>
          rw [joinWith, cutAt_append_sign ht, ih (List.cons_ne_nil u us) hts]
          exact List.cons_ne_nil u us

theorem joinWith_inj {ts us : List Text} (ht : ts ≠ []) (hu : us ≠ []) (hts : ∀ t ∈ ts, sign ∉ t)
    (hus : ∀ u ∈ us, sign ∉ u) : joinWith sign ts = joinWith sign us ↔ ts = us := by
  constructor
  · intro h
    rw [← cutAt_joinWith ht hts, h, cutAt_joinWith hu hus]
  · exact congrArg (joinWith sign)

theorem takeWhile_dropWhile (P : Char → Bool) (t : Text) : (t.dropWhile P).takeWhile P = [] := by
  have hcut := List.takeWhile_append_dropWhile (p := P) (l := t.dropWhile P)
  rw [List.dropWhile_idempotent] at hcut
  exact List.append_left_eq_self.mp hcut

theorem takeWhile_append_cons {P : Char → Bool} {c : Char} (hc : P c = false) (s t : Text) :
    (s ++ c :: t).takeWhile P = s.takeWhile P := by
  induction s with
  | nil => rw [List.nil_append, List.takeWhile_cons_of_neg (by simp [hc]), List.takeWhile_nil]
  | cons d s ih => rw [List.cons_append, List.takeWhile_cons, List.takeWhile_cons, ih]

theorem dropWhile_append_cons {P : Char → Bool} {c : Char} (hc : P c = false) (s t : Text) :
    (s ++ c :: t).dropWhile P = s.dropWhile P ++ c :: t := by
  induction s with
  | nil => rw [List.nil_append, List.dropWhile_cons_of_neg (by simp [hc]), List.dropWhile_nil,
      List.nil_append]
  | cons d s ih =>
      rw [List.cons_append, List.dropWhile_cons, List.dropWhile_cons, ih]
      split
      · rfl
      · rfl

end WikiCasing.Text
