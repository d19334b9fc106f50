import Mathlib.Data.List.Basic
import WikiCasing.Text.Basic

/-!
# What reading line ends keeps of a text

Reading the line ends of a text as line feeds leaves no carriage return in it
(`return_not_mem_universalNewlines`), and changes nothing where there is none
(`universalNewlines_of_not_mem`). Whatever stands between the line ends stays: a text can be cut at
a word behind which and before which something is read exactly where what is read can
(`universalNewlines_append_word`, `exists_word_of_universalNewlines`). Only a carriage return and
the line feed behind it cannot be read one by one, so `universal_induction` takes them together.
-/

namespace WikiCasing.Text

variable {c : Char} {s t u p q : Text}

@[simp] theorem universalNewlines_nil : universalNewlines [] = [] := rfl

@[simp] theorem universalNewlines_return_feed (t : Text) :
    universalNewlines ('\r' :: '\n' :: t) = '\n' :: universalNewlines t := by
  rw [universalNewlines]

theorem universalNewlines_cons (h : c ≠ '\r') :
    universalNewlines (c :: t) = c :: universalNewlines t := by
  rw [universalNewlines]
  · rintro rest rfl
    exact absurd rfl h
  · exact h

theorem universalNewlines_return_before (h : t.head? = some '\n') :
    universalNewlines ('\r' :: t) = universalNewlines t := by
  obtain ⟨r, rfl⟩ := List.head?_eq_some_iff.mp h
  rw [universalNewlines_return_feed, universalNewlines_cons (by decide)]

theorem universalNewlines_return (h : t.head? ≠ some '\n') :
    universalNewlines ('\r' :: t) = '\n' :: universalNewlines t := by
  cases t with
  | nil => rfl
  | cons c t =>
      have hc : c ≠ '\n' := fun hc => h (by rw [hc]; rfl)
      rw [universalNewlines]
      rintro rest ⟨⟩
      exact hc rfl

/-- A text without carriage returns, and then a line end, over and over. -/
theorem universal_induction {motive : Text → Prop} (last : ∀ s, '\r' ∉ s → motive s)
    (both : ∀ s r, '\r' ∉ s → motive r → motive (s ++ '\r' :: '\n' :: r))
    (alone : ∀ s r, '\r' ∉ s → r.head? ≠ some '\n' → motive r → motive (s ++ '\r' :: r))
    (t : Text) : motive t := by
  by_cases hreturn : '\r' ∈ t
  · obtain ⟨s, r, ht, hs⟩ := List.eq_append_cons_of_mem hreturn
    have hlen : r.length < t.length := by
      rw [ht, List.length_append, List.length_cons]
      omega
    by_cases hfeed : r.head? = some '\n'
    · obtain ⟨r', rfl⟩ := List.head?_eq_some_iff.mp hfeed
      have hlen' : r'.length < t.length := by
        rw [List.length_cons] at hlen
        omega
      rw [ht]
      exact both s r' hs (universal_induction last both alone r')
    · rw [ht]
      exact alone s r hs hfeed (universal_induction last both alone r)
  · exact last t hreturn
termination_by t.length

/-! ## What stays -/

theorem universalNewlines_append (hs : '\r' ∉ s) (t : Text) :
    universalNewlines (s ++ t) = s ++ universalNewlines t := by
  induction s with
  | nil => rfl
  | cons c s ih =>
      rw [List.mem_cons, not_or] at hs
      rw [List.cons_append, universalNewlines_cons (Ne.symm hs.1), ih hs.2, List.cons_append]

theorem universalNewlines_of_not_mem (h : '\r' ∉ t) : universalNewlines t = t := by
  have happend := universalNewlines_append h []
  rwa [universalNewlines_nil, List.append_nil] at happend

theorem return_not_mem_universalNewlines (t : Text) : '\r' ∉ universalNewlines t := by
  induction t using universal_induction with
  | last s hs => rwa [universalNewlines_of_not_mem hs]
  | both s r hs ih =>
      rw [universalNewlines_append hs, universalNewlines_return_feed]
      simp [hs, ih]
  | alone s r hs hr ih =>
      rw [universalNewlines_append hs, universalNewlines_return hr]
      simp [hs, ih]

theorem universalNewlines_eq_nil_iff : universalNewlines t = [] ↔ t = [] := by
  induction t using universal_induction with
  | last s hs => rw [universalNewlines_of_not_mem hs]
  | both s r hs ih => simp [universalNewlines_append hs]
  | alone s r hs hr ih => simp [universalNewlines_append hs, universalNewlines_return hr]

theorem mem_universalNewlines_iff (hc : c ≠ '\n') :
    c ∈ universalNewlines t ↔ c ∈ t ∧ c ≠ '\r' := by
  by_cases hreturn : c = '\r'
  · simp [hreturn, return_not_mem_universalNewlines]
  rw [and_iff_left hreturn]
  induction t using universal_induction with
  | last s hs => rw [universalNewlines_of_not_mem hs]
  | both s r hs ih => simp [universalNewlines_append hs, ih, hc, hreturn]
  | alone s r hs hr ih =>
      simp [universalNewlines_append hs, universalNewlines_return hr, ih, hc, hreturn]

theorem forall_mem_universalNewlines_iff {allowed : Char → Bool} (hfeed : allowed '\n' = true)
    (hreturn : allowed '\r' = true) :
    (∀ c ∈ universalNewlines t, allowed c = true) ↔ ∀ c ∈ t, allowed c = true := by
  refine ⟨fun h c hc => ?_, fun h c hc => ?_⟩
  · by_cases hcfeed : c = '\n'
    · rwa [hcfeed]
    by_cases hcreturn : c = '\r'
    · rwa [hcreturn]
    exact h c ((mem_universalNewlines_iff hcfeed).mpr ⟨hc, hcreturn⟩)
  · by_cases hcfeed : c = '\n'
    · rwa [hcfeed]
    exact h c ((mem_universalNewlines_iff hcfeed).mp hc).1

/-! ## Cuts -/

theorem universalNewlines_append_cons (hc : c ≠ '\n') (hc' : c ≠ '\r') (p q : Text) :
    universalNewlines (p ++ c :: q) = universalNewlines p ++ c :: universalNewlines q := by
  induction p using universal_induction with
  | last s hs =>
      rw [universalNewlines_append hs, universalNewlines_cons hc', universalNewlines_of_not_mem hs]
  | both s r hs ih =>
      rw [List.append_assoc, List.cons_append, List.cons_append, universalNewlines_append hs,
        universalNewlines_return_feed, ih, universalNewlines_append hs,
        universalNewlines_return_feed, List.append_assoc, List.cons_append]
  | alone s r hs hr ih =>
      have hr' : (r ++ c :: q).head? ≠ some '\n' := by
        cases r with
        | nil => simpa using hc
        | cons d r => exact hr
      rw [List.append_assoc, List.cons_append, universalNewlines_append hs,
        universalNewlines_return hr', ih, universalNewlines_append hs,
        universalNewlines_return hr, List.append_assoc, List.cons_append]

/-- Where what is read can be cut at a character between line ends, so can the text. -/
theorem exists_cut_of_universalNewlines (hc : c ≠ '\n') (h : universalNewlines t = p ++ c :: q) :
    ∃ p' q', t = p' ++ c :: q' ∧ universalNewlines p' = p ∧ universalNewlines q' = q := by
  fun_induction universalNewlines t generalizing p with
  | case1 => exact absurd h.symm (by simp)
  | case2 t ih =>
      rcases List.cons_eq_append_iff.mp h with ⟨rfl, heq⟩ | ⟨p, rfl, heq⟩
      · exact absurd (List.cons.inj heq).1 hc
      · obtain ⟨p', q', rfl, rfl, rfl⟩ := ih heq
        exact ⟨'\r' :: '\n' :: p', q', rfl, universalNewlines_return_feed p', rfl⟩
  | case3 t ht ih =>
      rcases List.cons_eq_append_iff.mp h with ⟨rfl, heq⟩ | ⟨p, rfl, heq⟩
      · exact absurd (List.cons.inj heq).1 hc
      · obtain ⟨p', q', rfl, rfl, rfl⟩ := ih heq
        refine ⟨'\r' :: p', q', rfl, universalNewlines_return fun hfeed => ?_, rfl⟩
        obtain ⟨p', rfl⟩ := List.head?_eq_some_iff.mp hfeed
        exact ht _ rfl
  | case4 d t _ hd ih =>
      rcases List.cons_eq_append_iff.mp h with ⟨rfl, heq⟩ | ⟨p, rfl, heq⟩
      · obtain ⟨rfl, rfl⟩ := List.cons.inj heq
        exact ⟨[], t, rfl, rfl, rfl⟩
      · obtain ⟨p', q', rfl, rfl, rfl⟩ := ih heq
        exact ⟨d :: p', q', rfl, universalNewlines_cons hd, rfl⟩

/-- A word in which no character of a line end stands. -/
def Endless (u : Text) : Prop := '\n' ∉ u ∧ '\r' ∉ u

instance (u : Text) : Decidable (Endless u) := inferInstanceAs (Decidable (_ ∧ _))

theorem universalNewlines_append_word (hu : Endless u) (hne : u ≠ []) (p q : Text) :
    universalNewlines (p ++ u ++ q) = universalNewlines p ++ u ++ universalNewlines q := by
  cases u with
  | nil => exact absurd rfl hne
  | cons c u =>
      obtain ⟨hfeed, hreturn⟩ := hu
      rw [List.mem_cons, not_or] at hfeed hreturn
      rw [List.append_assoc, List.cons_append,
        universalNewlines_append_cons (Ne.symm hfeed.1) (Ne.symm hreturn.1),
        universalNewlines_append hreturn.2, List.append_assoc, List.cons_append]

theorem exists_word_of_universalNewlines (hu : Endless u) (hne : u ≠ [])
    (h : universalNewlines t = p ++ u ++ q) :
    ∃ p' q', t = p' ++ u ++ q' ∧ universalNewlines p' = p ∧ universalNewlines q' = q := by
  induction u generalizing t p with
  | nil => exact absurd rfl hne
  | cons c u ih =>
      obtain ⟨hfeed, hreturn⟩ := hu
      rw [List.mem_cons, not_or] at hfeed hreturn
      rw [List.append_assoc, List.cons_append] at h
      obtain ⟨p', r, rfl, hp, hr⟩ := exists_cut_of_universalNewlines (Ne.symm hfeed.1) h
      cases u with
      | nil => exact ⟨p', r, by simp, hp, hr⟩
      | cons d u =>
          -- the rest of the word stands right behind its first character
          obtain ⟨v, q', rfl, hv, hq⟩ := ih (p := []) ⟨hfeed.2, hreturn.2⟩ (by simp) hr
          obtain rfl := universalNewlines_eq_nil_iff.mp hv
          exact ⟨p', q', by simp, hp, hq⟩

end WikiCasing.Text
