import WikiCasing.Proofs.Markup.Accounting

/-!
# What recasing leaves alone outside of links

Up to the first opening bracket a text is what it was, so it begins with the same words without
brackets (`prefix_recase_iff`), and a class of characters without the bracket takes the same run off
its front (`takeWhile_recase`, `dropWhile_recase`). Hyphens and line ends are signs that no link is
written with. A word of them is never made and never broken up, wherever it stands
(`infix_recase_iff`): a replacement repeats the target or cases the alias, and what it adds or drops
around them are brackets, bars and commands.
-/

namespace WikiCasing

theorem prefix_append_cons_iff {c : Char} {u : Text} (hc : c ∉ u) (a b : Text) :
    u <+: a ++ c :: b ↔ u <+: a := by
  refine ⟨fun h => ?_, fun h => h.trans (List.prefix_append _ _)⟩
  rcases List.prefix_or_prefix_of_prefix h (List.prefix_append _ _) with h | ⟨v, rfl⟩
  · exact h
  · cases v with
    | nil => simp
    | cons d v =>
        rw [List.prefix_append_right_inj, List.cons_prefix_cons] at h
        exact absurd (by simp [h.1]) hc

theorem infix_append_cons_iff {c : Char} {u : Text} (hc : c ∉ u) (a b : Text) :
    u <:+: a ++ c :: b ↔ u <:+: a ∨ u <:+: b := by
  induction a with
  | nil =>
      have hprefix := prefix_append_cons_iff hc [] b
      rw [List.nil_append] at hprefix ⊢
      rw [List.infix_cons_iff, hprefix, List.prefix_nil, List.infix_nil]
  | cons d a ih =>
      have hprefix := prefix_append_cons_iff hc (d :: a) b
      rw [List.cons_append] at hprefix ⊢
      rw [List.infix_cons_iff, List.infix_cons_iff, hprefix, ih, or_assoc]

/-- A word of the signs that front matter is written with and links are not. -/
structure Ruled (u : Text) : Prop where
  ne_nil : u ≠ []
  sign : ∀ c ∈ u, isSign c = true
  open_not_mem : '[' ∉ u
  close_not_mem : ']' ∉ u
  bar_not_mem : '|' ∉ u
  backslash_not_mem : '\\' ∉ u

namespace Ruled

variable {u : Text} (hu : Ruled u)
include hu

theorem letter_not_mem (x : Command) : x.letter ∉ u := by
  intro h
  have hsign := hu.sign _ h
  rw [x.isSign_letter] at hsign
  exact Bool.noConfusion hsign

theorem infix_cons_iff {c : Char} (hc : c ∉ u) (t : Text) : u <:+: c :: t ↔ u <:+: t := by
  have h := infix_append_cons_iff hc [] t
  rwa [List.nil_append, List.infix_nil, or_iff_right hu.ne_nil] at h

theorem infix_inner_iff (f : Form) (x : Command) (t : Text) :
    u <:+: t ++ f.inner x ↔ u <:+: t := by
  cases hf : f.isPostfix with
  | true => simp [Form.inner, hf]
  | false =>
      have hletter : ¬ u <:+: [x.letter] := by
        rw [hu.infix_cons_iff (hu.letter_not_mem x), List.infix_nil]
        exact hu.ne_nil
      simp only [Form.inner, hf, Bool.false_eq_true, if_false]
      rw [infix_append_cons_iff hu.backslash_not_mem, or_iff_left hletter]

theorem infix_behind_iff (f : Form) (x : Command) (t : Text) :
    u <:+: f.behind x ++ t ↔ u <:+: t := by
  cases hf : f.isPostfix with
  | true =>
      simp only [Form.behind, hf, if_true, List.cons_append, List.nil_append]
      rw [hu.infix_cons_iff hu.backslash_not_mem, hu.infix_cons_iff (hu.letter_not_mem x)]
  | false => simp [Form.behind, hf]

theorem infix_aliased_iff (target shown : Text) :
    u <:+: '[' :: '[' :: (target ++ '|' :: shown) ↔ u <:+: target ∨ u <:+: shown := by
  rw [hu.infix_cons_iff hu.open_not_mem, hu.infix_cons_iff hu.open_not_mem,
    infix_append_cons_iff hu.bar_not_mem]

theorem infix_bare_iff (target : Text) : u <:+: '[' :: '[' :: target ↔ u <:+: target := by
  rw [hu.infix_cons_iff hu.open_not_mem, hu.infix_cons_iff hu.open_not_mem]

theorem infix_apply_iff (x : Command) (b : Bool) (t : Text) :
    u <:+: Casing.apply x b t ↔ u <:+: t := Casing.infix_apply x b t hu.sign hu.ne_nil

theorem infix_inside_iff {f : Form} {l : Link} (h : f.Admits l) :
    u <:+: f.inside l ↔ u <:+: l.target ∨ ∃ shown, l.alias? = some shown ∧ u <:+: shown := by
  cases h with
  | aliased hf =>
      rw [Form.inside_aliased hf, hu.infix_aliased_iff, hu.infix_inner_iff]
      simp
  | bare hf =>
      rw [Form.inside_bare hf, hu.infix_bare_iff, hu.infix_inner_iff]
      simp

theorem infix_renderInside_iff (l : Link) (s : Settings) :
    u <:+: l.renderInside s ↔
      u <:+: l.target ∨ ∃ shown, l.alias? = some shown ∧ u <:+: shown := by
  obtain ⟨target, alias?, x⟩ := l
  cases alias? with
  | some shown =>
      simp only [Link.renderInside]
      rw [hu.infix_aliased_iff, hu.infix_apply_iff]
      simp
  | none =>
      simp only [Link.renderInside]
      split
      · rw [hu.infix_bare_iff]
        simp
      · rw [hu.infix_aliased_iff, hu.infix_apply_iff, or_self]
        simp

end Ruled

/-! ## One pass -/

namespace Form

variable (s : Settings) (f : Form)

theorem head_open_recase (t : Text) : ∃ t', (f.recase s ('[' :: t)).text = '[' :: t' := by
  have hhead := f.head?_recase s ('[' :: t)
  cases h : (f.recase s ('[' :: t)).text with
  | nil =>
      rw [h] at hhead
      exact absurd hhead (by simp)
  | cons c t' =>
      rw [h] at hhead
      obtain rfl : c = '[' := by simpa using hhead
      exact ⟨t', rfl⟩

theorem prefix_recase_iff {u : Text} (hu : '[' ∉ u) (t : Text) :
    u <+: (f.recase s t).text ↔ u <+: t := by
  induction u generalizing t with
  | nil => simp
  | cons a u ih =>
      have ha : a ≠ '[' := fun h => hu (by simp [h])
      cases t with
      | nil => rfl
      | cons c t =>
          by_cases hc : c = '['
          · subst hc
            obtain ⟨t', ht'⟩ := f.head_open_recase s t
            simp [ht', List.cons_prefix_cons, ha]
          · rw [recase_cons_of_none s (read?_cons_of_ne hc t)]
            simp [List.cons_prefix_cons, ih (fun h => hu (List.mem_cons_of_mem _ h))]

theorem infix_recase_iff {u : Text} (hu : Ruled u) (t : Text) :
    u <:+: (f.recase s t).text ↔ u <:+: t := by
  induction t using scan_induction f with
  | nil => rfl
  | plain c t h ih =>
      have hprefix := f.prefix_recase_iff s hu.open_not_mem (c :: t)
      rw [recase_cons_of_none s h] at hprefix ⊢
      rw [Recased.text_append, List.singleton_append] at hprefix ⊢
      rw [List.infix_cons_iff, List.infix_cons_iff, hprefix, ih]
  | link l t h ih =>
      rw [recase_spell_append s h, Recased.text_append, Link.render_eq, spell_eq]
      simp only [List.append_assoc, List.cons_append, List.nil_append]
      rw [infix_append_cons_iff hu.close_not_mem, infix_append_cons_iff hu.close_not_mem,
        hu.infix_cons_iff hu.close_not_mem, hu.infix_cons_iff hu.close_not_mem,
        hu.infix_behind_iff, hu.infix_renderInside_iff, hu.infix_inside_iff h, ih]

end Form

/-! ## All passes -/

section

variable (s : Settings)

theorem prefix_recaseForms_iff {u : Text} (hu : '[' ∉ u) (fs : List Form) (t : Text) :
    u <+: (recaseForms s fs t).text ↔ u <+: t := by
  induction fs generalizing t with
  | nil => rfl
  | cons f fs ih => exact (ih _).trans (f.prefix_recase_iff s hu t)

theorem infix_recaseForms_iff {u : Text} (hu : Ruled u) (fs : List Form) (t : Text) :
    u <:+: (recaseForms s fs t).text ↔ u <:+: t := by
  induction fs generalizing t with
  | nil => rfl
  | cons f fs ih => exact (ih _).trans (f.infix_recase_iff s hu t)

theorem prefix_recase_iff {u : Text} (hu : '[' ∉ u) (t : Text) : u <+: recase s t ↔ u <+: t :=
  prefix_recaseForms_iff s hu Form.all t

/-- A recased text holds the same words of hyphens and line ends. -/
theorem infix_recase_iff {u : Text} (hu : Ruled u) (t : Text) : u <:+: recase s t ↔ u <:+: t :=
  infix_recaseForms_iff s hu Form.all t

theorem recase_append_of_plain {p : Text} (hp : '[' ∉ p) (q : Text) :
    recase s (p ++ q) = p ++ recase s q := by
  rw [recase, recase_plain_append s hp]
  rfl

/-! ## Behind a text that stays as it is -/

theorem prefix_append_recase_iff {u : Text} (hu : '[' ∉ u) (p t : Text) :
    u <+: p ++ recase s t ↔ u <+: p ++ t := by
  induction p generalizing u with
  | nil => exact prefix_recase_iff s hu t
  | cons c p ih =>
      cases u with
      | nil => simp
      | cons a u =>
          rw [List.cons_append, List.cons_append, List.cons_prefix_cons, List.cons_prefix_cons,
            ih (fun h => hu (List.mem_cons_of_mem _ h))]

theorem infix_append_recase_iff {u : Text} (hu : Ruled u) (p t : Text) :
    u <:+: p ++ recase s t ↔ u <:+: p ++ t := by
  induction p with
  | nil => exact infix_recase_iff s hu t
  | cons c p ih =>
      have hprefix := prefix_append_recase_iff s hu.open_not_mem (c :: p) t
      rw [List.cons_append, List.cons_append] at hprefix ⊢
      rw [List.infix_cons_iff, List.infix_cons_iff, hprefix, ih]

/-! ## Runs of characters at the front -/

variable {P : Char → Bool}

/-- A text is what a class of characters takes off its front, recased to the same. -/
theorem recase_eq_takeWhile_append (hP : P '[' = false) (t : Text) :
    recase s t = t.takeWhile P ++ recase s (t.dropWhile P) := by
  have hplain : '[' ∉ t.takeWhile P := by
    intro h
    have hpos := List.mem_takeWhile_imp h
    rw [hP] at hpos
    exact Bool.noConfusion hpos
  rw [← recase_append_of_plain s hplain, List.takeWhile_append_dropWhile]

theorem not_head_recase_dropWhile (t : Text) (c : Char)
    (h : (recase s (t.dropWhile P)).head? = some c) : P c = false := by
  rw [recase, recaseCounted, head?_recaseForms] at h
  have hstop := List.head?_dropWhile_not P t
  rw [h] at hstop
  exact hstop

theorem takeWhile_recase (hP : P '[' = false) (t : Text) :
    (recase s t).takeWhile P = t.takeWhile P := by
  have hrest : (recase s (t.dropWhile P)).takeWhile P = [] := by
    cases h : recase s (t.dropWhile P) with
    | nil => rfl
    | cons c r =>
        have hstop : P c = false := not_head_recase_dropWhile s t c (by rw [h]; rfl)
        rw [List.takeWhile_cons, hstop]
        rfl
  rw [recase_eq_takeWhile_append s hP, List.takeWhile_append_of_pos fun _ => List.mem_takeWhile_imp,
    hrest, List.append_nil]

theorem dropWhile_recase (hP : P '[' = false) (t : Text) :
    (recase s t).dropWhile P = recase s (t.dropWhile P) := by
  have hcut := List.takeWhile_append_dropWhile (p := P) (l := recase s t)
  rw [takeWhile_recase s hP, recase_eq_takeWhile_append s hP t] at hcut
  rw [recase_eq_takeWhile_append s hP t]
  exact List.append_cancel_left hcut

end

end WikiCasing
