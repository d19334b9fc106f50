import WikiCasing.Proofs.Casing.Lines
import WikiCasing.Proofs.Markup.Change

/-!
# Recasing a text whose line ends have been read

Line ends may stand in a target or in an alias, but in no other part of a link, and no form tells
one line end from another, so the same links are read (`Form.read?_universalNewlines`). Hence
reading the line ends of a text as line feeds and then recasing it comes to the same as recasing it
and then reading them (`recaseCounted_universalNewlines`), with as many links replaced, and whether
the text changes can be told either way (`recase_universalNewlines_eq_self_iff`). Nor does recasing
hide that a text holds carriage returns (`return_mem_recase_iff`).
-/

namespace WikiCasing

open Text

variable {f : Form} {l : Link} {s : Settings} {t : Text}

/-- A link whose line ends have been read. -/
def Link.universalNewlines (l : Link) : Link where
  target := l.target.universalNewlines
  alias? := l.alias?.map Text.universalNewlines
  command := l.command

/-! ## Reading links -/

namespace Form

theorem forall_targetChar_universalNewlines_iff (f : Form) (t : Text) :
    (∀ c ∈ t.universalNewlines, f.targetChar c = true) ↔ ∀ c ∈ t, f.targetChar c = true :=
  forall_mem_universalNewlines_iff (by cases f <;> decide) (by cases f <;> decide)

theorem forall_aliasChar_universalNewlines_iff (f : Form) (t : Text) :
    (∀ c ∈ t.universalNewlines, f.aliasChar c = true) ↔ ∀ c ∈ t, f.aliasChar c = true :=
  forall_mem_universalNewlines_iff (by cases f <;> decide) (by cases f <;> decide)

theorem Admits.universalNewlines (h : f.Admits l) : f.Admits l.universalNewlines := by
  cases h with
  | @aliased target shown x hf hne htarget hane hshown =>
      exact .aliased hf (mt universalNewlines_eq_nil_iff.mp hne)
        ((f.forall_targetChar_universalNewlines_iff target).mpr htarget)
        (mt universalNewlines_eq_nil_iff.mp hane)
        ((f.forall_aliasChar_universalNewlines_iff shown).mpr hshown)
  | @bare target x hf hne htarget =>
      exact .bare hf (mt universalNewlines_eq_nil_iff.mp hne)
        ((f.forall_targetChar_universalNewlines_iff target).mpr htarget)

theorem endless_closing (f : Form) (x : Command) : Endless (f.closing x) := by
  cases f <;> cases x <;> decide

theorem closing_ne_nil (f : Form) (x : Command) : f.closing x ≠ [] := by
  cases f <;> exact List.cons_ne_nil _ _

theorem spell_aliased_append (hf : f.hasAlias = true) (target shown : Text) (x : Command)
    (q : Text) : f.spell ⟨target, some shown, x⟩ ++ q =
      "[[".toList ++ (target ++ ['|'] ++ (shown ++ f.closing x ++ q)) := by
  simp [spell, hf]

theorem spell_bare_append (hf : f.hasAlias = false) (target : Text) (x : Command) (q : Text) :
    f.spell ⟨target, none, x⟩ ++ q = "[[".toList ++ (target ++ f.closing x ++ q) := by
  simp [spell, hf]

theorem Admits.universalNewlines_spell_append (h : f.Admits l) (q : Text) :
    (f.spell l ++ q).universalNewlines = f.spell l.universalNewlines ++ q.universalNewlines := by
  cases h with
  | @aliased target shown x hf _ _ _ _ =>
      rw [spell_aliased_append hf, Text.universalNewlines_append (by decide),
        universalNewlines_append_word (by decide) (by decide),
        universalNewlines_append_word (f.endless_closing x) (f.closing_ne_nil x)]
      exact (spell_aliased_append hf _ _ x _).symm
  | @bare target x hf _ _ =>
      rw [spell_bare_append hf, Text.universalNewlines_append (by decide),
        universalNewlines_append_word (f.endless_closing x) (f.closing_ne_nil x)]
      exact (spell_bare_append hf _ x _).symm

theorem Admits.exists_spell_append {q : Text} (hl : f.Admits l)
    (h : t.universalNewlines = f.spell l ++ q) :
    ∃ l' q', f.Admits l' ∧ t = f.spell l' ++ q' := by
  -- what stands between two words of a spelling is read on its own, so `t` is cut word by word
  have hopen {r : Text} (hr : t.universalNewlines = "[[".toList ++ r) :
      ∃ t', t = "[[".toList ++ t' ∧ t'.universalNewlines = r := by
    obtain ⟨p, t', rfl, hp, ht'⟩ :=
      exists_word_of_universalNewlines (p := []) (by decide) (by decide) hr
    obtain rfl := universalNewlines_eq_nil_iff.mp hp
    exact ⟨t', rfl, ht'⟩
  cases hl with
  | @aliased target shown x hf hne htarget hane hshown =>
      rw [spell_aliased_append hf] at h
      obtain ⟨t', rfl, ht'⟩ := hopen h
      obtain ⟨target, r, rfl, rfl, hr⟩ :=
        exists_word_of_universalNewlines (by decide) (by decide) ht'
      obtain ⟨shown, q', rfl, rfl, rfl⟩ :=
        exists_word_of_universalNewlines (f.endless_closing x) (f.closing_ne_nil x) hr
      refine ⟨⟨target, some shown, x⟩, q', ?_, (spell_aliased_append hf _ _ x _).symm⟩
      exact .aliased hf (mt universalNewlines_eq_nil_iff.mpr hne)
        ((f.forall_targetChar_universalNewlines_iff target).mp htarget)
        (mt universalNewlines_eq_nil_iff.mpr hane)
        ((f.forall_aliasChar_universalNewlines_iff shown).mp hshown)
  | @bare target x hf hne htarget =>
      rw [spell_bare_append hf] at h
      obtain ⟨t', rfl, ht'⟩ := hopen h
      obtain ⟨target, q', rfl, rfl, rfl⟩ :=
        exists_word_of_universalNewlines (f.endless_closing x) (f.closing_ne_nil x) ht'
      refine ⟨⟨target, none, x⟩, q', ?_, (spell_bare_append hf _ x _).symm⟩
      exact .bare hf (mt universalNewlines_eq_nil_iff.mpr hne)
        ((f.forall_targetChar_universalNewlines_iff target).mp htarget)

theorem read?_universalNewlines (f : Form) (t : Text) :
    f.read? t.universalNewlines = (f.read? t).map Link.universalNewlines := by
  cases hread : f.read? t with
  | some l =>
      obtain ⟨hl, q, rfl⟩ := of_read? hread
      rw [hl.universalNewlines_spell_append, read?_spell hl.universalNewlines, Option.map_some]
  | none =>
      rw [Option.map_none, Option.eq_none_iff_forall_ne_some]
      intro l h
      obtain ⟨hl, q, hq⟩ := of_read? h
      obtain ⟨l', q', hl', rfl⟩ := hl.exists_spell_append hq.symm
      rw [read?_spell hl' q'] at hread
      exact absurd hread (by simp)

end Form

/-! ## Replacing links -/

theorem universalNewlines_plainLink_append (target q : Text) :
    (plainLink target ++ q).universalNewlines =
      plainLink target.universalNewlines ++ q.universalNewlines := by
  have hcut (t r : Text) : plainLink t ++ r = "[[".toList ++ (t ++ "]]".toList ++ r) := by
    simp [plainLink]
  rw [hcut, hcut, Text.universalNewlines_append (by decide),
    universalNewlines_append_word (by decide) (by decide)]

theorem universalNewlines_aliasedLink_append (target shown q : Text) :
    (aliasedLink target shown ++ q).universalNewlines =
      aliasedLink target.universalNewlines shown.universalNewlines ++ q.universalNewlines := by
  have hcut (t u r : Text) :
      aliasedLink t u ++ r = "[[".toList ++ (t ++ ['|'] ++ (u ++ "]]".toList ++ r)) := by
    simp [aliasedLink]
  rw [hcut, hcut, Text.universalNewlines_append (by decide),
    universalNewlines_append_word (by decide) (by decide),
    universalNewlines_append_word (by decide) (by decide)]

theorem Link.universalNewlines_render_append (s : Settings) (l : Link) (q : Text) :
    (l.render s ++ q).universalNewlines =
      l.universalNewlines.render s ++ q.universalNewlines := by
  match l with
  | ⟨target, some shown, x⟩ =>
      rw [Link.render, Link.render]
      dsimp only [Link.universalNewlines, Option.map_some]
      rw [universalNewlines_aliasedLink_append, Casing.apply_universalNewlines]
  | ⟨target, none, x⟩ =>
      rw [Link.render, Link.render]
      dsimp only [Link.universalNewlines, Option.map_none]
      simp only [Casing.apply_universalNewlines_eq_self_iff]
      split
      · exact universalNewlines_plainLink_append target q
      · rw [universalNewlines_aliasedLink_append, Casing.apply_universalNewlines]

/-- A recased text whose line ends have been read. -/
def Recased.universalNewlines (r : Recased) : Recased := ⟨r.text.universalNewlines, r.count⟩

theorem Form.recase_universalNewlines (f : Form) (s : Settings) (t : Text) :
    f.recase s t.universalNewlines = (f.recase s t).universalNewlines := by
  induction t using scan_induction f with
  | nil => rfl
  | plain c t hread ih =>
      have hhead := head?_recase s f t
      rw [recase_cons_of_none s hread]
      by_cases hreturn : c = '\r'
      · subst hreturn
        by_cases hfeed : t.head? = some '\n'
        · rw [universalNewlines_return_before hfeed, ih]
          exact congrArg₂ Recased.mk (universalNewlines_return_before (hhead.trans hfeed)).symm
            (Nat.zero_add _).symm
        · rw [universalNewlines_return hfeed,
            recase_cons_of_none s (read?_cons_of_ne (by decide) _), ih]
          exact congrArg₂ Recased.mk (universalNewlines_return (hhead ▸ hfeed)).symm rfl
      · have hread' := f.read?_universalNewlines (c :: t)
        rw [hread, Option.map_none, universalNewlines_cons hreturn] at hread'
        rw [universalNewlines_cons hreturn, recase_cons_of_none s hread', ih]
        exact congrArg₂ Recased.mk (universalNewlines_cons hreturn).symm rfl
  | link l t hl ih =>
      rw [hl.universalNewlines_spell_append, recase_spell_append s hl.universalNewlines,
        recase_spell_append s hl, ih]
      exact congrArg₂ Recased.mk (l.universalNewlines_render_append s _).symm rfl

theorem recaseForms_universalNewlines (s : Settings) (fs : List Form) (t : Text) :
    recaseForms s fs t.universalNewlines = (recaseForms s fs t).universalNewlines := by
  induction fs generalizing t with
  | nil => rfl
  | cons f fs ih =>
      rw [recaseForms_cons, recaseForms_cons, f.recase_universalNewlines]
      dsimp only [Recased.universalNewlines]
      rw [ih]
      rfl

theorem recaseCounted_universalNewlines (s : Settings) (t : Text) :
    recaseCounted s t.universalNewlines = (recaseCounted s t).universalNewlines :=
  recaseForms_universalNewlines s Form.all t

theorem recase_universalNewlines (s : Settings) (t : Text) :
    recase s t.universalNewlines = (recase s t).universalNewlines :=
  congrArg Recased.text (recaseCounted_universalNewlines s t)

/-- Reading line ends hides no change. -/
theorem recase_universalNewlines_eq_self_iff (s : Settings) (t : Text) :
    recase s t.universalNewlines = t.universalNewlines ↔ recase s t = t := by
  rw [recase_eq_iff_count, recase_eq_iff_count, recaseCounted_universalNewlines]
  exact Iff.rfl

theorem Form.Admits.return_mem_render (h : f.Admits l) (hmem : '\r' ∈ f.spell l) (s : Settings) :
    '\r' ∈ l.render s := by
  have hclosing (x : Command) : '\r' ∉ f.closing x := (f.endless_closing x).2
  cases h with
  | @aliased target shown x hf _ _ _ _ =>
      have hshown := Casing.mem_apply_iff x s.firstWordOnly shown (c := '\r') (by decide)
      simpa [spell, hf, hclosing, Link.render, aliasedLink, hshown] using hmem
  | @bare target x hf _ _ =>
      have htarget : '\r' ∈ target := by simpa [spell, hf, hclosing] using hmem
      dsimp only [Link.render]
      split
      · simp [plainLink, htarget]
      · simp [aliasedLink, htarget]

theorem Form.return_mem_recase (f : Form) (s : Settings) (hmem : '\r' ∈ t) :
    '\r' ∈ (f.recase s t).text := by
  induction t using scan_induction f with
  | nil => exact absurd hmem List.not_mem_nil
  | plain c t hread ih =>
      rw [recase_cons_of_none s hread]
      rcases List.mem_cons.mp hmem with rfl | hmem
      · exact List.mem_cons_self
      · exact List.mem_cons_of_mem _ (ih hmem)
  | link l t hl ih =>
      rw [recase_spell_append s hl]
      rcases List.mem_append.mp hmem with hmem | hmem
      · exact List.mem_append_left _ (hl.return_mem_render hmem s)
      · exact List.mem_append_right _ (ih hmem)

theorem return_mem_recaseForms (s : Settings) (fs : List Form) (hmem : '\r' ∈ t) :
    '\r' ∈ (recaseForms s fs t).text := by
  induction fs generalizing t with
  | nil => exact hmem
  | cons f fs ih => exact ih (f.return_mem_recase s hmem)

/-- Recasing brings no carriage return into a text that has none, and never takes away the last. -/
theorem return_mem_recase_iff (s : Settings) (t : Text) : '\r' ∈ recase s t ↔ '\r' ∈ t := by
  refine ⟨fun hmem => ?_, return_mem_recaseForms s Form.all⟩
  contrapose hmem
  rw [← universalNewlines_of_not_mem hmem, recase_universalNewlines]
  exact return_not_mem_universalNewlines _

end WikiCasing
