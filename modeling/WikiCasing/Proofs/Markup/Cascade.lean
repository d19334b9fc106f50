import WikiCasing.Proofs.Markup.Resolved

/-!
# A block through all passes

A link may be replaced twice in one recasing: where the alias of a postfix alias link ends in a
command or in two opening brackets and a name, its replacement is the spelling of another link,
which a later form reads. This module says what becomes of a block in any case
(`Block.Finds.exists_cascade`). What stands before the first link of the block is kept, since a
later link never starts before the replacement of the first (`Finds.inside_suffix_renderInside`);
and there is no third replacement, since only the postfix form with an alias leaves the forms after
it anything to find (`recaseForms_later`).

So recasing a text up to a resolved occurrence is independent of recasing the rest
(`recase_at_resolved`).
-/

namespace WikiCasing

/-- A text cut at its first bar is cut there whatever stands behind another bar. -/
theorem exists_cut_before {p a t r : Text} (hp : '|' ∈ p) (ht : '|' ∉ t)
    (h : p ++ a = t ++ '|' :: r) : ∃ e, p = t ++ '|' :: e ∧ r = e ++ a := by
  obtain ⟨t', e, rfl, ht'⟩ := List.eq_append_cons_of_mem hp
  rw [List.append_assoc, List.cons_append] at h
  obtain ⟨rfl, rfl⟩ := Text.cut_unique ht' ht h
  exact ⟨e, rfl, rfl⟩

namespace Form

theorem pairwise_later (f : Form) : f.later.Pairwise fun g g' => g ∈ g'.earlier := by
  cases f <;> decide

theorem postfixAlias_not_mem_later (f : Form) : postfixAlias ∉ f.later := by
  cases f <;> decide

theorem Admits.length_inside_le {f : Form} {l : Link} (h : f.Admits l) (s : Settings) :
    (f.inside l).length ≤ (l.renderInside s).length + 2 := by
  have hinner : ∀ x, (f.inner x).length ≤ 2 := by
    intro x
    cases f <;> exact Nat.le_of_ble_eq_true rfl
  cases h with
  | @aliased target shown x hf hne htarget hane hshown =>
      have hx := hinner x
      have hshown := Casing.length_le_apply x s.firstWordOnly shown
      simp only [inside_aliased hf, Link.renderInside, List.length_cons, List.length_append]
      omega
  | @bare target x hf hne htarget =>
      have hx := hinner x
      rw [inside_bare hf]
      refine Link.renderInside_cases (P := fun t => _ ≤ t.length + 2) s _ ?_ ?_ ?_
      · intro shown ha
        exact absurd ha (by simp)
      · intro _
        simp only [List.length_cons, List.length_append]
        omega
      · intro _
        simp only [List.length_cons, List.length_append]
        omega

end Form

namespace Block

variable {b b' : Block} {f g : Form} {l l' : Link} {before : Text} {s : Settings}

/-! ## Where a second link starts -/

/-- An inline alias link that a block ends in once a postfix alias link has been replaced starts
within the replacement: one that started before it would have been a postfix alias link too. -/
theorem Finds.inside_suffix_of_inlineAlias (h : b.Finds .postfixAlias l)
    (hbody : b.body = before ++ Form.inside .postfixAlias l)
    (hbody' : b'.body = before ++ l.renderInside s) (h' : b'.Ends .inlineAlias l') :
    Form.inside .inlineAlias l' <:+ l.renderInside s := by
  have hadmits := h.admits
  have hadmits' := h'.admits
  have hinside' := h'.inside
  rw [hbody'] at hinside'
  rcases List.suffix_or_suffix_of_suffix hinside' (List.suffix_append _ _) with hin | ⟨u, hu⟩
  · exact hin
  cases hadmits with
  | bare hf => exact Bool.noConfusion hf
  | @aliased target shown x hf hne htarget hane hshown =>
  cases hadmits' with
  | bare hf' => exact Bool.noConfusion hf'
  | @aliased target' shown' x' hf' hne' htarget' hane' hshown' =>
      have hubefore : u <:+ before := by
        rw [← hu] at hinside'
        exact List.suffix_append_self_iff.mp hinside'
      -- cut at the first bar, which stands before the alias of the replaced link
      have hbar : '|' ∉ '[' :: '[' :: target' := by
        have htarget : '|' ∉ target' := fun hm => (Form.targetChar_ne (htarget' _ hm)).2 rfl
        simp [htarget]
      have hcut : (u ++ '[' :: '[' :: (target ++ ['|'])) ++
          Casing.apply x s.firstWordOnly shown =
            ('[' :: '[' :: target') ++ '|' :: (shown' ++ Form.inner .inlineAlias x') := by
        rw [Form.inside_aliased hf'] at hu
        simpa [Link.renderInside] using hu
      obtain ⟨e, he, -⟩ := exists_cut_before (by simp) hbar hcut
      let outer : Link := ⟨target', some (e ++ shown), x⟩
      have houter : Form.inside .postfixAlias outer =
          u ++ Form.inside .postfixAlias ⟨target, some shown, x⟩ := by
        have htext := congrArg (· ++ shown) he
        simp only [List.append_assoc, List.cons_append, List.nil_append] at htext
        simp only [outer, Form.inside_aliased hf, Form.inner, Form.isPostfix, if_true,
          List.append_nil]
        exact htext.symm
      have hsuffix : Form.inside .postfixAlias outer <:+ b.body := by
        rw [houter, hbody]
        exact List.suffix_append_self_iff.mpr hubefore
      have hopen : ∀ c ∈ e ++ shown, Form.aliasChar .postfixAlias c = true := by
        intro c hc
        have hmem : c ∈ Form.inside .postfixAlias outer := by
          simp only [outer, Form.inside_aliased hf, List.mem_cons, List.mem_append] at hc ⊢
          tauto
        have hclose : c ≠ ']' := by
          rintro rfl
          exact b.body_open (hsuffix.subset hmem)
        simp [Form.aliasChar, Form.isPostfix, hclose]
      have hends : b.Ends .postfixAlias outer :=
        ⟨.aliased hf hne' htarget' (by simp [hane]) hopen, hsuffix, h.behind⟩
      have hlen := (h.first outer hends).length_le
      rw [houter, List.length_append] at hlen
      obtain rfl : u = [] := List.eq_nil_of_length_eq_zero (by omega)
      exact ⟨[], hu.symm⟩

theorem Finds.inside_suffix_renderInside (h : b.Finds f l) (hbody : b.body = before ++ f.inside l)
    (hbody' : b'.body = before ++ l.renderInside s) (hg : f ∈ g.earlier) (h' : b'.Ends g l') :
    g.inside l' <:+ l.renderInside s := by
  by_cases hf : f = .postfixAlias
  · subst hf
    cases hga : g.hasAlias with
    | true =>
        obtain rfl : g = .inlineAlias := by
          revert hg hga
          cases g <;> decide
        exact h.inside_suffix_of_inlineAlias hbody hbody' h'
    | false =>
        have hinside' := h'.inside
        rw [hbody'] at hinside'
        rcases List.suffix_or_suffix_of_suffix hinside' (List.suffix_append _ _) with hin | hin
        · exact hin
        · -- a link without an alias holds no bar, and the replacement does
          have hbar : '|' ∈ l.renderInside s := by
            cases h.admits with
            | bare hf => exact Bool.noConfusion hf
            | aliased => simp [Link.renderInside]
          have hbar' := h'.admits.bar_mem_inside_iff.mp (hin.subset hbar)
          rw [hga] at hbar'
          exact Bool.noConfusion hbar'
  · exact absurd h' (h.not_ends_replaced hbody' (fun heq => absurd heq hf) hg)

/-! ## How often a block is replaced -/

/-- The forms after the first one replace at most one link of a block between them. -/
theorem recaseForms_later (s : Settings) (b : Block) {fs : List Form}
    (hfs : fs.Pairwise fun g g' => g ∈ g'.earlier) (hplain : Form.postfixAlias ∉ fs) :
    (∀ g ∈ fs, ∀ l, ¬ b.Ends g l) ∨ ∃ g ∈ fs, ∃ l before, b.Finds g l ∧
      b.body = before ++ g.inside l ∧ recaseForms s fs b.text =
        ⟨before ++ (l.render s ++ commandsText (g.after b.commands)), 1⟩ := by
  induction fs with
  | nil => exact Or.inl (fun g hg => absurd hg List.not_mem_nil)
  | cons g fs ih =>
      obtain ⟨hg, hfs⟩ := List.pairwise_cons.mp hfs
      rcases b.finds_or_not_ends g with ⟨l, h⟩ | hnone
      · obtain ⟨before, hbody⟩ := h.inside
        obtain ⟨b', hbody', hcommands', hpass⟩ := h.recase_eq s hbody.symm
        -- the alias of this link is plain, since the one form that admits others came before
        have hrest : recaseForms s fs b'.text = ⟨b'.text, 0⟩ := by
          refine recaseForms_of_not_ends (fun g' hg' l' => ?_)
          refine h.not_ends_replaced hbody' (fun heq => ?_) (hg g' hg')
          exact absurd heq (fun heq => hplain (by rw [heq]; exact List.mem_cons_self))
        refine Or.inr ⟨g, List.mem_cons_self, l, before, h, hbody.symm, ?_⟩
        rw [recaseForms_cons, hpass]
        simp only [hrest, Nat.add_zero]
        rw [text_of_body hbody', hcommands']
      · have hpass : g.recase s b.text = ⟨b.text, 0⟩ :=
          Form.recase_of_occurrences_nil s (occurrences_of_not_ends hnone)
        rcases ih hfs (fun hm => hplain (List.mem_cons_of_mem _ hm)) with hrest | hrest
        · refine Or.inl (fun g' hg' => ?_)
          rcases List.mem_cons.mp hg' with rfl | hg'
          · exact hnone
          · exact hrest g' hg'
        · obtain ⟨g', hg', l, before, h, hbody, hrecase⟩ := hrest
          refine Or.inr ⟨g', List.mem_cons_of_mem _ hg', l, before, h, hbody, ?_⟩
          rw [recaseForms_cons, hpass]
          simp only [hrecase, Nat.zero_add]

/-- What becomes of a block with a first link behind `before`: `inside` stands before its closing
brackets then, and `commands` behind them. -/
structure Cascade (s : Settings) (b : Block) (f : Form) (l : Link)
    (before inside : Text) (commands : List Command) (count : Nat) : Prop where
  recase_eq : recaseCounted s b.text =
    ⟨before ++ (inside ++ ']' :: ']' :: commandsText commands), count⟩
  open_inside : ']' ∉ inside
  count_eq : count = 1 ∨ count = 2
  /-- At most two commands have been used up. -/
  commands_suffix : b.commands.drop 2 <:+ commands
  length_le : (l.renderInside s).length ≤ inside.length + 2
  inside_eq : (f = .postfixAlias → l.PlainAlias) → inside = l.renderInside s

theorem after_suffix (f : Form) (xs : List Command) : f.after xs <:+ xs := by
  unfold Form.after
  split
  · exact List.tail_suffix xs
  · exact List.suffix_refl xs

theorem drop_two_suffix_after (f g : Form) (xs : List Command) :
    xs.drop 2 <:+ g.after (f.after xs) := by
  have hdrop : xs.drop 2 = xs.tail.tail := by
    rw [← List.drop_one, ← List.drop_one, List.drop_drop]
  rw [hdrop]
  unfold Form.after
  split
  · split
    · exact List.suffix_refl _
    · exact List.tail_suffix _
  · split
    · exact List.tail_suffix _
    · exact (List.tail_suffix _).trans (List.tail_suffix _)

/-- A block in which a form finds a link comes through all passes with the link replaced, and with
one link within the replacement replaced again at most. -/
theorem Finds.exists_cascade (s : Settings) (h : b.Finds f l)
    (hbody : b.body = before ++ f.inside l) (hearlier : ∀ g ∈ f.earlier, ∀ l', ¬ b.Ends g l') :
    ∃ inside commands count, b.Cascade s f l before inside commands count := by
  obtain ⟨b', hbody', hcommands', hrecase⟩ := h.recase_first_pass s hbody hearlier
  rcases b'.recaseForms_later s f.pairwise_later f.postfixAlias_not_mem_later with hnone | hsome
  · refine ⟨l.renderInside s, b'.commands, 1, ?_, ?_, Or.inl rfl, ?_, ?_, fun _ => rfl⟩
    · rw [hrecase, recaseForms_of_not_ends hnone, text_of_body hbody', Link.render_eq]
      simp
    · exact h.admits.close_not_mem_renderInside s
    · rw [hcommands']
      exact (drop_two_suffix_after f f _).trans (after_suffix f _)
    · omega
  · obtain ⟨g, hg, l₂, before₂, h₂, hbody₂, hrecase₂⟩ := hsome
    have hlater := Form.mem_earlier_of_mem_later hg
    -- the second link stands within the replacement of the first, behind `v`
    obtain ⟨v, hv⟩ := h.inside_suffix_renderInside hbody hbody' hlater h₂.toEnds
    have hbefore₂ : before₂ = before ++ v := by
      rw [hbody', ← hv, ← List.append_assoc] at hbody₂
      exact (List.append_cancel_right hbody₂).symm
    refine ⟨v ++ l₂.renderInside s, g.after b'.commands, 2, ?_, ?_, Or.inr rfl, ?_, ?_, ?_⟩
    · rw [hrecase, hrecase₂, hbefore₂, Link.render_eq]
      simp
    · intro hm
      rcases List.mem_append.mp hm with hm | hm
      · refine h.admits.close_not_mem_renderInside s ?_
        rw [← hv]
        exact List.mem_append_left _ hm
      · exact h₂.admits.close_not_mem_renderInside s hm
    · rw [hcommands']
      exact drop_two_suffix_after f g _
    · have hlen := h₂.admits.length_inside_le s
      rw [← hv, List.length_append, List.length_append]
      omega
    · intro hplain
      exact absurd h₂.toEnds (h.not_ends_replaced hbody' hplain hlater)

end Block

/-! ## A text cut at a resolved occurrence -/

theorem Cut.recase_text (s : Settings) {p q : Text} (h : Cut p q) :
    recase s (p ++ q) = recase s p ++ recase s q :=
  congrArg Recased.text (h.recase_append s)

/-- The recased text begins with what stands before a resolved occurrence, recased on its own.
Behind it stands what the occurrence has become, `inside` and two closing brackets. -/
theorem recase_at_resolved (s : Settings) {t : Text} {o : Occurrence} (ho : o ∈ resolved t) :
    ∃ inside rest, recase s t = recase s (t.take o.start) ++ (inside ++ ']' :: ']' :: rest) ∧
      ']' ∉ inside ∧ (o.link.renderInside s).length ≤ inside.length + 2 ∧
      ((o.form = .postfixAlias → o.link.PlainAlias) → inside = o.link.renderInside s) := by
  induction t using Cut.text_induction generalizing o with
  | free p hp =>
      rw [resolved_of_free hp] at ho
      exact absurd ho List.not_mem_nil
  | block b =>
      rcases b.exists_first with ⟨f, l, hfinds, hearlier⟩ | hnone
      · obtain ⟨before, hbody⟩ := hfinds.inside
        rw [hfinds.resolved_eq hbody.symm hearlier] at ho
        obtain rfl := List.mem_singleton.mp ho
        have hopen : ']' ∉ before := by
          intro hm
          exact b.body_open (by rw [← hbody]; exact List.mem_append_left _ hm)
        have hbefore : recase s before = before := congrArg Recased.text (recase_unclosed s hopen)
        have htake : b.text.take before.length = before := by
          rw [hfinds.toEnds.text_eq hbody.symm, List.take_left]
        obtain ⟨inside, xs, n, hcascade⟩ := hfinds.exists_cascade s hbody.symm hearlier
        refine ⟨inside, commandsText xs, ?_, hcascade.open_inside, hcascade.length_le,
          hcascade.inside_eq⟩
        rw [htake, hbefore]
        exact congrArg Recased.text hcascade.recase_eq
      · rw [Block.resolved_of_not_ends hnone] at ho
        exact absurd ho List.not_mem_nil
  | append p q hcut ihp ihq =>
      rcases hcut.mem_resolved_append.mp ho with ho | ⟨o', ho', rfl⟩
      · obtain ⟨-, -, -, hlt, hle⟩ := Form.mem_occurrences (mem_resolved_iff.mp ho).1
        obtain ⟨inside, rest, hrecase, hinside⟩ := ihp ho
        refine ⟨inside, rest ++ recase s q, ?_, hinside⟩
        rw [List.take_append_of_le_length (by omega), hcut.recase_text, hrecase]
        simp
      · have htake : (p ++ q).take (o'.shift p.length).start = p ++ q.take o'.start :=
          List.take_length_add_append _
        obtain ⟨inside, rest, hrecase, hinside⟩ := ihq ho'
        refine ⟨inside, rest, ?_, hinside⟩
        rw [htake, (hcut.take o'.start).recase_text, hcut.recase_text, hrecase, List.append_assoc]

end WikiCasing
