import WikiCasing.Proofs.Markup.Pass

/-!
# Which form a block goes to

A block may end in links of several forms. Two facts settle what becomes of it.

* The links are nested, with the earlier form outermost (`Finds.contains`): a form with an alias
  starts before its bar and a form without one behind every bar; an inline alias link is a postfix
  alias link as well if a command follows; and a body that ends in a command ends in no postfix
  link without an alias, whose target holds no backslash.
* Once the first of these links is replaced, no later form has one
  (`Finds.not_ends_replaced`): the new end of the body is no command, and it has no two
  opening brackets behind its last bar. For a postfix alias link this asks that the alias is plain.

So a block in which the first form to find a link does so with a plain alias is settled by one
replacement (`recase_of_first`).
-/

namespace WikiCasing

/-- The alias, if there is one, holds neither a backslash nor two opening brackets in a row. -/
def Link.PlainAlias (l : Link) : Prop :=
  ∀ shown, l.alias? = some shown → '\\' ∉ shown ∧ ¬ ['[', '['] <:+: shown

instance : DecidablePred Link.PlainAlias := fun l =>
  inferInstanceAs (Decidable (∀ shown ∈ l.alias?, '\\' ∉ shown ∧ ¬ ['[', '['] <:+: shown))

namespace Form

/-- The forms that go before a form. -/
def earlier (f : Form) : List Form := all.takeWhile (· ≠ f)

/-- The forms that come after a form. -/
def later (f : Form) : List Form := (all.dropWhile (· ≠ f)).tail

theorem all_eq (f : Form) : all = f.earlier ++ f :: f.later := by
  cases f <;> rfl

variable {f g : Form} {l : Link}

/-- A form with an alias is not a later form than one without, within the postfix forms and within
the inline ones; and no inline form goes before a postfix one. -/
theorem earlier_cases (h : f ∈ g.earlier) :
    (f.hasAlias = true ∧ g.hasAlias = false) ∨ (f = postfixAlias ∧ g = inlineAlias) ∨
      (f = postfixLink ∧ g.isPostfix = false) := by
  revert h
  cases f <;> cases g <;> decide

theorem isPostfix_of_earlier (h : f ∈ g.earlier) (hg : g.isPostfix = true) :
    f.isPostfix = true := by
  revert h hg
  cases f <;> cases g <;> decide

theorem mem_earlier_of_mem_later (h : g ∈ f.later) : f ∈ g.earlier := by
  revert h
  cases f <;> cases g <;> decide

theorem open_prefix_inside (f : Form) (l : Link) : ['[', '['] <+: f.inside l := ⟨_, rfl⟩

theorem Admits.backslash_not_mem_alias (h : f.Admits l)
    (hplain : f = .postfixAlias → l.PlainAlias) {shown : Text} (ha : l.alias? = some shown) :
    '\\' ∉ shown := by
  intro hm
  cases h with
  | bare => exact absurd ha (by simp)
  | aliased hf _ _ _ hshown =>
      cases ha
      cases f with
      | postfixAlias => exact (hplain rfl _ rfl).1 hm
      | inlineAlias => exact absurd (hshown _ hm) (by decide)
      | postfixLink => exact Bool.noConfusion hf
      | inlineLink => exact Bool.noConfusion hf

theorem inner_suffix_inside (f : Form) (l : Link) : f.inner l.command <:+ f.inside l := by
  refine ⟨'[' :: '[' :: (l.target ++ if f.hasAlias then '|' :: l.alias?.getD [] else []), ?_⟩
  simp [inside]

end Form

namespace Block

variable {b b' : Block} {f g : Form} {l l' : Link} {before : Text}

theorem Ends.command_suffix (h : b.Ends f l) (hf : f.isPostfix = false) :
    ['\\', l.command.letter] <:+ b.body := by
  have hinner : f.inner l.command = ['\\', l.command.letter] := by simp [Form.inner, hf]
  have hsuffix := (Form.inner_suffix_inside f l).trans h.inside
  rwa [hinner] at hsuffix

theorem Ends.not_inline (h : b.Ends .postfixLink l) (hg : g.isPostfix = false) : ¬ b.Ends g l' := by
  intro h'
  have hcommand := h'.command_suffix hg
  obtain ⟨p, hp⟩ := h.inside
  cases h.admits with
  | aliased hf => exact Bool.noConfusion hf
  | @bare target x hf hne htarget =>
      have hcut : b.body = (p ++ ['[']) ++ '[' :: target := by
        simp [← hp, Form.inside_bare hf, Form.inner, Form.isPostfix]
      have hplain := (Form.Admits.bare (x := x) hf hne htarget).backslash_not_mem_target rfl
      rw [hcut] at hcommand
      exact Form.not_backslash_suffix hne hplain (by decide) hcommand

/-- An inline alias link in a block is read as a postfix alias link if a command follows the
brackets, with the inline command as the end of the alias. -/
theorem Ends.postfix_of_inline (h : b.Ends .inlineAlias l) {x : Command} {xs : List Command}
    (hcommands : b.commands = x :: xs) :
    ∃ l', b.Ends .postfixAlias l' ∧ Form.inside .postfixAlias l' = Form.inside .inlineAlias l := by
  have hadmits := h.admits
  have hinside := h.inside
  cases hadmits with
  | bare hf => exact Bool.noConfusion hf
  | @aliased target shown y hf hne htarget hane hshown =>
      have heq : Form.inside .postfixAlias ⟨target, some (shown ++ ['\\', y.letter]), x⟩ =
          Form.inside .inlineAlias ⟨target, some shown, y⟩ := by
        simp [Form.inside, Form.hasAlias, Form.inner, Form.isPostfix]
      refine ⟨_, ⟨.aliased rfl hne htarget (by simp) ?_, ?_, ?_⟩, heq⟩
      · intro c hc
        rcases List.mem_append.mp hc with hc | hc
        · have hclose := Form.aliasChar_ne (hshown c hc)
          simp [Form.aliasChar, Form.isPostfix, hclose]
        · have hletter : y.letter ≠ ']' := y.letter_ne (by decide)
          simp only [List.mem_cons, List.not_mem_nil, or_false] at hc
          rcases hc with rfl | rfl
          · decide
          · simp [Form.aliasChar, Form.isPostfix, hletter]
      · rw [heq]
        exact hinside
      · rw [hcommands]
        exact ⟨commandsText xs, by simp [Form.behind, Form.isPostfix]⟩

theorem Ends.commands_cons (h : b.Ends f l) (hf : f.isPostfix = true) :
    ∃ xs, b.commands = l.command :: xs := by
  have hbehind := h.behind
  rw [Form.behind, if_pos hf] at hbehind
  cases hx : b.commands with
  | nil =>
      rw [hx] at hbehind
      exact absurd hbehind (by simp)
  | cons x xs =>
      rw [hx] at hbehind
      simp only [commandsText_cons, List.cons_prefix_cons, true_and, List.nil_prefix,
        and_true] at hbehind
      have heq := congrArg Command.ofLetter? hbehind
      simp only [Command.ofLetter?_letter, Option.some.injEq] at heq
      exact ⟨xs, by rw [heq]⟩

/-- Of the links that a block ends in, that of the earlier form contains that of the later. -/
theorem Finds.contains (h : b.Finds f l) (hf : f ∈ g.earlier) (h' : b.Ends g l') :
    g.inside l' <:+ f.inside l := by
  rcases Form.earlier_cases hf with ⟨hfa, hga⟩ | ⟨rfl, rfl⟩ | ⟨rfl, hg⟩
  · rcases List.suffix_or_suffix_of_suffix h'.inside h.inside with hsuffix | hsuffix
    · exact hsuffix
    · have hbar := hsuffix.subset (h.admits.bar_mem_inside_iff.mpr hfa)
      rw [h'.admits.bar_mem_inside_iff.mp hbar] at hga
      exact Bool.noConfusion hga
  · obtain ⟨xs, hxs⟩ := h.toEnds.commands_cons rfl
    obtain ⟨l'', hends, hinside⟩ := h'.postfix_of_inline hxs
    rw [← hinside]
    exact h.first l'' hends
  · exact absurd h' (h.toEnds.not_inline hg)

theorem Finds.not_inline_replaced {s : Settings} (h : b.Finds f l)
    (hbody' : b'.body = before ++ l.renderInside s) (hplain : f = .postfixAlias → l.PlainAlias)
    (hg : g.isPostfix = false) : ¬ b'.Ends g l' := by
  intro h'
  have hcommand := h'.command_suffix hg
  rw [hbody'] at hcommand
  refine h.admits.not_command_suffix_renderInside s (fun shown ha => ?_) before _ hcommand
  exact h.admits.backslash_not_mem_alias hplain ha

theorem not_bare_replaced {s : Settings} {shown : Text} (ha : l.alias? = some shown)
    (hopen : ¬ ['[', '['] <:+: shown) (hbody' : b'.body = before ++ l.renderInside s)
    (hg : g.hasAlias = false) : ¬ b'.Ends g l' := by
  intro h'
  have hcut : b'.body = (before ++ '[' :: '[' :: l.target) ++
      '|' :: Casing.apply l.command s.firstWordOnly shown := by
    simp [hbody', Link.renderInside, ha]
  have hinside := h'.inside
  rw [hcut] at hinside
  have hbar : '|' ∉ g.inside l' := by
    rw [h'.admits.bar_mem_inside_iff, hg]
    exact Bool.false_ne_true
  rcases List.suffix_or_suffix_of_suffix hinside (List.suffix_append _ _) with hin | hin
  · rcases List.suffix_cons_iff.mp hin with heq | hin
    · exact hbar (by rw [heq]; exact List.mem_cons_self)
    · have hpair : ['[', '['] <:+: Casing.apply l.command s.firstWordOnly shown :=
        (Form.open_prefix_inside g l').isInfix.trans hin.isInfix
      rw [Casing.infix_apply _ _ _ (List.all_eq_true.mp (by decide)) (by decide)] at hpair
      exact hopen hpair
  · exact hbar (hin.subset List.mem_cons_self)

/-- Once a link with a plain alias has been replaced, the block ends in no link of a later form. -/
theorem Finds.not_ends_replaced {s : Settings} (h : b.Finds f l)
    (hbody' : b'.body = before ++ l.renderInside s) (hplain : f = .postfixAlias → l.PlainAlias)
    (hg : f ∈ g.earlier) : ¬ b'.Ends g l' := by
  cases hpost : g.isPostfix with
  | false => exact h.not_inline_replaced hbody' hplain hpost
  | true =>
      -- of the two postfix forms, that with an alias goes first
      obtain ⟨rfl, rfl⟩ : f = .postfixAlias ∧ g = .postfixLink := by
        revert hg hpost
        cases f <;> cases g <;> decide
      cases ha : l.alias? with
      | none =>
          cases h.admits with
          | aliased => exact absurd ha (by simp)
          | bare hf => exact Bool.noConfusion hf
      | some shown => exact not_bare_replaced ha (hplain rfl shown ha).2 hbody' rfl

/-! ## Blocks settled by one replacement -/

variable {s : Settings}

theorem recaseForms_of_not_ends {fs : List Form} (h : ∀ f ∈ fs, ∀ l, ¬ b.Ends f l) :
    recaseForms s fs b.text = ⟨b.text, 0⟩ :=
  recaseForms_of_occurrences_nil s (fun f hf => occurrences_of_not_ends (h f hf))

theorem recase_of_not_ends (h : ∀ f l, ¬ b.Ends f l) : recaseCounted s b.text = ⟨b.text, 0⟩ :=
  recaseForms_of_not_ends (fun f _ => h f)

/-- The first form that finds a link in a block replaces it, and the forms after it go on with the
block that this makes. -/
theorem Finds.recase_first_pass (s : Settings) (h : b.Finds f l)
    (hbody : b.body = before ++ f.inside l) (hearlier : ∀ g ∈ f.earlier, ∀ l', ¬ b.Ends g l') :
    ∃ b' : Block, b'.body = before ++ l.renderInside s ∧ b'.commands = f.after b.commands ∧
      recaseCounted s b.text = ⟨(recaseForms s f.later b'.text).text,
        1 + (recaseForms s f.later b'.text).count⟩ := by
  obtain ⟨b', hbody', hcommands', hpass⟩ := h.recase_eq s hbody
  refine ⟨b', hbody', hcommands', ?_⟩
  rw [recaseCounted, Form.all_eq f, recaseForms_append, recaseForms_of_not_ends hearlier,
    recaseForms_cons, hpass]
  simp only [Nat.zero_add]

theorem text_of_body (hbody : b.body = before ++ l.renderInside s) :
    b.text = before ++ (l.render s ++ commandsText b.commands) := by
  simp [text, hbody, Link.render_eq]

theorem Finds.recase_of_first (h : b.Finds f l) (hbody : b.body = before ++ f.inside l)
    (hearlier : ∀ g ∈ f.earlier, ∀ l', ¬ b.Ends g l')
    (hplain : f = .postfixAlias → l.PlainAlias) :
    recaseCounted s b.text =
      ⟨before ++ (l.render s ++ commandsText (f.after b.commands)), 1⟩ := by
  obtain ⟨b', hbody', hcommands', hrecase⟩ := h.recase_first_pass s hbody hearlier
  have hlater : recaseForms s f.later b'.text = ⟨b'.text, 0⟩ :=
    recaseForms_of_not_ends (fun g hg l' =>
      h.not_ends_replaced hbody' hplain (Form.mem_earlier_of_mem_later hg))
  have htext : b'.text = before ++ (l.render s ++ commandsText (f.after b.commands)) := by
    rw [text_of_body hbody', hcommands']
  rw [hrecase, hlater, htext]
  rfl

end Block

end WikiCasing
