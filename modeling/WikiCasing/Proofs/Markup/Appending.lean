import WikiCasing.Proofs.Markup.Insertion

/-!
# Characters put at the end of a settled text

A character at the end of a settled text completes links that end with it, and nothing stands
behind these links that a later pass could go on with. Recasing replaces the first of them; what is
left of the block has no command behind its brackets any more, so that only an inline form can find
another link there, and after that none (`Block.Finds.not_ends_of_commands_nil`). Hence recasing
leaves a settled text again (`settled_recase_concat`), whatever has been typed at its end so far
(`settled_typedOn`). The replacement may well have made a command, where a capital command letter
of an alias is lowered: it is used up in the same run. In the middle of a text this fails, since
there a second command may follow the brackets.
-/

namespace WikiCasing

section

variable (s : Settings)

/-! ## What may follow a cut once it has been recased -/

theorem opensCommand_recaseForms (fs : List Form) (t : Text) :
    opensCommand (recaseForms s fs t).text = opensCommand t := by
  induction fs generalizing t with
  | nil => rfl
  | cons f fs ih =>
      rw [recaseForms_cons]
      exact (ih _).trans (opensCommand_recase s f t)

theorem Cut.recase_right {p q : Text} (h : Cut p q) : Cut p (recase s q) := by
  cases h with
  | lone hw hq =>
      refine .lone hw ?_
      rw [recase, recaseCounted, head?_recaseForms]
      exact hq
  | block hq =>
      refine .block ?_
      rw [recase, recaseCounted, opensCommand_recaseForms]
      exact hq

end

theorem Settled.append {p q : Text} (hcut : Cut p q) (hp : Settled p) (hq : Settled q) :
    Settled (p ++ q) := by
  intro f
  rw [hcut.occurrences_append, hp f, hq f]
  rfl

/-! ## A block at the end of a text -/

namespace Block

variable {b b' : Block} {f : Form} {l : Link} {before : Text} {s : Settings}

theorem settled_of_not_ends (h : ∀ f l, ¬ b.Ends f l) : Settled b.text :=
  fun f => occurrences_of_not_ends (h f)

theorem not_postfix_of_commands_nil (hb : b.commands = []) (hf : f.isPostfix = true) :
    ¬ b.Ends f l := by
  intro h
  obtain ⟨xs, hxs⟩ := h.commands_cons hf
  rw [hb] at hxs
  exact absurd hxs (by simp)

/-- Once a link has been replaced that is no postfix alias link, and no command is left behind the
brackets, the block ends in no link at all. -/
theorem Finds.not_ends_of_commands_nil (h : b.Finds f l) (hf : f ≠ .postfixAlias)
    (hbody' : b'.body = before ++ l.renderInside s) (hb' : b'.commands = []) (g : Form)
    (l' : Link) : ¬ b'.Ends g l' := by
  cases hg : g.isPostfix with
  | true => exact not_postfix_of_commands_nil hb' hg
  | false => exact h.not_inline_replaced hbody' (fun heq => absurd heq hf) hg

theorem Finds.settled_recase (s : Settings) (h : b.Finds f l) (hafter : f.after b.commands = [])
    (hearlier : ∀ g ∈ f.earlier, ∀ l', ¬ b.Ends g l') : Settled (recase s b.text) := by
  obtain ⟨before, hbody⟩ := h.inside
  obtain ⟨b', hbody', hcommands', hrecase⟩ := h.recase_first_pass s hbody.symm hearlier
  rw [hafter] at hcommands'
  rw [recase, hrecase]
  rcases b'.recaseForms_later s f.pairwise_later f.postfixAlias_not_mem_later with hnone | hsome
  · rw [recaseForms_of_not_ends hnone]
    refine settled_of_not_ends (fun g l' => ?_)
    by_cases hf : f = .postfixAlias
    · -- every other form has had its turn after the first
      subst hf
      by_cases hg : g ∈ Form.postfixAlias.later
      · exact hnone g hg l'
      · have hpost : g.isPostfix = true := by
          revert hg
          cases g <;> decide
        exact not_postfix_of_commands_nil hcommands' hpost
    · exact h.not_ends_of_commands_nil hf hbody' hcommands' g l'
  · obtain ⟨g, hg, l₂, before₂, h₂, hbody₂, hrecase₂⟩ := hsome
    obtain ⟨b₂, hbody₂', hcommands₂⟩ := h₂.toEnds.exists_replaced s hbody₂
    have hcommands₂' : b₂.commands = [] := by
      rw [hcommands₂, hcommands']
      exact List.suffix_nil.mp (after_suffix g [])
    have htext : before₂ ++ (l₂.render s ++ commandsText (g.after b'.commands)) = b₂.text := by
      rw [text_of_body hbody₂', hcommands₂]
    rw [hrecase₂, htext]
    have hlater : g ≠ .postfixAlias := by
      rintro rfl
      exact f.postfixAlias_not_mem_later hg
    exact settled_of_not_ends (h₂.not_ends_of_commands_nil hlater hbody₂' hcommands₂')

end Block

/-! ## Texts whose links all end with them -/

/-- A text of which every occurrence ends where the text does is settled by one recasing. -/
theorem settled_recase_of_stop (s : Settings) {t : Text}
    (h : ∀ f : Form, ∀ o ∈ f.occurrences t, o.stop = t.length) : Settled (recase s t) := by
  induction t using Cut.text_induction with
  | free p hp =>
      rw [recase, recase_of_free s hp]
      exact settled_of_free hp
  | block b =>
      rcases b.exists_first with ⟨f, l, hfinds, hearlier⟩ | hnone
      · obtain ⟨before, hbody⟩ := hfinds.inside
        refine hfinds.settled_recase s ?_ hearlier
        have hstop := h f ⟨f, before.length, before.length + (f.spell l).length, l⟩
          (by rw [hfinds.occurrences hbody.symm]; exact List.mem_singleton_self _)
        rw [hfinds.toEnds.text_eq hbody.symm] at hstop
        simp only [List.length_append] at hstop
        cases hafter : f.after b.commands with
        | nil => rfl
        | cons x xs =>
            rw [hafter, commandsText_cons, List.length_cons] at hstop
            omega
      · rw [recase, Block.recase_of_not_ends hnone]
        exact Block.settled_of_not_ends hnone
  | append p q hcut ihp ihq =>
      rcases List.eq_nil_or_concat q with rfl | ⟨q', c, rfl⟩
      · rw [List.append_nil] at h ⊢
        exact ihp h
      · -- an occurrence before the cut would end before the text does
        have hp : Settled p := by
          intro f
          refine List.eq_nil_iff_forall_not_mem.mpr (fun o ho => ?_)
          obtain ⟨-, -, -, -, hle⟩ := Form.mem_occurrences ho
          have hstop := h f o (by rw [hcut.occurrences_append]; exact List.mem_append_left _ ho)
          simp only [List.length_append, List.concat_eq_append, List.length_singleton] at hstop
          omega
        have hq := ihq (by
          intro f o ho
          have hstop := h f (o.shift p.length)
            (by rw [hcut.occurrences_append]
                exact List.mem_append_right _ (List.mem_map_of_mem ho))
          rw [Occurrence.shift_stop, List.length_append] at hstop
          omega)
        have hrecase : recase s (p ++ q'.concat c) = p ++ recase s (q'.concat c) := by
          rw [hcut.recase_text, recase, hp.recase s]
        rw [hrecase]
        exact hp.append (hcut.recase_right s) hq

/-! ## Typing at the end -/

/-- A text to which characters have been put one by one, each time recased under the settings of
the moment. -/
def typedOn (t : Text) (keys : List (Settings × Char)) : Text :=
  keys.foldl (fun t key => recase key.1 (t ++ [key.2])) t

theorem settled_recase_char {t : Text} (ht : Settled t) (s : Settings) (c : Char) :
    Settled (recase s (t ++ [c])) := by
  refine settled_recase_of_stop s (fun f o ho => ?_)
  have htext : t.take t.length ++ c :: t.drop t.length = t ++ [c] := by simp
  have hcovers := ht.covers_insertion (Nat.le_refl _) c (by rw [htext]; exact ho)
  obtain ⟨-, -, -, -, hle⟩ := Form.mem_occurrences ho
  rw [Occurrence.covers_iff] at hcovers
  rw [List.length_append, List.length_singleton] at hle ⊢
  omega

theorem settled_typedOn {t : Text} (ht : Settled t) (keys : List (Settings × Char)) :
    Settled (typedOn t keys) := by
  induction keys generalizing t with
  | nil => exact ht
  | cons key keys ih => exact ih (settled_recase_char ht key.1 key.2)

/-- A settled text to which a character is put at the end is settled once it has been recased,
under whatever settings. So it stays, however many characters follow, and a second pass after any
of them has nothing to do. -/
theorem settled_recase_concat {t : Text} (ht : Settled t) :
    (∀ (s : Settings) (c : Char), Settled (recase s (t ++ [c]))) ∧
      ∀ keys : List (Settings × Char), Settled (typedOn t keys) ∧
        ∀ s : Settings, recaseCounted s (typedOn t keys) = ⟨typedOn t keys, 0⟩ :=
  ⟨settled_recase_char ht, fun keys =>
    ⟨settled_typedOn ht keys, (settled_typedOn ht keys).recase⟩⟩

/-- Lowering an alias makes a command of `\U`, which is used up before the run is over. -/
theorem settled_recase_concat_new_command :
    let t := "\\ [[a|x\\U]]\\".toList
    let keys := [(Settings.standard, 'l'), (Settings.standard, '\\'), (Settings.standard, 'u')]
    Settled t ∧ recase .standard (t ++ ['l']) = "\\ [[a|X]]".toList ∧
      Settled (recase .standard (t ++ ['l'])) ∧
      typedOn t keys = "\\ [[a|X]]".toList ∧ Settled (typedOn t keys) := by
  intro t keys
  have ht : Settled t := by
    intro f
    cases f <;> decide +kernel
  obtain ⟨hone, hall⟩ := settled_recase_concat ht
  exact ⟨ht, by decide +kernel, hone .standard 'l', by decide +kernel, (hall keys).1⟩

/-- A character in the middle of a settled text may leave another link to recase. -/
example :
    let t := "[[a|b]\\u\\l".toList
    recase .standard t = t ∧
      recase .standard (t.take 6 ++ ']' :: t.drop 6) = "[[a|B]]\\l".toList := by
  decide +kernel

end WikiCasing
