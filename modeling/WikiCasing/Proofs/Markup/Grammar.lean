import WikiCasing.Proofs.Markup.Scan

/-!
# What the scan accepts

The grammar of the four forms, written out (`Form.Spelling`), and the links that a scan locates.
Every located link is spelled where it is located, and no spelling goes unnoticed: a scan that has
passed over the start of a spelling did so within a link that ends with it
(`spell_length_of_overlap`). This is because a link goes on behind its first closing bracket for a
fixed number of characters, none of which is an opening bracket. So where a spelling ends, a located
link ends (`exists_occurrence_of_spelling`). The two directions together are `occurrences_exact`.
-/

namespace WikiCasing

namespace Form

/-- The grammar: what a form writes for a link, and which characters it allows where. -/
inductive Spelling : Form → Link → Text → Prop
  | postfixAlias {target shown : Text} {x : Command} :
      target ≠ [] → (∀ c ∈ target, c ≠ ']' ∧ c ≠ '|') → shown ≠ [] → (∀ c ∈ shown, c ≠ ']') →
      Spelling .postfixAlias ⟨target, some shown, x⟩
        ("[[".toList ++ target ++ "|".toList ++ shown ++ "]]\\".toList ++ [x.letter])
  | postfixLink {target : Text} {x : Command} :
      target ≠ [] → (∀ c ∈ target, c ≠ ']' ∧ c ≠ '|' ∧ c ≠ '\\') →
      Spelling .postfixLink ⟨target, none, x⟩
        ("[[".toList ++ target ++ "]]\\".toList ++ [x.letter])
  | inlineAlias {target shown : Text} {x : Command} :
      target ≠ [] → (∀ c ∈ target, c ≠ ']' ∧ c ≠ '|') → shown ≠ [] →
      (∀ c ∈ shown, c ≠ ']' ∧ c ≠ '\\') →
      Spelling .inlineAlias ⟨target, some shown, x⟩
        ("[[".toList ++ target ++ "|".toList ++ shown ++ "\\".toList ++ [x.letter] ++ "]]".toList)
  | inlineLink {target : Text} {x : Command} :
      target ≠ [] → (∀ c ∈ target, c ≠ ']' ∧ c ≠ '|' ∧ c ≠ '\\') →
      Spelling .inlineLink ⟨target, none, x⟩
        ("[[".toList ++ target ++ "\\".toList ++ [x.letter] ++ "]]".toList)

variable {f : Form} {l l' : Link} {t u p q r : Text}

theorem Spelling.admits (h : f.Spelling l u) : f.Admits l ∧ u = f.spell l := by
  cases h with
  | postfixAlias hne htarget hane hshown =>
      refine ⟨.aliased rfl hne ?_ hane ?_, ?_⟩
      · simpa [targetChar, hasAlias] using htarget
      · simpa [aliasChar, isPostfix] using hshown
      · simp [spell, hasAlias, closing, isPostfix]
  | postfixLink hne htarget =>
      refine ⟨.bare rfl hne ?_, ?_⟩
      · simpa [targetChar, hasAlias, and_assoc] using htarget
      · simp [spell, hasAlias, closing, isPostfix]
  | inlineAlias hne htarget hane hshown =>
      refine ⟨.aliased rfl hne ?_ hane ?_, ?_⟩
      · simpa [targetChar, hasAlias] using htarget
      · simpa [aliasChar, isPostfix] using hshown
      · simp [spell, hasAlias, closing, isPostfix]
  | inlineLink hne htarget =>
      refine ⟨.bare rfl hne ?_, ?_⟩
      · simpa [targetChar, hasAlias, and_assoc] using htarget
      · simp [spell, hasAlias, closing, isPostfix]

theorem Admits.spelling (h : f.Admits l) : f.Spelling l (f.spell l) := by
  cases h with
  | @aliased target shown x hf hne htarget hane hshown =>
      cases f with
      | postfixAlias =>
          have hspell := Spelling.postfixAlias (x := x) hne
            (by simpa [targetChar, hasAlias] using htarget) hane
            (by simpa [aliasChar, isPostfix] using hshown)
          simpa [spell, hasAlias, closing, isPostfix] using hspell
      | inlineAlias =>
          have hspell := Spelling.inlineAlias (x := x) hne
            (by simpa [targetChar, hasAlias] using htarget) hane
            (by simpa [aliasChar, isPostfix] using hshown)
          simpa [spell, hasAlias, closing, isPostfix] using hspell
      | postfixLink => exact Bool.noConfusion hf
      | inlineLink => exact Bool.noConfusion hf
  | @bare target x hf hne htarget =>
      cases f with
      | postfixLink =>
          have hspell := Spelling.postfixLink (x := x) hne
            (by simpa [targetChar, hasAlias, and_assoc] using htarget)
          simpa [spell, hasAlias, closing, isPostfix] using hspell
      | inlineLink =>
          have hspell := Spelling.inlineLink (x := x) hne
            (by simpa [targetChar, hasAlias, and_assoc] using htarget)
          simpa [spell, hasAlias, closing, isPostfix] using hspell
      | postfixAlias => exact Bool.noConfusion hf
      | inlineAlias => exact Bool.noConfusion hf

theorem spelling_iff : f.Spelling l u ↔ f.Admits l ∧ u = f.spell l :=
  ⟨Spelling.admits, fun ⟨h, hu⟩ => hu ▸ h.spelling⟩

/-! ## Spellings that run into each other -/

theorem open_not_mem_behind (f : Form) (x : Command) : '[' ∉ f.behind x := by
  unfold behind
  split
  · simp [(x.letter_ne (c := '[') (by decide)).symm]
  · exact List.not_mem_nil

/-- A spelling that begins within another one ends where that one ends. -/
theorem spell_length_of_overlap (hl : f.Admits l) (hl' : f.Admits l')
    (h : f.spell l' ++ r = p ++ (f.spell l ++ q)) (hp : p.length < (f.spell l').length) :
    p.length + (f.spell l).length = (f.spell l').length := by
  rcases Nat.le_total p.length (f.inside l').length with hle | hle
  · -- up to the first closing bracket of the outer spelling there is none, so it is that of both
    have hbefore : p <+: f.inside l' := by
      have hspell : f.inside l' <+: p ++ (f.spell l ++ q) := by
        rw [← h, spell_eq, List.append_assoc]
        exact List.prefix_append _ _
      exact List.prefix_of_prefix_length_le (List.prefix_append _ _) hspell hle
    have hopen : ']' ∉ p ++ f.inside l := by
      rw [List.mem_append, not_or]
      exact ⟨fun hm => hl'.close_not_mem_inside (hbefore.subset hm), hl.close_not_mem_inside⟩
    rw [spell_eq, spell_eq, List.append_assoc, List.append_assoc, ← List.append_assoc p] at h
    obtain ⟨hinside, -⟩ := Text.cut_unique hl'.close_not_mem_inside hopen h
    rw [length_spell, length_spell, hinside, List.length_append, Nat.add_assoc]
  · -- behind its first closing bracket no other spelling begins
    have hhead : (f.spell l')[p.length]? = some '[' := by
      have hleft : (f.spell l' ++ r)[p.length]? = (f.spell l')[p.length]? :=
        List.getElem?_append_left hp
      rw [← hleft, h, List.getElem?_append_right (Nat.le_refl _), Nat.sub_self, spell_eq]
      rfl
    have hnot : '[' ∉ ']' :: ']' :: f.behind l'.command := by
      simp [f.open_not_mem_behind l'.command]
    rw [spell_eq, List.getElem?_append_right hle] at hhead
    exact absurd (List.mem_of_getElem? hhead) hnot

/-! ## Completeness -/

theorem occurrences_spell_append (hl : f.Admits l) (t : Text) :
    f.occurrences (f.spell l ++ t) = ⟨f, 0, (f.spell l).length, l⟩ ::
      (f.occurrences t).map (Occurrence.shift (f.spell l).length) := by
  rw [occurrences, segments_spell_append hl, locate, Nat.zero_add, locate_eq_map_shift]
  rfl

/-- Where a spelling ends in a text, a located link ends that starts no later. -/
theorem exists_occurrence_of_spelling (hl : f.Admits l) (h : t = p ++ (f.spell l ++ q)) :
    ∃ o ∈ f.occurrences t, o.stop = p.length + (f.spell l).length ∧ o.start ≤ p.length := by
  induction t using scan_induction f generalizing p with
  | nil =>
      have hpos := spell_length_pos f l
      have hlen := congrArg List.length h
      simp only [List.length_nil, List.length_append] at hlen
      omega
  | plain c t hread ih =>
      cases p with
      | nil =>
          rw [h, List.nil_append, read?_spell hl] at hread
          exact absurd hread (by simp)
      | cons d p =>
          obtain ⟨o, ho, hstop, hstart⟩ := ih (List.cons.inj h).2
          refine ⟨o.shift 1, ?_, ?_, ?_⟩
          · rw [occurrences_cons_of_none hread]
            exact List.mem_map_of_mem ho
          · rw [Occurrence.shift_stop, hstop, List.length_cons]
            omega
          · rw [Occurrence.shift_start, List.length_cons]
            omega
  | link l' t hl' ih =>
      rw [occurrences_spell_append hl']
      by_cases hp : p.length < (f.spell l').length
      -- the spelling begins within the link that the scan has found, and ends with it
      · have hlen := spell_length_of_overlap hl hl' h hp
        exact ⟨_, List.mem_cons_self, hlen.symm, Nat.zero_le _⟩
      · have hbefore : f.spell l' <+: p := by
          have hspell : f.spell l' <+: p ++ (f.spell l ++ q) := by
            rw [← h]
            exact List.prefix_append _ _
          exact List.prefix_of_prefix_length_le hspell (List.prefix_append _ _) (by omega)
        obtain ⟨p, rfl⟩ := hbefore
        rw [List.append_assoc] at h
        obtain ⟨o, ho, hstop, hstart⟩ := ih (List.append_cancel_left h)
        refine ⟨o.shift (f.spell l').length, ?_, ?_, ?_⟩
        · exact List.mem_cons_of_mem _ (List.mem_map_of_mem ho)
        · rw [Occurrence.shift_stop, hstop, List.length_append, Nat.add_assoc]
        · rw [Occurrence.shift_start, List.length_append]
          omega

/-! ## The grammar and the scan -/

theorem spelling_of_mem_occurrences {o : Occurrence} (ho : o ∈ f.occurrences t) :
    f.Spelling o.link (t.extract o.start o.stop) := by
  obtain ⟨-, hl, hstop, -, -⟩ := mem_occurrences ho
  obtain ⟨p, q, rfl, hstart⟩ := exists_cut_of_mem_occurrences ho
  refine spelling_iff.mpr ⟨hl, ?_⟩
  rw [List.extract_eq_take_drop, hstop, Nat.add_sub_cancel_left, hstart, List.drop_left,
    List.take_left]

end Form

open Form in
/-- The occurrences of a form stand one behind the other without overlap, each is a spelling by the
grammar of the link that it names, and every spelling in the text ends where one of them ends that
starts no later. -/
theorem occurrences_exact (f : Form) (t : Text) :
    (f.occurrences t).Pairwise (fun o p => o.stop ≤ p.start) ∧
      (∀ o ∈ f.occurrences t, o.form = f ∧ o.start < o.stop ∧ o.stop ≤ t.length ∧
        f.Spelling o.link (t.extract o.start o.stop)) ∧
      ∀ l i j, j ≤ t.length → f.Spelling l (t.extract i j) →
        ∃ o ∈ f.occurrences t, o.stop = j ∧ o.start ≤ i := by
  refine ⟨f.pairwise_occurrences t, fun o ho => ?_, fun l i j hj hspelling => ?_⟩
  · obtain ⟨hform, -, -, hlt, hle⟩ := mem_occurrences ho
    exact ⟨hform, hlt, hle, spelling_of_mem_occurrences ho⟩
  · obtain ⟨hl, hspell⟩ := spelling_iff.mp hspelling
    have hpos := f.spell_length_pos l
    rw [List.extract_eq_take_drop] at hspell
    have hlen := congrArg List.length hspell
    rw [List.length_take, List.length_drop] at hlen
    have hcut : t = t.take i ++ (f.spell l ++ t.drop j) := by
      have hdrop : (t.drop i).drop (j - i) = t.drop j := by
        rw [List.drop_drop]
        congr 1
        omega
      rw [← hspell, ← hdrop, List.take_append_drop, List.take_append_drop]
    obtain ⟨o, ho, hstop, hstart⟩ := exists_occurrence_of_spelling hl hcut
    rw [List.length_take_of_le (by omega)] at hstop hstart
    exact ⟨o, ho, by omega, hstart⟩

/-- Of two spellings that end together only the outer one is located. -/
example : Form.postfixLink.occurrences "[[a[[b]]\\l".toList =
    [⟨.postfixLink, 0, 10, ⟨"a[[b".toList, none, .lower⟩⟩] := by
  decide +kernel

end WikiCasing
