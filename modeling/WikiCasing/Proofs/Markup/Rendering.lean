import WikiCasing.Markup.Recase
import WikiCasing.Proofs.Markup.Spelling

/-!
# The replacement of a link

A replacement is a wiki link again: two opening brackets, a target, perhaps a bar and an alias, two
closing brackets. Compared with the spelling that it replaces it has one backslash less and as many
closing brackets (`count_backslash_render`, `count_close_render`), since casing keeps the signs of
the alias and a target without an alias has no backslash to duplicate. Where the run that ends the
replacement holds no backslash, the replacement does not end in a command
(`not_command_suffix_renderInside`), so that no form with the command inside the brackets can read
it.
-/

namespace WikiCasing

namespace Link

variable (s : Settings)

/-- What the replacement of a link spells before its closing brackets. -/
def renderInside (l : Link) : Text :=
  match l.alias? with
  | some shown =>
    '[' :: '[' :: (l.target ++ '|' :: Casing.apply l.command s.firstWordOnly shown)
  | none =>
    let shown := Casing.apply l.command s.firstWordOnly l.target
    if shown = l.target then '[' :: '[' :: l.target
    else '[' :: '[' :: (l.target ++ '|' :: shown)

theorem render_eq (l : Link) : l.render s = l.renderInside s ++ [']', ']'] := by
  obtain ⟨target, alias?, x⟩ := l
  cases alias? with
  | some shown => simp [render, renderInside, aliasedLink]
  | none =>
      simp only [render, renderInside]
      split
      · simp [plainLink]
      · simp [aliasedLink]

/-- What may be said of the inside of a replacement follows from its three shapes. -/
theorem renderInside_cases {P : Text → Prop} (l : Link)
    (aliased : ∀ shown, l.alias? = some shown →
      P ('[' :: '[' :: (l.target ++ '|' :: Casing.apply l.command s.firstWordOnly shown)))
    (same : l.alias? = none → P ('[' :: '[' :: l.target))
    (bare : l.alias? = none →
      P ('[' :: '[' :: (l.target ++ '|' :: Casing.apply l.command s.firstWordOnly l.target))) :
    P (l.renderInside s) := by
  unfold renderInside
  split
  · rename_i shown h
    exact aliased shown h
  · rename_i h
    dsimp only
    split
    · exact same h
    · exact bare h

end Link

namespace Form

variable {f : Form} {l : Link} (s : Settings)

theorem Admits.target_ne_nil (h : f.Admits l) : l.target ≠ [] := by
  cases h <;> assumption

theorem Admits.close_not_mem_target (h : f.Admits l) : ']' ∉ l.target := by
  intro hm
  cases h with
  | aliased _ _ htarget _ _ => exact (targetChar_ne (htarget _ hm)).1 rfl
  | bare _ _ htarget => exact (targetChar_ne (htarget _ hm)).1 rfl

theorem Admits.close_not_mem_alias (h : f.Admits l) {shown : Text} (ha : l.alias? = some shown) :
    ']' ∉ shown := by
  intro hm
  cases h with
  | aliased _ _ _ _ hshown =>
      cases ha
      exact aliasChar_ne (hshown _ hm) rfl
  | bare => exact absurd ha (by simp)

theorem Admits.backslash_not_mem_target (h : f.Admits l) (ha : l.alias? = none) :
    '\\' ∉ l.target := by
  intro hm
  cases h with
  | aliased => exact absurd ha (by simp)
  | bare hf _ htarget =>
      have hc := htarget _ hm
      simp [targetChar, hf] at hc

theorem Admits.close_not_mem_renderInside (h : f.Admits l) : ']' ∉ l.renderInside s := by
  have ht := h.close_not_mem_target
  refine l.renderInside_cases (P := fun t => ']' ∉ t) s ?_ ?_ ?_
  · intro shown ha
    have hshown := h.close_not_mem_alias ha
    simp [ht, Casing.mem_apply_iff, hshown, (by decide : isSign ']' = true)]
  · intro _
    simp [ht]
  · intro _
    simp [ht, Casing.mem_apply_iff, (by decide : isSign ']' = true)]

/-! ## Accounting -/

theorem count_backslash_closing (f : Form) (x : Command) : (f.closing x).count '\\' = 1 := by
  cases f <;> cases x <;> rfl

/-- A replacement has one backslash less than the spelling that it replaces: the command's. -/
theorem Admits.count_backslash_render (h : f.Admits l) :
    (l.render s).count '\\' + 1 = (f.spell l).count '\\' := by
  have hsign : isSign '\\' = true := by decide
  cases h with
  | @aliased target shown x hf hne htarget hane hshown =>
      simp [Link.render, aliasedLink, spell, hf, List.count_append, count_backslash_closing,
        Casing.count_apply _ _ _ hsign, Nat.add_assoc]
  | @bare target x hf hne htarget =>
      have ht : target.count '\\' = 0 :=
        List.count_eq_zero.mpr ((Admits.bare (x := x) hf hne htarget).backslash_not_mem_target rfl)
      simp only [Link.render, spell, hf, Bool.false_eq_true, if_false]
      split
      · simp [plainLink, List.count_append, count_backslash_closing, ht]
      · simp [aliasedLink, List.count_append, count_backslash_closing, ht,
          Casing.count_apply _ _ _ hsign]

theorem Admits.count_close_render (h : f.Admits l) :
    (l.render s).count ']' = (f.spell l).count ']' := by
  have hrender : (l.render s).count ']' = 2 := by
    rw [Link.render_eq, List.count_append,
      List.count_eq_zero.mpr (h.close_not_mem_renderInside s)]
    rfl
  have hbehind : (f.behind l.command).count ']' = 0 := by
    cases f <;> cases l.command <;> rfl
  rw [hrender, spell_eq, List.count_append, List.count_eq_zero.mpr h.close_not_mem_inside,
    List.count_cons_self, List.count_cons_self, hbehind]

/-! ## The end of a replacement -/

theorem not_backslash_suffix {p v : Text} {c d : Char} (hne : v ≠ []) (hv : '\\' ∉ v)
    (hd : d ≠ '\\') : ¬ ['\\', c] <:+ p ++ d :: v := by
  intro h
  rcases List.suffix_or_suffix_of_suffix h (List.suffix_append p (d :: v)) with hshort | hlong
  · rcases List.suffix_cons_iff.mp hshort with heq | hsuffix
    · exact hd (List.cons.inj heq).1.symm
    · exact hv (hsuffix.subset List.mem_cons_self)
  · rcases List.suffix_cons_iff.mp hlong with heq | hsuffix
    · exact hd (List.cons.inj heq).1
    · have hlen := hsuffix.length_le
      simp only [List.length_cons, List.length_nil] at hlen
      exact hne (List.eq_nil_of_length_eq_zero (by omega))

theorem Admits.not_command_suffix_renderInside (h : f.Admits l)
    (ha : ∀ shown, l.alias? = some shown → '\\' ∉ shown) (p : Text) (c : Char) :
    ¬ ['\\', c] <:+ p ++ l.renderInside s := by
  have hsign : isSign '\\' = true := by decide
  have hcased : ∀ t : Text, t ≠ [] → '\\' ∉ t →
      ¬ ['\\', c] <:+ p ++ '[' :: '[' :: (l.target ++
        '|' :: Casing.apply l.command s.firstWordOnly t) := by
    intro t hne ht
    have hcut : p ++ '[' :: '[' :: (l.target ++ '|' :: Casing.apply l.command s.firstWordOnly t) =
        (p ++ '[' :: '[' :: l.target) ++ '|' :: Casing.apply l.command s.firstWordOnly t := by
      simp
    rw [hcut]
    refine not_backslash_suffix ?_ ?_ (by decide)
    · rw [Ne, Casing.apply_eq_nil_iff]
      exact hne
    · rw [Casing.mem_apply_iff _ _ _ hsign]
      exact ht
  refine l.renderInside_cases (P := fun t => ¬ ['\\', c] <:+ p ++ t) s ?_ ?_ ?_
  · intro shown hshown
    refine hcased shown ?_ (ha shown hshown)
    cases h with
    | aliased _ _ _ hane _ =>
        cases hshown
        exact hane
    | bare => exact absurd hshown (by simp)
  · intro hnone
    have hcut : p ++ '[' :: '[' :: l.target = (p ++ ['[']) ++ '[' :: l.target := by
      simp
    rw [hcut]
    exact not_backslash_suffix h.target_ne_nil (h.backslash_not_mem_target hnone) (by decide)
  · intro hnone
    exact hcased l.target h.target_ne_nil (h.backslash_not_mem_target hnone)

end Form

end WikiCasing
