import Mathlib.Data.List.Infix
import WikiCasing.Proofs.Markup.Insertion

/-!
# Occurrences that overlap

Each form is located on its own, so the spans of two occurrences may have characters in common.
Where they have, the two stand in one block of the text (`exists_block_of_covers`), and with that
they close at the same brackets. Within the block the order of the forms decides: the occurrence of
the earlier form starts no later and stops no earlier than the other one (`within_of_covers`), so no
two spans overlap in part, and there is no overlap at all of a postfix link without an alias and an
inline link (`isPostfix_of_covers`). The whole is `overlapping_nested`.
-/

namespace WikiCasing

variable {t : Text} {f g : Form} {o p : Occurrence} {i : Nat}

/-! ## The block that two occurrences share -/

@[simp] theorem Occurrence.shift_zero (o : Occurrence) : o.shift 0 = o := by
  simp [shift]

theorem Occurrence.shift_shift (n m : Nat) (o : Occurrence) :
    (o.shift n).shift m = o.shift (m + n) := by
  simp [shift, Nat.add_assoc]

theorem Occurrence.covers_shift {n : Nat} (h : (o.shift n).covers i = true) :
    n ≤ i ∧ o.covers (i - n) = true := by
  rw [covers_iff, shift_start, shift_stop] at h
  rw [covers_iff]
  omega

theorem Form.lt_length_of_covers (ho : o ∈ f.occurrences t) (hi : o.covers i = true) :
    i < t.length := by
  have hstop := (mem_occurrences ho).2.2.2.2
  rw [Occurrence.covers_iff] at hi
  omega

theorem Cut.mem_occurrences_append {u v : Text} (h : Cut u v) :
    o ∈ f.occurrences (u ++ v) ↔
      o ∈ f.occurrences u ∨ ∃ o' ∈ f.occurrences v, o'.shift u.length = o := by
  rw [h.occurrences_append, List.mem_append, List.mem_map]

/-- Two occurrences with a character in common are occurrences of one block of the text. -/
theorem exists_block_of_covers (ho : o ∈ f.occurrences t) (hp : p ∈ g.occurrences t)
    (hi : o.covers i = true) (hi' : p.covers i = true) :
    ∃ (b : Block) (n : Nat), b.text <+: t.drop n ∧
      (∃ o' ∈ f.occurrences b.text, o'.shift n = o) ∧
      ∃ p' ∈ g.occurrences b.text, p'.shift n = p := by
  induction t using Cut.text_induction generalizing o p i with
  | free u hu =>
      rw [Form.occurrences_of_free (hu f)] at ho
      exact absurd ho List.not_mem_nil
  | block b => exact ⟨b, 0, List.prefix_rfl, ⟨o, ho, o.shift_zero⟩, p, hp, p.shift_zero⟩
  | append u v hcut ihu ihv =>
      rcases hcut.mem_occurrences_append.mp ho with ho | ⟨o', ho', rfl⟩ <;>
        rcases hcut.mem_occurrences_append.mp hp with hp | ⟨p', hp', rfl⟩
      · obtain ⟨b, n, hblock, ho', hp'⟩ := ihu ho hp hi hi'
        refine ⟨b, n, ?_, ho', hp'⟩
        rw [List.drop_append]
        exact hblock.trans (List.prefix_append _ _)
      -- occurrences on the two sides of a cut have no character in common
      · have hlt := Form.lt_length_of_covers ho hi
        have hle := (Occurrence.covers_shift hi').1
        omega
      · have hlt := Form.lt_length_of_covers hp hi'
        have hle := (Occurrence.covers_shift hi).1
        omega
      · obtain ⟨b, n, hblock, ⟨o'', ho'', rfl⟩, p'', hp'', rfl⟩ :=
          ihv ho' hp' (Occurrence.covers_shift hi).2 (Occurrence.covers_shift hi').2
        refine ⟨b, u.length + n, ?_, ⟨o'', ho'', ?_⟩, p'', hp'', ?_⟩
        · rwa [List.drop_length_add_append]
        · rw [Occurrence.shift_shift]
        · rw [Occurrence.shift_shift]

namespace Block

variable {b : Block}

theorem within_of_earlier (hf : f ∈ g.earlier) (ho : o ∈ f.occurrences b.text)
    (hp : p ∈ g.occurrences b.text) : p.within o = true := by
  obtain ⟨l, before, h, hbody, rfl⟩ := of_mem_occurrences ho
  obtain ⟨l', before', h', hbody', rfl⟩ := of_mem_occurrences hp
  exact h.within hbody hf h' hbody'

theorem isPostfix_of_postfixLink (ho : o ∈ Form.postfixLink.occurrences b.text)
    (hp : p ∈ g.occurrences b.text) : g.isPostfix = true := by
  obtain ⟨l, before, h, -, -⟩ := of_mem_occurrences ho
  obtain ⟨l', before', h', -, -⟩ := of_mem_occurrences hp
  by_contra hg
  exact h.toEnds.not_inline (by simpa using hg) h'.toEnds

end Block

/-! ## Two occurrences with a character in common -/

theorem eq_of_covers (ho : o ∈ f.occurrences t) (hp : p ∈ f.occurrences t)
    (hi : o.covers i = true) (hi' : p.covers i = true) : o = p := by
  have hapart : (f.occurrences t).Pairwise Occurrence.Apart :=
    (f.pairwise_occurrences t).imp Or.inl
  have hfind := (find?_covers_eq_some_iff hapart).mpr ⟨ho, hi⟩
  rw [(find?_covers_eq_some_iff hapart).mpr ⟨hp, hi'⟩] at hfind
  exact (Option.some.inj hfind).symm

theorem close_eq_of_covers (ho : o ∈ f.occurrences t) (hp : p ∈ g.occurrences t)
    (hi : o.covers i = true) (hi' : p.covers i = true) :
    o.close = p.close ∧ [']', ']'] <+: t.drop o.close := by
  obtain ⟨b, n, hblock, ⟨o', ho', rfl⟩, p', hp', rfl⟩ := exists_block_of_covers ho hp hi hi'
  rw [Occurrence.close_shift ho', Occurrence.close_shift hp', Block.close_eq ho',
    Block.close_eq hp']
  refine ⟨rfl, ?_⟩
  rw [← List.drop_drop]
  exact b.brackets.trans (hblock.drop b.body.length)

/-- The span of that of the earlier form contains that of the other. -/
theorem within_of_covers (hf : f ∈ g.earlier) (ho : o ∈ f.occurrences t) (hp : p ∈ g.occurrences t)
    (hi : o.covers i = true) (hi' : p.covers i = true) : p.within o = true := by
  obtain ⟨b, n, -, ⟨o', ho', rfl⟩, p', hp', rfl⟩ := exists_block_of_covers ho hp hi hi'
  have hwithin := Block.within_of_earlier hf ho' hp'
  rw [Occurrence.within_iff] at hwithin ⊢
  simp only [Occurrence.shift_start, Occurrence.shift_stop]
  omega

theorem isPostfix_of_covers (ho : o ∈ Form.postfixLink.occurrences t) (hp : p ∈ g.occurrences t)
    (hi : o.covers i = true) (hi' : p.covers i = true) : g.isPostfix = true := by
  obtain ⟨b, n, -, ⟨o', ho', -⟩, p', hp', -⟩ := exists_block_of_covers ho hp hi hi'
  exact Block.isPostfix_of_postfixLink ho' hp'

theorem Form.earlier_or_eq_or_earlier (f g : Form) : f ∈ g.earlier ∨ f = g ∨ g ∈ f.earlier := by
  cases f <;> cases g <;> decide

/-- Two occurrences with a character in common are of different forms and close at the same two
brackets, and the span of that of the earlier form contains the span of the other one. Neither is a
postfix link without an alias if the other is an inline link. -/
theorem overlapping_nested (ho : o ∈ o.form.occurrences t) (hp : p ∈ p.form.occurrences t)
    (hne : o ≠ p) (hcommon : ∃ i, o.covers i = true ∧ p.covers i = true) :
    o.form ≠ p.form ∧
      (o.form ∈ p.form.earlier ∧ p.within o = true ∨
        p.form ∈ o.form.earlier ∧ o.within p = true) ∧
      o.close = p.close ∧ [']', ']'] <+: t.drop o.close ∧
      (o.form = .postfixLink → p.form.isPostfix = true) ∧
      (p.form = .postfixLink → o.form.isPostfix = true) := by
  obtain ⟨i, hi, hi'⟩ := hcommon
  have hform : o.form ≠ p.form := fun heq => hne (eq_of_covers (heq ▸ ho) hp hi hi')
  obtain ⟨hclose, hbrackets⟩ := close_eq_of_covers ho hp hi hi'
  refine ⟨hform, ?_, hclose, hbrackets, fun heq => ?_, fun heq => ?_⟩
  · rcases o.form.earlier_or_eq_or_earlier p.form with hearlier | heq | hearlier
    · exact .inl ⟨hearlier, within_of_covers hearlier ho hp hi hi'⟩
    · exact absurd heq hform
    · exact .inr ⟨hearlier, within_of_covers hearlier hp ho hi' hi⟩
  · exact isPostfix_of_covers (heq ▸ ho) hp hi hi'
  · exact isPostfix_of_covers (heq ▸ hp) ho hi' hi

/-- An inline link in the alias of a postfix alias link. -/
theorem overlapping_nested_inner_link :
    let t := "x [[a|b [[c\\u]]\\l".toList
    let o : Occurrence := ⟨.postfixAlias, 2, 17, ⟨['a'], some "b [[c\\u".toList, .lower⟩⟩
    let p : Occurrence := ⟨.inlineLink, 8, 15, ⟨['c'], none, .upper⟩⟩
    o ∈ o.form.occurrences t ∧ p ∈ p.form.occurrences t ∧ o ≠ p ∧
      (∃ i, o.covers i = true ∧ p.covers i = true) ∧ o.form ≠ p.form ∧ o.close = p.close := by
  intro t o p
  have ho : o ∈ o.form.occurrences t := by decide +kernel
  have hp : p ∈ p.form.occurrences t := by decide +kernel
  have hne : o ≠ p := by decide
  have hcommon : ∃ i, o.covers i = true ∧ p.covers i = true := ⟨8, by decide, by decide⟩
  obtain ⟨hform, -, hclose, -⟩ := overlapping_nested ho hp hne hcommon
  exact ⟨ho, hp, hne, hcommon, hform, hclose⟩

end WikiCasing
