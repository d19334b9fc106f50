import Mathlib.Data.List.Perm.Basic
import WikiCasing.Proofs.Markup.Precedence

/-!
# The occurrences that are replaced

The forms of a text may overlap: a link of one form may stand in the span of a link of another. An
occurrence is `swallowed` if its span lies within the span of an occurrence of an earlier form, and
`resolved` if it is not. A cut of a text is one of its resolved occurrences
(`Cut.resolved_append`), and a block has at most one of them, that of the first form that finds a
link there (`Block.Finds.resolved_eq`).
-/

namespace WikiCasing

/-- The span of an occurrence lies within that of another. -/
def Occurrence.within (o p : Occurrence) : Bool := p.start ≤ o.start && o.stop ≤ p.stop

theorem Occurrence.within_iff {o p : Occurrence} :
    o.within p = true ↔ p.start ≤ o.start ∧ o.stop ≤ p.stop := by
  simp [Occurrence.within]

/-- The span of the occurrence lies within that of an occurrence of an earlier form. -/
def swallowed (t : Text) (o : Occurrence) : Bool :=
  o.form.earlier.any fun f => (f.occurrences t).any fun p => o.within p

/-- The occurrences of all forms that are not swallowed. -/
def resolved (t : Text) : List Occurrence :=
  Form.all.flatMap fun f => (f.occurrences t).filter fun o => !swallowed t o

theorem mem_resolved_iff {t : Text} {o : Occurrence} :
    o ∈ resolved t ↔ o ∈ o.form.occurrences t ∧ swallowed t o = false := by
  simp only [resolved, List.mem_flatMap, List.mem_filter, Bool.not_eq_true']
  constructor
  · rintro ⟨f, -, ho, hs⟩
    obtain rfl := (Form.mem_occurrences ho).1
    exact ⟨ho, hs⟩
  · rintro ⟨ho, hs⟩
    exact ⟨o.form, o.form.mem_all, ho, hs⟩

theorem resolved_of_free {p : Text} (h : ∀ f : Form, f.Free p []) : resolved p = [] := by
  refine List.flatMap_eq_nil_iff.mpr (fun f _ => ?_)
  rw [Form.occurrences_of_free (h f), List.filter_nil]

/-! ## Cuts -/

namespace Cut

variable {p q : Text} {f : Form} {o : Occurrence}

theorem occurrences_append (h : Cut p q) (f : Form) :
    f.occurrences (p ++ q) =
      f.occurrences p ++ (f.occurrences q).map (Occurrence.shift p.length) :=
  Form.occurrences_append (h.segments_append f)

theorem swallowed_left (h : Cut p q) (ho : o ∈ f.occurrences p) :
    swallowed (p ++ q) o = swallowed p o := by
  obtain ⟨-, -, -, hlt, hle⟩ := Form.mem_occurrences ho
  have hright : ∀ g : Form,
      ((g.occurrences q).map (Occurrence.shift p.length)).any (fun p => o.within p) = false := by
    intro g
    rw [List.any_map, List.any_eq_false]
    intro o' _
    rw [Function.comp_apply, Occurrence.within_iff, Occurrence.shift_start]
    omega
  unfold swallowed
  simp only [h.occurrences_append, List.any_append, hright, Bool.or_false]

theorem swallowed_right (h : Cut p q) (ho : o ∈ f.occurrences q) :
    swallowed (p ++ q) (o.shift p.length) = swallowed q o := by
  obtain ⟨-, -, -, hlt, -⟩ := Form.mem_occurrences ho
  have hleft : ∀ g : Form,
      (g.occurrences p).any (fun o' => (o.shift p.length).within o') = false := by
    intro g
    rw [List.any_eq_false]
    intro o' ho'
    obtain ⟨-, -, -, -, hle⟩ := Form.mem_occurrences ho'
    rw [Occurrence.within_iff, Occurrence.shift_stop]
    omega
  have hshift : ∀ o' : Occurrence,
      (o.shift p.length).within (o'.shift p.length) = o.within o' := by
    intro o'
    simp [Occurrence.within]
  unfold swallowed
  simp only [h.occurrences_append, List.any_append, hleft, Bool.false_or, List.any_map]
  simp only [Function.comp_def, hshift]
  rfl

/-- The resolved occurrences of a text that is cut are those of the two parts. -/
theorem resolved_append (h : Cut p q) :
    (resolved (p ++ q)).Perm (resolved p ++ (resolved q).map (Occurrence.shift p.length)) := by
  have hform : ∀ f : Form, (f.occurrences (p ++ q)).filter (fun o => !swallowed (p ++ q) o) =
      (f.occurrences p).filter (fun o => !swallowed p o) ++
        ((f.occurrences q).filter fun o => !swallowed q o).map (Occurrence.shift p.length) := by
    intro f
    rw [h.occurrences_append, List.filter_append, List.filter_map]
    congr 1
    · refine List.filter_congr (fun o ho => ?_)
      rw [h.swallowed_left ho]
    · refine congrArg _ (List.filter_congr (fun o ho => ?_))
      rw [Function.comp_apply, h.swallowed_right ho]
  simp only [resolved, hform, List.map_flatMap]
  exact (List.flatMap_append_perm Form.all _ _).symm

theorem mem_resolved_append (h : Cut p q) :
    o ∈ resolved (p ++ q) ↔ o ∈ resolved p ∨ ∃ o' ∈ resolved q, o'.shift p.length = o := by
  rw [h.resolved_append.mem_iff, List.mem_append, List.mem_map]

end Cut

/-! ## Blocks -/

namespace Block

variable {b : Block} {f g : Form} {l l' : Link} {before before' : Text}

theorem exists_first (b : Block) :
    (∃ f l, b.Finds f l ∧ ∀ g ∈ f.earlier, ∀ l', ¬ b.Ends g l') ∨ ∀ f l, ¬ b.Ends f l := by
  rcases b.finds_or_not_ends .postfixAlias with ⟨l, h⟩ | h₁
  · exact Or.inl ⟨_, l, h, by simp [Form.earlier, Form.all]⟩
  rcases b.finds_or_not_ends .postfixLink with ⟨l, h⟩ | h₂
  · exact Or.inl ⟨_, l, h, by simpa [Form.earlier, Form.all] using h₁⟩
  rcases b.finds_or_not_ends .inlineAlias with ⟨l, h⟩ | h₃
  · exact Or.inl ⟨_, l, h, by simpa [Form.earlier, Form.all] using ⟨h₁, h₂⟩⟩
  rcases b.finds_or_not_ends .inlineLink with ⟨l, h⟩ | h₄
  · exact Or.inl ⟨_, l, h, by simpa [Form.earlier, Form.all] using ⟨h₁, h₂, h₃⟩⟩
  refine Or.inr (fun f => ?_)
  cases f <;> assumption

theorem length_eq_of_body (hbody : b.body = before ++ f.inside l) :
    before.length + (f.spell l).length = b.body.length + if f.isPostfix then 4 else 2 := by
  rw [f.length_spell, hbody, List.length_append, Nat.add_assoc]

theorem Finds.within (h : b.Finds f l) (hbody : b.body = before ++ f.inside l)
    (hg : f ∈ g.earlier) (h' : b.Finds g l') (hbody' : b.body = before' ++ g.inside l') :
    (⟨g, before'.length, before'.length + (g.spell l').length, l'⟩ : Occurrence).within
      ⟨f, before.length, before.length + (f.spell l).length, l⟩ = true := by
  have hinside := (h.contains hg h'.toEnds).length_le
  have hlen := congrArg List.length (hbody.symm.trans hbody')
  simp only [List.length_append] at hlen
  have hstop := length_eq_of_body hbody
  have hstop' := length_eq_of_body hbody'
  have hpost : (if g.isPostfix then 4 else 2) ≤ if f.isPostfix then 4 else 2 := by
    split
    · rename_i hgp
      rw [if_pos (Form.isPostfix_of_earlier hg hgp)]
    · split <;> decide
  rw [Occurrence.within_iff]
  dsimp only
  omega

/-- Of the occurrences in a block, that of the first form that finds a link is resolved, and no
other. -/
theorem Finds.resolved_eq (h : b.Finds f l) (hbody : b.body = before ++ f.inside l)
    (hearlier : ∀ g ∈ f.earlier, ∀ l', ¬ b.Ends g l') :
    resolved b.text = [⟨f, before.length, before.length + (f.spell l).length, l⟩] := by
  have hfirst : swallowed b.text ⟨f, before.length, before.length + (f.spell l).length, l⟩ =
      false := by
    refine List.any_eq_false.mpr (fun g hg => ?_)
    simp [occurrences_of_not_ends (hearlier g hg)]
  have hbefore : (f.earlier.flatMap fun g =>
      (g.occurrences b.text).filter fun o => !swallowed b.text o) = [] := by
    refine List.flatMap_eq_nil_iff.mpr (fun g hg => ?_)
    rw [occurrences_of_not_ends (hearlier g hg), List.filter_nil]
  have hafter : (f.later.flatMap fun g =>
      (g.occurrences b.text).filter fun o => !swallowed b.text o) = [] := by
    refine List.flatMap_eq_nil_iff.mpr (fun g hg => ?_)
    have hg := Form.mem_earlier_of_mem_later hg
    rcases b.finds_or_not_ends g with ⟨l', h'⟩ | hnone
    · obtain ⟨before', hbody'⟩ := h'.inside
      have hwithin := h.within hbody hg h' hbody'.symm
      have hswallowed : swallowed b.text
          ⟨g, before'.length, before'.length + (g.spell l').length, l'⟩ = true := by
        refine List.any_eq_true.mpr ⟨f, hg, ?_⟩
        rw [h.occurrences hbody]
        simpa using hwithin
      rw [h'.occurrences hbody'.symm]
      simp [hswallowed]
    · rw [occurrences_of_not_ends hnone, List.filter_nil]
  rw [resolved, Form.all_eq f, List.flatMap_append, List.flatMap_cons, hbefore, hafter,
    h.occurrences hbody]
  simp [hfirst]

theorem resolved_of_not_ends (h : ∀ f l, ¬ b.Ends f l) : resolved b.text = [] :=
  resolved_of_free (fun f => Form.free_block rfl (h f))

end Block

end WikiCasing
