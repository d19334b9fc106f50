import WikiCasing.Markup.Plan
import WikiCasing.Proofs.Markup.Cascade

/-!
# Where the caret lands

A plan computes the place of the caret from a recasing of its own of what stands before the link
that the caret is in, and the text from one recasing of the whole. The two agree
(`plan_lands_behind_replacement`): the link that a caret is in is never swallowed by one of an
earlier form, since the caret would be in that one too (`mem_resolved_of_enclosing?`); and a
recasing of the text up to a resolved occurrence, followed by the replacement of the occurrence,
begins the recasing of the text (`recase_take_append_prefix`).
-/

namespace WikiCasing

/-! ## The occurrence that a caret is in -/

theorem Occurrence.contains_iff {o : Occurrence} {caret : Int} :
    o.contains caret = true ↔ o.start ≤ caret ∧ caret ≤ o.stop := by
  simp [contains, Span.within]

/-- Among occurrences in the order of their starts, the search may stop where one starts behind the
caret. -/
theorem firstAround?_eq_find? {caret : Int} {os : List Occurrence}
    (h : os.Pairwise fun o p => o.start ≤ p.start) :
    firstAround? caret os = os.find? fun o => o.contains caret := by
  induction os with
  | nil => rfl
  | cons o os ih =>
      obtain ⟨ho, hos⟩ := List.pairwise_cons.mp h
      rw [firstAround?]
      split
      · rename_i hin
        rw [List.find?_cons_of_pos (by simp [hin])]
      · rename_i hin
        rw [List.find?_cons_of_neg (by simpa using hin)]
        split
        · rename_i hbefore
          refine (List.find?_eq_none.mpr (fun p hp => ?_)).symm
          have hstart := ho p hp
          rw [Occurrence.contains_iff]
          omega
        · exact ih hos

theorem Form.firstAround?_occurrences (f : Form) (t : Text) (caret : Int) :
    firstAround? caret (f.occurrences t) =
      (f.occurrences t).find? fun o => o.contains caret := by
  refine firstAround?_eq_find? ((f.pairwise_occurrences t).imp_of_mem ?_)
  intro o p ho _ h
  have hlt := (Form.mem_occurrences ho).2.2.2.1
  omega

theorem Form.mem_of_mem_earlier {f g : Form} {fs gs : List Form} (h : all = fs ++ f :: gs)
    (hg : g ∈ f.earlier) : g ∈ fs := by
  rw [earlier, h, List.takeWhile_append] at hg
  split at hg
  · simpa using hg
  · exact (List.takeWhile_prefix _).subset hg

theorem of_enclosing? {t : Text} {caret : Int} {o : Occurrence} (h : enclosing? t caret = some o) :
    o ∈ o.form.occurrences t ∧ o.contains caret = true ∧
      ∀ f ∈ o.form.earlier, ∀ p ∈ f.occurrences t, p.contains caret = false := by
  obtain ⟨fs, f, gs, hall, hfound, hnone⟩ := List.findSome?_eq_some_iff.mp h
  rw [Form.firstAround?_occurrences] at hfound
  have hmem := List.mem_of_find?_eq_some hfound
  obtain rfl := (Form.mem_occurrences hmem).1
  have hin : o.contains caret = true := by simpa using List.find?_some hfound
  refine ⟨hmem, hin, fun g hg p hp => ?_⟩
  have hg := hnone g (Form.mem_of_mem_earlier hall hg)
  rw [Form.firstAround?_occurrences, List.find?_eq_none] at hg
  exact Bool.eq_false_iff.mpr (hg p hp)

theorem exists_enclosing? {f : Form} {t : Text} {caret : Int} {o : Occurrence}
    (ho : o ∈ f.occurrences t) (hin : o.contains caret = true) :
    ∃ p, enclosing? t caret = some p := by
  refine Option.ne_none_iff_exists'.mp (fun hnone => ?_)
  have hf := List.findSome?_eq_none_iff.mp hnone f f.mem_all
  rw [Form.firstAround?_occurrences] at hf
  exact List.find?_eq_none.mp hf o ho hin

/-- An occurrence that a caret is in is not swallowed: what swallows it holds the caret too. -/
theorem mem_resolved_of_enclosing? {t : Text} {caret : Int} {o : Occurrence}
    (h : enclosing? t caret = some o) : o ∈ resolved t := by
  obtain ⟨hmem, hin, hearlier⟩ := of_enclosing? h
  refine mem_resolved_iff.mpr ⟨hmem, List.any_eq_false.mpr (fun f hf hany => ?_)⟩
  obtain ⟨p, hp, hwithin⟩ := List.any_eq_true.mp hany
  have hout := hearlier f hf p hp
  have hin' : p.contains caret = true := by
    rw [Occurrence.contains_iff] at *
    rw [Occurrence.within_iff] at hwithin
    omega
  rw [hin'] at hout
  exact Bool.noConfusion hout

/-! ## The recasing up to an occurrence -/

variable (s : Settings)

/-- What stands before a resolved occurrence, recased on its own, and the replacement of the
occurrence begin the recased text. -/
theorem recase_take_append_prefix {t : Text} {o : Occurrence} (ho : o ∈ resolved t)
    (hplain : o.form = .postfixAlias → o.link.PlainAlias) :
    recase s (t.take o.start) ++ o.link.render s <+: recase s t := by
  obtain ⟨inside, rest, hrecase, -, -, hinside⟩ := recase_at_resolved s ho
  refine ⟨rest, ?_⟩
  rw [hrecase, hinside hplain, Link.render_eq]
  simp

/-- The caret of a plan stands right behind the closing brackets of the replacement of the link
that it was in, in the recasing of the whole text: before it stand the recasing of the text up to
the link and the replacement. A postfix alias link is to have a plain alias. -/
theorem plan_lands_behind_replacement {t : Text} {caret : Int} {o : Occurrence}
    (ho : (plan s t caret).occurrence = some o)
    (hplain : o.form = .postfixAlias → o.link.PlainAlias) :
    (plan s t caret).text = recase s t ∧
      recase s (t.take o.start) ++ o.link.render s <+: (plan s t caret).text ∧
      (plan s t caret).caret = some (recase s (t.take o.start) ++ o.link.render s).length ∧
      [']', ']'] <:+ o.link.render s := by
  have hclose : [']', ']'] <:+ o.link.render s := by
    rw [Link.render_eq]
    exact List.suffix_append _ _
  unfold plan at *
  dsimp only at *
  split at ho
  · exact absurd ho (by simp)
  · rename_i hchanged
    rw [if_neg hchanged]
    have hprefix := recase_take_append_prefix s (mem_resolved_of_enclosing? ho) hplain
    refine ⟨rfl, hprefix, ?_, hclose⟩
    dsimp only at ho
    rw [ho, Option.map_some, Occurrence.landing, List.length_append]

/-- A caret in a link that stands behind one which is recased twice. -/
theorem plan_lands_behind_replacement_nested :
    let t := "[[a|b\\C]]\\l [[d]]\\u!".toList
    let o : Occurrence := ⟨.postfixLink, 12, 19, ⟨['d'], none, .upper⟩⟩
    (plan .standard t 15).occurrence = some o ∧ (o.form = .postfixAlias → o.link.PlainAlias) ∧
      (plan .standard t 15).text = recase .standard t ∧
      recase .standard (t.take o.start) ++ o.link.render .standard <+: (plan .standard t 15).text ∧
      (plan .standard t 15).caret =
        some (recase .standard (t.take o.start) ++ o.link.render .standard).length ∧
      [']', ']'] <:+ o.link.render .standard := by
  intro t o
  have ho : (plan .standard t 15).occurrence = some o := by decide +kernel
  have hplain : o.form = .postfixAlias → o.link.PlainAlias := by decide
  exact ⟨ho, hplain, plan_lands_behind_replacement .standard ho hplain⟩

end WikiCasing
