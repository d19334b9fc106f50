import Mathlib.Data.List.Chain
import WikiCasing.Proofs.Casing.Stability
import WikiCasing.Proofs.Markup.Change

/-!
# What the first-word setting matters to

The setting limits lowering to the first word, so it can only matter to the lower command. But a
pass may be over a text that an earlier one has made, and casing can make commands: capital casing
turns `\L` into `\l`. It never makes one out of anything else. So in a text in which no backslash
stands right before an l, small or capital, there is none after any pass, and all that is ever
recased there is recased alike under either setting (`firstWord_irrelevant`).

`Lowerless` is that invariant. Whether it is kept is asked of a piece of a text in whatever
surroundings (`Spares`), and so it can be answered piece by piece: character by character for a
transform, link by link for a pass.
-/

namespace WikiCasing

/-- The letter l, small and capital. -/
def els : Text := ['l', 'L']

/-- No backslash stands right before an l. -/
def Lowerless (t : Text) : Prop := t.IsChain fun c d => c = '\\' → d ∉ els

variable {p q t u v : Text} {c : Char} {s s' : Settings} {f : Form} {l : Link}

theorem lowerless_iff : Lowerless t ↔ ∀ c ∈ els, ¬ ['\\', c] <:+: t := by
  rw [Lowerless, List.isChain_iff_forall_rel_of_append_cons_cons]
  constructor
  · rintro h c hc ⟨p, q, rfl⟩
    have hcut : p ++ ['\\', c] ++ q = p ++ '\\' :: c :: q := by simp
    exact h hcut rfl hc
  · rintro h _ d p q rfl rfl hd
    exact h d hd ⟨p, q, by simp⟩

theorem Lowerless.piece (h : Lowerless t) (hu : u <:+: t) : Lowerless u := List.IsChain.infix h hu

/-- Where a text is cut at a character that is no part of a command, the two sides do not matter to
each other. -/
theorem lowerless_append_cons (hc : c ≠ '\\') (hel : c ∉ els) :
    Lowerless (p ++ c :: q) ↔ Lowerless p ∧ Lowerless q := by
  simp only [Lowerless, List.isChain_append, List.isChain_cons, List.head?_cons, Option.mem_def,
    Option.some.injEq]
  constructor
  · rintro ⟨hp, ⟨-, hq⟩, -⟩
    exact ⟨hp, hq⟩
  · rintro ⟨hp, hq⟩
    exact ⟨hp, ⟨fun _ _ h => absurd h hc, hq⟩, fun _ _ _ h _ => h ▸ hel⟩

/-- One text may stand in place of another: this brings no backslash before an l, whatever stands
around it. -/
def Spares (t u : Text) : Prop := ∀ p q, Lowerless (p ++ t ++ q) → Lowerless (p ++ u ++ q)

theorem Spares.refl (t : Text) : Spares t t := fun _ _ h => h

theorem Spares.trans (h : Spares t u) (h' : Spares u v) : Spares t v :=
  fun p q ht => h' p q (h p q ht)

theorem Spares.append {t' u' : Text} (h : Spares t u) (h' : Spares t' u') :
    Spares (t ++ t') (u ++ u') := by
  intro p q ht
  have hfirst : Lowerless (p ++ u ++ (t' ++ q)) := h p (t' ++ q) (by simpa using ht)
  have hboth : Lowerless (p ++ u ++ u' ++ q) := h' (p ++ u) q (by simpa using hfirst)
  simpa using hboth

theorem Spares.lowerless (h : Spares t u) (ht : Lowerless t) : Lowerless u := by
  simpa using h [] [] (by simpa using ht)

/-! ## Casing -/

section Tables

open Unicode

/-- The code points of the letter. -/
def elCodes : List Nat := els.map Char.toNat

/-- The run moves nothing but the letter to the letter. -/
def CaseRun.keepsEls (r : CaseRun) : Bool :=
  elCodes.all fun n => n < r.image || r.imageEnd < n || decide (r.first + (n - r.image) ∈ elCodes)

/-- The expansion does not begin with the letter. -/
def startsPlainly (e : Nat × List Nat) : Bool := e.2.head?.all fun n => n ∉ elCodes

theorem mem_els_iff : c ∈ els ↔ c.toNat ∈ elCodes := by
  constructor
  · exact List.mem_map_of_mem
  · intro h
    obtain ⟨d, hd, heq⟩ := List.mem_map.mp h
    rwa [← Char.toNat_inj.mp heq]

theorem mem_elCodes_of_ofNat {n : Nat} (h : Char.ofNat n ∈ els) : n ∈ elCodes := by
  rw [mem_els_iff] at h
  rcases toNat_ofNat_eq_or n with hn | hn
  · rwa [hn] at h
  · rw [hn] at h
    exact absurd h (by decide)

theorem lowerRuns_keepEls : (lowerRuns.all CaseRun.keepsEls) = true := by
  decide +kernel

theorem upperRuns_keepEls : (upperRuns.all CaseRun.keepsEls) = true := by
  decide +kernel

theorem lowerExpansions_startPlainly : (lowerExpansions.all startsPlainly) = true := by
  decide +kernel

theorem upperExpansions_startPlainly : (upperExpansions.all startsPlainly) = true := by
  decide +kernel

theorem mem_els_of_head?_mapChar {es : List (Nat × List Nat)} {rs : List CaseRun}
    (hes : es.all startsPlainly = true) (hrs : rs.all CaseRun.keepsEls = true) :
    ∀ d ∈ (mapChar es rs c).head?, d ∈ els → c ∈ els := by
  apply mapChar_induction (P := fun v => ∀ d ∈ v.head?, d ∈ els → c ∈ els)
  · rintro - d hd hel
    rwa [Option.mem_some.mp hd]
  · intro image himage d hd hel
    rw [List.head?_map] at hd
    obtain ⟨n, hn, rfl⟩ := Option.map_eq_some_iff.mp hd
    have hplain := List.all_eq_true.mp hes _ himage
    rw [startsPlainly, hn, Option.all_some, decide_eq_true_eq] at hplain
    exact absurd (mem_elCodes_of_ofNat hel) hplain
  · intro r hr hmoves d hd hel
    obtain rfl := Option.mem_some.mp hd
    have hkeeps := List.all_eq_true.mp (List.all_eq_true.mp hrs r hr) _ (mem_elCodes_of_ofNat hel)
    simp only [Bool.or_eq_true, decide_eq_true_eq] at hkeeps
    have hlo : r.image ≤ r.imageOf c.toNat := CaseRun.image_le_imageOf
    have hhi := CaseRun.imageOf_le_imageEnd hmoves
    obtain ⟨⟨hfirst, -⟩, -⟩ := CaseRun.moves_iff.mp hmoves
    have hback : r.first + (r.imageOf c.toNat - r.image) = c.toNat := by
      rw [CaseRun.imageOf, Nat.add_sub_cancel_left, Nat.add_sub_cancel' hfirst]
    rw [hback] at hkeeps
    exact mem_els_iff.mpr (hkeeps.resolve_left (by omega))

/-- A faithful image spares what it stands for if it begins with the letter only in its place. -/
theorem Faithful.spares (h : Faithful c v) (hhead : ∀ d ∈ v.head?, d ∈ els → c ∈ els) :
    Spares [c] v := by
  intro p q ht
  cases hc : isSign c with
  | true => rwa [h.sign hc]
  | false =>
      have hv : ∀ x ∈ v, x ≠ '\\' := by
        rintro x hx rfl
        exact absurd (h.plain hc _ hx) (by decide)
      simp only [Lowerless, List.append_assoc, List.isChain_append, List.singleton_append,
        List.isChain_cons, List.head?_cons, Option.mem_def, Option.some.injEq] at ht ⊢
      obtain ⟨hp, ⟨-, hq⟩, hboundary⟩ := ht
      refine ⟨hp, ⟨?_, hq, ?_⟩, ?_⟩
      · exact lowerless_iff.mpr fun d _ hd => hv _ (hd.subset List.mem_cons_self) rfl
      · intro x hx _ _ hback
        exact absurd hback (hv x (List.mem_of_getLast? hx))
      · intro x hx y hy hback hel
        rw [List.head?_append_of_ne_nil _ h.ne_nil] at hy
        exact hboundary x hx c rfl hback (hhead y hy hel)

theorem spares_lowerChar (c : Char) : Spares [c] (lowerChar c) :=
  (lowerChar_faithful c).spares
    (mem_els_of_head?_mapChar lowerExpansions_startPlainly lowerRuns_keepEls)

theorem spares_upperChar (c : Char) : Spares [c] (upperChar c) :=
  (upperChar_faithful c).spares
    (mem_els_of_head?_mapChar upperExpansions_startPlainly upperRuns_keepEls)

end Tables

namespace Casing

theorem LowerForm.spares {image : Text} (h : LowerForm c image) : Spares [c] image := by
  rcases h with rfl | ⟨rfl, rfl⟩
  · exact spares_lowerChar c
  · have hfinal : Faithful 'Σ' ['ς'] :=
      .of_plain (by decide) (by simp) (List.forall_mem_singleton.mpr (by decide))
    exact hfinal.spares fun d hd hel => absurd hel (by cases hd; decide)

theorem LowersTo.spares (h : LowersTo t u) : Spares t u := by
  induction h with
  | nil => exact .refl []
  | cons hc _ ih => exact hc.spares.append ih

theorem spares_raised (marks : List (Char × Bool)) :
    Spares (marks.map Prod.fst) (raised marks) := by
  induction marks with
  | nil => exact .refl []
  | cons p marks ih =>
      rw [raised_cons, List.map_cons]
      refine Spares.append (t := [p.1]) ?_ ih
      split
      · exact spares_upperChar p.1
      · exact .refl [p.1]

theorem Marking.spares {mark : Text → List (Char × Bool)} (h : Marking mark) (t : Text) :
    Spares t (raiseMarked mark t) := by
  have hraised := spares_raised (mark (lower t))
  rw [h.map_fst] at hraised
  exact (lowersTo_lower t).spares.trans hraised

theorem spares_upper (t : Text) : Spares t (upper t) := by
  have hall : upper t = raised (t.map (·, true)) := by
    rw [upper, raised, List.flatMap_map]
    rfl
  have hfst : (t.map (·, true)).map Prod.fst = t := by
    rw [List.map_map]
    exact List.map_id t
  have hraised := spares_raised (t.map (·, true))
  rwa [hfst, ← hall] at hraised

/-- A command other than the lower one spares what it cases, whatever the setting. -/
theorem spares_apply {x : Command} (hx : x ≠ .lower) (b : Bool) (t : Text) :
    Spares t (apply x b t) := by
  cases x with
  | lower => exact absurd rfl hx
  | upper => exact spares_upper t
  | title =>
      show Spares t (title t)
      rw [title_eq_raiseMarked]
      exact marking_marked.spares t
  | capital =>
      show Spares t (capital t)
      rw [capital_eq_raiseMarked]
      exact marking_markedFirst.spares t

theorem apply_eq_apply {x : Command} (hx : x ≠ .lower) (b b' : Bool) (t : Text) :
    apply x b t = apply x b' t := by
  cases x with
  | lower => exact absurd rfl hx
  | upper | title | capital => rfl

end Casing

/-! ## Replacement -/

theorem Lowerless.command_ne (h : Lowerless (p ++ f.spell l ++ q)) : l.command ≠ .lower := by
  intro hlower
  refine lowerless_iff.mp h 'l' (by decide) ?_
  have hclosing : ['\\', 'l'] <:+: f.closing l.command := by
    rw [hlower]
    cases f <;> decide
  have hspell : f.closing l.command <:+: f.spell l := by
    unfold Form.spell
    split
    · exact ⟨'[' :: '[' :: (l.target ++ '|' :: l.alias?.getD []), [], by simp⟩
    · exact ⟨'[' :: '[' :: l.target, [], by simp⟩
  exact hclosing.trans (hspell.trans ⟨p, q, rfl⟩)

theorem lowerless_plainLink :
    Lowerless (p ++ plainLink t ++ q) ↔ Lowerless p ∧ Lowerless t ∧ Lowerless q := by
  have hcut : p ++ plainLink t ++ q =
      p ++ '[' :: ([] ++ '[' :: (t ++ ']' :: ([] ++ ']' :: q))) := by
    simp [plainLink]
  have hnil : Lowerless [] := .nil
  rw [hcut, lowerless_append_cons (by decide) (by decide), lowerless_append_cons (by decide)
    (by decide), lowerless_append_cons (by decide) (by decide), lowerless_append_cons (by decide)
    (by decide), and_iff_right hnil, and_iff_right hnil]

theorem lowerless_aliasedLink : Lowerless (p ++ aliasedLink t u ++ q) ↔
    Lowerless p ∧ Lowerless t ∧ Lowerless u ∧ Lowerless q := by
  have hcut : p ++ aliasedLink t u ++ q = p ++ plainLink (t ++ '|' :: u) ++ q := by
    simp [plainLink, aliasedLink]
  rw [hcut, lowerless_plainLink, lowerless_append_cons (by decide) (by decide), and_assoc]

theorem Form.Admits.spares_render (hl : f.Admits l) (s : Settings) :
    Spares (f.spell l) (l.render s) := by
  intro p q h
  have hcased := Casing.spares_apply h.command_ne s.firstWordOnly
  have hp : Lowerless p := h.piece ⟨[], f.spell l ++ q, by simp⟩
  have hq : Lowerless q := h.piece ⟨p ++ f.spell l, [], by simp⟩
  have hspell : Lowerless (f.spell l) := h.piece ⟨p, q, rfl⟩
  have ht : Lowerless l.target := by
    refine hspell.piece ?_
    unfold Form.spell
    split
    · exact ⟨['[', '['], '|' :: (l.alias?.getD [] ++ f.closing l.command), by simp⟩
    · exact ⟨['[', '['], f.closing l.command, by simp⟩
  cases hl with
  | @aliased target shown x hf =>
      have hshown : Lowerless shown :=
        hspell.piece ⟨'[' :: '[' :: (target ++ ['|']), f.closing x, by simp [Form.spell, hf]⟩
      exact lowerless_aliasedLink.mpr ⟨hp, ht, (hcased shown).lowerless hshown, hq⟩
  | bare =>
      unfold Link.render
      dsimp only
      split
      · exact lowerless_plainLink.mpr ⟨hp, ht, hq⟩
      · exact lowerless_aliasedLink.mpr ⟨hp, ht, (hcased _).lowerless ht, hq⟩

theorem Link.render_eq_render (h : l.command ≠ .lower) (s s' : Settings) :
    l.render s = l.render s' := by
  simp only [render, Casing.apply_eq_apply h s.firstWordOnly s'.firstWordOnly]

/-! ## Passes -/

theorem Form.spares_recase (f : Form) (s : Settings) (t : Text) :
    Spares t (f.recase s t).text := by
  induction t using scan_induction f with
  | nil => exact .refl []
  | plain c t h ih =>
      rw [recase_cons_of_none s h]
      exact (Spares.refl [c]).append ih
  | link l t hl ih =>
      rw [recase_spell_append s hl]
      exact (hl.spares_render s).append ih

namespace Lowerless

theorem form_recase_eq (h : Lowerless t) (f : Form) (s s' : Settings) :
    f.recase s t = f.recase s' t := by
  induction t using Form.scan_induction f with
  | nil => rfl
  | plain c t hread ih =>
      rw [Form.recase_cons_of_none s hread, Form.recase_cons_of_none s' hread,
        ih (h.piece (List.suffix_cons c t).isInfix)]
  | link l t hl ih =>
      have hne : l.command ≠ .lower := command_ne (p := []) h
      rw [Form.recase_spell_append s hl, Form.recase_spell_append s' hl,
        l.render_eq_render hne s s', ih (h.piece (List.suffix_append _ t).isInfix)]

/-- The forms, one after the other, replace alike under any settings, and bring no backslash before
an l. -/
theorem recaseForms_eq (h : Lowerless t) (fs : List Form) (s s' : Settings) :
    recaseForms s fs t = recaseForms s' fs t ∧ Lowerless (recaseForms s fs t).text := by
  induction fs generalizing t with
  | nil => exact ⟨rfl, h⟩
  | cons f fs ih =>
      obtain ⟨heq, hafter⟩ := ih ((f.spares_recase s t).lowerless h)
      rw [recaseForms_cons, recaseForms_cons, ← h.form_recase_eq f s s', ← heq]
      exact ⟨rfl, hafter⟩

theorem recaseCounted_eq (h : Lowerless t) (s s' : Settings) :
    recaseCounted s t = recaseCounted s' t := (h.recaseForms_eq Form.all s s').1

theorem recase (h : Lowerless t) (s : Settings) : Lowerless (recase s t) :=
  (h.recaseForms_eq Form.all s s).2

theorem settle (h : Lowerless t) (ss : List Settings) : Lowerless (settle ss t) := by
  induction ss generalizing t with
  | nil => exact h
  | cons s ss ih => exact ih (h.recase s)

theorem passesUnder_eq {ss ss' : List Settings} (h : Lowerless t)
    (hlength : ss.length = ss'.length) : passesUnder ss t = passesUnder ss' t := by
  induction ss generalizing t ss' with
  | nil =>
      obtain rfl := List.eq_nil_of_length_eq_zero hlength.symm
      rfl
  | cons s ss ih =>
      obtain ⟨s', ss', rfl⟩ := List.exists_cons_of_length_eq_add_one hlength.symm
      have hrest : passesUnder ss (recaseCounted s t).text = passesUnder ss' _ :=
        ih (h.recase s) (Nat.succ.inj hlength)
      rw [passesUnder, passesUnder, ← h.recaseCounted_eq s s', hrest]

theorem plan_eq (h : Lowerless t) (s s' : Settings) (caret : Int) :
    plan s t caret = plan s' t caret := by
  have hsame : WikiCasing.recase s t = WikiCasing.recase s' t :=
    congrArg Recased.text (h.recaseCounted_eq s s')
  have hlanding : ∀ o ∈ enclosing? t caret, o.landing s t = o.landing s' t := by
    intro o ho
    obtain ⟨hmem, -, -⟩ := of_enclosing? ho
    obtain ⟨p, q, hcut, -⟩ := Form.exists_cut_of_mem_occurrences hmem
    have hne : o.link.command ≠ .lower := command_ne (p := p) (q := q) (by simpa [hcut] using h)
    have hbefore : Lowerless (t.take o.start) := h.piece (List.take_prefix _ t).isInfix
    rw [Occurrence.landing, Occurrence.landing, WikiCasing.recase, hbefore.recaseCounted_eq s s',
      o.link.render_eq_render hne s s', WikiCasing.recase]
  rw [WikiCasing.plan_eq, WikiCasing.plan_eq, hsame, Option.map_congr hlanding]

end Lowerless

/-- In a text in which no backslash stands right before an l, small or capital, the first-word
setting matters to nothing: all texts and counts of any number of passes are the same with it and
without it, and so is the plan for any caret. This goes on to hold when the setting changes between
passes, since no pass brings a backslash before an l. -/
theorem firstWord_irrelevant (hsmall : ¬ ['\\', 'l'] <:+: t) (hcapital : ¬ ['\\', 'L'] <:+: t) :
    recaseCounted ⟨true⟩ t = recaseCounted ⟨false⟩ t ∧
      (∀ n, passes ⟨true⟩ n t = passes ⟨false⟩ n t) ∧
      (∀ caret, plan ⟨true⟩ t caret = plan ⟨false⟩ t caret) ∧
      ∀ ss ss' : List Settings, ss.length = ss'.length →
        passesUnder ss t = passesUnder ss' t ∧
        ¬ ['\\', 'l'] <:+: settle ss t ∧ ¬ ['\\', 'L'] <:+: settle ss t ∧
        ∀ caret, plan ⟨true⟩ (settle ss t) caret = plan ⟨false⟩ (settle ss t) caret := by
  have h : Lowerless t := lowerless_iff.mpr (by simpa [els] using ⟨hsmall, hcapital⟩)
  refine ⟨h.recaseCounted_eq _ _, fun n => ?_, h.plan_eq _ _, fun ss ss' hlength => ?_⟩
  · rw [← passesUnder_replicate, ← passesUnder_replicate]
    exact h.passesUnder_eq (by simp)
  · have hafter := h.settle ss
    exact ⟨h.passesUnder_eq hlength, lowerless_iff.mp hafter 'l' (by decide),
      lowerless_iff.mp hafter 'L' (by decide), hafter.plan_eq _ _⟩

/-- Capital casing makes a command of `\U`, but it is not the lower command. -/
theorem firstWord_irrelevant_new_command :
    let t := "[[a|L B\\U]]\\c [[É l\\t]]".toList
    ¬ ['\\', 'l'] <:+: t ∧ ¬ ['\\', 'L'] <:+: t ∧
      recaseCounted ⟨true⟩ t = ⟨"[[a|L B]] [[É l|É L]]".toList, 3⟩ ∧
      (∀ n, passes ⟨true⟩ n t = passes ⟨false⟩ n t) ∧
      plan ⟨true⟩ t 9 = plan ⟨false⟩ t 9 := by
  intro t
  have hsmall : ¬ ['\\', 'l'] <:+: t := by decide +kernel
  have hcapital : ¬ ['\\', 'L'] <:+: t := by decide +kernel
  obtain ⟨-, hpasses, hplan, -⟩ := firstWord_irrelevant hsmall hcapital
  exact ⟨hsmall, hcapital, by decide +kernel, hpasses, hplan 9⟩

/-- A capital L behind a backslash does matter: capital casing makes a lower command of it, and the
first character, which is raised before that, belongs to no word. -/
example : recase ⟨true⟩ "[[a|ⓐb\\L]]\\c".toList = "[[a|Ⓐb]]".toList ∧
    recase ⟨false⟩ "[[a|ⓐb\\L]]\\c".toList = "[[a|ⓐb]]".toList := by
  decide +kernel

end WikiCasing
