import WikiCasing.Proofs.Markup.Block
import WikiCasing.Proofs.Markup.Rendering

/-!
# One pass over a block, and all passes block by block

A pass either leaves a block as it is or replaces the one link found there, which makes it a block
again (`Block.Pass`). Hence the passes of all forms, each over the whole result of the one before,
come to the same as the passes over each block alone (`recase_block_append`). The stretches between
the blocks come through all passes unchanged (`recase_lone_append`, `recase_unclosed`). The two
ways of cutting a text that come of this are a `Cut`; what holds of a text without links, of a block
and across every cut holds of every text (`Cut.text_induction`).
-/

namespace WikiCasing

theorem Form.mem_all (f : Form) : f ∈ all := by
  cases f <;> decide

/-- The commands behind a block once a link of the form has been replaced. -/
def Form.after (f : Form) (xs : List Command) : List Command := if f.isPostfix then xs.tail else xs

namespace Block

variable {b : Block} {f : Form} {l : Link} {before q : Text}

theorem Ends.commandsText_eq (h : b.Ends f l) :
    commandsText b.commands = f.behind l.command ++ commandsText (f.after b.commands) := by
  have hbehind := h.behind
  unfold Form.behind Form.after at *
  split
  · rename_i hf
    rw [if_pos hf] at hbehind
    cases hx : b.commands with
    | nil =>
        rw [hx] at hbehind
        exact absurd hbehind (by simp)
    | cons x xs =>
        rw [hx] at hbehind
        simp only [commandsText_cons, List.cons_prefix_cons, true_and] at hbehind
        rw [hbehind.1]
        rfl
  · rfl

theorem Ends.text_eq (h : b.Ends f l) (hbody : b.body = before ++ f.inside l) :
    b.text = before ++ (f.spell l ++ commandsText (f.after b.commands)) := by
  rw [text, hbody, h.commandsText_eq, Form.spell_eq]
  simp

theorem Finds.free_before (h : b.Finds f l) (hbody : b.body = before ++ f.inside l)
    (hq : opensCommand q = false) :
    f.Free before (f.spell l ++ (commandsText (f.after b.commands) ++ q)) := by
  intro u hu hne
  rw [Option.eq_none_iff_forall_ne_some]
  intro l' hread
  have hsuffix : u ++ f.inside l <:+ b.body := by
    rw [hbody]
    exact List.suffix_append_self_iff.mpr hu
  have htext : u ++ (f.spell l ++ (commandsText (f.after b.commands) ++ q)) =
      (u ++ f.inside l) ++ ']' :: ']' :: (commandsText b.commands ++ q) := by
    rw [h.commandsText_eq, Form.spell_eq]
    simp
  rw [htext] at hread
  obtain ⟨hends, heq⟩ := (b.read?_suffix hq hsuffix).mp hread
  have hlen := (h.first l' hends).length_le
  rw [← heq, List.length_append] at hlen
  exact hne (List.eq_nil_of_length_eq_zero (by omega))

theorem Finds.segments_append (h : b.Finds f l) (hbody : b.body = before ++ f.inside l)
    (hq : opensCommand q = false) :
    f.segments (b.text ++ q) = before.map .plain ++ .link l ::
      ((commandsText (f.after b.commands)).map .plain ++ f.segments q) := by
  have hcommands : f.Free (commandsText (f.after b.commands)) q := Form.free_commands _ q
  rw [h.text_eq hbody, List.append_assoc, List.append_assoc,
    Form.segments_append_of_free (h.free_before hbody hq), Form.segments_spell_append h.admits,
    Form.segments_append_of_free hcommands]

theorem segments_append (b : Block) (f : Form) (hq : opensCommand q = false) :
    f.segments (b.text ++ q) = f.segments b.text ++ f.segments q := by
  rcases b.finds_or_not_ends f with ⟨l, h⟩ | hnone
  · obtain ⟨before, hbody⟩ := h.inside
    have hblock := h.segments_append hbody.symm (q := []) rfl
    rw [List.append_nil] at hblock
    rw [h.segments_append hbody.symm hq, hblock]
    simp
  · rw [Form.segments_append_of_free (Form.free_block hq hnone),
      Form.segments_of_free (Form.free_block rfl hnone)]

theorem occurrences_of_not_ends (h : ∀ l, ¬ b.Ends f l) : f.occurrences b.text = [] :=
  Form.occurrences_of_free (Form.free_block rfl h)

theorem Finds.occurrences (h : b.Finds f l) (hbody : b.body = before ++ f.inside l) :
    f.occurrences b.text = [⟨f, before.length, before.length + (f.spell l).length, l⟩] := by
  have hbefore : f.Free before [] :=
    Form.free_unclosed (fun hm => b.body_open (by rw [hbody]; exact List.mem_append_left _ hm))
  have hafter : f.Free (commandsText (f.after b.commands)) [] := Form.free_commands _ []
  have hsegments := h.segments_append hbody (q := []) rfl
  have hlocated := Form.occurrences_of_free hafter
  rw [Form.occurrences, Form.segments_of_free hafter] at hlocated
  rw [List.append_nil, Form.segments_nil, List.append_nil, ← Form.segments_of_free hbefore]
    at hsegments
  rw [Form.occurrences, hsegments, Form.locate_append, ← Form.occurrences,
    Form.occurrences_of_free hbefore, Form.spell_segments, Form.locate, Nat.zero_add,
    Form.locate_eq_map_shift, hlocated]
  rfl

theorem of_mem_occurrences {o : Occurrence} (ho : o ∈ f.occurrences b.text) :
    ∃ l before, b.Finds f l ∧ b.body = before ++ f.inside l ∧
      o = ⟨f, before.length, before.length + (f.spell l).length, l⟩ := by
  rcases b.finds_or_not_ends f with ⟨l, h⟩ | hnone
  · obtain ⟨before, hbody⟩ := h.inside
    rw [h.occurrences hbody.symm] at ho
    exact ⟨l, before, h, hbody.symm, List.mem_singleton.mp ho⟩
  · rw [occurrences_of_not_ends hnone] at ho
    exact absurd ho List.not_mem_nil

/-- One pass of a form over a block, with the number of replacements. -/
inductive Pass (s : Settings) (f : Form) : Block → Block → Nat → Prop
  | kept {b : Block} : (∀ l, ¬ b.Ends f l) → Pass s f b b 0
  | replaced {b b' : Block} {l : Link} {before : Text} :
      b.Finds f l → b.body = before ++ f.inside l →
      b'.body = before ++ l.renderInside s → b'.commands = f.after b.commands → Pass s f b b' 1

/-- With the link that ends it replaced, a block is a block again. -/
theorem Ends.exists_replaced (s : Settings) (h : b.Ends f l)
    (hbody : b.body = before ++ f.inside l) :
    ∃ b' : Block, b'.body = before ++ l.renderInside s ∧ b'.commands = f.after b.commands := by
  have hopen : ']' ∉ before ++ l.renderInside s := by
    intro hm
    rcases List.mem_append.mp hm with hm | hm
    · exact b.body_open (by rw [hbody]; exact List.mem_append_left _ hm)
    · exact h.admits.close_not_mem_renderInside s hm
  exact ⟨⟨_, f.after b.commands, hopen⟩, rfl, rfl⟩

theorem exists_pass (s : Settings) (f : Form) (b : Block) : ∃ b' n, Pass s f b b' n := by
  rcases b.finds_or_not_ends f with ⟨l, h⟩ | hnone
  · obtain ⟨before, hbody⟩ := h.inside
    obtain ⟨b', hbody', hcommands'⟩ := h.toEnds.exists_replaced s hbody.symm
    exact ⟨b', 1, .replaced h hbody.symm hbody' hcommands'⟩
  · exact ⟨b, 0, .kept hnone⟩

theorem Pass.recase_append {s : Settings} {b' : Block} {n : Nat} (h : Pass s f b b' n)
    (hq : opensCommand q = false) :
    f.recase s (b.text ++ q) = ⟨b'.text, n⟩ ++ f.recase s q := by
  cases h with
  | kept hnone => exact Form.recase_append_of_free s (Form.free_block hq hnone)
  | @replaced _ _ before h hbody hbody' hcommands' =>
      have hcommands : f.Free (commandsText (f.after b.commands)) q := Form.free_commands _ q
      rw [h.text_eq hbody, List.append_assoc, List.append_assoc,
        Form.recase_append_of_free s (h.free_before hbody hq),
        Form.recase_spell_append s h.admits, Form.recase_append_of_free s hcommands, text, hbody',
        hcommands', Link.render_eq, ← Recased.append_assoc, ← Recased.append_assoc]
      simp

theorem Finds.recase_eq (s : Settings) (h : b.Finds f l) (hbody : b.body = before ++ f.inside l) :
    ∃ b' : Block, b'.body = before ++ l.renderInside s ∧ b'.commands = f.after b.commands ∧
      f.recase s b.text = ⟨b'.text, 1⟩ := by
  obtain ⟨b', hbody', hcommands'⟩ := h.toEnds.exists_replaced s hbody
  have hstep : Pass s f b b' 1 := .replaced h hbody hbody' hcommands'
  have hpass := hstep.recase_append (q := []) rfl
  rw [List.append_nil, Form.recase_nil, Recased.mk_append_mk, List.append_nil] at hpass
  exact ⟨b', hbody', hcommands', hpass⟩

end Block

/-! ## What follows a block -/

section

variable (s : Settings)

/-- Whether a text begins with a command does not change in a pass. -/
theorem opensCommand_recase (f : Form) (t : Text) :
    opensCommand (f.recase s t).text = opensCommand t := by
  cases t with
  | nil => rfl
  | cons c t =>
      by_cases hc : c = '\\'
      · subst hc
        rw [Form.recase_cons_of_none s (Form.read?_cons_of_ne (by decide) t)]
        simp [opensCommand, Form.head?_recase]
      · have hhead : (c :: t).head? ≠ some '\\' := by simpa using hc
        rw [opensCommand_of_head? hhead,
          opensCommand_of_head? (by rw [Form.head?_recase]; exact hhead)]

/-! ## All passes -/

theorem recaseForms_cons (f : Form) (fs : List Form) (t : Text) :
    recaseForms s (f :: fs) t =
      ⟨(recaseForms s fs (f.recase s t).text).text,
        (f.recase s t).count + (recaseForms s fs (f.recase s t).text).count⟩ := rfl

theorem recaseForms_append (fs gs : List Form) (t : Text) :
    recaseForms s (fs ++ gs) t =
      ⟨(recaseForms s gs (recaseForms s fs t).text).text,
        (recaseForms s fs t).count + (recaseForms s gs (recaseForms s fs t).text).count⟩ := by
  induction fs generalizing t with
  | nil => simp [recaseForms]
  | cons f fs ih =>
      rw [List.cons_append, recaseForms_cons, ih, recaseForms_cons]
      simp [Nat.add_assoc]

theorem head?_recaseForms (fs : List Form) (t : Text) :
    (recaseForms s fs t).text.head? = t.head? := by
  induction fs generalizing t with
  | nil => rfl
  | cons f fs ih =>
      rw [recaseForms_cons]
      exact (ih _).trans (Form.head?_recase s f t)

@[simp] theorem recaseForms_nil_text (fs : List Form) : recaseForms s fs [] = ⟨[], 0⟩ := by
  induction fs with
  | nil => rfl
  | cons f fs ih => simp [recaseForms_cons, ih]

theorem recaseForms_of_occurrences_nil {fs : List Form} {t : Text}
    (h : ∀ f ∈ fs, f.occurrences t = []) : recaseForms s fs t = ⟨t, 0⟩ := by
  induction fs with
  | nil => rfl
  | cons f fs ih =>
      rw [recaseForms_cons, Form.recase_of_occurrences_nil s (h f List.mem_cons_self)]
      simp [ih (fun g hg => h g (List.mem_cons_of_mem _ hg))]

/-- A stretch in which no link of any form starts, whatever a pass makes of the rest, comes through
all passes unchanged. -/
theorem recaseForms_append_of_free {P : Text → Prop} {p : Text}
    (free : ∀ (f : Form) q, P q → f.Free p q) (keep : ∀ (f : Form) q, P q → P (f.recase s q).text)
    (fs : List Form) {q : Text} (hq : P q) :
    recaseForms s fs (p ++ q) = ⟨p, 0⟩ ++ recaseForms s fs q := by
  induction fs generalizing q with
  | nil => rfl
  | cons f fs ih =>
      rw [recaseForms_cons, Form.recase_append_of_free s (free f q hq), Recased.text_append,
        ih (keep f q hq), recaseForms_cons]
      simp

theorem recase_of_free {p : Text} (h : ∀ f : Form, f.Free p []) : recaseCounted s p = ⟨p, 0⟩ :=
  recaseForms_of_occurrences_nil s (fun f _ => Form.occurrences_of_free (h f))

theorem recase_unclosed {w : Text} (hw : ']' ∉ w) : recaseCounted s w = ⟨w, 0⟩ :=
  recase_of_free s (fun _ => Form.free_unclosed hw)

theorem recase_lone_append {w q : Text} (hw : ']' ∉ w) (hq : q.head? ≠ some ']') :
    recaseCounted s (w ++ ']' :: q) = ⟨w ++ [']'], 0⟩ ++ recaseCounted s q := by
  have h := recaseForms_append_of_free s (P := fun q => q.head? ≠ some ']') (p := w ++ [']'])
    (fun f q hq => Form.free_lone hw hq) (fun f q hq => by rw [Form.head?_recase]; exact hq)
    Form.all hq
  rw [List.append_assoc] at h
  exact h

theorem recase_plain_append {p : Text} (hp : '[' ∉ p) (q : Text) :
    recaseCounted s (p ++ q) = ⟨p, 0⟩ ++ recaseCounted s q :=
  recaseForms_append_of_free s (P := fun _ => True)
    (fun _ q _ => Form.free_of_open_not_mem hp q) (fun _ _ _ => trivial) Form.all trivial

theorem recaseForms_block (fs : List Form) (b : Block) :
    ∃ b' n, ∀ q, opensCommand q = false →
      recaseForms s fs (b.text ++ q) = ⟨Block.text b', n⟩ ++ recaseForms s fs q := by
  induction fs generalizing b with
  | nil => exact ⟨b, 0, fun q _ => rfl⟩
  | cons f fs ih =>
      obtain ⟨b₁, n₁, hpass⟩ := Block.exists_pass s f b
      obtain ⟨b₂, n₂, hrest⟩ := ih b₁
      refine ⟨b₂, n₁ + n₂, fun q hq => ?_⟩
      have hq' : opensCommand (f.recase s q).text = false := by
        rw [opensCommand_recase]
        exact hq
      rw [recaseForms_cons, hpass.recase_append hq, Recased.text_append, hrest _ hq',
        recaseForms_cons]
      simp only [Recased.text_append, Recased.count_append, Recased.mk_append_mk,
        Recased.mk.injEq, true_and]
      omega

/-- Recasing works block by block. -/
theorem recase_block_append (b : Block) {q : Text} (hq : opensCommand q = false) :
    recaseCounted s (b.text ++ q) = recaseCounted s b.text ++ recaseCounted s q := by
  obtain ⟨b', n, h⟩ := recaseForms_block s Form.all b
  have hblock : recaseCounted s b.text = ⟨b'.text, n⟩ := by
    have hnil := h [] rfl
    rw [List.append_nil, recaseForms_nil_text, Recased.mk_append_mk, List.append_nil] at hnil
    exact hnil
  rw [hblock]
  exact h q hq

end

/-! ## Cuts -/

/-- A text falls into two between which no link reaches, in whatever pass. -/
inductive Cut : Text → Text → Prop
  | lone {w q : Text} : ']' ∉ w → q.head? ≠ some ']' → Cut (w ++ [']']) q
  | block {b : Block} {q : Text} : opensCommand q = false → Cut b.text q

namespace Cut

variable {p q : Text}

theorem segments_append (h : Cut p q) (f : Form) :
    f.segments (p ++ q) = f.segments p ++ f.segments q := by
  cases h with
  | lone hw hq =>
      rw [Form.segments_append_of_free (Form.free_lone hw hq),
        Form.segments_of_free (Form.free_lone hw (by simp))]
  | @block b q hq => exact b.segments_append f hq

theorem recase_append (h : Cut p q) (s : Settings) :
    recaseCounted s (p ++ q) = recaseCounted s p ++ recaseCounted s q := by
  cases h with
  | @lone w q hw hq =>
      rw [List.append_assoc, List.singleton_append, recase_lone_append s hw hq,
        recase_of_free s (fun f => Form.free_lone hw (by simp))]
  | @block b q hq => exact recase_block_append s b hq

theorem take (h : Cut p q) (n : Nat) : Cut p (q.take n) := by
  cases h with
  | lone hw hq =>
      refine .lone hw ?_
      rw [List.head?_take]
      split
      · simp
      · exact hq
  | block hq => exact .block (opensCommand_take hq n)

/-- The induction principle of recasing: a text holds no link, or is one block, or is cut into two
such texts. -/
theorem text_induction {motive : Text → Prop}
    (free : ∀ p, (∀ f : Form, f.Free p []) → motive p) (block : ∀ b : Block, motive b.text)
    (append : ∀ p q, Cut p q → motive p → motive q → motive (p ++ q)) (t : Text) : motive t := by
  induction t using block_induction with
  | unclosed w hw => exact free w (fun f => Form.free_unclosed hw)
  | lone w q hw hq ih =>
      have hlone := free (w ++ [']']) (fun f => Form.free_lone hw (by simp))
      have h := append (w ++ [']']) q (.lone hw hq) hlone ih
      rwa [List.append_assoc] at h
  | block b q hq ih => exact append b.text q (.block hq) (block b) ih

end Cut

end WikiCasing
