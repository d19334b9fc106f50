import Mathlib.Algebra.Ring.Nat
import WikiCasing.Proofs.Markup.Pass

/-!
# What a replacement costs

Every replacement uses up the backslash of its command and creates none: `count_backslash_recase`.
So the number of backslashes of a text bounds the replacements of all passes to come, whatever the
settings of each pass, and a text that has gone through as many passes holds no link of any form
(`passes_settle`). That a pass without replacements ends in such a text is seen form by form: a form
replaces as many links as it has occurrences.
-/

namespace WikiCasing

namespace Form

variable {f : Form} (s : Settings)

theorem count_backslash_recase (f : Form) (t : Text) :
    (f.recase s t).text.count '\\' + (f.recase s t).count = t.count '\\' := by
  induction t using scan_induction f with
  | nil => rfl
  | plain c t h ih =>
      rw [recase_cons_of_none s h]
      simp only [Recased.text_append, Recased.count_append, List.count_append, List.count_cons,
        List.count_nil]
      omega
  | link l t h ih =>
      rw [recase_spell_append s h]
      simp only [Recased.text_append, Recased.count_append, List.count_append]
      have hlink := h.count_backslash_render s
      omega

theorem count_close_recase (f : Form) (t : Text) :
    (f.recase s t).text.count ']' = t.count ']' := by
  induction t using scan_induction f with
  | nil => rfl
  | plain c t h ih =>
      rw [recase_cons_of_none s h, Recased.text_append, List.count_append, ih,
        ← List.count_append]
      rfl
  | link l t h ih =>
      rw [recase_spell_append s h, Recased.text_append, List.count_append, ih,
        h.count_close_render s, List.count_append]

end Form

section

variable (s : Settings)

theorem count_backslash_recaseForms (fs : List Form) (t : Text) :
    (recaseForms s fs t).text.count '\\' + (recaseForms s fs t).count = t.count '\\' := by
  induction fs generalizing t with
  | nil => rfl
  | cons f fs ih =>
      have hrest := ih (f.recase s t).text
      have hfirst := Form.count_backslash_recase s f t
      rw [recaseForms_cons]
      dsimp only
      omega

theorem count_close_recaseForms (fs : List Form) (t : Text) :
    (recaseForms s fs t).text.count ']' = t.count ']' := by
  induction fs generalizing t with
  | nil => rfl
  | cons f fs ih =>
      rw [recaseForms_cons]
      exact (ih _).trans (Form.count_close_recase s f t)

theorem occurrences_nil_of_count {fs : List Form} {t : Text} (h : (recaseForms s fs t).count = 0) :
    ∀ f ∈ fs, f.occurrences t = [] := by
  induction fs with
  | nil => exact fun f hf => absurd hf List.not_mem_nil
  | cons f fs ih =>
      rw [recaseForms_cons] at h
      obtain ⟨hfirst, hrest⟩ := Nat.add_eq_zero_iff.mp h
      have hnil : f.occurrences t = [] := by
        rw [Form.count_recase] at hfirst
        exact List.eq_nil_of_length_eq_zero hfirst
      rw [Form.recase_of_occurrences_nil s hnil] at hrest
      intro g hg
      rcases List.mem_cons.mp hg with rfl | hg
      · exact hnil
      · exact ih hrest g hg

end

/-- A text in which no form has an occurrence. -/
def Settled (t : Text) : Prop := ∀ f : Form, f.occurrences t = []

theorem settled_of_free {p : Text} (h : ∀ f : Form, f.Free p []) : Settled p :=
  fun f => Form.occurrences_of_free (h f)

theorem settled_iff_count {s : Settings} {t : Text} :
    Settled t ↔ (recaseCounted s t).count = 0 := by
  constructor
  · intro h
    rw [recaseCounted, recaseForms_of_occurrences_nil s (fun f _ => h f)]
  · intro h f
    exact occurrences_nil_of_count s h f f.mem_all

theorem Settled.recase {t : Text} (h : Settled t) (s : Settings) :
    recaseCounted s t = ⟨t, 0⟩ := recaseForms_of_occurrences_nil s (fun f _ => h f)

/-! ## Successive passes -/

/-- The results of successive passes, each with settings of its own. -/
def passesUnder : List Settings → Text → List Recased
  | [], _ => []
  | s :: ss, t => recaseCounted s t :: passesUnder ss (recaseCounted s t).text

/-- The text that successive passes end in. -/
def settle (ss : List Settings) (t : Text) : Text := ss.foldl (fun t s => recase s t) t

theorem passesUnder_replicate (s : Settings) (n : Nat) (t : Text) :
    passesUnder (List.replicate n s) t = passes s n t := by
  induction n generalizing t with
  | zero => rfl
  | succ n ih => rw [List.replicate_succ, passesUnder, passes, ih]

theorem sum_counts_le (ss : List Settings) (t : Text) :
    ((passesUnder ss t).map Recased.count).sum ≤ t.count '\\' := by
  induction ss generalizing t with
  | nil => exact Nat.zero_le _
  | cons s ss ih =>
      have hrest := ih (recaseCounted s t).text
      have hfirst := count_backslash_recaseForms s Form.all t
      rw [← recaseCounted] at hfirst
      simp only [passesUnder, List.map_cons, List.sum_cons]
      omega

theorem settle_of_settled {t : Text} (h : Settled t) (ss : List Settings) : settle ss t = t := by
  induction ss with
  | nil => rfl
  | cons s ss ih =>
      have hs : recase s t = t := congrArg Recased.text (h.recase s)
      rw [settle, List.foldl_cons, hs]
      exact ih

/-- As many passes as there are backslashes, or more, leave no occurrence of any form. -/
theorem settled_settle (ss : List Settings) (t : Text) (h : t.count '\\' ≤ ss.length) :
    Settled (settle ss t) := by
  induction ss generalizing t with
  | nil =>
      have hfirst := count_backslash_recaseForms Settings.standard Form.all t
      rw [← recaseCounted] at hfirst
      rw [List.length_nil] at h
      rw [settle, List.foldl_nil, settled_iff_count (s := Settings.standard)]
      omega
  | cons s ss ih =>
      by_cases hcount : (recaseCounted s t).count = 0
      · have hsettled : Settled t := settled_iff_count.mpr hcount
        rw [settle_of_settled hsettled]
        exact hsettled
      · have hfirst := count_backslash_recaseForms s Form.all t
        rw [← recaseCounted] at hfirst
        rw [List.length_cons] at h
        exact ih (recase s t) (by rw [recase]; omega)

/-- Every replacement uses up exactly one backslash and no closing bracket. Hence successive
passes, whatever the settings of each, replace at most as many links as the text has backslashes,
and after as many passes, or more, no form has an occurrence and no pass changes anything. -/
theorem passes_settle :
    (∀ s t, (recaseCounted s t).text.count '\\' + (recaseCounted s t).count = t.count '\\' ∧
      (recaseCounted s t).text.count ']' = t.count ']') ∧
    (∀ ss t, ((passesUnder ss t).map Recased.count).sum ≤ t.count '\\') ∧
    (∀ ss t, t.count '\\' ≤ ss.length →
      (∀ f : Form, f.occurrences (settle ss t) = []) ∧
        ∀ s, recaseCounted s (settle ss t) = ⟨settle ss t, 0⟩) := by
  refine ⟨fun s t => ⟨?_, ?_⟩, sum_counts_le, fun ss t h => ?_⟩
  · exact count_backslash_recaseForms s Form.all t
  · exact count_close_recaseForms s Form.all t
  · have hsettled := settled_settle ss t h
    exact ⟨hsettled, hsettled.recase⟩

/-- Lowering `x\U` makes a new command of it, which the second pass uses up. -/
theorem passes_settle_new_command :
    let t := "[[a|x\\U]]\\l".toList
    let ss := [Settings.standard, Settings.standard]
    t.count '\\' ≤ ss.length ∧ settle ss t = "[[a|X]]".toList ∧
      (∀ f : Form, f.occurrences (settle ss t) = []) ∧
        ∀ s, recaseCounted s (settle ss t) = ⟨settle ss t, 0⟩ := by
  intro t ss
  have hcount : t.count '\\' ≤ ss.length := by decide
  obtain ⟨hnone, hfixed⟩ := passes_settle.2.2 ss t hcount
  exact ⟨hcount, by decide +kernel, hnone, hfixed⟩

end WikiCasing
