import Mathlib.Data.List.Infix
import WikiCasing.Proofs.Markup.Change

/-!
# Whether a planned caret stands behind a link

A plan places the caret by the replacement of the link that it was in. Where that replacement is
the spelling of another link, a later form replaces it again, and the caret does not follow: it may
stand within the link that results, behind other text, or beyond the end of the whole text
(`exists_caret_not_behindBrackets`). `plan_caret_behindBrackets_iff` says when the caret is right.
What has become of the link is at most two characters shorter than its first replacement, so the
caret is right if it stands at its end, or behind one or two closing brackets that follow.
-/

namespace WikiCasing

/-- The offset is one of the text, and two closing brackets stand right before it. -/
def BehindBrackets (t : Text) (offset : Nat) : Prop :=
  offset ≤ t.length ∧ [']', ']'] <:+ t.take offset

instance (t : Text) (offset : Nat) : Decidable (BehindBrackets t offset) :=
  inferInstanceAs (Decidable (_ ∧ _))

theorem pair_suffix_append_iff {u : Text} {a b c d : Char} :
    [a, b] <:+ u ++ [c, d] ↔ a = c ∧ b = d := by
  constructor
  · rintro ⟨z, hz⟩
    have hpair := (List.append_inj' hz rfl).2
    simpa using hpair
  · rintro ⟨rfl, rfl⟩
    exact List.suffix_append u [a, b]

theorem behindBrackets_append_iff (p : Text) {v : Text} {n : Nat} (hn : 2 ≤ n) :
    BehindBrackets (p ++ v) (p.length + n) ↔ BehindBrackets v n := by
  unfold BehindBrackets
  rw [List.length_append, List.take_length_add_append]
  constructor
  · rintro ⟨hle, hsuffix⟩
    have hle : n ≤ v.length := by omega
    have hshort : [']', ']'].length ≤ (v.take n).length := by
      rw [List.length_take_of_le hle]
      exact hn
    exact ⟨hle, List.suffix_of_suffix_length_le hsuffix (List.suffix_append p _) hshort⟩
  · rintro ⟨hle, hsuffix⟩
    exact ⟨by omega, hsuffix.trans (List.suffix_append p _)⟩

/-- Where the first closing brackets of a text end at `w.length + 2`, an offset at most two
characters behind that is behind brackets exactly if it is not before it and nothing but closing
brackets stands between the two. -/
theorem behindBrackets_closing_iff {w r : Text} {n : Nat} (hw : ']' ∉ w)
    (hn : n ≤ w.length + 4) :
    BehindBrackets (w ++ ']' :: ']' :: r) n ↔
      w.length + 2 ≤ n ∧ List.replicate (n - (w.length + 2)) ']' <+: r := by
  by_cases hlt : n < w.length + 2
  · -- up to the offset there is one closing bracket at most
    refine ⟨fun h => ?_, fun h => absurd h.1 (by omega)⟩
    have hcut : w ++ ']' :: ']' :: r = (w ++ [']']) ++ ']' :: r := by simp
    have htake : (w ++ ']' :: ']' :: r).take n = (w ++ [']']).take n := by
      rw [hcut, List.take_append_of_le_length (by simp; omega)]
    have hsuffix := h.2
    rw [htake] at hsuffix
    have htwo : 2 ≤ ((w ++ [']']).take n).count ']' := hsuffix.sublist.count_le ']'
    have hone : ((w ++ [']']).take n).count ']' ≤ 1 := by
      refine Nat.le_trans ((List.take_sublist n _).count_le ']') ?_
      rw [List.count_append, List.count_eq_zero.mpr hw]
      exact Nat.le_refl 1
    omega
  · obtain ⟨k, rfl⟩ : ∃ k, n = w.length + (2 + k) := ⟨n - (w.length + 2), by omega⟩
    have hk : w.length + (2 + k) - (w.length + 2) = k := by omega
    have htake : (w ++ ']' :: ']' :: r).take (w.length + (2 + k)) =
        w ++ ']' :: ']' :: r.take k := by
      rw [List.take_length_add_append, Nat.add_comm 2 k]
      rfl
    have hiff : BehindBrackets (w ++ ']' :: ']' :: r) (w.length + (2 + k)) ↔
        k ≤ r.length ∧ [']', ']'] <:+ w ++ ']' :: ']' :: r.take k := by
      unfold BehindBrackets
      rw [htake, List.length_append, List.length_cons, List.length_cons]
      exact and_congr_left (fun _ => by omega)
    rw [hiff, hk]
    have hge : w.length + 2 ≤ w.length + (2 + k) := by omega
    simp only [hge, true_and]
    -- there are at most two characters between the brackets and the offset
    match k, r with
    | 0, r => simp
    | 1, [] => simp
    | 1, c :: r =>
        have hcut : w ++ ']' :: ']' :: (c :: r).take 1 = (w ++ [']']) ++ [']', c] := by simp
        rw [hcut, pair_suffix_append_iff]
        simp
    | 2, [] => simp
    | 2, [c] => simp
    | 2, c :: d :: r =>
        have hcut : w ++ ']' :: ']' :: (c :: d :: r).take 2 = (w ++ [']', ']']) ++ [c, d] := by
          simp
        rw [hcut, pair_suffix_append_iff]
        simp
    | k + 3, r => omega

/-- Where a plan moves the caret, the text of the plan is what stands before the occurrence that the
caret was in, recased on its own, then what the occurrence has become (`inside` and two closing
brackets), then the rest. The caret stands behind closing brackets exactly if it does not fall short
of the end of what the occurrence has become and only closing brackets lie in between. The
occurrence has become its own replacement unless it is a postfix alias link whose alias is not
plain. -/
theorem plan_caret_behindBrackets_iff (s : Settings) {t : Text} {caret : Int} {offset : Nat}
    (hcaret : (plan s t caret).caret = some offset) :
    ∃ o inside rest, (plan s t caret).occurrence = some o ∧
      (plan s t caret).text =
        recase s (t.take o.start) ++ (inside ++ ']' :: ']' :: rest) ∧
      ']' ∉ inside ∧
      offset = (recase s (t.take o.start)).length + (o.link.render s).length ∧
      (BehindBrackets (plan s t caret).text offset ↔
        inside.length + 2 ≤ (o.link.render s).length ∧
          List.replicate ((o.link.render s).length - (inside.length + 2)) ']' <+: rest) ∧
      ((o.form = .postfixAlias → o.link.PlainAlias) → inside ++ [']', ']'] = o.link.render s) := by
  rw [plan_eq] at hcaret ⊢
  obtain ⟨o, ho, hlanding⟩ := Option.map_eq_some_iff.mp hcaret
  obtain ⟨inside, rest, hrecase, hopen, hlen, hplain⟩ :=
    recase_at_resolved s (mem_resolved_of_enclosing? ho)
  have hrender : (o.link.render s).length = (o.link.renderInside s).length + 2 := by
    rw [Link.render_eq, List.length_append]
    rfl
  refine ⟨o, inside, rest, ho, hrecase, hopen, hlanding.symm, ?_, fun h => ?_⟩
  · dsimp only
    rw [hrecase, ← hlanding, Occurrence.landing, behindBrackets_append_iff _ (by omega),
      behindBrackets_closing_iff hopen (by omega)]
  · rw [hplain h, Link.render_eq]

/-- Lowering leaves an inline alias link with a sharp s, which raising makes two letters long. The
caret stands behind a bracket that is none of the link. -/
theorem plan_caret_behindBrackets_iff_stray :
    let t := "x [[a|ß\\u]]\\l]".toList
    (plan .standard t 2).caret = some 11 ∧ BehindBrackets (plan .standard t 2).text 11 ∧
      ∃ o inside rest, (plan .standard t 2).occurrence = some o ∧
        (plan .standard t 2).text =
          recase .standard (t.take o.start) ++ (inside ++ ']' :: ']' :: rest) ∧
        ']' ∉ inside ∧
        11 = (recase .standard (t.take o.start)).length + (o.link.render .standard).length ∧
        (BehindBrackets (plan .standard t 2).text 11 ↔
          inside.length + 2 ≤ (o.link.render .standard).length ∧
            List.replicate ((o.link.render .standard).length - (inside.length + 2)) ']' <+:
              rest) ∧
        ((o.form = .postfixAlias → o.link.PlainAlias) →
          inside ++ [']', ']'] = o.link.render .standard) := by
  intro t
  have hcaret : (plan .standard t 2).caret = some 11 := by decide +kernel
  exact ⟨hcaret, by decide +kernel, plan_caret_behindBrackets_iff .standard hcaret⟩

/-- A caret that a plan moves need not be one of the text, let alone one behind a link: here the
text has seven characters in the end and the caret is at nine. -/
theorem exists_caret_not_behindBrackets :
    ¬ ∀ (s : Settings) (t : Text) (caret : Int) (offset : Nat),
      (plan s t caret).caret = some offset → BehindBrackets (plan s t caret).text offset := by
  intro h
  have hbehind := h .standard "[[a|b\\u]]\\l".toList 0 9 (by decide +kernel)
  revert hbehind
  decide +kernel

end WikiCasing
