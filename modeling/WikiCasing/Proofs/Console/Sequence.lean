import Mathlib.Data.List.Infix
import Mathlib.Data.List.TakeWhile
import WikiCasing.Console.Sequence

/-!
# What is left without control sequences

Leaving control sequences out makes a text shorter or leaves it alone: it stays as it is exactly if
no control sequence begins anywhere in it (`withoutSequences_eq_self_iff`). A character that stands
in no control sequence, such as a line end, is never left out (`mem_withoutSequences_iff`). So this
is a lawful way to write to what is no terminal (`withoutSequences_lawful`).
-/

namespace WikiCasing.Console

theorem withoutSequencesAfter_sublist (skip : Nat) (t : Text) :
    (withoutSequencesAfter skip t).Sublist t := by
  induction t generalizing skip with
  | nil => cases skip <;> exact .refl []
  | cons c cs ih =>
      cases skip with
      | succ skip => exact (ih skip).cons c
      | zero =>
          rw [withoutSequencesAfter]
          split
          · exact (ih _).cons c
          · exact (ih 0).cons_cons c

theorem withoutSequences_sublist (t : Text) : (withoutSequences t).Sublist t :=
  withoutSequencesAfter_sublist 0 t

theorem withoutSequences_eq_self_iff {t : Text} :
    withoutSequences t = t ↔ ∀ u, u <:+ t → sequence? u = none := by
  induction t with
  | nil =>
      refine iff_of_true rfl (fun u hu => ?_)
      rw [List.suffix_nil.mp hu]
      rfl
  | cons c cs ih =>
      simp only [List.suffix_cons_iff, forall_eq_or_imp]
      rw [← ih, withoutSequences, withoutSequencesAfter]
      split
      · rename_i length hsequence
        -- Something is left out here, and nothing makes up for it.
        have hle := (withoutSequencesAfter_sublist (length - 1) cs).length_le
        refine iff_of_false (fun heq => ?_) (fun h => ?_)
        · rw [heq, List.length_cons] at hle
          omega
        · rw [hsequence] at h
          exact absurd h.1 (by simp)
      · rename_i hnone
        rw [List.cons_inj_right, hnone]
        exact (and_iff_right rfl).symm

/-! ## Characters of no sequence -/

/-- A text that begins with a control sequence, cut behind it. -/
theorem exists_append_of_sequence? {d : Char} {t : Text} {n : Nat}
    (h : sequence? (d :: t) = some n) :
    ∃ u rest, t = u ++ rest ∧ n = u.length + 1 ∧ ∀ c, OutsideSequences c → c ∉ d :: u := by
  unfold sequence? at h
  split at h
  · rename_i cs heq
    obtain ⟨rfl, rfl⟩ := List.cons.inj heq
    split at h
    · rename_i e rest hdrop
      split at h
      · rename_i hends
        have hcut := List.takeWhile_append_dropWhile (p := isParameter) (l := cs)
        rw [hdrop] at hcut
        refine ⟨'[' :: (cs.takeWhile isParameter ++ [e]), rest, ?_, ?_, fun c hout hc => ?_⟩
        · rw [List.cons_append, List.append_assoc, List.singleton_append, hcut]
        · rw [← Option.some.inj h]
          simp
        · rcases List.mem_cons.mp hc with rfl | hc
          · exact hout.ne_escape rfl
          rcases List.mem_cons.mp hc with rfl | hc
          · exact hout.ne_open rfl
          rcases List.mem_append.mp hc with hc | hc
          · have hparameter := List.mem_takeWhile_imp hc
            exact Bool.noConfusion (hparameter.symm.trans hout.not_parameter)
          · obtain rfl := List.mem_singleton.mp hc
            exact Bool.noConfusion (hends.symm.trans hout.not_end)
      · exact absurd h (by simp)
    · exact absurd h (by simp)
  · exact absurd h (by simp)

theorem mem_withoutSequencesAfter {c : Char} (hout : OutsideSequences c) {skip : Nat} {t : Text}
    (h : c ∈ t.drop skip) : c ∈ withoutSequencesAfter skip t := by
  induction t generalizing skip with
  | nil => simp at h
  | cons d t ih =>
      cases skip with
      | succ skip => exact ih h
      | zero =>
          rw [List.drop_zero] at h
          rw [withoutSequencesAfter]
          split
          · rename_i n hsequence
            obtain ⟨u, rest, rfl, rfl, hu⟩ := exists_append_of_sequence? hsequence
            -- the character stands behind the sequence
            have hrest : c ∈ rest := (List.mem_append.mp h).resolve_left (hu c hout)
            apply ih
            rwa [Nat.add_sub_cancel, List.drop_left]
          · rcases List.mem_cons.mp h with rfl | h
            · exact List.mem_cons_self
            · exact List.mem_cons_of_mem _ (ih h)

theorem mem_withoutSequences_iff {c : Char} (hout : OutsideSequences c) {t : Text} :
    c ∈ withoutSequences t ↔ c ∈ t :=
  ⟨fun h => (withoutSequences_sublist t).subset h, fun h => mem_withoutSequencesAfter hout h⟩

/-! ## Consoles -/

theorem withoutSequences_lawful : LawfulEcho withoutSequences where
  echo_eq _ h := withoutSequences_eq_self_iff.mpr h
  length_lt t u hu hsequence := by
    have hle := (withoutSequences_sublist t).length_le
    refine Nat.lt_of_le_of_ne hle fun hlen => hsequence ?_
    have hself : withoutSequences t = t := (withoutSequences_sublist t).eq_of_length hlen
    exact withoutSequences_eq_self_iff.mp hself u hu
  mem_iff _ _ hout := mem_withoutSequences_iff hout

/-- A text is written as it is exactly if no control sequence begins in it. -/
theorem LawfulEcho.eq_self_iff {echo : Text → Text} (h : LawfulEcho echo) {t : Text} :
    echo t = t ↔ ∀ u, u <:+ t → sequence? u = none := by
  refine ⟨fun hself u hu => ?_, h.echo_eq t⟩
  by_contra hsequence
  have hlt := h.length_lt t u hu hsequence
  rw [hself] at hlt
  omega

end WikiCasing.Console
