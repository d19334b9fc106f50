import WikiCasing.Note.File
import WikiCasing.Proofs.Markup.Outside
import WikiCasing.Proofs.Note.ClosedForm

/-!
# Front matter under recasing

A cut of a content loses nothing (`content_split`), and recasing the body leaves the cut where it is
(`split_recase`). The block between the fences ends at the first fence behind a line feed. What
stands up to there is in the header and stays; a fence that recasing brought into the body could
move the end only where the first one is no such fence, or where there is no block at all, and in
both cases recasing would have had to make a line feed with three hyphens behind it, which it never
does (`infix_append_recase_iff`). The white space behind the closing fence belongs to the header,
and the body goes on with the character that stood there.

Every header comes from an opening and a block (`exists_opening_of_withHeader?`), and the block is
closed in one of two ways (`closedIn?_cases`).
-/

namespace WikiCasing

open Unicode (isSpace)

theorem ruled_fenceLine : Ruled fenceLine where
  ne_nil := by decide
  sign := List.all_eq_true.mp (by decide)
  open_not_mem := by decide
  close_not_mem := by decide
  bar_not_mem := by decide
  backslash_not_mem := by decide

/-! ## The block between the fences -/

namespace Note

theorem closedIn?_eq_none_iff {opening block : Text} :
    closedIn? opening block = none ↔
      ¬ fenceLine <:+: block ∧ ¬ (fence <+: block ∧ opening.dropLast.contains '\n' = true) := by
  rw [← cutAtFence?_eq_none_iff]
  unfold closedIn?
  cases hcut : cutAtFence? block with
  | some cut => simp
  | none =>
      cases hfence : afterFence? block with
      | none => simp [afterFence?_eq_none_iff.mp hfence]
      | some rest =>
          have hstart : fence <+: block := ⟨rest, (afterFence?_eq_some_iff.mp hfence).symm⟩
          simp [hstart]

/-- A block ends in a fence, and it ends there whatever follows that brings in no fence line. -/
theorem closedIn?_eq_some {opening block : Text} {note : Note}
    (h : closedIn? opening block = some note) :
    ∃ before rest, block = before ++ rest ∧ '-' ∈ before ∧
      note = closed (fence ++ opening ++ before) rest ∧
      ∀ q, (fenceLine <:+: before ++ q → fenceLine <:+: before ++ rest) →
        closedIn? opening (before ++ q) = some (closed (fence ++ opening ++ before) q) := by
  rcases closedIn?_cases h with ⟨before, rest, hcut, rfl⟩ | ⟨rest, rfl, hcut, hfeed, rfl⟩
  · obtain ⟨front, rfl, hblock, -, hall⟩ := cutAtFence?_eq_some hcut
    refine ⟨_, rest, hblock, List.mem_append_right front (by decide), rfl, fun q _ => ?_⟩
    rw [closedIn?, hall q]
  · refine ⟨fence, rest, rfl, by decide, rfl, fun q hq => ?_⟩
    have hnone : cutAtFence? (fence ++ q) = none := by
      rw [cutAtFence?_eq_none_iff] at hcut ⊢
      exact mt hq hcut
    have hafter : afterFence? (fence ++ q) = some q := afterFence?_eq_some_iff.mpr rfl
    rw [closedIn?, hnone]
    dsimp only
    rw [hafter, Option.bind_some, if_pos hfeed]

/-! ## The opening -/

theorem withHeader?_eq_none_of_afterFence? {text : Text} (h : afterFence? text = none) :
    withHeader? text = none := by
  rw [withHeader?_eq_cutAtFences?, cutAtFences?, h]
  rfl

theorem withHeader?_fence_append (inside : Text) :
    withHeader? (fence ++ inside) =
      (cutAtLastFeed? (inside.takeWhile isSpace)).bind fun (opening, indent) =>
        closedIn? opening (indent ++ inside.dropWhile isSpace) := by
  rw [withHeader?_eq_cutAtFences?, cutAtFences?_fence_append]

theorem withHeader?_opening {opening block : Text} (hspace : ∀ c ∈ opening, isSpace c = true)
    (hfeed : ['\n'] <:+ opening) (hblock : '\n' ∉ block.takeWhile isSpace) :
    withHeader? (fence ++ (opening ++ block)) = closedIn? opening block := by
  rw [withHeader?_eq_cutAtFences?, cutAtFences?_opening hspace hfeed hblock]

theorem exists_opening_of_withHeader? {content : Text} {note : Note}
    (h : withHeader? content = some note) :
    ∃ opening block, content = fence ++ (opening ++ block) ∧
      (∀ c ∈ opening, isSpace c = true) ∧ ['\n'] <:+ opening ∧
      '\n' ∉ block.takeWhile isSpace ∧ closedIn? opening block = some note := by
  obtain ⟨inside, rfl⟩ : ∃ inside, content = fence ++ inside := by
    cases hfence : afterFence? content with
    | some inside => exact ⟨inside, afterFence?_eq_some_iff.mp hfence⟩
    | none =>
        rw [withHeader?_eq_none_of_afterFence? hfence] at h
        exact absurd h (by simp)
  have hfeed : '\n' ∈ inside.takeWhile isSpace := by
    rw [withHeader?_fence_append] at h
    obtain ⟨⟨opening, indent⟩, hcut, -⟩ := Option.bind_eq_some_iff.mp h
    by_contra hnone
    rw [cutAtLastFeed?_eq_none hnone] at hcut
    exact absurd hcut (by simp)
  obtain ⟨opening, block, rfl, hspace, hlast, hblock⟩ := exists_opening hfeed
  rw [withHeader?_opening hspace hlast hblock] at h
  exact ⟨opening, block, rfl, hspace, hlast, hblock, h⟩

/-! ## The whole cut -/

theorem isSpace_open : isSpace '[' = false := by decide

theorem closed_recase (s : Settings) (before rest : Text) :
    closed before (WikiCasing.recase s rest) =
      ⟨(closed before rest).header, WikiCasing.recase s (closed before rest).body⟩ := by
  simp only [closed]
  rw [takeWhile_recase s isSpace_open, dropWhile_recase s isSpace_open]

theorem takeWhile_append_of_stop {P : Char → Bool} {p : Text} (h : ∃ c ∈ p, ¬ P c = true)
    (q : Text) : (p ++ q).takeWhile P = p.takeWhile P := by
  rw [List.takeWhile_append, if_neg]
  intro hlen
  obtain ⟨c, hc, hstop⟩ := h
  have hself : p.takeWhile P = p := (List.takeWhile_prefix P).eq_of_length hlen
  exact hstop (List.takeWhile_eq_self_iff.mp hself c hc)

/-- A header is cut behind the white space that follows its closing fence. What stands up to the
fence makes a header of the same shape when the rest is recased. -/
theorem withHeader?_eq_some (s : Settings) {text : Text} {note : Note}
    (h : withHeader? text = some note) :
    ∃ before rest, text = before ++ rest ∧ note = closed before rest ∧
      withHeader? (before ++ WikiCasing.recase s rest) =
        some (closed before (WikiCasing.recase s rest)) := by
  obtain ⟨opening, block, rfl, hspace, hfeed, hindent, hclosed⟩ :=
    exists_opening_of_withHeader? h
  obtain ⟨before, rest, rfl, hhyphen, rfl, hall⟩ := closedIn?_eq_some hclosed
  refine ⟨fence ++ opening ++ before, rest, by simp only [List.append_assoc], rfl, ?_⟩
  -- the white space in front of the block ends at the closing fence at the latest
  have hstop : ∃ c ∈ before, ¬ isSpace c = true := ⟨'-', hhyphen, by decide⟩
  rw [takeWhile_append_of_stop hstop] at hindent
  have hrecased := hall (WikiCasing.recase s rest)
    (infix_append_recase_iff s ruled_fenceLine before rest).mp
  rw [List.append_assoc, List.append_assoc, withHeader?_opening hspace hfeed]
  · exact hrecased
  · rwa [takeWhile_append_of_stop hstop]

theorem withHeader?_recase_eq_none (s : Settings) {text : Text} (h : withHeader? text = none) :
    withHeader? (WikiCasing.recase s text) = none := by
  cases hfence : afterFence? text with
  | none =>
      apply withHeader?_eq_none_of_afterFence?
      rw [afterFence?_eq_none_iff] at hfence ⊢
      rwa [prefix_recase_iff s (by decide)]
  | some inside =>
      obtain rfl := afterFence?_eq_some_iff.mp hfence
      rw [recase_append_of_plain s (by decide), withHeader?_fence_append,
        takeWhile_recase s isSpace_open, dropWhile_recase s isSpace_open]
      rw [withHeader?_fence_append] at h
      rw [Option.bind_eq_none_iff] at h ⊢
      rintro ⟨opening, indent⟩ hopening
      have hnone := h (opening, indent) hopening
      rw [closedIn?_eq_none_iff] at hnone ⊢
      rwa [infix_append_recase_iff s ruled_fenceLine, prefix_append_recase_iff s (by decide)]

theorem recase_eq (s : Settings) (note : Note) :
    note.recase s =
      (⟨note.header, WikiCasing.recase s note.body⟩, (recaseCounted s note.body).count) := rfl

theorem content_of_withHeader? {text : Text} {note : Note} (h : withHeader? text = some note) :
    note.content = text := by
  obtain ⟨rest, hrest, rfl⟩ := Option.map_eq_some_iff.mp h
  obtain ⟨before, rfl⟩ := Expression.suffix_of_rest? hrest
  show (before ++ rest).take ((before ++ rest).length - rest.length) ++ rest = before ++ rest
  rw [List.length_append, Nat.add_sub_cancel, List.take_left]

theorem content_split (text : Text) : (split text).content = text := by
  unfold split
  cases h : withHeader? text with
  | none => rfl
  | some note => exact content_of_withHeader? h

theorem split_recase (s : Settings) (text : Text) :
    split ((split text).recase s).1.content = ((split text).recase s).1 := by
  cases h : withHeader? text with
  | none =>
      have hsplit : split text = ⟨[], text⟩ := by rw [split, h]; rfl
      rw [hsplit, recase_eq]
      dsimp only
      rw [content, List.nil_append, split, withHeader?_recase_eq_none s h, Option.getD_none]
  | some note =>
      obtain ⟨before, rest, rfl, rfl, hrecased⟩ := withHeader?_eq_some s h
      have hsplit : split (before ++ rest) = closed before rest := by rw [split, h]; rfl
      rw [hsplit, recase_eq]
      dsimp only
      rw [← closed_recase, content_closed, split, hrecased, Option.getD_some]

end Note

end WikiCasing
