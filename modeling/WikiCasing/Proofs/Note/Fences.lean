import WikiCasing.Proofs.Note.FrontMatter

/-!
# Which fences enclose front matter

What the expression for front matter takes of a content, told by offsets (`split_at_fences`). The
matcher has been brought into closed form (`withHeader?_eq_cutAtFences?`); here the closed form is
read off the content. The white space behind the opening fence is taken as far as it goes, and its
last line feed decides: the block ends at the first fence that stands behind a later line feed, and
at the last line feed itself only if there is no later one (`ClosesAt`). A content has a header just
if it begins with a fence and white space up to a line feed, and some fence stands behind a further
line feed (`header_ne_nil_iff`).

Nothing here asks what follows a fence on its line, nor whether the opening white space goes over
several lines. What this means for front matter made of lines is the subject of the module on
closing lines.
-/

namespace WikiCasing

open Unicode (isSpace)

/-! ## Fences by their offsets -/

theorem fencedAt_append (a t : Text) (q : Nat) :
    FencedAt (a ++ t) (a.length + q) ↔ FencedAt t q := by
  rw [FencedAt, List.drop_length_add_append, FencedAt]

theorem infix_of_fencedAt {t : Text} {p : Nat} (h : FencedAt t p) : fenceLine <:+: t :=
  h.isInfix.trans (List.drop_suffix p t).isInfix

namespace Note

/-! ## The whole content -/

/-- The white space behind the opening fence has its last line feed at this offset. -/
def LastFeedAt (content : Text) (k : Nat) : Prop :=
  ∃ space indent, (content.drop fence.length).takeWhile isSpace = space ++ '\n' :: indent ∧
    '\n' ∉ indent ∧ k = fence.length + space.length

/-- Where the block ends that begins behind the line feed at offset `k`. -/
inductive ClosesAt (content : Text) (k : Nat) : Nat → Prop
  | behind {p : Nat} (later : k < p) (fenced : FencedAt content p)
      (first : ∀ q, k < q → q < p → ¬ FencedAt content q) : ClosesAt content k p
  | itself (fenced : FencedAt content k) (only : ∀ q, k < q → ¬ FencedAt content q) :
      ClosesAt content k k

theorem lastFeedAt_opening {space block : Text} (hspace : ∀ c ∈ space ++ ['\n'], isSpace c = true)
    (hblock : '\n' ∉ block.takeWhile isSpace) :
    LastFeedAt (fence ++ (space ++ ['\n'] ++ block)) (fence.length + space.length) := by
  refine ⟨space, block.takeWhile isSpace, ?_, hblock, rfl⟩
  rw [List.drop_left, List.takeWhile_append_of_pos hspace, List.append_assoc,
    List.singleton_append]

theorem fencedAt_block (opening block : Text) (q : Nat) :
    FencedAt (fence ++ (opening ++ block)) (fence.length + opening.length + q) ↔
      FencedAt block q := by
  rw [← List.append_assoc, ← List.length_append]
  exact fencedAt_append (fence ++ opening) block q

theorem closed_eq_take_drop {content before rest : Text} {n : Nat} (h : content = before ++ rest)
    (hn : n = before.length) : closed before rest = closed (content.take n) (content.drop n) := by
  rw [h, hn, List.take_left, List.drop_left]

theorem closesAt_of_closedIn? {space block : Text} {note : Note}
    (h : closedIn? (space ++ ['\n']) block = some note) :
    ∃ p, ClosesAt (fence ++ (space ++ ['\n'] ++ block)) (fence.length + space.length) p ∧
      note = closed ((fence ++ (space ++ ['\n'] ++ block)).take (p + fenceLine.length))
        ((fence ++ (space ++ ['\n'] ++ block)).drop (p + fenceLine.length)) := by
  have hlater : ∀ q, fence.length + space.length < q →
      ∃ j, q = fence.length + (space ++ ['\n']).length + j := by
    intro q hq
    refine ⟨q - (fence.length + (space ++ ['\n']).length), ?_⟩
    rw [List.length_append, List.length_singleton]
    omega
  rcases closedIn?_cases h with ⟨before, rest, hcut, rfl⟩ | ⟨rest, rfl, hcut, -, rfl⟩
  · obtain ⟨front, rfl, rfl, hfirst, -⟩ := cutAtFence?_eq_some hcut
    refine ⟨fence.length + (space ++ ['\n']).length + front.length, .behind ?_ ?_ ?_,
      closed_eq_take_drop ?_ ?_⟩
    · rw [List.length_append, List.length_singleton]
      omega
    · rw [fencedAt_block, FencedAt, List.append_assoc, List.drop_left]
      exact List.prefix_append _ _
    · intro q hq hbefore
      obtain ⟨j, rfl⟩ := hlater q hq
      rw [fencedAt_block]
      exact hfirst j (by omega)
    · simp only [List.append_assoc]
    · simp only [List.length_append, Nat.add_assoc]
  · refine ⟨fence.length + space.length, .itself ?_ ?_, closed_eq_take_drop ?_ ?_⟩
    · rw [FencedAt, List.drop_length_add_append, List.append_assoc, List.drop_left]
      exact List.prefix_append fenceLine rest
    · intro q hq hfenced
      obtain ⟨j, rfl⟩ := hlater q hq
      rw [fencedAt_block] at hfenced
      exact cutAtFence?_eq_none_iff.mp hcut (infix_of_fencedAt hfenced)
    · simp only [List.append_assoc]
    · simp only [List.length_append, Nat.add_assoc]
      rfl

theorem header_closed_ne_nil {before rest : Text} (h : before ≠ []) :
    (closed before rest).header ≠ [] := by
  intro hnil
  exact h (List.append_eq_nil_iff.mp hnil).1

theorem header_ne_nil_iff_isSome (content : Text) :
    (split content).header ≠ [] ↔ ∃ note, withHeader? content = some note := by
  unfold split
  cases h : withHeader? content with
  | none => simp
  | some note =>
      obtain ⟨opening, block, -, -, -, -, hclosed⟩ := exists_opening_of_withHeader? h
      have hne : note.header ≠ [] := by
        rcases closedIn?_cases hclosed with ⟨before, rest, -, rfl⟩ | ⟨rest, -, -, -, rfl⟩
        · exact header_closed_ne_nil (by simp [fence])
        · exact header_closed_ne_nil (by simp [fence])
      simpa using hne

/-- Two line feeds, the first with white space alone before it and the second with a fence behind
it, make a closed block. -/
theorem closedIn?_ne_none {opening block w m r : Text} (hspace : ∀ c ∈ opening, isSpace c = true)
    (h : opening ++ block = (w ++ '\n' :: m) ++ (fenceLine ++ r)) :
    closedIn? opening block ≠ none := by
  rw [Ne, closedIn?_eq_none_iff]
  rintro ⟨hwithin, hitself⟩
  -- the second line feed stands in the block, or it is the last one of the opening
  rcases List.append_eq_append_iff.mp h with ⟨a, -, rfl⟩ | ⟨a, rfl, hblock⟩
  · exact hwithin ⟨a, r, List.append_assoc a fenceLine r⟩
  · match a with
    | [] => exact hwithin ⟨[], r, hblock⟩
    | [c] =>
        have hstart : fence ++ r = block := (List.cons.inj hblock).2
        refine hitself ⟨⟨r, hstart⟩, ?_⟩
        rw [List.dropLast_concat]
        simp
    | c :: d :: a =>
        have hd : '-' = d := (List.cons.inj (List.cons.inj hblock).2).1
        exact absurd (hspace d (by simp)) (hd ▸ by decide)

theorem header_ne_nil_iff (content : Text) :
    (split content).header ≠ [] ↔
      ∃ w m r, (∀ c ∈ w, isSpace c = true) ∧
        content = fence ++ ((w ++ '\n' :: m) ++ (fenceLine ++ r)) := by
  rw [header_ne_nil_iff_isSome]
  constructor
  · rintro ⟨note, h⟩
    obtain ⟨opening, block, rfl, hspace, ⟨space, rfl⟩, -, hclosed⟩ :=
      exists_opening_of_withHeader? h
    have hw : ∀ c ∈ space, isSpace c = true := fun c hc => hspace c (List.mem_append_left _ hc)
    rcases closedIn?_cases hclosed with ⟨before, rest, hcut, -⟩ | ⟨rest, rfl, -, hfeed, -⟩
    · obtain ⟨front, rfl, rfl, -⟩ := cutAtFence?_eq_some hcut
      exact ⟨space, front, rest, hw, by simp⟩
    · rw [List.contains_iff_mem, List.dropLast_concat] at hfeed
      obtain ⟨w, m, rfl⟩ := List.append_of_mem hfeed
      exact ⟨w, m, rest, fun c hc => hw c (List.mem_append_left _ hc), by simp [fenceLine]⟩
  · rintro ⟨w, m, r, hw, rfl⟩
    have hfeed : '\n' ∈ ((w ++ '\n' :: m) ++ (fenceLine ++ r)).takeWhile isSpace := by
      rw [List.append_assoc, List.takeWhile_append_of_pos hw, List.cons_append,
        List.takeWhile_cons_of_pos (by decide)]
      simp
    obtain ⟨opening, block, heq, hspace, hlast, hblock⟩ := exists_opening hfeed
    rw [heq, withHeader?_opening hspace hlast hblock]
    exact Option.ne_none_iff_exists'.mp (closedIn?_ne_none hspace heq.symm)

/-- What the expression for front matter takes. Nothing is lost; there is a header just if a line
feed behind the fence at the start and white space is followed by another with a fence behind it;
and the header reaches through the closing fence and all white space behind that. -/
theorem split_at_fences (content : Text) :
    (split content).header ++ (split content).body = content ∧
    ((split content).header ≠ [] ↔
      ∃ w m r, (∀ c ∈ w, isSpace c = true) ∧
        content = fence ++ w ++ ['\n'] ++ m ++ ['\n'] ++ fence ++ r) ∧
    ((split content).header ≠ [] →
      ∃ k p, LastFeedAt content k ∧ ClosesAt content k p ∧
        (split content).header = content.take (p + fenceLine.length) ++
          (content.drop (p + fenceLine.length)).takeWhile isSpace ∧
        (split content).body = (content.drop (p + fenceLine.length)).dropWhile isSpace ∧
        ∀ c, (split content).body.head? = some c → isSpace c = false) := by
  refine ⟨content_split content, ?_, ?_⟩
  · rw [header_ne_nil_iff]
    simp [fenceLine]
  · intro h
    obtain ⟨note, hnote⟩ := (header_ne_nil_iff_isSome content).mp h
    obtain ⟨opening, block, rfl, hspace, ⟨space, rfl⟩, hblock, hclosed⟩ :=
      exists_opening_of_withHeader? hnote
    obtain ⟨p, hcloses, hcut⟩ := closesAt_of_closedIn? hclosed
    have hsplit : split (fence ++ (space ++ ['\n'] ++ block)) = note := by
      rw [split, hnote, Option.getD_some]
    rw [hsplit, hcut]
    refine ⟨_, p, lastFeedAt_opening hspace hblock, hcloses, rfl, rfl, ?_⟩
    intro c hc
    have hstop := List.head?_dropWhile_not isSpace
      ((fence ++ (space ++ ['\n'] ++ block)).drop (p + fenceLine.length))
    rw [closed] at hc
    rw [hc] at hstop
    exact hstop

/-- Behind a blank line the only fence is that behind the last line feed of the white space. -/
theorem split_at_fences_itself :
    let content := "---\n\n--- \nid".toList
    ∃ k p, LastFeedAt content k ∧ ClosesAt content k p ∧
      content.take (p + fenceLine.length) ++
        (content.drop (p + fenceLine.length)).takeWhile isSpace = "---\n\n--- \n".toList ∧
      (content.drop (p + fenceLine.length)).dropWhile isSpace = "id".toList := by
  intro content
  have hsplit : split content = ⟨"---\n\n--- \n".toList, "id".toList⟩ := by decide
  have hheader : (split content).header ≠ [] := by
    rw [hsplit]
    decide
  obtain ⟨k, p, hlast, hcloses, htake, hdrop, -⟩ := (split_at_fences content).2.2 hheader
  rw [hsplit] at htake hdrop
  exact ⟨k, p, hlast, hcloses, htake.symm, hdrop.symm⟩

end Note

end WikiCasing
