import WikiCasing.Note.FrontMatter
import WikiCasing.Proofs.Text.Cut
import WikiCasing.Proofs.Text.Expression

/-!
# The expression for front matter in closed form

What the expression for front matter takes can be said without going back (`Note.cutAtFences?`). The
white space behind the opening fence is taken as far as it goes, and the block begins behind its
last line feed. It ends at the first fence behind a line feed that stands in it (`cutAtFence?`); if
there is none, the matcher gives white space back to an earlier line feed, and then the last one is
not taken as white space any more but closes the header, if a fence follows it.

That this is what the matcher does (`Note.withHeader?_eq_cutAtFences?`) is shown part by part, from
the end of the expression to its start: what follows the closing fence is white space
(`pass_fence`), any text up to a closing fence is text up to the first one, a carriage return
before its line feed notwithstanding (`pass_block`), and the white space at the start is given back
by induction on it (`passMost_opening`).
-/

namespace WikiCasing

open Unicode (isSpace)

/-- A fence behind a line feed. -/
def fenceLine : Text := '\n' :: fence

/-! ## The three cuts -/

/-- What follows the fence that a text begins with. -/
def afterFence? : Text → Option Text
  | '-' :: '-' :: '-' :: rest => some rest
  | _ => none

/-- A text cut behind the first fence that stands behind a line feed. -/
def cutAtFence? : Text → Option (Text × Text)
  | [] => none
  | c :: cs =>
    match (if c = '\n' then afterFence? cs else none) with
    | some rest => some (c :: fence, rest)
    | none => (cutAtFence? cs).map fun (before, rest) => (c :: before, rest)

/-- A text cut behind its last line feed. -/
def cutAtLastFeed? : Text → Option (Text × Text)
  | [] => none
  | c :: cs =>
    match cutAtLastFeed? cs with
    | some (before, rest) => some (c :: before, rest)
    | none => if c = '\n' then some ([c], cs) else none

theorem afterFence?_eq_some_iff {t rest : Text} :
    afterFence? t = some rest ↔ t = fence ++ rest := by
  constructor
  · intro h
    unfold afterFence? at h
    split at h
    · rw [Option.some.inj h]
      rfl
    · exact absurd h (by simp)
  · rintro rfl
    rfl

theorem afterFence?_eq_none_iff {t : Text} : afterFence? t = none ↔ ¬ fence <+: t := by
  rw [Option.eq_none_iff_forall_ne_some]
  constructor
  · rintro h ⟨rest, rfl⟩
    exact h rest (afterFence?_eq_some_iff.mpr rfl)
  · rintro h rest hrest
    exact h ⟨rest, (afterFence?_eq_some_iff.mp hrest).symm⟩

theorem cutAtLastFeed?_eq_none {t : Text} (h : '\n' ∉ t) : cutAtLastFeed? t = none := by
  induction t with
  | nil => rfl
  | cons c t ih =>
      rw [List.mem_cons, not_or] at h
      rw [cutAtLastFeed?, ih h.2]
      exact if_neg (Ne.symm h.1)

theorem cutAtLastFeed?_append_feed (before : Text) {rest : Text} (h : '\n' ∉ rest) :
    cutAtLastFeed? (before ++ '\n' :: rest) = some (before ++ ['\n'], rest) := by
  induction before with
  | nil =>
      rw [List.nil_append, cutAtLastFeed?, cutAtLastFeed?_eq_none h]
      rfl
  | cons c before ih =>
      rw [List.cons_append, cutAtLastFeed?, ih]
      rfl

theorem exists_last_feed {t : Text} (h : '\n' ∈ t) :
    ∃ before rest, t = before ++ '\n' :: rest ∧ '\n' ∉ rest := by
  induction t with
  | nil => exact absurd h List.not_mem_nil
  | cons c t ih =>
      by_cases ht : '\n' ∈ t
      · obtain ⟨before, rest, rfl, hrest⟩ := ih ht
        exact ⟨c :: before, rest, rfl, hrest⟩
      · obtain rfl : '\n' = c := (List.mem_cons.mp h).resolve_right ht
        exact ⟨[], t, rfl, ht⟩

/-- A fence stands behind the line feed at this offset. -/
def FencedAt (t : Text) (p : Nat) : Prop := fenceLine <+: t.drop p

theorem cutAtFence?_fenceLine_append (rest : Text) :
    cutAtFence? (fenceLine ++ rest) = some (fenceLine, rest) := rfl

theorem cutAtFence?_cons {c : Char} {t : Text} (h : ¬ fenceLine <+: c :: t) :
    cutAtFence? (c :: t) = (cutAtFence? t).map fun (before, rest) => (c :: before, rest) := by
  have hnone : (if c = '\n' then afterFence? t else none) = none := by
    split
    · rename_i hc
      rw [afterFence?_eq_none_iff]
      exact fun hfence => h (List.cons_prefix_cons.mpr ⟨hc.symm, hfence⟩)
    · rfl
  rw [cutAtFence?, hnone]

theorem cutAtFence?_eq_some {t before rest : Text} (h : cutAtFence? t = some (before, rest)) :
    ∃ front, before = front ++ fenceLine ∧ t = before ++ rest ∧
      (∀ q, q < front.length → ¬ FencedAt t q) ∧
      ∀ q, cutAtFence? (before ++ q) = some (before, q) := by
  induction t generalizing before with
  | nil => exact absurd h (by simp [cutAtFence?])
  | cons c t ih =>
      by_cases hhere : fenceLine <+: c :: t
      · obtain ⟨rest', hrest⟩ := hhere
        rw [← hrest, cutAtFence?_fenceLine_append] at h
        obtain ⟨rfl, rfl⟩ : fenceLine = before ∧ rest' = rest := by simpa using h
        exact ⟨[], rfl, hrest.symm, fun q hq => absurd hq (Nat.not_lt_zero q),
          cutAtFence?_fenceLine_append⟩
      · rw [cutAtFence?_cons hhere] at h
        obtain ⟨⟨before', rest'⟩, hcut, heq⟩ := Option.map_eq_some_iff.mp h
        obtain ⟨rfl, rfl⟩ : c :: before' = before ∧ rest' = rest := by simpa using heq
        obtain ⟨front, rfl, rfl, hfirst, hall⟩ := ih hcut
        refine ⟨c :: front, rfl, rfl, fun q hq => ?_, fun q => ?_⟩
        · cases q with
          | zero => exact hhere
          | succ q => exact hfirst q (Nat.lt_of_succ_lt_succ hq)
        -- the fence line found further on is long enough to hide what follows it
        · have hq : ¬ fenceLine <+: c :: (front ++ fenceLine ++ q) := by
            intro hprefix
            have hlen : fenceLine.length ≤ (c :: (front ++ fenceLine)).length := by
              rw [List.length_cons, List.length_append]
              omega
            have hshort : fenceLine <+: c :: (front ++ fenceLine) :=
              List.prefix_of_prefix_length_le hprefix (List.prefix_append _ q) hlen
            exact hhere (hshort.trans (List.prefix_append _ rest'))
          rw [List.cons_append, cutAtFence?_cons hq, hall q]
          rfl

theorem cutAtFence?_eq_none_iff {t : Text} : cutAtFence? t = none ↔ ¬ fenceLine <:+: t := by
  induction t with
  | nil => simp [cutAtFence?, fenceLine]
  | cons c t ih =>
      rw [List.infix_cons_iff, not_or, ← ih]
      by_cases hhere : fenceLine <+: c :: t
      · obtain ⟨rest, hrest⟩ := hhere
        rw [← hrest, cutAtFence?_fenceLine_append]
        simp
      · rw [cutAtFence?_cons hhere, Option.map_eq_none_iff]
        exact (and_iff_right hhere).symm

/-! ## The cut in closed form -/

namespace Note

/-- A note whose closing fence has been found: the header takes the white space behind it. -/
def closed (before rest : Text) : Note :=
  ⟨before ++ rest.takeWhile isSpace, rest.dropWhile isSpace⟩

theorem content_closed (before rest : Text) : (closed before rest).content = before ++ rest := by
  rw [content, closed, List.append_assoc, List.takeWhile_append_dropWhile]

/-- The note whose opening fence line has been read, the white space and the line feeds behind the
fence having been taken by the opening. -/
def closedIn? (opening block : Text) : Option Note :=
  match cutAtFence? block with
  | some (before, rest) => some (closed (fence ++ opening ++ before) rest)
  | none => (afterFence? block).bind fun rest =>
    if opening.dropLast.contains '\n' then some (closed (fence ++ opening ++ fence) rest) else none

/-- The cut behind the front matter of a content, by its fences. -/
def cutAtFences? (content : Text) : Option Note :=
  (afterFence? content).bind fun inside =>
    (cutAtLastFeed? (inside.takeWhile isSpace)).bind fun (opening, indent) =>
      closedIn? opening (indent ++ inside.dropWhile isSpace)

theorem cutAtFences?_fence_append (inside : Text) :
    cutAtFences? (fence ++ inside) =
      (cutAtLastFeed? (inside.takeWhile isSpace)).bind fun (opening, indent) =>
        closedIn? opening (indent ++ inside.dropWhile isSpace) := rfl

/-- A closed block ends at its first fence behind a line feed, or it has none and begins with a
fence, with a line feed before the last one of the opening. -/
theorem closedIn?_cases {opening block : Text} {note : Note}
    (h : closedIn? opening block = some note) :
    (∃ before rest, cutAtFence? block = some (before, rest) ∧
      note = closed (fence ++ opening ++ before) rest) ∨
    (∃ rest, block = fence ++ rest ∧ cutAtFence? block = none ∧
      opening.dropLast.contains '\n' = true ∧ note = closed (fence ++ opening ++ fence) rest) := by
  unfold closedIn? at h
  cases hcut : cutAtFence? block with
  | some cut =>
      obtain ⟨before, rest⟩ := cut
      rw [hcut] at h
      exact Or.inl ⟨before, rest, rfl, (Option.some.inj h).symm⟩
  | none =>
      rw [hcut] at h
      obtain ⟨rest, hrest, hnote⟩ := Option.bind_eq_some_iff.mp h
      split at hnote
      · rename_i hfeed
        exact Or.inr ⟨rest, afterFence?_eq_some_iff.mp hrest, rfl, hfeed,
          (Option.some.inj hnote).symm⟩
      · exact absurd hnote (by simp)

theorem cutAtFences?_opening {opening block : Text} (hspace : ∀ c ∈ opening, isSpace c = true)
    (hfeed : ['\n'] <:+ opening) (hblock : '\n' ∉ block.takeWhile isSpace) :
    cutAtFences? (fence ++ (opening ++ block)) = closedIn? opening block := by
  obtain ⟨space, rfl⟩ := hfeed
  have htake : (space ++ ['\n'] ++ block).takeWhile isSpace =
      space ++ '\n' :: block.takeWhile isSpace := by
    rw [List.takeWhile_append_of_pos hspace, List.append_assoc, List.singleton_append]
  have hdrop : (space ++ ['\n'] ++ block).dropWhile isSpace = block.dropWhile isSpace :=
    List.dropWhile_append_of_pos hspace
  rw [cutAtFences?_fence_append, htake, hdrop, cutAtLastFeed?_append_feed _ hblock,
    Option.bind_some]
  dsimp only
  rw [List.takeWhile_append_dropWhile]

theorem exists_opening {inside : Text} (h : '\n' ∈ inside.takeWhile isSpace) :
    ∃ opening block, inside = opening ++ block ∧ (∀ c ∈ opening, isSpace c = true) ∧
      ['\n'] <:+ opening ∧ '\n' ∉ block.takeWhile isSpace := by
  obtain ⟨space, indent, htake, hindent⟩ := exists_last_feed h
  have hall : ∀ c ∈ space ++ '\n' :: indent, isSpace c = true := by
    intro c hc
    rw [← htake] at hc
    exact List.mem_takeWhile_imp hc
  rw [List.append_cons] at htake hall
  refine ⟨space ++ ['\n'], indent ++ inside.dropWhile isSpace, ?_, ?_,
    List.suffix_append _ _, ?_⟩
  · have hwhole := List.takeWhile_append_dropWhile (p := isSpace) (l := inside)
    rw [htake, List.append_assoc] at hwhole
    exact hwhole.symm
  · exact fun c hc => hall c (List.mem_append_left _ hc)
  · have hspaces : ∀ c ∈ indent, isSpace c = true := fun c hc =>
      hall c (List.mem_append_right _ hc)
    rwa [List.takeWhile_append_of_pos hspaces, Text.takeWhile_dropWhile, List.append_nil]

theorem content_of_cutAtFences? {text : Text} {note : Note}
    (h : cutAtFences? text = some note) : note.content = text := by
  obtain ⟨inside, hinside, hcut⟩ := Option.bind_eq_some_iff.mp h
  obtain rfl := afterFence?_eq_some_iff.mp hinside
  by_cases hfeed : '\n' ∈ inside.takeWhile isSpace
  · obtain ⟨opening, block, rfl, hspace, hlast, hblock⟩ := exists_opening hfeed
    rw [cutAtFences?_opening hspace hlast hblock] at h
    rcases closedIn?_cases h with ⟨before, rest, hfirst, rfl⟩ | ⟨rest, rfl, -, -, rfl⟩
    · obtain ⟨-, -, rfl, -⟩ := cutAtFence?_eq_some hfirst
      simp only [content_closed, List.append_assoc]
    · simp only [content_closed, List.append_assoc]
  · rw [cutAtLastFeed?_eq_none hfeed] at hcut
    exact absurd hcut (by simp)

end Note

/-! ## What the matcher does -/

/-- The end of the expression, behind the closing fence. -/
def trailingSpace : Expression := [.most isSpace, .optional '\r', .optional '\n']

theorem pass_trailingSpace (t : Text) :
    trailingSpace.pass some t = some (t.dropWhile isSpace) := by
  have hnone {c : Char} (hc : isSpace c = true) {next : Text → Option Text} :
      passOne c next (t.dropWhile isSpace) = none := by
    refine passOne_eq_none fun hhead => ?_
    have hstop := List.head?_dropWhile_not isSpace t
    rw [hhead] at hstop
    exact absurd hc (by simpa using hstop)
  show passMost isSpace (Expression.pass [.optional '\r', .optional '\n'] some) t = _
  refine passMost_of_next ?_
  show (passOne '\r' _ (t.dropWhile isSpace) <|>
    (passOne '\n' some (t.dropWhile isSpace) <|> some (t.dropWhile isSpace))) = _
  rw [hnone (by decide), hnone (by decide)]
  rfl

/-- What is left behind a fence and white space. -/
def behindFence? (t : Text) : Option Text := (afterFence? t).map (List.dropWhile isSpace)

theorem pass_fence (t : Text) :
    (Expression.literal fence ++ trailingSpace).pass some t = behindFence? t := by
  rw [Expression.pass_append, behindFence?]
  cases hfence : afterFence? t with
  | some rest =>
      rw [afterFence?_eq_some_iff.mp hfence, Expression.pass_literal_append, pass_trailingSpace]
      rfl
  | none => exact Expression.pass_literal_eq_none (afterFence?_eq_none_iff.mp hfence)

section

variable {α : Type} {next : Text → Option α} {t : Text} {a : α}

/-- A line feed passed over, with a carriage return before it or without. -/
def passLineEnd (next : Text → Option α) (t : Text) : Option α :=
  passOne '\r' (passOne '\n' next) t <|> passOne '\n' next t

theorem passLineEnd_feed (next : Text → Option α) (t : Text) :
    passLineEnd next ('\n' :: t) = next t := rfl

theorem passLineEnd_eq_some (h : passLineEnd next t = some a) :
    ∃ u, (t = '\n' :: u ∨ t = '\r' :: '\n' :: u) ∧ next u = some a := by
  rw [passLineEnd, Option.orElse_eq_orElse, Option.orElse_eq_or, Option.or_eq_some_iff] at h
  rcases h with h | ⟨-, h⟩
  · obtain ⟨v, rfl, hv⟩ := passOne_eq_some_iff.mp h
    obtain ⟨u, rfl, hu⟩ := passOne_eq_some_iff.mp hv
    exact ⟨u, .inr rfl, hu⟩
  · obtain ⟨u, rfl, hu⟩ := passOne_eq_some_iff.mp h
    exact ⟨u, .inl rfl, hu⟩

theorem passLineEnd_eq_none (h : '\n' ∉ t.takeWhile isSpace) : passLineEnd next t = none := by
  rw [Option.eq_none_iff_forall_ne_some]
  intro a ha
  have hfeed : isSpace '\n' = true := by decide
  have hreturn : isSpace '\r' = true := by decide
  obtain ⟨u, rfl | rfl, -⟩ := passLineEnd_eq_some ha
  · simp [hfeed] at h
  · simp [hfeed, hreturn] at h

end

/-- What is left behind the first fence behind a line feed, and white space. -/
def behindBlock? (t : Text) : Option Text :=
  (cutAtFence? t).map fun cut => cut.2.dropWhile isSpace

/-- Any text up to a line end and a fence is text up to the first of them. It does not matter
whether a carriage return before the line feed belongs to that text or to the line end. -/
theorem pass_block (t : Text) : passFewest (passLineEnd behindFence?) t = behindBlock? t := by
  induction t with
  | nil => rfl
  | cons c t ih =>
      by_cases hhere : fenceLine <+: c :: t
      · obtain ⟨rest, hrest⟩ := hhere
        rw [← hrest]
        exact passFewest_of_next rfl
      have hlater : behindBlock? (c :: t) = behindBlock? t := by
        rw [behindBlock?, cutAtFence?_cons hhere, Option.map_map]
        rfl
      rw [hlater, ← ih]
      cases hnext : passLineEnd behindFence? (c :: t) with
      | none =>
          rw [passFewest, hnext]
          rfl
      | some a =>
          rw [passFewest_of_next hnext]
          obtain ⟨u, hu | hu, ha⟩ := passLineEnd_eq_some hnext
          · -- a fence would stand behind this very line feed
            obtain ⟨rest, hrest, -⟩ := Option.map_eq_some_iff.mp ha
            refine absurd ⟨rest, ?_⟩ hhere
            rw [hu, afterFence?_eq_some_iff.mp hrest]
            rfl
          · obtain ⟨-, rfl⟩ := List.cons.inj hu
            exact (passFewest_of_next (t := '\n' :: u) ha).symm

/-- Before a block without a closing fence, white space that ends in a line feed is closed by a
fence that the block begins with, and by nothing else. -/
theorem behindBlock?_append {space block : Text} (hspace : ∀ c ∈ space, isSpace c = true)
    (hblock : cutAtFence? block = none) :
    behindBlock? (space ++ '\n' :: block) = behindFence? block := by
  induction space with
  | nil =>
      rw [List.nil_append, behindBlock?, cutAtFence?, if_pos rfl, hblock, behindFence?]
      cases afterFence? block <;> rfl
  | cons c space ih =>
      have hhere : ¬ fenceLine <+: c :: (space ++ '\n' :: block) := by
        intro hprefix
        have hfence : fence <+: space ++ '\n' :: block := (List.cons_prefix_cons.mp hprefix).2
        cases space with
        | nil => exact absurd (List.cons_prefix_cons.mp hfence).1 (by decide)
        | cons d space =>
            have hd : '-' = d := (List.cons_prefix_cons.mp hfence).1
            exact absurd (hspace d (by simp)) (hd ▸ by decide)
      rw [List.cons_append, behindBlock?, cutAtFence?_cons hhere, Option.map_map]
      exact ih fun d hd => hspace d (List.mem_cons_of_mem c hd)

theorem passMost_eq_none {next : Text → Option Text} {t : Text}
    (h : '\n' ∉ t.takeWhile isSpace) : passMost isSpace (passLineEnd next) t = none := by
  induction t with
  | nil => exact passLineEnd_eq_none h
  | cons c t ih =>
      by_cases hc : isSpace c = true
      · have ht : '\n' ∉ t.takeWhile isSpace := by
          rw [List.takeWhile_cons_of_pos hc, List.mem_cons, not_or] at h
          exact h.2
        rw [passMost_cons_of_pos hc, ih ht, passLineEnd_eq_none h]
        rfl
      · rw [passMost_cons_of_neg hc, passLineEnd_eq_none h]

/-- A line end that is found in front of the last line feed of white space leads to the fence behind
that line feed, if the block is not closed otherwise. -/
theorem passLineEnd_opening {c : Char} {space block a : Text}
    (hspace : ∀ d ∈ space, isSpace d = true) (hblock : behindBlock? block = none)
    (h : passLineEnd behindBlock? (c :: (space ++ '\n' :: block)) = some a) :
    '\n' ∈ c :: space ∧ behindFence? block = some a := by
  have hnone : cutAtFence? block = none := Option.map_eq_none_iff.mp hblock
  obtain ⟨u, hu | hu, ha⟩ := passLineEnd_eq_some h
  · obtain ⟨rfl, rfl⟩ := List.cons.inj hu
    rw [behindBlock?_append hspace hnone] at ha
    exact ⟨List.mem_cons_self, ha⟩
  · obtain ⟨-, hu⟩ := List.cons.inj hu
    cases space with
    | nil =>
        obtain ⟨-, rfl⟩ := List.cons.inj hu
        exact absurd (hblock.symm.trans ha) (by simp)
    | cons d space =>
        rw [List.cons_append] at hu
        obtain ⟨rfl, rfl⟩ := List.cons.inj hu
        rw [behindBlock?_append (fun e he => hspace e (List.mem_cons_of_mem _ he)) hnone] at ha
        exact ⟨List.mem_cons_of_mem c List.mem_cons_self, ha⟩

theorem passMost_closed {space block a : Text} (hspace : ∀ c ∈ space, isSpace c = true)
    (hindent : '\n' ∉ block.takeWhile isSpace) (hblock : behindBlock? block = some a) :
    passMost isSpace (passLineEnd behindBlock?) (space ++ '\n' :: block) = some a := by
  induction space with
  | nil =>
      rw [List.nil_append, passMost_cons_of_pos (by decide), passMost_eq_none hindent,
        passLineEnd_feed, hblock]
      rfl
  | cons c space ih =>
      obtain ⟨hc, hrest⟩ := List.forall_mem_cons.mp hspace
      rw [List.cons_append, passMost_cons_of_pos hc, ih hrest]
      rfl

/-- If the block behind the last line feed of white space is not closed, white space is given back
further, and any line feed before the last one will do. -/
theorem passMost_unclosed {space block : Text} (hspace : ∀ c ∈ space, isSpace c = true)
    (hindent : '\n' ∉ block.takeWhile isSpace) (hblock : behindBlock? block = none) :
    passMost isSpace (passLineEnd behindBlock?) (space ++ '\n' :: block) =
      if '\n' ∈ space then behindFence? block else none := by
  induction space with
  | nil =>
      rw [List.nil_append, passMost_cons_of_pos (by decide), passMost_eq_none hindent,
        passLineEnd_feed, hblock]
      rfl
  | cons c space ih =>
      obtain ⟨hc, hrest⟩ := List.forall_mem_cons.mp hspace
      -- what the line end at the front could lead to is found further on already
      have hhere (a : Text)
          (ha : passLineEnd behindBlock? (c :: (space ++ '\n' :: block)) = some a) :
          '\n' ∈ c :: space ∧ behindFence? block = some a := passLineEnd_opening hrest hblock ha
      rw [List.cons_append, passMost_cons_of_pos hc, ih hrest]
      by_cases hmem : '\n' ∈ c :: space
      · rw [if_pos hmem]
        cases hfence : behindFence? block with
        | none =>
            rw [ite_self]
            refine Option.eq_none_iff_forall_ne_some.mpr fun a ha => ?_
            exact absurd (hfence.symm.trans (hhere a ha).2) (by simp)
        | some a =>
            by_cases hlater : '\n' ∈ space
            · rw [if_pos hlater]
              rfl
            · have hfeed : '\n' = c := (List.mem_cons.mp hmem).resolve_right hlater
              subst hfeed
              rw [if_neg hlater, passLineEnd_feed,
                behindBlock?_append hrest (Option.map_eq_none_iff.mp hblock), hfence]
              rfl
      · rw [if_neg hmem, if_neg fun h => hmem (List.mem_cons_of_mem c h)]
        exact Option.eq_none_iff_forall_ne_some.mpr fun a ha => hmem (hhere a ha).1

theorem passMost_opening {space block : Text} (hspace : ∀ c ∈ space, isSpace c = true)
    (hindent : '\n' ∉ block.takeWhile isSpace) :
    passMost isSpace (passLineEnd behindBlock?) (space ++ '\n' :: block) =
      (Note.closedIn? (space ++ ['\n']) block).map Note.body := by
  rw [Note.closedIn?, List.dropLast_concat]
  cases hcut : cutAtFence? block with
  | some cut =>
      have hclosed : behindBlock? block = some (cut.2.dropWhile isSpace) := by
        rw [behindBlock?, hcut]
        rfl
      rw [passMost_closed hspace hindent hclosed]
      rfl
  | none =>
      rw [passMost_unclosed hspace hindent (Option.map_eq_none_iff.mpr hcut), behindFence?]
      cases afterFence? block with
      | none => simp
      | some rest =>
          by_cases hmem : '\n' ∈ space
          · simp [hmem, Note.closed]
          · simp [hmem]

/-- What the expression leaves of a content is the body that the cut in closed form leaves. -/
theorem rest?_frontMatter (content : Text) :
    frontMatter.rest? content = (Note.cutAtFences? content).map Note.body := by
  have hparts : frontMatter.rest? content = (Expression.literal fence).pass
      (passMost isSpace (passLineEnd (passFewest (passLineEnd
        ((Expression.literal fence ++ trailingSpace).pass some))))) content := rfl
  have hblock : passFewest (passLineEnd ((Expression.literal fence ++ trailingSpace).pass some)) =
      behindBlock? := by
    rw [funext pass_fence]
    exact funext pass_block
  rw [hparts, hblock]
  cases hfence : afterFence? content with
  | none =>
      rw [Expression.pass_literal_eq_none (afterFence?_eq_none_iff.mp hfence), Note.cutAtFences?,
        hfence]
      rfl
  | some inside =>
      obtain rfl := afterFence?_eq_some_iff.mp hfence
      rw [Expression.pass_literal_append]
      by_cases hfeed : '\n' ∈ inside.takeWhile isSpace
      · obtain ⟨opening, block, rfl, hspace, ⟨space, rfl⟩, hindent⟩ := Note.exists_opening hfeed
        have hspace' : ∀ c ∈ space, isSpace c = true := fun c hc =>
          hspace c (List.mem_append_left _ hc)
        rw [Note.cutAtFences?_opening hspace ⟨space, rfl⟩ hindent, List.append_assoc,
          List.singleton_append]
        exact passMost_opening hspace' hindent
      · rw [passMost_eq_none hfeed, Note.cutAtFences?_fence_append, cutAtLastFeed?_eq_none hfeed]
        rfl

/-- The matcher cuts a content where its fences say. -/
theorem Note.withHeader?_eq_cutAtFences? (text : Text) :
    withHeader? text = cutAtFences? text := by
  rw [withHeader?, rest?_frontMatter, Option.map_map]
  cases hcut : cutAtFences? text with
  | none => rfl
  | some note =>
      obtain ⟨header, body⟩ := note
      obtain rfl := content_of_cutAtFences? hcut
      show some (Note.mk ((header ++ body).take ((header ++ body).length - body.length)) body) = _
      rw [List.length_append, Nat.add_sub_cancel, List.take_left]

end WikiCasing
