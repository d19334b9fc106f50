import WikiCasing.Proofs.Note.Fences
import WikiCasing.Proofs.Text.Line

/-!
# Front matter between two lines

Front matter is usually written between two lines of three hyphens. The contents that begin with
such a line and have a further one (`HasClosingLine`) are those that can be cut into opening line,
lines between, closing line and rest (`Framed`, `hasClosingLine_iff`), and the cut one expects is
behind the closing line and the white space that follows it (`Framed.note`).

The cut is there exactly in the cases of `Framed.ClosedByLine`. With text between the two lines, no
line behind the first one that is not blank may begin with a fence, whatever follows the fence on
that line: it would end the header early, and what comes between it and the closing line would be
recased. With blank lines only, there has to be at least one, and no line behind the closing one may
begin with a fence: it would be taken for the closing fence, and what comes before it would be left
as it is. The header never reaches beyond the closing line when there is text between the two.
-/

namespace WikiCasing

open Unicode (isSpace)

/-! ## Lines that are rules -/

/-- A blank within a line. -/
def isIndent (c : Char) : Bool := c = ' ' || c = '\t'

/-- Three hyphens with blanks behind them. -/
def isRule (text : Text) : Bool :=
  match afterFence? text with
  | some rest => rest.all isIndent
  | none => false

/-- A line of white space only. -/
def EndedLine.isBlank (l : EndedLine) : Bool := l.text.all isSpace

theorem isSpace_of_isIndent {c : Char} (h : isIndent c = true) : isSpace c = true := by
  simp only [isIndent, Bool.or_eq_true, decide_eq_true_eq] at h
  rcases h with rfl | rfl
  · decide
  · decide

theorem exists_eq_of_isRule {t : Text} (h : isRule t = true) :
    ∃ indent, t = fence ++ indent ∧ (∀ c ∈ indent, isIndent c = true) := by
  unfold isRule at h
  split at h
  · rename_i indent hfence
    exact ⟨indent, afterFence?_eq_some_iff.mp hfence, List.all_eq_true.mp h⟩
  · exact absurd h Bool.false_ne_true

theorem not_mem_of_isRule {t : Text} (h : isRule t = true) {c : Char} (hfence : c ∉ fence)
    (hindent : isIndent c = false) : c ∉ t := by
  obtain ⟨indent, rfl, hblanks⟩ := exists_eq_of_isRule h
  rw [List.mem_append, not_or]
  refine ⟨hfence, fun hmem => ?_⟩
  exact Bool.noConfusion (hindent.symm.trans (hblanks c hmem))

theorem feed_not_mem_of_isRule {t : Text} (h : isRule t = true) : '\n' ∉ t :=
  not_mem_of_isRule h (by decide) (by decide)

theorem isSpace_of_mem_ending {e : LineEnd} {c : Char} (h : c ∈ e.spell) : isSpace c = true := by
  obtain ⟨back, hspell, hreturns⟩ := e.exists_spell_eq
  rw [hspell, List.mem_append, List.mem_singleton] at h
  rcases h with hback | rfl
  · rw [hreturns c hback]
    decide
  · decide

theorem EndedLine.isSpace_of_isBlank {l : EndedLine} (h : l.isBlank = true) :
    ∀ c ∈ l.spell, isSpace c = true := by
  intro c hc
  rcases List.mem_append.mp hc with htext | hend
  · exact List.all_eq_true.mp h c htext
  · exact isSpace_of_mem_ending hend

theorem EndedLine.exists_stop {l : EndedLine} (h : l.isBlank = false) :
    ∃ c ∈ l.text, ¬ isSpace c = true := by
  simpa [isBlank] using h

theorem isSpace_of_mem_spellLines {ls : List EndedLine} (h : ∀ l ∈ ls, l.isBlank = true) :
    ∀ c ∈ spellLines ls, isSpace c = true := by
  intro c hc
  obtain ⟨l, hl, hcl⟩ := List.mem_flatMap.mp hc
  exact l.isSpace_of_isBlank (h l hl) c hcl

theorem EndedLine.fence_prefix_iff (l : EndedLine) (t : Text) :
    fence <+: l.spell ++ t ↔ fence <+: l.text := by
  obtain ⟨text, ending, -, -⟩ := l
  cases ending with
  | feed =>
      rw [spell, List.append_assoc]
      exact prefix_append_cons_iff (by decide) text t
  | returnFeed =>
      rw [spell, List.append_assoc]
      exact prefix_append_cons_iff (by decide) text ('\n' :: t)

/-! ## The first fence behind lines -/

theorem cutAtFence?_append_of_not_mem {a : Text} (h : '\n' ∉ a) (t : Text) :
    cutAtFence? (a ++ t) = (cutAtFence? t).map fun (before, rest) => (a ++ before, rest) := by
  induction a with
  | nil => simp
  | cons c a ih =>
      rw [List.mem_cons, not_or] at h
      have hc : ¬ fenceLine <+: c :: (a ++ t) := fun hprefix =>
        h.1 (List.cons_prefix_cons.mp hprefix).1
      rw [List.cons_append, cutAtFence?_cons hc, ih h.2, Option.map_map]
      rfl

theorem cutAtFence?_line_fence (l : EndedLine) (q : Text) :
    cutAtFence? (l.spell ++ (fence ++ q)) = some (l.spell ++ fence, q) := by
  obtain ⟨front, hspell, hfeed⟩ := l.exists_spell_eq
  have hcut : cutAtFence? (['\n'] ++ (fence ++ q)) = some (fenceLine, q) :=
    cutAtFence?_fenceLine_append q
  rw [hspell, List.append_assoc, cutAtFence?_append_of_not_mem hfeed, hcut, Option.map_some,
    List.append_assoc]
  rfl

theorem cutAtFence?_line (l : EndedLine) {t : Text} (h : ¬ fence <+: t) :
    cutAtFence? (l.spell ++ t) =
      (cutAtFence? t).map fun (before, rest) => (l.spell ++ before, rest) := by
  obtain ⟨front, hspell, hfeed⟩ := l.exists_spell_eq
  have hhere : ¬ fenceLine <+: '\n' :: t := fun hprefix =>
    h (List.cons_prefix_cons.mp hprefix).2
  rw [hspell, List.append_assoc, cutAtFence?_append_of_not_mem hfeed, List.singleton_append,
    cutAtFence?_cons hhere, Option.map_map]
  simp only [Function.comp_def, List.append_assoc, List.singleton_append]

theorem cutAtFence?_lines (l : EndedLine) {behind : List EndedLine}
    (h : ∀ m ∈ behind, ¬ fence <+: m.text) (q : Text) :
    cutAtFence? (l.spell ++ (spellLines behind ++ (fence ++ q))) =
      some (l.spell ++ (spellLines behind ++ fence), q) := by
  induction behind generalizing l with
  | nil => exact cutAtFence?_line_fence l q
  | cons m behind ih =>
      have hm : ¬ fence <+: m.spell ++ (spellLines behind ++ (fence ++ q)) := by
        rw [m.fence_prefix_iff]
        exact h m List.mem_cons_self
      rw [spellLines_cons, List.append_assoc, cutAtFence?_line l hm,
        ih m (fun n hn => h n (List.mem_cons_of_mem m hn))]
      simp

theorem fenceLine_infix_append_iff {a : Text} (h : '\n' ∉ a) (t : Text) :
    fenceLine <:+: a ++ t ↔ fenceLine <:+: t := by
  rw [← not_iff_not, ← cutAtFence?_eq_none_iff, ← cutAtFence?_eq_none_iff,
    cutAtFence?_append_of_not_mem h, Option.map_eq_none_iff]

/-! ## Framed contents -/

/-- A content is made of lines, the last of which may have no end. The first is a rule, and so is a
later one. -/
def HasClosingLine (content : Text) : Prop :=
  ∃ (opening : EndedLine) (ls : List EndedLine) (last : Text),
    content = opening.spell ++ spellLines ls ++ last ∧ '\n' ∉ last ∧
      isRule opening.text = true ∧ ((∃ l ∈ ls, isRule l.text = true) ∨ isRule last = true)

/-- A content whose first line is a rule and that has a further one: the opening line, the lines
between, the first further rule without its end, and what follows. -/
structure Framed where
  opening : EndedLine
  lines : List EndedLine
  closing : Text
  rest : Text
  opening_rule : isRule opening.text = true
  lines_not_rule : ∀ l ∈ lines, ¬ isRule l.text = true
  closing_rule : isRule closing = true
  /-- The closing line ends, or it is the last one and has no end. -/
  rest_ends_line : rest = [] ∨ ∃ e : LineEnd, e.spell <+: rest

theorem exists_first_line (P : EndedLine → Prop) (ls : List EndedLine) :
    (∀ l ∈ ls, ¬ P l) ∨
      ∃ before l behind, ls = before ++ l :: behind ∧ (∀ m ∈ before, ¬ P m) ∧ P l := by
  induction ls with
  | nil => exact Or.inl fun l hl => absurd hl List.not_mem_nil
  | cons l ls ih =>
      by_cases hl : P l
      · exact Or.inr ⟨[], l, ls, rfl, fun m hm => absurd hm List.not_mem_nil, hl⟩
      · rcases ih with hnone | ⟨before, m, behind, rfl, hbefore, hm⟩
        · exact Or.inl (List.forall_mem_cons.mpr ⟨hl, hnone⟩)
        · exact Or.inr ⟨l :: before, m, behind, rfl, List.forall_mem_cons.mpr ⟨hl, hbefore⟩, hm⟩

namespace Framed

/-- The characters of a framed content. -/
def text (f : Framed) : Text := f.opening.spell ++ spellLines f.lines ++ f.closing ++ f.rest

/-- The cut behind the closing line and the white space that follows it. -/
def note (f : Framed) : Note :=
  .closed (f.opening.spell ++ spellLines f.lines ++ f.closing) f.rest

theorem exists_framed {opening : EndedLine} {ls : List EndedLine} {last : Text}
    (hopening : isRule opening.text = true)
    (hlater : (∃ l ∈ ls, isRule l.text = true) ∨ isRule last = true) :
    ∃ f : Framed, f.text = opening.spell ++ spellLines ls ++ last := by
  rcases exists_first_line (fun l => isRule l.text = true) ls with
    hnone | ⟨before, l, behind, rfl, hbefore, hl⟩
  · have hlast : isRule last = true := by
      refine hlater.resolve_left ?_
      rintro ⟨l, hl, hrule⟩
      exact hnone l hl hrule
    exact ⟨⟨opening, ls, last, [], hopening, hnone, hlast, Or.inl rfl⟩, by simp [text]⟩
  · refine ⟨⟨opening, before, l.text, l.ending.spell ++ (spellLines behind ++ last), hopening,
      hbefore, hl, Or.inr ⟨l.ending, List.prefix_append _ _⟩⟩, ?_⟩
    simp [text, EndedLine.spell]

theorem hasClosingLine_text (f : Framed) : HasClosingLine f.text := by
  obtain ⟨opening, ls, closing, rest, hopening, -, hclosing, hends⟩ := f
  rcases hends with rfl | ⟨e, tail, rfl⟩
  · refine ⟨opening, ls, closing, ?_, feed_not_mem_of_isRule hclosing, hopening, .inr hclosing⟩
    exact List.append_nil _
  · -- the closing line has an end, and further lines may follow it
    obtain ⟨behind, last, rfl, hlast⟩ := exists_lines tail
    let line : EndedLine :=
      { text := closing
        ending := e
        feed_not_mem := feed_not_mem_of_isRule hclosing
        return_not_last := fun _ hreturn =>
          not_mem_of_isRule hclosing (by decide) (by decide) (List.mem_of_getLast? hreturn) }
    refine ⟨opening, ls ++ line :: behind, last, ?_, hlast, hopening,
      .inl ⟨line, List.mem_append_right ls List.mem_cons_self, hclosing⟩⟩
    simp [text, EndedLine.spell, line]

/-- The framed contents are those whose first line is a rule and that have a further one. -/
theorem hasClosingLine_iff {content : Text} :
    HasClosingLine content ↔ ∃ f : Framed, f.text = content := by
  constructor
  · rintro ⟨opening, ls, last, rfl, -, hopening, hlater⟩
    exact exists_framed hopening hlater
  · rintro ⟨f, rfl⟩
    exact f.hasClosingLine_text

/-- The header of a framed content is expected to end at its closing line, and does so. -/
inductive ClosedByLine (f : Framed) : Prop
  /-- There is text between the two lines, and behind its first line no line begins with a fence. -/
  | behindText {blanks behind : List EndedLine} {l : EndedLine}
      (lines_eq : f.lines = blanks ++ l :: behind) (blank : ∀ m ∈ blanks, m.isBlank = true)
      (text : l.isBlank = false) (unfenced : ∀ m ∈ behind, ¬ fence <+: m.text)
  /-- There are blank lines only, at least one, and no line behind them begins with a fence. -/
  | behindBlanks (ne_nil : f.lines ≠ []) (blank : ∀ m ∈ f.lines, m.isBlank = true)
      (unfenced : ¬ fenceLine <:+: f.rest)

variable (f : Framed)

/-- What stands from the opening fence through blank lines is white space behind the fence, with a
line feed before its last one if there are any blank lines. -/
theorem exists_opening_space {blanks : List EndedLine} (h : ∀ m ∈ blanks, m.isBlank = true) :
    ∃ space, f.opening.spell ++ spellLines blanks = fence ++ space ∧
      (∀ c ∈ space, isSpace c = true) ∧ ['\n'] <:+ space ∧
      ('\n' ∈ space.dropLast ↔ blanks ≠ []) := by
  obtain ⟨indent, htext, hindent⟩ := exists_eq_of_isRule f.opening_rule
  obtain ⟨back, hend, hreturns⟩ := f.opening.ending.exists_spell_eq
  have hfeed : ['\n'] <:+ indent ++ f.opening.ending.spell := by
    rw [hend, ← List.append_assoc]
    exact List.suffix_append _ _
  refine ⟨indent ++ f.opening.ending.spell ++ spellLines blanks, ?_, ?_,
    feed_suffix_append_spellLines hfeed blanks, ?_⟩
  · rw [EndedLine.spell, htext]
    simp only [List.append_assoc]
  · intro c hc
    rcases List.mem_append.mp hc with hc | hc
    · rcases List.mem_append.mp hc with hc | hc
      · exact isSpace_of_isIndent (hindent c hc)
      · exact isSpace_of_mem_ending hc
    · exact isSpace_of_mem_spellLines h c hc
  -- the opening line has one line feed, at its end, and each blank line brings one more
  · cases blanks with
    | nil =>
        have hnone : '\n' ∉ indent ++ back := by
          rw [List.mem_append, not_or]
          exact ⟨fun hmem => absurd (hindent _ hmem) (by decide),
            fun hmem => absurd (hreturns _ hmem) (by decide)⟩
        rw [spellLines_nil, List.append_nil, hend, ← List.append_assoc, List.dropLast_concat]
        simpa using hnone
    | cons b bs =>
        have hne : spellLines (b :: bs) ≠ [] := by
          obtain ⟨front, hspell, -⟩ := b.exists_spell_eq
          simp [hspell]
        have hmem : '\n' ∈ f.opening.ending.spell := by simp [hend]
        rw [List.dropLast_append_of_ne_nil hne]
        simp [hmem]

/-! ### With text between the two lines -/

theorem closed_append {space : Text} (h : ∀ c ∈ space, isSpace c = true) (before rest : Text) :
    Note.closed before (space ++ rest) = Note.closed (before ++ space) rest := by
  rw [Note.closed, Note.closed, List.takeWhile_append_of_pos h, List.dropWhile_append_of_pos h,
    List.append_assoc]

/-- The header ends at the first fence at the front of a line behind the first line with text. -/
theorem split_of_lines {space : Text} (hspace : ∀ c ∈ space, isSpace c = true)
    (hfeed : ['\n'] <:+ space) {l : EndedLine} (hl : l.isBlank = false) {before : List EndedLine}
    (hbefore : ∀ m ∈ before, ¬ fence <+: m.text) (q : Text) :
    Note.split (fence ++ (space ++ (l.spell ++ (spellLines before ++ (fence ++ q))))) =
      .closed (fence ++ space ++ (l.spell ++ (spellLines before ++ fence))) q := by
  have hblock :
      '\n' ∉ (l.spell ++ (spellLines before ++ (fence ++ q))).takeWhile isSpace := by
    rw [EndedLine.spell, List.append_assoc,
      Note.takeWhile_append_of_stop (EndedLine.exists_stop hl)]
    exact fun hmem => l.feed_not_mem (List.takeWhile_subset _ hmem)
  rw [Note.split, Note.withHeader?_opening hspace hfeed hblock, Note.closedIn?,
    cutAtFence?_lines l hbefore q]
  rfl

theorem split_text_of_unfenced {blanks behind : List EndedLine} {l : EndedLine}
    (hlines : f.lines = blanks ++ l :: behind) (hblank : ∀ m ∈ blanks, m.isBlank = true)
    (hl : l.isBlank = false) (hbehind : ∀ m ∈ behind, ¬ fence <+: m.text) :
    Note.split f.text = f.note := by
  obtain ⟨space, hopening, hspace, hfeed, -⟩ := f.exists_opening_space hblank
  obtain ⟨indent, hclosing, hindent⟩ := exists_eq_of_isRule f.closing_rule
  have hbefore : f.opening.spell ++ spellLines f.lines =
      fence ++ space ++ (l.spell ++ spellLines behind) := by
    rw [hlines, spellLines_append, spellLines_cons, ← List.append_assoc, hopening]
  have htext : f.text =
      fence ++ (space ++ (l.spell ++ (spellLines behind ++ (fence ++ (indent ++ f.rest))))) := by
    rw [text, hbefore, hclosing]
    simp only [List.append_assoc]
  rw [htext, split_of_lines hspace hfeed hl hbehind,
    closed_append (fun c hc => isSpace_of_isIndent (hindent c hc)), note, hbefore, hclosing]
  simp only [List.append_assoc]

theorem takeWhile_append_cons_prefix {P : Char → Bool} {c : Char} (hc : ¬ P c = true)
    (a b : Text) : (a ++ c :: b).takeWhile P <+: a := by
  rw [Text.takeWhile_append_cons (Bool.eq_false_iff.mpr hc)]
  exact List.takeWhile_prefix P

theorem header_prefix_of_fenced {blanks before behind : List EndedLine} {l m : EndedLine}
    (hlines : f.lines = blanks ++ l :: (before ++ m :: behind))
    (hblank : ∀ n ∈ blanks, n.isBlank = true) (hl : l.isBlank = false)
    (hbefore : ∀ n ∈ before, ¬ fence <+: n.text) (hm : fence <+: m.text) :
    (Note.split f.text).header <+: f.opening.spell ++ spellLines f.lines := by
  obtain ⟨space, hopening, hspace, hfeed, -⟩ := f.exists_opening_space hblank
  obtain ⟨indent, hclosing, -⟩ := exists_eq_of_isRule f.closing_rule
  obtain ⟨tail, htail⟩ := hm
  have hspell : m.spell = fence ++ tail ++ m.ending.spell := by rw [EndedLine.spell, htail]
  have hinside : f.opening.spell ++ spellLines f.lines =
      fence ++ space ++ (l.spell ++ (spellLines before ++ fence)) ++
        (tail ++ m.ending.spell ++ spellLines behind) := by
    rw [hlines, spellLines_append, spellLines_cons, ← List.append_assoc, hopening,
      spellLines_append, spellLines_cons, hspell]
    simp only [List.append_assoc]
  have htext : f.text =
      fence ++ (space ++ (l.spell ++ (spellLines before ++ (fence ++
        (tail ++ m.ending.spell ++ spellLines behind ++
          '-' :: ('-' :: '-' :: (indent ++ f.rest))))))) := by
    rw [text, hinside, hclosing]
    simp [fence]
  rw [htext, split_of_lines hspace hfeed hl hbefore, hinside, Note.closed]
  refine (List.prefix_append_right_inj _).mpr ?_
  exact takeWhile_append_cons_prefix (by decide) _ _

/-! ### With blank lines only -/

theorem withHeader?_text_of_blank (h : ∀ m ∈ f.lines, m.isBlank = true) :
    ∃ space, f.opening.spell ++ spellLines f.lines = fence ++ space ∧
      ('\n' ∈ space.dropLast ↔ f.lines ≠ []) ∧
      Note.withHeader? f.text = Note.closedIn? space (f.closing ++ f.rest) := by
  obtain ⟨space, hopening, hspace, hfeed, hlines⟩ := f.exists_opening_space h
  obtain ⟨indent, hclosing, -⟩ := exists_eq_of_isRule f.closing_rule
  have hblock : '\n' ∉ (f.closing ++ f.rest).takeWhile isSpace := by
    rw [hclosing, fence, List.cons_append, List.cons_append,
      List.takeWhile_cons_of_neg (by decide)]
    exact List.not_mem_nil
  have htext : f.text = fence ++ (space ++ (f.closing ++ f.rest)) := by
    rw [text, hopening]
    simp only [List.append_assoc]
  refine ⟨space, hopening, hlines, ?_⟩
  rw [htext, Note.withHeader?_opening hspace hfeed hblock]

theorem fenceLine_infix_block_iff : fenceLine <:+: f.closing ++ f.rest ↔ fenceLine <:+: f.rest :=
  fenceLine_infix_append_iff (feed_not_mem_of_isRule f.closing_rule) f.rest

theorem split_text_of_blanks (h : ∀ m ∈ f.lines, m.isBlank = true) (hne : f.lines ≠ [])
    (hlast : ¬ fenceLine <:+: f.rest) : Note.split f.text = f.note := by
  obtain ⟨space, hopening, hlines, hheader⟩ := f.withHeader?_text_of_blank h
  obtain ⟨indent, hclosing, hindent⟩ := exists_eq_of_isRule f.closing_rule
  have hcut : cutAtFence? (f.closing ++ f.rest) = none := by
    rw [cutAtFence?_eq_none_iff, f.fenceLine_infix_block_iff]
    exact hlast
  have hfence : afterFence? (f.closing ++ f.rest) = some (indent ++ f.rest) := by
    rw [afterFence?_eq_some_iff, hclosing, List.append_assoc]
  have hfeed : space.dropLast.contains '\n' = true := List.contains_iff_mem.mpr (hlines.mpr hne)
  rw [Note.split, hheader, Note.closedIn?, hcut]
  dsimp only
  rw [hfence, Option.bind_some, if_pos hfeed, Option.getD_some,
    closed_append (fun c hc => isSpace_of_isIndent (hindent c hc)), note, hopening, hclosing]
  simp only [List.append_assoc]

theorem header_eq_nil_of_no_lines (hnil : f.lines = []) (hlast : ¬ fenceLine <:+: f.rest) :
    (Note.split f.text).header = [] := by
  have hblank : ∀ m ∈ f.lines, m.isBlank = true := by
    rw [hnil]
    exact fun m hm => absurd hm List.not_mem_nil
  obtain ⟨space, -, hlines, hheader⟩ := f.withHeader?_text_of_blank hblank
  have hnone : Note.closedIn? space (f.closing ++ f.rest) = none := by
    rw [Note.closedIn?_eq_none_iff, f.fenceLine_infix_block_iff]
    refine ⟨hlast, fun hfeed => ?_⟩
    exact hlines.mp (List.contains_iff_mem.mp hfeed.2) hnil
  rw [Note.split, hheader, hnone]
  rfl

theorem split_text_ne_of_later_fence (h : ∀ m ∈ f.lines, m.isBlank = true)
    (hlater : fenceLine <:+: f.rest) : Note.split f.text ≠ f.note := by
  obtain ⟨space, hopening, -, hheader⟩ := f.withHeader?_text_of_blank h
  intro hsplit
  rw [Note.split, hheader] at hsplit
  cases hclosed : Note.closedIn? space (f.closing ++ f.rest) with
  | none =>
      rw [Note.closedIn?_eq_none_iff, f.fenceLine_infix_block_iff] at hclosed
      exact hclosed.1 hlater
  | some cut =>
      rw [hclosed, Option.getD_some] at hsplit
      rcases Note.closedIn?_cases hclosed with ⟨before, rest, hcut, rfl⟩ | ⟨rest, -, hnone, -, -⟩
      · obtain ⟨front, rfl, -⟩ := cutAtFence?_eq_some hcut
        have hheaders := congrArg Note.header hsplit
        rw [note, Note.closed, Note.closed, hopening, List.append_assoc,
          List.append_assoc (fence ++ space)] at hheaders
        have hsame := List.append_cancel_left hheaders
        -- the closing line and white space would hold a fence behind a line feed
        have hwithin : fenceLine <:+: f.closing ++ f.rest.takeWhile isSpace := by
          rw [← hsame]
          exact ⟨front, rest.takeWhile isSpace, rfl⟩
        rw [fenceLine_infix_append_iff (feed_not_mem_of_isRule f.closing_rule)] at hwithin
        have hhyphen : '-' ∈ f.rest.takeWhile isSpace := hwithin.subset (by decide)
        exact absurd (List.mem_takeWhile_imp hhyphen) (by decide)
      · exact cutAtFence?_eq_none_iff.mp hnone (f.fenceLine_infix_block_iff.mpr hlater)

/-! ### When the closing line ends the header -/

theorem header_note : f.note.header =
    f.opening.spell ++ spellLines f.lines ++ (f.closing ++ f.rest.takeWhile isSpace) :=
  List.append_assoc _ _ _

theorem closing_ne_nil : f.closing ≠ [] := by
  obtain ⟨indent, hclosing, -⟩ := exists_eq_of_isRule f.closing_rule
  rw [hclosing]
  simp [fence]

theorem split_text_ne_of_prefix
    (h : (Note.split f.text).header <+: f.opening.spell ++ spellLines f.lines) :
    Note.split f.text ≠ f.note := by
  intro hsplit
  rw [hsplit, header_note] at h
  have hlen := h.length_le
  have hpos := List.length_pos_iff.mpr f.closing_ne_nil
  simp only [List.length_append] at hlen
  omega

/-- With text between the two lines, the header ends at the closing line or before it. -/
theorem closedByLine_or_prefix (h : ∃ l ∈ f.lines, l.isBlank = false) :
    f.ClosedByLine ∨ (Note.split f.text).header <+: f.opening.spell ++ spellLines f.lines := by
  rcases exists_first_line (fun l => l.isBlank = false) f.lines with
    hnone | ⟨blanks, l, behind, hlines, hblanks, hl⟩
  · obtain ⟨l, hl, htext⟩ := h
    exact absurd htext (hnone l hl)
  · have hblank : ∀ m ∈ blanks, m.isBlank = true := fun m hm => by simpa using hblanks m hm
    rcases exists_first_line (fun m => fence <+: m.text) behind with
      hnone | ⟨before, m, after, rfl, hbefore, hm⟩
    · exact Or.inl (.behindText hlines hblank hl hnone)
    · exact Or.inr (f.header_prefix_of_fenced hlines hblank hl hbefore hm)

theorem split_text_of_closedByLine (h : f.ClosedByLine) : Note.split f.text = f.note := by
  cases h with
  | behindText hlines hblank hl hbehind =>
      exact f.split_text_of_unfenced hlines hblank hl hbehind
  | behindBlanks hne hblank hlast => exact f.split_text_of_blanks hblank hne hlast

theorem split_text_iff : Note.split f.text = f.note ↔ f.ClosedByLine := by
  refine ⟨fun hsplit => ?_, f.split_text_of_closedByLine⟩
  by_cases htext : ∃ l ∈ f.lines, l.isBlank = false
  · rcases f.closedByLine_or_prefix htext with hclosed | hprefix
    · exact hclosed
    · exact absurd hsplit (f.split_text_ne_of_prefix hprefix)
  · have hblank : ∀ m ∈ f.lines, m.isBlank = true := by
      intro m hm
      rw [← Bool.not_eq_false]
      exact fun hm' => htext ⟨m, hm, hm'⟩
    have hlast : ¬ fenceLine <:+: f.rest := fun hlater =>
      f.split_text_ne_of_later_fence hblank hlater hsplit
    refine .behindBlanks (fun hnil => ?_) hblank hlast
    have hempty := f.header_eq_nil_of_no_lines hnil hlast
    refine f.split_text_ne_of_prefix ?_ hsplit
    rw [hempty]
    exact List.nil_prefix

theorem content_recase_note (s : Settings) :
    (f.note.recase s).1.content =
      f.opening.spell ++ spellLines f.lines ++ f.closing ++ recase s f.rest := by
  rw [Note.recase_eq, note]
  dsimp only
  rw [← Note.closed_recase, Note.content_closed]

/-- Every content whose first line is a rule and that has a further one can be cut into opening
line, lines between, closing line and rest, and no other content can. The header ends at the closing
line and the white space behind it exactly if the closing line is the first fence that can close it.
Then recasing keeps all that stands through the closing line and recases all that stands behind it.
With text between the two lines the header never reaches beyond the closing one; with nothing
between them it reaches beyond it or there is none. -/
theorem header_ends_at_closing_line (s : Settings) (content : Text) :
    (HasClosingLine content ↔ ∃ f : Framed, f.text = content) ∧
    ∀ f : Framed, f.text = content →
      (Note.split content = f.note ↔ f.ClosedByLine) ∧
      (f.ClosedByLine →
        ((Note.split content).recase s).1.content =
          f.opening.spell ++ spellLines f.lines ++ f.closing ++ recase s f.rest) ∧
      ((∃ l ∈ f.lines, l.isBlank = false) → (Note.split content).header <+: f.note.header) ∧
      (f.lines = [] → ¬ fenceLine <:+: f.rest → (Note.split content).header = []) := by
  refine ⟨hasClosingLine_iff, ?_⟩
  rintro f rfl
  refine ⟨f.split_text_iff, fun hclosed => ?_, fun htext => ?_, f.header_eq_nil_of_no_lines⟩
  · rw [f.split_text_of_closedByLine hclosed, f.content_recase_note s]
  · rcases f.closedByLine_or_prefix htext with hclosed | hprefix
    · have hsame := congrArg Note.header (f.split_text_of_closedByLine hclosed)
      exact hsame ▸ List.prefix_refl _
    · rw [header_note]
      exact hprefix.trans (List.prefix_append _ _)

/-- Lines that end in carriage returns and line feeds, and a later rule that plays no part. -/
theorem header_ends_at_closing_line_returns :
    let f : Framed :=
      ⟨⟨"---".toList, .returnFeed, by decide, by decide⟩,
        [⟨"id: 1".toList, .returnFeed, by decide, by decide⟩], "--- ".toList,
        "\r\n\r\n[[a\\u]]\r\n---\r\n".toList, by decide, by decide, by decide,
        Or.inr ⟨.returnFeed, by decide⟩⟩
    f.text = "---\r\nid: 1\r\n--- \r\n\r\n[[a\\u]]\r\n---\r\n".toList ∧
      HasClosingLine f.text ∧
      (Note.split f.text).header = "---\r\nid: 1\r\n--- \r\n\r\n".toList ∧
      ((Note.split f.text).recase .standard).1.content =
        "---\r\nid: 1\r\n--- \r\n\r\n[[a|A]]\r\n---\r\n".toList := by
  intro f
  have hlines : f.lines = [] ++ ⟨"id: 1".toList, .returnFeed, by decide, by decide⟩ :: [] := rfl
  have hclosed : f.ClosedByLine := .behindText hlines (by simp) (by decide) (by simp)
  obtain ⟨hframed, hall⟩ := header_ends_at_closing_line .standard f.text
  obtain ⟨hsplit, hrecased, -, -⟩ := hall f rfl
  refine ⟨by decide, hframed.mpr ⟨f, rfl⟩, ?_, ?_⟩
  · rw [hsplit.mpr hclosed]
    decide
  · rw [hrecased hclosed]
    decide +kernel

/-- A line that merely begins with a fence ends the header before the closing line, and what follows
it is recased. Between two rules without a line between them there is no closing fence, so a later
rule ends the header, and the text before that is left as it is. -/
theorem exists_header_not_at_closing_line :
    (∃ f : Framed, f.text = "---\nid: 1\n---b: [[x\\u]]\n---\nbody".toList ∧
      f.note.header = "---\nid: 1\n---b: [[x\\u]]\n---\n".toList ∧
      (Note.split f.text).header = "---\nid: 1\n---".toList ∧
      ((Note.split f.text).recase .standard).1.content =
        "---\nid: 1\n---b: [[x|X]]\n---\nbody".toList) ∧
    (∃ f : Framed, f.text = "---\n---\n[[a\\u]]\n---\n".toList ∧
      f.note.header = "---\n---\n".toList ∧ (Note.split f.text).header = f.text ∧
      ((Note.split f.text).recase .standard).1.content = f.text) := by
  refine ⟨⟨⟨⟨"---".toList, .feed, by decide, by decide⟩,
    [⟨"id: 1".toList, .feed, by decide, by decide⟩,
      ⟨"---b: [[x\\u]]".toList, .feed, by decide, by decide⟩],
    "---".toList, "\nbody".toList, by decide, by decide, by decide,
    Or.inr ⟨.feed, by decide⟩⟩, ?_⟩,
    ⟨⟨"---".toList, .feed, by decide, by decide⟩, [], "---".toList,
      "\n[[a\\u]]\n---\n".toList, by decide, by decide, by decide, Or.inr ⟨.feed, by decide⟩⟩, ?_⟩
  · decide +kernel
  · decide +kernel

end Framed

end WikiCasing
