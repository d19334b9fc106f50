import WikiCasing.Text.Basic

/-!
# Lines

A line ends in a line feed, or in a carriage return and a line feed. A text is a sequence of such
lines and a last one without an end, which may be empty (`exists_lines`). A carriage return that no
line feed follows belongs to the text of its line.
-/

namespace WikiCasing

/-- How a line ends. -/
inductive LineEnd where
  | feed
  | returnFeed
deriving DecidableEq, Repr

/-- The characters of a line end. -/
def LineEnd.spell : LineEnd → Text
  | .feed => ['\n']
  | .returnFeed => ['\r', '\n']

/-- A line with its end. -/
structure EndedLine where
  text : Text
  ending : LineEnd
  feed_not_mem : '\n' ∉ text
  /-- A carriage return before a line feed is part of the end. -/
  return_not_last : ending = .feed → text.getLast? ≠ some '\r'

/-- The characters of a line, its end included. -/
def EndedLine.spell (l : EndedLine) : Text := l.text ++ l.ending.spell

/-- The characters of lines that stand one behind the other. -/
def spellLines (ls : List EndedLine) : Text := ls.flatMap EndedLine.spell

@[simp] theorem spellLines_nil : spellLines [] = [] := rfl

@[simp] theorem spellLines_cons (l : EndedLine) (ls : List EndedLine) :
    spellLines (l :: ls) = l.spell ++ spellLines ls := List.flatMap_cons

@[simp] theorem spellLines_append (ls ms : List EndedLine) :
    spellLines (ls ++ ms) = spellLines ls ++ spellLines ms := List.flatMap_append

/-- A line end is a line feed with carriage returns in front of it, if anything. -/
theorem LineEnd.exists_spell_eq (e : LineEnd) :
    ∃ back, e.spell = back ++ ['\n'] ∧ ∀ c ∈ back, c = '\r' := by
  cases e with
  | feed => exact ⟨[], rfl, fun c hc => absurd hc List.not_mem_nil⟩
  | returnFeed => exact ⟨['\r'], rfl, fun c hc => List.mem_singleton.mp hc⟩

theorem EndedLine.exists_spell_eq (l : EndedLine) :
    ∃ front, l.spell = front ++ ['\n'] ∧ '\n' ∉ front := by
  obtain ⟨back, hback, hreturns⟩ := l.ending.exists_spell_eq
  refine ⟨l.text ++ back, ?_, ?_⟩
  · rw [spell, hback, List.append_assoc]
  · rw [List.mem_append, not_or]
    exact ⟨l.feed_not_mem, fun hmem => absurd (hreturns _ hmem) (by decide)⟩

theorem EndedLine.feed_suffix (l : EndedLine) : ['\n'] <:+ l.spell := by
  obtain ⟨front, hspell, -⟩ := l.exists_spell_eq
  exact ⟨front, hspell.symm⟩

theorem feed_suffix_append_spellLines {t : Text} (h : ['\n'] <:+ t) (ls : List EndedLine) :
    ['\n'] <:+ t ++ spellLines ls := by
  induction ls generalizing t with
  | nil => rwa [spellLines_nil, List.append_nil]
  | cons l ls ih =>
      rw [spellLines_cons, ← List.append_assoc]
      exact ih (l.feed_suffix.trans (List.suffix_append t l.spell))

theorem exists_lines (t : Text) : ∃ ls last, t = spellLines ls ++ last ∧ '\n' ∉ last := by
  induction t with
  | nil => exact ⟨[], [], rfl, List.not_mem_nil⟩
  | cons c t ih =>
      obtain ⟨ls, last, rfl, hlast⟩ := ih
      by_cases hc : c = '\n'
      · subst hc
        exact ⟨⟨[], .feed, List.not_mem_nil, fun _ => by simp⟩ :: ls, last, rfl, hlast⟩
      -- any other character goes in front of the first line, if there is one
      cases ls with
      | nil =>
          refine ⟨[], c :: last, rfl, ?_⟩
          rw [List.mem_cons, not_or]
          exact ⟨Ne.symm hc, hlast⟩
      | cons l ls =>
          obtain ⟨text, ending, hfeed, hreturn⟩ := l
          by_cases hend : c = '\r' ∧ text = [] ∧ ending = .feed
          · obtain ⟨rfl, rfl, rfl⟩ := hend
            exact ⟨⟨[], .returnFeed, List.not_mem_nil, by simp⟩ :: ls, last, rfl, hlast⟩
          · refine ⟨⟨c :: text, ending, ?_, ?_⟩ :: ls, last, rfl, hlast⟩
            · rw [List.mem_cons, not_or]
              exact ⟨Ne.symm hc, hfeed⟩
            · intro hending
              cases text with
              | nil => exact fun h => hend ⟨by simpa using h, rfl, hending⟩
              | cons d text => exact hreturn hending

end WikiCasing
