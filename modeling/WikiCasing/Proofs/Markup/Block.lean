import WikiCasing.Proofs.Markup.Scan

/-!
# A text block by block

A link of any form lies within one block: a body without closing brackets, two closing brackets,
and the commands behind them. A text is made of blocks and of stretches in which no link closes
(`block_induction`), and recasing works on each block for itself: `recase_block_append` says so for
all passes together. What is left to study is a single block, where a form has at most one link:
the one that starts first (`Block.Finds`), since every link in the block ends at its end.

The commands behind the brackets belong to the block because a pass may use up the first of them
and the next pass the one that then stands first. What follows a block must therefore not begin
with a command, and a pass keeps it that way (`opensCommand_recase`).
-/

namespace WikiCasing

/-! ## Commands at the start of a text -/

/-- The spelling of some commands in a row. -/
def commandsText (xs : List Command) : Text := xs.flatMap fun x => ['\\', x.letter]

@[simp] theorem commandsText_nil : commandsText [] = [] := rfl

@[simp] theorem commandsText_cons (x : Command) (xs : List Command) :
    commandsText (x :: xs) = '\\' :: x.letter :: commandsText xs := rfl

theorem commandsText_append (xs ys : List Command) :
    commandsText (xs ++ ys) = commandsText xs ++ commandsText ys := List.flatMap_append

theorem drop_commandsText (xs : List Command) :
    (commandsText xs).drop 4 = commandsText (xs.drop 2) := by
  match xs with
  | [] => rfl
  | [_] => rfl
  | _ :: _ :: _ => rfl

theorem not_mem_commandsText {c : Char} (hc : isSign c = true) (hb : c ≠ '\\')
    (xs : List Command) : c ∉ commandsText xs := by
  induction xs with
  | nil => exact List.not_mem_nil
  | cons x xs ih => simp [ih, hb, (x.letter_ne hc).symm]

/-- The text begins with a command. -/
def opensCommand : Text → Bool
  | '\\' :: t => (t.head?.bind Command.ofLetter?).isSome
  | _ => false

theorem opensCommand_of_head? {t : Text} (h : t.head? ≠ some '\\') : opensCommand t = false := by
  unfold opensCommand
  split
  · exact absurd rfl h
  · rfl

theorem opensCommand_iff {t : Text} :
    opensCommand t = true ↔ ∃ x : Command, ['\\', x.letter] <+: t := by
  constructor
  · intro h
    match t with
    | [] => exact absurd h (by simp [opensCommand])
    | c :: t =>
        by_cases hc : c = '\\'
        · subst hc
          simp only [opensCommand, Option.isSome_iff_exists, Option.bind_eq_some_iff] at h
          obtain ⟨x, d, hd, hx⟩ := h
          obtain ⟨u, rfl⟩ := List.head?_eq_some_iff.mp hd
          rw [Command.ofLetter?_eq_some_iff] at hx
          exact ⟨x, u, by rw [hx]; rfl⟩
        · rw [opensCommand_of_head? (by simpa using hc)] at h
          exact Bool.noConfusion h
  · rintro ⟨x, u, rfl⟩
    simp [opensCommand]

theorem exists_commands (t : Text) :
    ∃ xs q, t = commandsText xs ++ q ∧ opensCommand q = false := by
  cases ht : opensCommand t with
  | false => exact ⟨[], t, rfl, ht⟩
  | true =>
      obtain ⟨x, u, rfl⟩ := opensCommand_iff.mp ht
      obtain ⟨xs, q, rfl, hq⟩ := exists_commands u
      exact ⟨x :: xs, q, rfl, hq⟩
termination_by t.length

theorem opensCommand_take {t : Text} (h : opensCommand t = false) (n : Nat) :
    opensCommand (t.take n) = false := by
  refine Bool.eq_false_iff.mpr (fun ht => ?_)
  obtain ⟨x, hx⟩ := opensCommand_iff.mp ht
  rw [opensCommand_iff.mpr ⟨x, hx.trans (List.take_prefix n t)⟩] at h
  exact Bool.noConfusion h

theorem opensCommand_of_prefix {t u : Text} (h : opensCommand t = false) (hu : u <+: t) :
    opensCommand u = false := by
  rw [List.prefix_iff_eq_take.mp hu]
  exact opensCommand_take h u.length

/-! ## Blocks -/

/-- A body without closing brackets, two closing brackets, and the commands behind them. -/
structure Block where
  body : Text
  commands : List Command
  body_open : ']' ∉ body

/-- The text of a block. -/
def Block.text (b : Block) : Text := b.body ++ ']' :: ']' :: commandsText b.commands

/-- The induction principle of the cut into blocks: a text has no closing bracket, or its first
one stands alone, or it begins with a block. -/
theorem block_induction {motive : Text → Prop} (unclosed : ∀ w, ']' ∉ w → motive w)
    (lone : ∀ w q, ']' ∉ w → q.head? ≠ some ']' → motive q → motive (w ++ ']' :: q))
    (block : ∀ (b : Block) q, opensCommand q = false → motive q → motive (b.text ++ q))
    (t : Text) : motive t := by
  by_cases ht : ']' ∈ t
  · obtain ⟨w, q, htext, hw⟩ := List.eq_append_cons_of_mem ht
    by_cases hq : q.head? = some ']'
    · obtain ⟨r, hr⟩ := List.head?_eq_some_iff.mp hq
      obtain ⟨xs, q', hrest, hq'⟩ := exists_commands r
      have htext' : t = (⟨w, xs, hw⟩ : Block).text ++ q' := by
        simp [Block.text, htext, hr, hrest]
      have hlen : q'.length < t.length := by
        simp only [htext', Block.text, List.length_append, List.length_cons]
        omega
      rw [htext']
      exact block _ q' hq' (block_induction unclosed lone block q')
    · have hlen : q.length < t.length := by
        simp only [htext, List.length_append, List.length_cons]
        omega
      rw [htext]
      exact lone w q hw hq (block_induction unclosed lone block q)
  · exact unclosed t ht
termination_by t.length

/-! ## The link of a form in a block -/

/-- The block ends in a link of the form: what the link spells before its closing brackets ends
the body, and its command stands behind the brackets if the form has it there. -/
structure Block.Ends (b : Block) (f : Form) (l : Link) : Prop where
  admits : f.Admits l
  inside : f.inside l <:+ b.body
  behind : f.behind l.command <+: commandsText b.commands

/-- The link of a form that a scan finds in a block, the one that starts first. -/
structure Block.Finds (b : Block) (f : Form) (l : Link) : Prop extends b.Ends f l where
  first : ∀ l', b.Ends f l' → f.inside l' <:+ f.inside l

theorem exists_longest_suffix (P : Text → Prop) (w : Text) :
    (∃ u, u <:+ w ∧ P u ∧ ∀ v, v <:+ w → P v → v <:+ u) ∨ ∀ u, u <:+ w → ¬ P u := by
  induction w with
  | nil =>
      by_cases h : P []
      · exact Or.inl ⟨[], List.suffix_refl _, h, fun v hv _ => hv⟩
      · refine Or.inr (fun u hu => ?_)
        rw [List.suffix_nil.mp hu]
        exact h
  | cons c w ih =>
      by_cases h : P (c :: w)
      · exact Or.inl ⟨c :: w, List.suffix_refl _, h, fun v hv _ => hv⟩
      · rcases ih with ⟨u, hu, hPu, hlongest⟩ | hnone
        · refine Or.inl ⟨u, hu.trans (List.suffix_cons c w), hPu, fun v hv hPv => ?_⟩
          rcases List.suffix_cons_iff.mp hv with rfl | hv
          · exact absurd hPv h
          · exact hlongest v hv hPv
        · refine Or.inr (fun u hu => ?_)
          rcases List.suffix_cons_iff.mp hu with rfl | hu
          · exact h
          · exact hnone u hu

theorem Block.finds_or_not_ends (b : Block) (f : Form) :
    (∃ l, b.Finds f l) ∨ ∀ l, ¬ b.Ends f l := by
  rcases exists_longest_suffix
    (fun u => ∃ l, f.Admits l ∧ u = f.inside l ∧ f.behind l.command <+: commandsText b.commands)
    b.body with ⟨u, hu, ⟨l, hl, rfl, hbehind⟩, hlongest⟩ | hnone
  · exact Or.inl ⟨l, ⟨hl, hu, hbehind⟩,
      fun l' h => hlongest _ h.inside ⟨l', h.admits, rfl, h.behind⟩⟩
  · exact Or.inr (fun l h => hnone _ h.inside ⟨l, h.admits, rfl, h.behind⟩)

theorem behind_prefix_iff {q : Text} (hq : opensCommand q = false) (f : Form) (x : Command)
    (xs : List Command) :
    f.behind x <+: commandsText xs ++ q ↔ f.behind x <+: commandsText xs := by
  unfold Form.behind
  split
  · cases xs with
    | nil =>
        have hnot : ¬ ['\\', x.letter] <+: q := by
          intro h
          rw [opensCommand_iff.mpr ⟨x, h⟩] at hq
          exact Bool.noConfusion hq
        simpa using hnot
    | cons y ys => simp
  · simp

/-- At a suffix of the body of a block, the links read are those the block ends in. -/
theorem Block.read?_suffix (b : Block) {q u : Text} (hq : opensCommand q = false)
    (hu : u <:+ b.body) {f : Form} {l : Link} :
    f.read? (u ++ ']' :: ']' :: (commandsText b.commands ++ q)) = some l ↔
      b.Ends f l ∧ u = f.inside l := by
  have hopen : ']' ∉ u := fun hm => b.body_open (hu.subset hm)
  rw [Form.read?_closed hopen, behind_prefix_iff hq]
  constructor
  · rintro ⟨hl, rfl, hbehind⟩
    exact ⟨⟨hl, hu, hbehind⟩, rfl⟩
  · rintro ⟨h, rfl⟩
    exact ⟨h.admits, rfl, h.behind⟩

/-! ## Stretches without links -/

namespace Form

variable {f : Form}

theorem free_of_open_not_mem {p : Text} (hp : '[' ∉ p) (q : Text) : f.Free p q := by
  intro u hu hne
  cases u with
  | nil => exact absurd rfl hne
  | cons c u =>
      refine read?_cons_of_ne (fun hc => hp (hu.subset ?_)) _
      rw [hc]
      exact List.mem_cons_self

theorem Free.append {p₁ p₂ q : Text} (h₁ : f.Free p₁ (p₂ ++ q)) (h₂ : f.Free p₂ q) :
    f.Free (p₁ ++ p₂) q := by
  intro u hu hne
  rcases List.suffix_or_suffix_of_suffix hu (List.suffix_append p₁ p₂) with hshort | ⟨v, rfl⟩
  · exact h₂ u hshort hne
  · cases v with
    | nil => exact h₂ _ (List.suffix_refl _) hne
    | cons c v =>
        rw [List.append_assoc]
        exact h₁ (c :: v) (List.suffix_append_self_iff.mp hu) (by simp)

theorem free_unclosed {w : Text} (hw : ']' ∉ w) : f.Free w [] := by
  intro u hu _
  rw [List.append_nil]
  exact read?_unclosed (fun hm => hw (hu.subset hm))

theorem free_lone {w q : Text} (hw : ']' ∉ w) (hq : q.head? ≠ some ']') :
    f.Free (w ++ [']']) q := by
  refine Free.append (fun u hu _ => ?_) (free_of_open_not_mem (by simp) q)
  exact read?_lone (fun hm => hw (hu.subset hm)) hq

theorem free_commands (xs : List Command) (q : Text) : f.Free (commandsText xs) q :=
  free_of_open_not_mem (not_mem_commandsText (by decide) (by decide) xs) q

theorem free_closing (xs : List Command) (q : Text) : f.Free (']' :: ']' :: commandsText xs) q := by
  have hbrackets : f.Free [']', ']'] (commandsText xs ++ q) := free_of_open_not_mem (by simp) _
  exact hbrackets.append (free_commands xs q)

theorem free_block {b : Block} {q : Text} (hq : opensCommand q = false)
    (h : ∀ l, ¬ b.Ends f l) : f.Free b.text q := by
  refine Free.append (fun u hu _ => ?_) (free_closing b.commands q)
  rw [Option.eq_none_iff_forall_ne_some]
  intro l hl
  exact h l ((b.read?_suffix hq hu).mp hl).1

end Form

end WikiCasing
