import Mathlib.Data.List.Chain
import WikiCasing.Proofs.Markup.Precedence

/-!
# Ordinary documents

A document is ordinary if it is written as plain pieces and wiki links, of plain names, each with a
command inside its brackets, with one behind them, or with none. For such a document recasing is a
matter of its parts: every link with a command is replaced by its own rendering, everything else is
kept, and the result is an ordinary document without commands, so that a second recasing changes
nothing (`recase_document`).

The types carry the conditions: what names may hold is part of `WikiLink`, and which pieces may
stand side by side is part of `Document`. A piece that begins with a backslash could continue the
link before it, and two opening brackets in a plain piece could begin a link of their own.
-/

namespace WikiCasing

/-- Where the command of a link stands: before its closing brackets or behind them. -/
inductive Place where
  | inside
  | behind
deriving DecidableEq, Repr

/-- The form of a link with its command at a place, by whether it has an alias. -/
def Place.form : Place → (aliased : Bool) → Form
  | .behind, true => .postfixAlias
  | .behind, false => .postfixLink
  | .inside, true => .inlineAlias
  | .inside, false => .inlineLink

/-- A wiki link of plain names, with or without a command. -/
structure WikiLink where
  target : Text
  alias? : Option Text
  command? : Option (Place × Command)
  target_ne : target ≠ []
  target_plain : ∀ c ∈ ['[', ']', '\\', '|'], c ∉ target
  alias_ne : alias? ≠ some []
  alias_plain : ∀ a ∈ alias?, ∀ c ∈ ['[', ']', '\\'], c ∉ a

namespace WikiLink

/-- The command of a link, if it stands at the place. -/
def commandsAt (l : WikiLink) (p : Place) : List Command :=
  match l.command? with
  | some (q, x) => if q = p then [x] else []
  | none => []

/-- What stands between the brackets of a link. -/
def content (l : WikiLink) : Text :=
  l.target ++ (l.alias?.elim [] ('|' :: ·) ++ commandsText (l.commandsAt .inside))

/-- The text of a link. -/
def spell (l : WikiLink) : Text :=
  '[' :: '[' :: l.content ++ ']' :: ']' :: commandsText (l.commandsAt .behind)

/-- The alias that a command gives a link: the alias that it has, cased, or else the cased target,
unless casing leaves the target as it is. -/
def casedAlias? (s : Settings) (l : WikiLink) (x : Command) : Option Text :=
  match l.alias? with
  | some a => some (Casing.apply x s.firstWordOnly a)
  | none =>
    let cased := Casing.apply x s.firstWordOnly l.target
    if cased = l.target then none else some cased

theorem eq_apply_of_casedAlias? {s : Settings} {l : WikiLink} {x : Command} {a : Text}
    (h : l.casedAlias? s x = some a) :
    ∃ t, (l.alias? = some t ∨ l.target = t) ∧ a = Casing.apply x s.firstWordOnly t := by
  unfold casedAlias? at h
  split at h
  · rename_i t ht
    exact ⟨t, Or.inl ht, (Option.some.inj h).symm⟩
  · dsimp only at h
    split at h
    · exact absurd h (by simp)
    · exact ⟨l.target, Or.inr rfl, (Option.some.inj h).symm⟩

theorem casedAlias?_ne (s : Settings) (l : WikiLink) (x : Command) :
    l.casedAlias? s x ≠ some [] := by
  intro h
  obtain ⟨t, ht, hnil⟩ := eq_apply_of_casedAlias? h
  rw [eq_comm, Casing.apply_eq_nil_iff] at hnil
  subst hnil
  rcases ht with ht | ht
  · exact l.alias_ne ht
  · exact l.target_ne ht

theorem casedAlias?_plain (s : Settings) (l : WikiLink) (x : Command) :
    ∀ a ∈ l.casedAlias? s x, ∀ c ∈ ['[', ']', '\\'], c ∉ a := by
  intro a ha c hc
  have hsigns : ['[', ']', '\\'].all isSign = true := by decide
  have hsign := List.all_eq_true.mp hsigns c hc
  obtain ⟨t, ht, rfl⟩ := eq_apply_of_casedAlias? ha
  rw [Casing.mem_apply_iff _ _ _ hsign]
  rcases ht with ht | rfl
  · exact l.alias_plain t ht c hc
  · exact l.target_plain c (List.mem_append_left ['|'] hc)

/-- A link with its command carried out. -/
def recased (s : Settings) (l : WikiLink) : WikiLink :=
  match l.command? with
  | none => l
  | some (_, x) =>
    { l with
      alias? := l.casedAlias? s x
      command? := none
      alias_ne := l.casedAlias?_ne s x
      alias_plain := l.casedAlias?_plain s x }

theorem recased_of_none {s : Settings} {l : WikiLink} (h : l.command? = none) :
    l.recased s = l := by
  unfold recased
  split
  · rfl
  · rename_i hsome
    rw [h] at hsome
    exact absurd hsome (by simp)

theorem recased_of_command {s : Settings} {l : WikiLink} {p : Place} {x : Command}
    (h : l.command? = some (p, x)) :
    (l.recased s).target = l.target ∧ (l.recased s).alias? = l.casedAlias? s x ∧
      (l.recased s).command? = none := by
  unfold recased
  split
  · rename_i hnone
    rw [h] at hnone
    exact absurd hnone (by simp)
  · rename_i q y hsome
    rw [h] at hsome
    cases hsome
    exact ⟨rfl, rfl, rfl⟩

theorem recased_command? (s : Settings) (l : WikiLink) : (l.recased s).command? = none := by
  cases h : l.command? with
  | none => rw [recased_of_none h, h]
  | some c => exact (recased_of_command h).2.2

end WikiLink

/-- A piece of an ordinary document. -/
inductive Piece where
  | plain (t : Text) (ne : t ≠ []) (no_open : '[' ∉ t)
  | link (l : WikiLink)

namespace Piece

def spell : Piece → Text
  | plain t _ _ => t
  | link l => l.spell

def recased (s : Settings) : Piece → Piece
  | plain t ne no_open => plain t ne no_open
  | link l => link (l.recased s)

/-- The piece is a link with a command. -/
def isCommand : Piece → Bool
  | plain _ _ _ => false
  | link l => l.command?.isSome

/-- A plain piece directly behind a link does not begin with a backslash. -/
def Before : Piece → Piece → Prop
  | link _, plain t _ _ => t.head? ≠ some '\\'
  | _, _ => True

theorem Before.recased {a b : Piece} (h : Before a b) (s : Settings) :
    Before (a.recased s) (b.recased s) := by
  cases a <;> cases b <;> exact h

end Piece

/-- An ordinary document. -/
structure Document where
  pieces : List Piece
  chain : pieces.IsChain Piece.Before

namespace Document

def text (d : Document) : Text := d.pieces.flatMap Piece.spell

/-- The number of links with a command. -/
def commandCount (d : Document) : Nat := d.pieces.countP Piece.isCommand

/-- A document with every link replaced by its rendering. -/
def recased (s : Settings) (d : Document) : Document where
  pieces := d.pieces.map (Piece.recased s)
  chain := List.isChain_map_of_isChain (Piece.recased s) (fun _ _ h => h.recased s) d.chain

end Document

/-! ## A link as a block -/

namespace WikiLink

variable (l : WikiLink)

theorem mem_commandsAt_iff {p : Place} {x : Command} :
    x ∈ l.commandsAt p ↔ l.command? = some (p, x) := by
  unfold commandsAt
  cases l.command? with
  | none => simp
  | some c =>
      obtain ⟨q, y⟩ := c
      by_cases hq : q = p
      · simp [hq, eq_comm]
      · simp [hq]

/-- Where a sign may stand between the brackets of a link: a bar before the alias, and a backslash
before the command. -/
theorem mem_content_iff {c : Char} (hc : isSign c = true) :
    c ∈ l.content ↔ c ∈ l.target ∨ (∃ a, l.alias? = some a ∧ (c = '|' ∨ c ∈ a)) ∨
      (c = '\\' ∧ ∃ x, l.command? = some (.inside, x)) := by
  have halias : c ∈ l.alias?.elim [] ('|' :: ·) ↔
      ∃ a, l.alias? = some a ∧ (c = '|' ∨ c ∈ a) := by
    cases l.alias? with
    | none => simp
    | some a => simp
  have hcommands : c ∈ commandsText (l.commandsAt .inside) ↔
      c = '\\' ∧ ∃ x, l.command? = some (.inside, x) := by
    by_cases hb : c = '\\'
    · simp only [hb, true_and, ← l.mem_commandsAt_iff]
      cases l.commandsAt .inside with
      | nil => simp
      | cons x xs => exact ⟨fun _ => ⟨x, List.mem_cons_self⟩, fun _ => List.mem_cons_self⟩
    · simp [hb, not_mem_commandsText hc hb]
  rw [content, List.mem_append, List.mem_append, halias, hcommands]

theorem bracket_not_mem_content {c : Char} (hc : c ∈ ['[', ']']) : c ∉ l.content := by
  have hsigns : ['[', ']'].all isSign = true := by decide
  rw [l.mem_content_iff (List.all_eq_true.mp hsigns c hc)]
  rintro (ht | ⟨a, ha, rfl | hm⟩ | ⟨rfl, -⟩)
  · exact l.target_plain c (List.mem_append_left ['\\', '|'] hc) ht
  · exact absurd hc (by decide)
  · exact l.alias_plain a ha c (List.mem_append_left ['\\'] hc) hm
  · exact absurd hc (by decide)

theorem bar_mem_content_iff : '|' ∈ l.content ↔ l.alias?.isSome = true := by
  have htarget := l.target_plain '|' (by decide)
  rw [l.mem_content_iff (by decide), Option.isSome_iff_exists]
  simp [htarget]

theorem backslash_mem_content_iff :
    '\\' ∈ l.content ↔ ∃ x, l.command? = some (.inside, x) := by
  rw [l.mem_content_iff (by decide)]
  constructor
  · rintro (ht | ⟨a, ha, hbar | hm⟩ | ⟨-, hx⟩)
    · exact absurd ht (l.target_plain '\\' (by decide))
    · exact absurd hbar (by decide)
    · exact absurd hm (l.alias_plain a ha '\\' (by decide))
    · exact hx
  · exact fun hx => Or.inr (Or.inr ⟨rfl, hx⟩)

/-- A link is a block. -/
def block : Block where
  body := '[' :: '[' :: l.content
  commands := l.commandsAt .behind
  body_open := by simp [l.bracket_not_mem_content (c := ']') (by decide)]

theorem block_text : l.block.text = l.spell := rfl

/-- Two opening brackets stand at the start of a link only. -/
theorem body_eq_of_suffix {u : Text} (h : u <:+ l.block.body) (hu : ['[', '['] <+: u) :
    u = l.block.body := by
  have hcontent := l.bracket_not_mem_content (c := '[') (by decide)
  rcases List.suffix_cons_iff.mp h with heq | h
  · exact heq
  · rcases List.suffix_cons_iff.mp h with rfl | h
    · have hfirst := (List.cons_prefix_cons.mp hu).2
      exact absurd (hfirst.subset List.mem_cons_self) hcontent
    · exact absurd (h.subset (hu.subset List.mem_cons_self)) hcontent

/-- A link is one of the form of its command and of no other. -/
theorem form_eq_of_ends {f : Form} {l' : Link} (h : l.block.Ends f l') :
    ∃ p x, l.command? = some (p, x) ∧ f = p.form l.alias?.isSome := by
  have hbody := l.body_eq_of_suffix h.inside (f.open_prefix_inside l')
  have halias : l.alias?.isSome = f.hasAlias := by
    have hbar := h.admits.bar_mem_inside_iff
    rw [hbody] at hbar
    rw [Bool.eq_iff_iff, ← hbar, ← l.bar_mem_content_iff]
    simp [block]
  cases hf : f.isPostfix with
  | true =>
      obtain ⟨xs, hxs⟩ := h.commands_cons hf
      have hx : l'.command ∈ l.commandsAt .behind := by
        show l'.command ∈ l.block.commands
        rw [hxs]
        exact List.mem_cons_self
      refine ⟨_, _, l.mem_commandsAt_iff.mp hx, ?_⟩
      rw [halias]
      revert hf
      cases f <;> decide
  | false =>
      have hback : '\\' ∈ l.content := by
        have hmem := (h.command_suffix hf).subset List.mem_cons_self
        simpa [block] using hmem
      obtain ⟨x, hx⟩ := l.backslash_mem_content_iff.mp hback
      refine ⟨_, x, hx, ?_⟩
      rw [halias]
      revert hf
      cases f <;> decide

variable {l} {p : Place} {x : Command}

theorem not_ends_of_none (h : l.command? = none) (f : Form) (l' : Link) : ¬ l.block.Ends f l' := by
  intro hends
  obtain ⟨p, x, hx, -⟩ := l.form_eq_of_ends hends
  rw [h] at hx
  exact absurd hx (by simp)

theorem body_eq_inside (h : l.command? = some (p, x)) :
    l.block.body = (p.form l.alias?.isSome).inside ⟨l.target, l.alias?, x⟩ := by
  cases p <;> cases ha : l.alias? <;>
    simp [block, content, commandsAt, h, ha, Place.form, Form.inside, Form.inner, Form.hasAlias,
      Form.isPostfix]

theorem commands_eq_behind (h : l.command? = some (p, x)) :
    commandsText l.block.commands = (p.form l.alias?.isSome).behind x := by
  cases p <;> cases l.alias? <;>
    simp [block, commandsAt, h, Place.form, Form.behind, Form.isPostfix]

theorem after_commands (h : l.command? = some (p, x)) :
    (p.form l.alias?.isSome).after l.block.commands = [] := by
  cases p <;> cases l.alias?.isSome <;>
    simp [block, commandsAt, h, Place.form, Form.after, Form.isPostfix]

theorem admits (l : WikiLink) (p : Place) (x : Command) :
    (p.form l.alias?.isSome).Admits ⟨l.target, l.alias?, x⟩ := by
  have htarget : ∀ f : Form, ∀ c ∈ l.target, f.targetChar c = true := by
    intro f c hc
    have hne : ∀ d ∈ ['[', ']', '\\', '|'], c ≠ d := by
      rintro d hd rfl
      exact l.target_plain c hd hc
    simp [Form.targetChar, hne ']' (by decide), hne '|' (by decide), hne '\\' (by decide)]
  cases ha : l.alias? with
  | none => exact .bare (by cases p <;> rfl) l.target_ne (htarget _)
  | some a =>
      have hne : a ≠ [] := by
        rintro rfl
        exact l.alias_ne ha
      refine .aliased (by cases p <;> rfl) l.target_ne (htarget _) hne (fun c hc => ?_)
      have hne : ∀ d ∈ ['[', ']', '\\'], c ≠ d := by
        rintro d hd rfl
        exact l.alias_plain a ha c hd hc
      simp [Form.aliasChar, hne ']' (by decide), hne '\\' (by decide)]

theorem finds (h : l.command? = some (p, x)) :
    l.block.Finds (p.form l.alias?.isSome) ⟨l.target, l.alias?, x⟩ := by
  have hbody := body_eq_inside h
  have hbehind := commands_eq_behind h
  constructor
  · exact ⟨l.admits p x, ⟨[], hbody.symm⟩, ⟨[], by rw [hbehind, List.append_nil]⟩⟩
  · intro l' h'
    rw [← hbody]
    exact h'.inside

theorem recased_spell (s : Settings) (h : l.command? = some (p, x)) :
    (l.recased s).spell = (⟨l.target, l.alias?, x⟩ : Link).render s := by
  obtain ⟨htarget, halias, hcommand⟩ := recased_of_command (s := s) h
  simp only [spell, content, commandsAt, Link.render, htarget, halias, hcommand, casedAlias?]
  cases l.alias? with
  | some a => simp [aliasedLink]
  | none =>
      dsimp only
      split
      · simp [plainLink]
      · simp [aliasedLink]

theorem recase_spell (s : Settings) (l : WikiLink) :
    recaseCounted s l.spell = ⟨(l.recased s).spell, if l.command?.isSome then 1 else 0⟩ := by
  cases h : l.command? with
  | none =>
      rw [← block_text, Block.recase_of_not_ends (not_ends_of_none h), recased_of_none h]
      rfl
  | some c =>
      obtain ⟨p, x⟩ := c
      have hearlier : ∀ g ∈ (p.form l.alias?.isSome).earlier, ∀ l', ¬ l.block.Ends g l' := by
        intro g hg l' hends
        obtain ⟨q, y, hy, rfl⟩ := l.form_eq_of_ends hends
        rw [h] at hy
        cases hy
        revert hg
        cases p <;> cases l.alias?.isSome <;> decide
      have hplain : (⟨l.target, l.alias?, x⟩ : Link).PlainAlias := by
        intro a ha
        refine ⟨l.alias_plain a ha '\\' (by decide), fun hopen => ?_⟩
        exact l.alias_plain a ha '[' (by decide) (hopen.subset List.mem_cons_self)
      have hbefore : l.block.body =
          [] ++ (p.form l.alias?.isSome).inside ⟨l.target, l.alias?, x⟩ := body_eq_inside h
      have hrecase := (finds h).recase_of_first (s := s) hbefore hearlier (fun _ => hplain)
      rw [after_commands h, commandsText_nil, List.append_nil, List.nil_append] at hrecase
      rw [← block_text, hrecase, recased_spell s h]
      rfl

end WikiLink

/-! ## Documents -/

namespace Piece

theorem recased_of_not_command {a : Piece} (h : a.isCommand = false) (s : Settings) :
    a.recased s = a := by
  cases a with
  | plain t ne no_open => rfl
  | link l => exact congrArg link (WikiLink.recased_of_none (by simpa [isCommand] using h))

theorem isCommand_recased (s : Settings) (a : Piece) : (a.recased s).isCommand = false := by
  cases a with
  | plain t ne no_open => rfl
  | link l => simp [recased, isCommand, l.recased_command?]

theorem opensCommand_spell {l : WikiLink} {as : List Piece} (h : (link l :: as).IsChain Before) :
    opensCommand (as.flatMap spell) = false := by
  cases as with
  | nil => rfl
  | cons a as =>
      refine opensCommand_of_head? ?_
      have hbefore := (List.isChain_cons_cons.mp h).1
      cases a with
      | plain t ne no_open =>
          rw [List.flatMap_cons, spell, List.head?_append_of_ne_nil _ ne]
          exact hbefore
      | link l' => simp [spell, WikiLink.spell]

/-- Recasing works piece by piece, whatever part of the pieces behind them follows. -/
theorem recase_flatMap_spell_append (s : Settings) {as bs : List Piece}
    (h : (as ++ bs).IsChain Before) {q : Text} (hq : q <+: bs.flatMap spell) :
    recaseCounted s (as.flatMap spell ++ q) =
      ⟨(as.map (recased s)).flatMap spell, as.countP isCommand⟩ ++ recaseCounted s q := by
  induction as with
  | nil => exact (Recased.nil_append _).symm
  | cons a as ih =>
      have hrest := ih h.tail
      have hpart : as.flatMap spell ++ q <+: (as ++ bs).flatMap spell := by
        rw [List.flatMap_append]
        exact (List.prefix_append_right_inj _).mpr hq
      rw [List.flatMap_cons, List.append_assoc, List.map_cons, List.flatMap_cons]
      cases a with
      | plain t ne no_open =>
          rw [spell, recase_plain_append s no_open, hrest,
            List.countP_cons_of_neg (by simp [isCommand]), ← Recased.append_assoc]
          simp [recased, spell]
      | link l =>
          have hopens := opensCommand_of_prefix (opensCommand_spell h) hpart
          have hcount : (link l :: as).countP isCommand =
              (if l.command?.isSome then 1 else 0) + as.countP isCommand := by
            rw [List.countP_cons, Nat.add_comm]
            rfl
          rw [spell, ← WikiLink.block_text, recase_block_append s l.block hopens,
            WikiLink.block_text, l.recase_spell, hrest, hcount, ← Recased.append_assoc]
          rfl

theorem recase_flatMap_spell (s : Settings) {as : List Piece} (h : as.IsChain Before) :
    recaseCounted s (as.flatMap spell) =
      ⟨(as.map (recased s)).flatMap spell, as.countP isCommand⟩ := by
  rw [← List.append_nil as] at h
  have hrecase := recase_flatMap_spell_append s h List.nil_prefix
  rw [recase_unclosed s List.not_mem_nil, List.append_nil, Recased.mk_append_mk, List.append_nil]
    at hrecase
  exact hrecase

end Piece

/-- An ordinary document is recased link by link: every command link is replaced by its rendering,
everything else is kept, and the command links are counted. The result is an ordinary document
without command links, which no further recasing changes. -/
theorem recase_document (s : Settings) (d : Document) :
    recaseCounted s d.text = ⟨(d.recased s).text, d.commandCount⟩ ∧
      (d.recased s).commandCount = 0 ∧
      ∀ s', recaseCounted s' (recase s d.text) = ⟨recase s d.text, 0⟩ := by
  have hfirst : recaseCounted s d.text = ⟨(d.recased s).text, d.commandCount⟩ :=
    Piece.recase_flatMap_spell s d.chain
  have hnone : ∀ a ∈ (d.recased s).pieces, a.isCommand = false := by
    intro a ha
    obtain ⟨a, -, rfl⟩ := List.mem_map.mp ha
    exact a.isCommand_recased s
  have hcount : (d.recased s).commandCount = 0 := by
    refine List.countP_eq_zero.mpr (fun a ha => ?_)
    rw [hnone a ha]
    exact Bool.false_ne_true
  refine ⟨hfirst, hcount, fun s' => ?_⟩
  have hsame : (d.recased s).pieces.map (Piece.recased s') = (d.recased s).pieces := by
    refine (List.map_congr_left (fun a ha => ?_)).trans (List.map_id _)
    exact Piece.recased_of_not_command (hnone a ha) s'
  have hsecond := Piece.recase_flatMap_spell s' (d.recased s).chain
  rw [hsame] at hsecond
  have htext : recase s d.text = (d.recased s).text := congrArg Recased.text hfirst
  rw [htext]
  exact hsecond.trans (congrArg _ hcount)

end WikiCasing
