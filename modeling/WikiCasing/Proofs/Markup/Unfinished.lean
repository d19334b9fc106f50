import WikiCasing.Proofs.Markup.Change
import WikiCasing.Proofs.Markup.Ordinary

/-!
# Ordinary documents that are not finished

What a user has typed of an ordinary document so far is a number of whole pieces and the beginning
of one more (`Piece.exists_unfinished`). The beginning of a link holds no link, not even where it
lacks one character only (`WikiLink.settled_of_prefix`), so a character makes a replacement exactly
if it completes a link with a command. This is the case also where what was typed before has been
recased already, since a recased piece does not combine with what follows it any more than the
piece itself. `Keystroke` says what comes of it for one character: recasing the recased text and
the new character gives what recasing all that was typed gives, it makes the replacements that are
still missing, and a caret behind the new character moves to the end of the text.
-/

namespace WikiCasing

namespace WikiLink

variable {l : WikiLink}

theorem eq_nil_of_open {z v : Text} (h : z ++ '[' :: '[' :: v <+: l.spell) : z = [] := by
  have htail : '[' ∉ l.content ++ ']' :: ']' :: commandsText (l.commandsAt .behind) := by
    have hcontent := l.bracket_not_mem_content (c := '[') (by decide)
    have hcommands := not_mem_commandsText (c := '[') (by decide) (by decide) (l.commandsAt .behind)
    simp [hcontent, hcommands]
  match z with
  | [] => rfl
  | [c] =>
      have hsecond := (List.cons_prefix_cons.mp (List.cons_prefix_cons.mp h).2).2
      exact absurd (hsecond.subset List.mem_cons_self) htail
  | c :: d :: z =>
      have hrest := (List.cons_prefix_cons.mp (List.cons_prefix_cons.mp h).2).2
      refine absurd (hrest.subset ?_) htail
      exact List.mem_append_right z List.mem_cons_self

theorem spell_eq_of_prefix {f : Form} {l' : Link} (hl' : f.Admits l')
    (h : f.spell l' <+: l.spell) : f.spell l' = l.spell := by
  have hread : f.read? (l.block.body ++ ']' :: ']' :: (commandsText l.block.commands ++ [])) =
      some l' := by
    rw [List.append_nil]
    exact Form.read?_eq_some_iff.mpr ⟨hl', h⟩
  obtain ⟨hends, hbody⟩ := (l.block.read?_suffix rfl (List.suffix_refl _)).mp hread
  obtain ⟨p, x, hx, rfl⟩ := l.form_eq_of_ends hends
  have hwhole : l.block.body = [] ++ (p.form l.alias?.isSome).inside l' := hbody
  have htext := hends.text_eq hwhole
  rw [after_commands hx, commandsText_nil, List.append_nil] at htext
  exact htext.symm

/-- A link that lacks its last character holds no link, nor does a shorter part of it. -/
theorem settled_of_prefix {u : Text} (hu : u <+: l.spell) (hne : u ≠ l.spell) : Settled u := by
  refine settled_of_free (fun f v hv _ => ?_)
  rw [List.append_nil, Option.eq_none_iff_forall_ne_some]
  intro l' hread
  obtain ⟨hl', rest, hrest⟩ := Form.of_read? hread
  obtain ⟨z, rfl⟩ := hv
  have hopen : ∃ w, f.spell l' = '[' :: '[' :: w := by
    rw [Form.spell_eq]
    exact ⟨_, rfl⟩
  obtain ⟨w, hw⟩ := hopen
  have hz : z = [] := by
    rw [← hrest, hw] at hu
    exact eq_nil_of_open (v := w ++ rest) hu
  rw [hz, List.nil_append] at hu hne
  have hspell : f.spell l' <+: l.spell := (List.prefix_append _ rest).trans (hrest ▸ hu)
  have hall := spell_eq_of_prefix hl' hspell
  refine hne (hu.eq_of_length_le ?_)
  rw [← hrest, List.length_append, hall]
  omega

theorem occurrences_spell {p : Place} {x : Command} (h : l.command? = some (p, x)) :
    (p.form l.alias?.isSome).occurrences l.spell =
      [⟨p.form l.alias?.isSome, 0, l.spell.length, ⟨l.target, l.alias?, x⟩⟩] := by
  have hbody : l.block.body = [] ++ (p.form l.alias?.isSome).inside ⟨l.target, l.alias?, x⟩ :=
    body_eq_inside h
  have htext := (finds h).text_eq hbody
  rw [after_commands h, commandsText_nil, List.append_nil, List.nil_append, block_text] at htext
  have hoccurrences := (finds h).occurrences hbody
  rw [List.length_nil, Nat.zero_add, ← htext, block_text] at hoccurrences
  exact hoccurrences

theorem eq_of_mem_occurrences {p : Place} {x : Command} (h : l.command? = some (p, x)) {f : Form}
    {o : Occurrence} (ho : o ∈ f.occurrences l.spell) :
    o.start = 0 ∧ o.link = ⟨l.target, l.alias?, x⟩ := by
  have hform : f = p.form l.alias?.isSome := by
    rw [← block_text] at ho
    obtain ⟨l', before, h', -, -⟩ := Block.of_mem_occurrences ho
    obtain ⟨q, y, hy, hf⟩ := l.form_eq_of_ends h'.toEnds
    rw [h] at hy
    cases hy
    exact hf
  rw [hform, occurrences_spell h] at ho
  obtain rfl := List.mem_singleton.mp ho
  exact ⟨rfl, rfl⟩

end WikiLink

namespace Piece

variable {as bs : List Piece} {a : Piece}

/-- The beginning of a piece holds no link, unless it is the whole of a link with a command. -/
theorem settled_or_command {u : Text} (hu : u <+: a.spell) :
    Settled u ∨ ∃ l, a = link l ∧ u = l.spell ∧ l.command?.isSome = true := by
  cases a with
  | plain t ne no_open =>
      have hopen : '[' ∉ u := fun hm => no_open (hu.subset hm)
      exact Or.inl (settled_of_free (fun _ => Form.free_of_open_not_mem hopen []))
  | link l =>
      by_cases hwhole : u = l.spell
      · cases hl : l.command?.isSome with
        | true => exact Or.inr ⟨l, rfl, hwhole, hl⟩
        | false =>
            refine Or.inl ?_
            rw [hwhole, settled_iff_count (s := Settings.standard), l.recase_spell, hl]
            rfl
      · exact Or.inl (WikiLink.settled_of_prefix hu hwhole)

theorem settled_of_concat {u : Text} {c : Char} (h : u ++ [c] <+: a.spell) : Settled u := by
  rcases a.settled_or_command ((List.prefix_append u [c]).trans h) with hu | ⟨l, rfl, rfl, -⟩
  · exact hu
  · have hlen := h.length_le
    rw [List.length_append, List.length_singleton, spell] at hlen
    omega

/-- The last character of a part of some pieces, from their start, belongs to one piece: what stands
before it is a number of whole pieces and the beginning of this one. -/
theorem exists_unfinished {w : Text} {c : Char} (h : w ++ [c] <+: as.flatMap spell) :
    ∃ bs a cs u, as = bs ++ a :: cs ∧ w = bs.flatMap spell ++ u ∧ u ++ [c] <+: a.spell := by
  induction as generalizing w with
  | nil => exact absurd (List.prefix_nil.mp h) (by simp)
  | cons a as ih =>
      rw [List.flatMap_cons] at h
      rcases List.prefix_or_prefix_of_prefix h (List.prefix_append a.spell _) with hin | ⟨v, hv⟩
      · exact ⟨[], a, as, w, rfl, rfl, hin⟩
      · rcases List.eq_nil_or_concat v with rfl | ⟨w', c', rfl⟩
        · rw [List.append_nil] at hv
          have hall : w ++ [c] <+: a.spell := ⟨[], by rw [hv, List.append_nil]⟩
          exact ⟨[], a, as, w, rfl, rfl, hall⟩
        · rw [List.concat_eq_append, ← List.append_assoc] at hv
          obtain ⟨rfl, hc⟩ := List.append_inj' hv rfl
          obtain rfl := List.singleton_inj.mp hc
          rw [List.append_assoc] at h
          obtain ⟨bs, b, cs, u, rfl, rfl, hu⟩ := ih ((List.prefix_append_right_inj _).mp h)
          refine ⟨a :: bs, b, cs, u, rfl, ?_, hu⟩
          rw [List.flatMap_cons, List.append_assoc]

/-! ## Recased pieces before pieces that are not -/

theorem before_recased_iff {s : Settings} {b : Piece} : Before (a.recased s) b ↔ Before a b := by
  cases a <;> cases b <;> exact Iff.rfl

theorem isChain_map_recased_append (s : Settings) (h : (as ++ bs).IsChain Before) :
    (as.map (recased s) ++ bs).IsChain Before := by
  obtain ⟨has, hbs, hjoin⟩ := List.isChain_append.mp h
  refine List.isChain_append.mpr ⟨?_, hbs, ?_⟩
  · exact List.isChain_map_of_isChain (recased s) (fun _ _ h => h.recased s) has
  · intro x hx y hy
    rw [List.getLast?_map] at hx
    obtain ⟨x', hx', rfl⟩ := Option.map_eq_some_iff.mp hx
    exact before_recased_iff.mpr (hjoin x' hx' y hy)

theorem isCommand_of_mem_map_recased {s : Settings} (h : a ∈ as.map (recased s)) :
    a.isCommand = false := by
  obtain ⟨a, -, rfl⟩ := List.mem_map.mp h
  exact a.isCommand_recased s

theorem recase_append_of_not_command (s : Settings) (h : (as ++ bs).IsChain Before)
    (hnone : ∀ a ∈ as, a.isCommand = false) {q : Text} (hq : q <+: bs.flatMap spell) :
    recaseCounted s (as.flatMap spell ++ q) = ⟨as.flatMap spell, 0⟩ ++ recaseCounted s q := by
  have hsame : as.map (recased s) = as :=
    (List.map_congr_left (fun a ha => recased_of_not_command (hnone a ha) s)).trans (List.map_id _)
  have hcount : as.countP isCommand = 0 := by
    refine List.countP_eq_zero.mpr (fun a ha => ?_)
    rw [hnone a ha]
    exact Bool.false_ne_true
  rw [recase_flatMap_spell_append s h hq, hsame, hcount]

theorem free_flatMap_spell (f : Form) (h : (as ++ bs).IsChain Before)
    (hnone : ∀ a ∈ as, a.isCommand = false) {q : Text} (hq : q <+: bs.flatMap spell) :
    f.Free (as.flatMap spell) q := by
  induction as with
  | nil => exact fun u hu hne => absurd (List.suffix_nil.mp hu) hne
  | cons a as ih =>
      have hrest := ih h.tail (fun b hb => hnone b (List.mem_cons_of_mem _ hb))
      have hpart : as.flatMap spell ++ q <+: (as ++ bs).flatMap spell := by
        rw [List.flatMap_append]
        exact (List.prefix_append_right_inj _).mpr hq
      rw [List.flatMap_cons]
      refine Form.Free.append ?_ hrest
      cases a with
      | plain t ne no_open => exact Form.free_of_open_not_mem no_open _
      | link l =>
          have hl : l.command? = none := by
            have hl := hnone _ List.mem_cons_self
            simpa [isCommand] using hl
          have hopens := opensCommand_of_prefix (opensCommand_spell h) hpart
          exact Form.free_block (b := l.block) hopens (WikiLink.not_ends_of_none hl f)

theorem occurrences_flatMap_spell_append (f : Form) (h : (as ++ bs).IsChain Before)
    (hnone : ∀ a ∈ as, a.isCommand = false) {q : Text} (hq : q <+: bs.flatMap spell) :
    f.occurrences (as.flatMap spell ++ q) =
      (f.occurrences q).map (Occurrence.shift (as.flatMap spell).length) := by
  have hleft := free_flatMap_spell f h hnone hq
  have halone := free_flatMap_spell f h hnone List.nil_prefix
  rw [Form.occurrences_append, Form.occurrences_of_free halone, List.nil_append]
  rw [Form.segments_append_of_free hleft, Form.segments_of_free halone]

theorem plan_caret_at_end (s : Settings) {l : WikiLink} (h : (as ++ link l :: bs).IsChain Before)
    (hnone : ∀ a ∈ as, a.isCommand = false) (hl : l.command?.isSome = true) {t : Text}
    (ht : t = as.flatMap spell ++ l.spell) :
    (plan s t t.length).caret = some (recase s t).length := by
  obtain ⟨⟨p, x⟩, hx⟩ := Option.isSome_iff_exists.mp hl
  have hrest : l.spell <+: (link l :: bs).flatMap spell := List.prefix_append _ _
  have hoccurrences : ∀ f : Form, f.occurrences t =
      (f.occurrences l.spell).map (Occurrence.shift (as.flatMap spell).length) := by
    intro f
    rw [ht, occurrences_flatMap_spell_append f h hnone hrest]
  -- the caret is in the link, and whatever form it is found by, this is the link
  obtain ⟨o, ho⟩ : ∃ o, enclosing? t t.length = some o := by
    have hmem := hoccurrences (p.form l.alias?.isSome)
    rw [WikiLink.occurrences_spell hx, List.map_singleton] at hmem
    refine exists_enclosing? (by rw [hmem]; exact List.mem_singleton_self _) ?_
    rw [Occurrence.contains_iff, Occurrence.shift_start, Occurrence.shift_stop, ht,
      List.length_append]
    dsimp only
    omega
  obtain ⟨hmem, -, -⟩ := of_enclosing? ho
  rw [hoccurrences] at hmem
  obtain ⟨o', ho', hshift⟩ := List.mem_map.mp hmem
  obtain ⟨hstart, hlink⟩ := WikiLink.eq_of_mem_occurrences hx ho'
  have hbefore : recase s (t.take o.start) = as.flatMap spell := by
    rw [← hshift, Occurrence.shift_start, hstart, Nat.add_zero, ht, List.take_left]
    have halone := recase_of_free s (fun f => free_flatMap_spell f h hnone List.nil_prefix)
    exact congrArg Recased.text halone
  have hrecase : recase s t = as.flatMap spell ++ o.link.render s := by
    rw [recase, ht, recase_append_of_not_command s h hnone hrest, l.recase_spell, ← hshift,
      Occurrence.shift_link, hlink, WikiLink.recased_spell s hx]
    rfl
  rw [plan_eq, ho, Option.map_some, Occurrence.landing, hbefore, hrecase, List.length_append]

end Piece

/-! ## One more character -/

/-- A character typed behind a text that has been recased already. -/
structure Keystroke (s : Settings) (p : Text) (c : Char) : Prop where
  /-- Recasing what has been recased and the character comes to the same as recasing all that was
  typed. -/
  recase_eq : recaseCounted s (p ++ [c]) =
    ⟨recase s (recase s p ++ [c]),
      (recaseCounted s p).count + (recaseCounted s (recase s p ++ [c])).count⟩
  count_le : (recaseCounted s (recase s p ++ [c])).count ≤ 1
  caret_eq : (recaseCounted s (recase s p ++ [c])).count ≠ 0 →
    (plan s (recase s p ++ [c]) (recase s p ++ [c]).length).caret =
      some (recase s (recase s p ++ [c])).length

/-- Each character of an ordinary document completes one link at most. -/
theorem Document.keystroke (s : Settings) (d : Document) {p : Text} {c : Char}
    (h : p ++ [c] <+: d.text) : Keystroke s p c := by
  obtain ⟨as, a, bs, u, hpieces, rfl, hlast⟩ := Piece.exists_unfinished h
  have hchain : (as ++ a :: bs).IsChain Piece.Before := by
    rw [← hpieces]
    exact d.chain
  have hchain' := Piece.isChain_map_recased_append s hchain
  have hnone : ∀ b ∈ as.map (Piece.recased s), b.isCommand = false :=
    fun b hb => Piece.isCommand_of_mem_map_recased hb
  have hrest : u ++ [c] <+: (a :: bs).flatMap Piece.spell := hlast.trans (List.prefix_append _ _)
  have hshort : u <+: (a :: bs).flatMap Piece.spell := (List.prefix_append u [c]).trans hrest
  -- what is recased before the character, and with it, the text as typed and the recased one
  have hbefore : recaseCounted s (as.flatMap Piece.spell ++ u) =
      ⟨(as.map (Piece.recased s)).flatMap Piece.spell ++ u, as.countP Piece.isCommand⟩ := by
    rw [Piece.recase_flatMap_spell_append s hchain hshort,
      (Piece.settled_of_concat hlast).recase s]
    rfl
  have htext : recase s (as.flatMap Piece.spell ++ u) ++ [c] =
      (as.map (Piece.recased s)).flatMap Piece.spell ++ (u ++ [c]) := by
    rw [recase, hbefore, List.append_assoc]
  have hagain := Piece.recase_append_of_not_command s hchain' hnone hrest
  have hcount : (recaseCounted s (recase s (as.flatMap Piece.spell ++ u) ++ [c])).count =
      (recaseCounted s (u ++ [c])).count := by
    rw [htext, hagain, Recased.count_append, Nat.zero_add]
  constructor
  case recase_eq =>
    rw [hcount, htext, recase, hagain, hbefore, List.append_assoc,
      Piece.recase_flatMap_spell_append s hchain hrest]
    rfl
  case count_le =>
    rw [hcount]
    rcases a.settled_or_command hlast with hv | ⟨l, -, hv, hl⟩
    · rw [hv.recase s]
      exact Nat.zero_le 1
    · rw [hv, l.recase_spell, hl]
      exact Nat.le_refl 1
  case caret_eq =>
    rw [hcount]
    intro hne
    rcases a.settled_or_command hlast with hv | ⟨l, rfl, hv, hl⟩
    · exact absurd (settled_iff_count.mp hv) hne
    · refine Piece.plan_caret_at_end s hchain' hnone hl ?_
      rw [htext, hv]

end WikiCasing
