import WikiCasing.Proofs.Markup.Change
import WikiCasing.Proofs.Markup.Simultaneous

/-!
# One character put into a settled text

A settled text holds no spelling of a link (`Settled.not_infix`), so whatever occurs once a
character has been put in holds that character (`Settled.covers_insertion`). Links that have a
character in common close at the same brackets: a text of which all occurrences hold one character
is `Confined`, which is to say that recasing touches nothing but the stretch from the leftmost
occurrence to the two commands that may stand behind these brackets
(`settled_or_confined_of_covers`). So one keystroke recases one link, once or twice, and the caret
behind the new character is in it (`insertion_confined`).
-/

namespace WikiCasing

/-! ## Settled texts -/

theorem Settled.not_infix {t : Text} (h : Settled t) {f : Form} {l : Link} (hl : f.Admits l) :
    ¬ f.spell l <:+: t := by
  rintro ⟨p, q, rfl⟩
  have hsuffix : f.spell l ++ q <:+ p ++ f.spell l ++ q := ⟨p, by simp⟩
  have hne : f.spell l ++ q ≠ [] := by
    intro hnil
    have hpos := Form.spell_length_pos f l
    rw [(List.append_eq_nil_iff.mp hnil).1] at hpos
    exact Nat.lt_irrefl _ hpos
  have hread := Form.free_of_occurrences_nil (h f) _ hsuffix hne
  rw [List.append_nil, Form.read?_spell hl q] at hread
  exact absurd hread (by simp)

theorem Settled.covers_insertion {t : Text} (h : Settled t) {i : Nat} (hi : i ≤ t.length)
    (c : Char) {f : Form} {o : Occurrence}
    (ho : o ∈ f.occurrences (t.take i ++ c :: t.drop i)) : o.covers i = true := by
  obtain ⟨-, hl, hstop, -, -⟩ := Form.mem_occurrences ho
  obtain ⟨p, q, hcut, hstart⟩ := Form.exists_cut_of_mem_occurrences ho
  have htake : (t.take i).length = i := List.length_take_of_le hi
  have hnot := h.not_infix hl
  rw [Occurrence.covers_iff]
  constructor
  · -- a link that starts behind the character stands in what follows it
    by_contra hlt
    refine hnot ?_
    have hbehind : f.spell o.link ++ q <:+ t.drop i := by
      have hlong : f.spell o.link ++ q <:+ (t.take i ++ [c]) ++ t.drop i := by
        rw [List.append_assoc, List.singleton_append, hcut]
        exact List.suffix_append _ _
      refine List.suffix_of_suffix_length_le hlong (List.suffix_append _ _) ?_
      have hlen := congrArg List.length hcut
      simp only [List.length_append, List.length_cons, htake] at hlen ⊢
      omega
    exact (List.prefix_append _ q).isInfix.trans (hbehind.trans (List.drop_suffix i t)).isInfix
  · -- a link that stops before the character stands in what precedes it
    by_contra hlt
    refine hnot ?_
    have hbefore : p ++ f.spell o.link <+: t.take i := by
      have hlong : p ++ f.spell o.link <+: t.take i ++ c :: t.drop i := by
        rw [hcut, ← List.append_assoc]
        exact List.prefix_append _ _
      refine List.prefix_of_prefix_length_le hlong (List.prefix_append _ _) ?_
      rw [List.length_append, htake]
      omega
    exact (List.suffix_append p _).isInfix.trans (hbefore.trans (List.take_prefix i t)).isInfix

/-! ## Texts whose occurrences close at the same brackets -/

/-- The offset of the first closing bracket of an occurrence. -/
def Occurrence.close (o : Occurrence) : Nat := o.stop - if o.form.isPostfix then 4 else 2

/-- All occurrences of a text close at the brackets at `close`, the leftmost of them starts at
`start`, and recasing replaces one or two links, all between there and the end of two commands
behind the brackets. -/
structure Confined (s : Settings) (t : Text) (start close : Nat) : Prop where
  brackets : [']', ']'] <+: t.drop close
  close_eq : ∀ f : Form, ∀ o ∈ f.occurrences t, o.close = close
  start_le : ∀ f : Form, ∀ o ∈ f.occurrences t, start ≤ o.start
  attained : ∃ f : Form, ∃ o ∈ f.occurrences t, o.start = start
  count_eq : (recaseCounted s t).count = 1 ∨ (recaseCounted s t).count = 2
  recase_eq : ∃ r, recase s t = t.take start ++ (r ++ t.drop (close + 6))

theorem Occurrence.close_shift {f : Form} {t : Text} {o : Occurrence} (ho : o ∈ f.occurrences t)
    (n : Nat) : (o.shift n).close = n + o.close := by
  obtain ⟨rfl, -, hstop, -, -⟩ := Form.mem_occurrences ho
  have hlen := o.form.length_spell o.link
  rw [Occurrence.close, Occurrence.close, Occurrence.shift_stop, Occurrence.shift_form]
  omega

theorem Block.brackets (b : Block) : [']', ']'] <+: b.text.drop b.body.length := by
  rw [text, List.drop_left]
  exact ⟨commandsText b.commands, rfl⟩

/-- Every occurrence of a block closes where its body ends. -/
theorem Block.close_eq {b : Block} {f : Form} {o : Occurrence} (ho : o ∈ f.occurrences b.text) :
    o.close = b.body.length := by
  obtain ⟨l, before, -, hbody, rfl⟩ := of_mem_occurrences ho
  simp only [Occurrence.close, length_eq_of_body hbody, Nat.add_sub_cancel]

namespace Confined

variable {s : Settings} {p q : Text} {start close : Nat}

theorem of_block {b : Block} {f : Form} {l : Link} {before : Text} (h : b.Finds f l)
    (hbody : b.body = before ++ f.inside l) (hearlier : ∀ g ∈ f.earlier, ∀ l', ¬ b.Ends g l') :
    Confined s b.text before.length b.body.length := by
  obtain ⟨inside, xs, n, hcascade⟩ := h.exists_cascade s hbody hearlier
  constructor
  case brackets => exact b.brackets
  case close_eq => exact fun g o ho => Block.close_eq ho
  case start_le =>
    intro g o ho
    obtain ⟨l', before', h', hbody', rfl⟩ := Block.of_mem_occurrences ho
    -- the form that goes first stretches furthest to the left
    have hg : g ∈ f.earlier ++ f :: f.later := by
      rw [← Form.all_eq f]
      exact g.mem_all
    rcases List.mem_append.mp hg with hg | hg
    · exact absurd h'.toEnds (hearlier g hg l')
    · rcases List.mem_cons.mp hg with rfl | hg
      · have hinside := (h.first l' h'.toEnds).length_le
        have hlen := congrArg List.length (hbody.symm.trans hbody')
        simp only [List.length_append] at hlen
        show before.length ≤ before'.length
        omega
      · have hlater := Form.mem_earlier_of_mem_later hg
        exact (Occurrence.within_iff.mp (h.within hbody hlater h' hbody')).1
  case attained =>
    refine ⟨f, ⟨f, before.length, before.length + (f.spell l).length, l⟩, ?_, rfl⟩
    rw [h.occurrences hbody]
    exact List.mem_singleton_self _
  case count_eq =>
    rw [hcascade.recase_eq]
    exact hcascade.count_eq
  case recase_eq =>
    obtain ⟨zs, hzs⟩ := hcascade.commands_suffix
    have htake : b.text.take before.length = before := by
      rw [h.toEnds.text_eq hbody, List.take_left]
    have hdrop : b.text.drop (b.body.length + 6) = commandsText (b.commands.drop 2) := by
      rw [Block.text, List.drop_length_add_append, ← drop_commandsText]
      rfl
    refine ⟨inside ++ ']' :: ']' :: commandsText zs, ?_⟩
    rw [recase, hcascade.recase_eq, htake, hdrop, ← hzs, commandsText_append]
    simp

theorem append_left (hcut : Cut p q) (hp : Settled p) (hq : Confined s q start close) :
    Confined s (p ++ q) (p.length + start) (p.length + close) := by
  have hoccurrences : ∀ f : Form, f.occurrences (p ++ q) =
      (f.occurrences q).map (Occurrence.shift p.length) := by
    intro f
    rw [hcut.occurrences_append, hp f, List.nil_append]
  have hrecase : recaseCounted s (p ++ q) = ⟨p, 0⟩ ++ recaseCounted s q := by
    rw [hcut.recase_append s, hp.recase s]
  constructor
  case brackets =>
    rw [List.drop_length_add_append]
    exact hq.brackets
  case close_eq =>
    intro f o ho
    rw [hoccurrences] at ho
    obtain ⟨o', ho', rfl⟩ := List.mem_map.mp ho
    rw [Occurrence.close_shift ho', hq.close_eq f o' ho']
  case start_le =>
    intro f o ho
    rw [hoccurrences] at ho
    obtain ⟨o', ho', rfl⟩ := List.mem_map.mp ho
    exact Nat.add_le_add_left (hq.start_le f o' ho') p.length
  case attained =>
    obtain ⟨f, o, ho, hstart⟩ := hq.attained
    refine ⟨f, o.shift p.length, ?_, ?_⟩
    · rw [hoccurrences]
      exact List.mem_map_of_mem ho
    · rw [Occurrence.shift_start, hstart]
  case count_eq =>
    rw [hrecase, Recased.count_append, Nat.zero_add]
    exact hq.count_eq
  case recase_eq =>
    obtain ⟨r, hr⟩ := hq.recase_eq
    refine ⟨r, ?_⟩
    rw [recase, hrecase, Recased.text_append, ← recase, hr, List.take_length_add_append,
      Nat.add_assoc, List.drop_length_add_append, List.append_assoc]

theorem append_right (hcut : Cut p q) (hp : Confined s p start close) (hq : Settled q) :
    Confined s (p ++ q) start close := by
  have hoccurrences : ∀ f : Form, f.occurrences (p ++ q) = f.occurrences p := by
    intro f
    rw [hcut.occurrences_append, hq f, List.map_nil, List.append_nil]
  have hrecase : recaseCounted s (p ++ q) = recaseCounted s p ++ ⟨q, 0⟩ := by
    rw [hcut.recase_append s, hq.recase s]
  constructor
  case brackets =>
    rw [List.drop_append]
    exact hp.brackets.trans (List.prefix_append _ _)
  case close_eq =>
    intro f o ho
    rw [hoccurrences] at ho
    exact hp.close_eq f o ho
  case start_le =>
    intro f o ho
    rw [hoccurrences] at ho
    exact hp.start_le f o ho
  case attained =>
    obtain ⟨f, o, ho, hstart⟩ := hp.attained
    exact ⟨f, o, by rw [hoccurrences]; exact ho, hstart⟩
  case count_eq =>
    rw [hrecase, Recased.count_append, Nat.add_zero]
    exact hp.count_eq
  case recase_eq =>
    obtain ⟨r, hr⟩ := hp.recase_eq
    obtain ⟨f, o, ho, hstart⟩ := hp.attained
    obtain ⟨-, -, -, hlt, hle⟩ := Form.mem_occurrences ho
    -- the two commands may reach beyond the end of the confined text
    refine ⟨r ++ q.take (close + 6 - p.length), ?_⟩
    rw [recase, hrecase, Recased.text_append, ← recase, hr,
      List.take_append_of_le_length (by omega), List.drop_append]
    rcases Nat.le_total (close + 6) p.length with hshort | hlong
    · have hzero : close + 6 - p.length = 0 := by omega
      simp [hzero]
    · rw [List.drop_eq_nil_of_le hlong]
      simp

end Confined

/-- A text of which all occurrences hold one character is settled or confined. -/
theorem settled_or_confined_of_covers (s : Settings) {t : Text} {i : Nat}
    (h : ∀ f : Form, ∀ o ∈ f.occurrences t, o.covers i = true) :
    Settled t ∨ ∃ start close, Confined s t start close := by
  induction t using Cut.text_induction generalizing i with
  | free p hp => exact Or.inl (settled_of_free hp)
  | block b =>
      rcases b.exists_first with ⟨f, l, hfinds, hearlier⟩ | hnone
      · obtain ⟨before, hbody⟩ := hfinds.inside
        exact Or.inr ⟨_, _, .of_block hfinds hbody.symm hearlier⟩
      · exact Or.inl (fun f => Block.occurrences_of_not_ends (hnone f))
  | append p q hcut ihp ihq =>
      have hleft : ∀ f : Form, ∀ o ∈ f.occurrences p, o.covers i = true := by
        intro f o ho
        refine h f o ?_
        rw [hcut.occurrences_append]
        exact List.mem_append_left _ ho
      have hright : ∀ f : Form, ∀ o ∈ f.occurrences q,
          p.length + o.start ≤ i ∧ i < p.length + o.stop := by
        intro f o ho
        refine Occurrence.covers_iff.mp (h f (o.shift p.length) ?_)
        rw [hcut.occurrences_append]
        exact List.mem_append_right _ (List.mem_map_of_mem ho)
      have hrest : ∀ f : Form, ∀ o ∈ f.occurrences q, o.covers (i - p.length) = true := by
        intro f o ho
        have hcovers := hright f o ho
        rw [Occurrence.covers_iff]
        omega
      rcases ihp hleft with hp | ⟨start, close, hp⟩
      · rcases ihq hrest with hq | ⟨start, close, hq⟩
        · refine Or.inl (fun f => ?_)
          rw [hcut.occurrences_append, hp f, hq f]
          rfl
        · exact Or.inr ⟨_, _, hq.append_left hcut hp⟩
      · -- an occurrence on either side of the cut would leave no place for the character
        obtain ⟨g, o, ho, -⟩ := hp.attained
        have hcovers := Occurrence.covers_iff.mp (hleft g o ho)
        obtain ⟨-, -, -, -, hle⟩ := Form.mem_occurrences ho
        have hq : Settled q := by
          intro f
          refine List.eq_nil_iff_forall_not_mem.mpr (fun o' ho' => ?_)
          have hcovers' := hright f o' ho'
          omega
        exact Or.inr ⟨_, _, hp.append_right hcut hq⟩

/-- A character put into a text without occurrences leaves none, or makes occurrences that all hold
the character and all close at the same brackets. Recasing replaces one or two links then, and
nothing before the leftmost occurrence nor behind the two commands that may follow the brackets. The
caret right behind the character is in one of the occurrences, so a plan moves it. -/
theorem insertion_confined (s : Settings) {t : Text} (ht : Settled t) {i : Nat}
    (hi : i ≤ t.length) (c : Char) :
    let t' := t.take i ++ c :: t.drop i
    Settled t' ∨ ∃ start close, Confined s t' start close ∧
      (∀ f : Form, ∀ o ∈ f.occurrences t', o.covers i = true) ∧
      ∃ o, (plan s t' (i + 1)).occurrence = some o ∧
        (plan s t' (i + 1)).caret = some (o.landing s t') := by
  intro t'
  have hcovers : ∀ f : Form, ∀ o ∈ f.occurrences t', o.covers i = true :=
    fun f o ho => ht.covers_insertion hi c ho
  rcases settled_or_confined_of_covers s hcovers with hsettled | ⟨start, close, hconfined⟩
  · exact Or.inl hsettled
  · obtain ⟨f, o, ho, -⟩ := hconfined.attained
    have hin : o.contains (i + 1) = true := by
      have hcover := Occurrence.covers_iff.mp (hcovers f o ho)
      rw [Occurrence.contains_iff]
      omega
    obtain ⟨o', ho'⟩ := exists_enclosing? ho hin
    refine Or.inr ⟨start, close, hconfined, hcovers, o', ?_⟩
    rw [plan_eq, ho']
    exact ⟨rfl, rfl⟩

/-- A closing bracket that completes a link with a command inside and one behind it: lowering keeps
the former, and both are used up. The link that follows is kept. -/
theorem insertion_confined_twice :
    let t := "[[a|x\\U]\\l [[c]]".toList
    let t' := t.take 8 ++ ']' :: t.drop 8
    Settled t ∧ 8 ≤ t.length ∧ (recaseCounted .standard t').count = 2 ∧
      ∃ start close, Confined .standard t' start close ∧
        (∀ f : Form, ∀ o ∈ f.occurrences t', o.covers 8 = true) ∧
        ∃ o, (plan .standard t' ((8 : Nat) + 1)).occurrence = some o ∧
          (plan .standard t' ((8 : Nat) + 1)).caret = some (o.landing .standard t') := by
  intro t t'
  have ht : Settled t := by
    intro f
    cases f <;> decide +kernel
  have hi : 8 ≤ t.length := by decide
  have hcount : (recaseCounted .standard t').count = 2 := by decide +kernel
  have hnot : ¬ Settled t' := by
    rw [settled_iff_count (s := .standard), hcount]
    exact Nat.succ_ne_zero 1
  exact ⟨ht, hi, hcount, (insertion_confined .standard ht hi ']').resolve_left hnot⟩

end WikiCasing
