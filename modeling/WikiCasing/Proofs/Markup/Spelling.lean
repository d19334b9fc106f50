import Mathlib.Data.List.TakeDrop
import Mathlib.Data.List.TakeWhile
import WikiCasing.Markup.Form
import WikiCasing.Proofs.Casing.Skeleton

/-!
# Reading a spelling

`Form.read?` is the inverse of `Form.spell` on the links that the form admits, with anything
behind them: `read?_eq_some_iff`. Since neither a target nor an alias holds a closing bracket, the
first closing bracket behind the start of a link belongs to the link, so a spelling falls into what
stands before its two closing brackets (`Form.inside`) and what stands behind them
(`Form.behind`). The section on the first closing bracket says what reading comes to when a text is
cut there; it is all that later modules use of `Form.read?`.
-/

namespace WikiCasing

/-- A text is cut at the first place of a character in one way only. -/
theorem Text.cut_unique {c : Char} : ∀ {s t r u : Text}, c ∉ s → c ∉ t →
    s ++ c :: r = t ++ c :: u → s = t ∧ r = u
  | [], [], _, _, _, _, h => ⟨rfl, (List.cons.inj h).2⟩
  | [], d :: t, _, _, _, ht, h => absurd (List.mem_cons.mpr (Or.inl (List.cons.inj h).1)) ht
  | d :: s, [], _, _, hs, _, h => absurd (List.mem_cons.mpr (Or.inl (List.cons.inj h).1.symm)) hs
  | d :: s, e :: t, r, u, hs, ht, h => by
      obtain ⟨rfl, htail⟩ := List.cons.inj h
      have hrest := cut_unique (fun hm => hs (List.mem_cons_of_mem _ hm))
        (fun hm => ht (List.mem_cons_of_mem _ hm)) htail
      exact ⟨by rw [hrest.1], hrest.2⟩

theorem Command.isSign_letter (x : Command) : isSign x.letter = false := by
  cases x <;> decide

theorem Command.letter_ne {c : Char} (hc : isSign c = true) (x : Command) : x.letter ≠ c := by
  intro h
  rw [← h, x.isSign_letter] at hc
  exact Bool.noConfusion hc

namespace Form

/-- The links that a form can spell so that they can be read again. -/
inductive Admits (f : Form) : Link → Prop
  | aliased {target shown : Text} {x : Command} :
      f.hasAlias = true →
      target ≠ [] → (∀ c ∈ target, f.targetChar c = true) →
      shown ≠ [] → (∀ c ∈ shown, f.aliasChar c = true) →
      Admits f ⟨target, some shown, x⟩
  | bare {target : Text} {x : Command} :
      f.hasAlias = false →
      target ≠ [] → (∀ c ∈ target, f.targetChar c = true) →
      Admits f ⟨target, none, x⟩

/-! ## Runs of allowed characters -/

theorem readRun?_append {allowed : Char → Bool} {run : Text} {d : Char} (hne : run ≠ [])
    (hrun : ∀ c ∈ run, allowed c = true) (hd : allowed d = false) (rest : Text) :
    readRun? allowed (run ++ d :: rest) = some (run, d :: rest) := by
  have hspan : (run ++ d :: rest).span allowed = (run, d :: rest) := by
    rw [List.span_eq_takeWhile_dropWhile, List.takeWhile_append_of_pos hrun,
      List.dropWhile_append_of_pos hrun]
    simp [hd]
  rw [readRun?, hspan]
  cases run with
  | nil => exact absurd rfl hne
  | cons c run => rfl

theorem of_readRun? {allowed : Char → Bool} {text run rest : Text}
    (h : readRun? allowed text = some (run, rest)) :
    run ≠ [] ∧ (∀ c ∈ run, allowed c = true) ∧ text = run ++ rest := by
  rw [readRun?, List.span_eq_takeWhile_dropWhile] at h
  have hall : ∀ c ∈ text.takeWhile allowed, allowed c = true :=
    fun c hc => List.mem_takeWhile_imp hc
  have hcut : text.takeWhile allowed ++ text.dropWhile allowed = text :=
    List.takeWhile_append_dropWhile
  split at h
  · exact absurd h (by simp)
  · rename_i run' rest' hne heq
    simp only [Prod.mk.injEq] at heq
    obtain ⟨rfl, rfl⟩ := heq
    simp only [Option.some.injEq, Prod.mk.injEq] at h
    obtain ⟨rfl, rfl⟩ := h
    exact ⟨fun hnil => hne hnil, hall, hcut.symm⟩

/-! ## The closing of a link -/

theorem readClosing?_eq_some_iff {f : Form} {text : Text} {x : Command} :
    f.readClosing? text = some x ↔ f.closing x <+: text := by
  unfold readClosing? closing
  split
  · constructor
    · intro h
      split at h
      · rw [Command.ofLetter?_eq_some_iff] at h
        subst h
        exact ⟨_, rfl⟩
      · exact absurd h (by simp)
    · rintro ⟨rest, rfl⟩
      exact Command.ofLetter?_letter x
  · constructor
    · intro h
      split at h
      · rw [Command.ofLetter?_eq_some_iff] at h
        subst h
        exact ⟨_, rfl⟩
      · exact absurd h (by simp)
    · rintro ⟨rest, rfl⟩
      exact Command.ofLetter?_letter x

/-- The part of a closing that stands before the brackets. -/
def inner (f : Form) (x : Command) : Text := if f.isPostfix then [] else ['\\', x.letter]

/-- The part of a closing that stands behind the brackets. -/
def behind (f : Form) (x : Command) : Text := if f.isPostfix then ['\\', x.letter] else []

theorem closing_eq (f : Form) (x : Command) :
    f.closing x = f.inner x ++ ']' :: ']' :: f.behind x := by
  cases f <;> rfl

theorem closing_cons (f : Form) (x : Command) :
    ∃ d rest, f.closing x = d :: rest ∧ f.aliasChar d = false ∧
      (f.hasAlias = false → f.targetChar d = false) := by
  cases f <;> exact ⟨_, _, rfl, rfl, by decide⟩

/-! ## Reading and spelling -/

theorem bar_not_targetChar (f : Form) : f.targetChar '|' = false := by
  cases f <;> rfl

theorem read?_spell {f : Form} {l : Link} (h : f.Admits l) (rest : Text) :
    f.read? (f.spell l ++ rest) = some l := by
  cases h with
  | @aliased target shown x hf hne htarget hane hshown =>
      obtain ⟨d, tail, hclosing, hd, -⟩ := f.closing_cons x
      have hspell : f.spell ⟨target, some shown, x⟩ ++ rest =
          '[' :: '[' :: (target ++ '|' :: (shown ++ d :: (tail ++ rest))) := by
        simp [spell, hf, hclosing]
      have hread : f.readClosing? (d :: (tail ++ rest)) = some x := by
        rw [readClosing?_eq_some_iff, hclosing]
        exact ⟨rest, rfl⟩
      simp only [hspell, read?, readRun?_append hne htarget f.bar_not_targetChar, hf, if_true,
        readRun?_append hane hshown hd, hread, Option.map_some]
  | @bare target x hf hne htarget =>
      obtain ⟨d, tail, hclosing, -, hd⟩ := f.closing_cons x
      have hspell : f.spell ⟨target, none, x⟩ ++ rest =
          '[' :: '[' :: (target ++ d :: (tail ++ rest)) := by
        simp [spell, hf, hclosing]
      have hread : f.readClosing? (d :: (tail ++ rest)) = some x := by
        rw [readClosing?_eq_some_iff, hclosing]
        exact ⟨rest, rfl⟩
      simp only [hspell, read?, readRun?_append hne htarget (hd hf), hf, Bool.false_eq_true,
        if_false, hread, Option.map_some]

theorem of_read? {f : Form} {text : Text} {l : Link} (h : f.read? text = some l) :
    f.Admits l ∧ f.spell l <+: text := by
  unfold read? at h
  split at h
  · rename_i text
    split at h
    · exact absurd h (by simp)
    · rename_i target rest hrun
      obtain ⟨hne, htarget, rfl⟩ := of_readRun? hrun
      split at h
      · rename_i hf
        split at h
        · rename_i rest
          split at h
          · exact absurd h (by simp)
          · rename_i shown rest hrun
            obtain ⟨hane, hshown, rfl⟩ := of_readRun? hrun
            obtain ⟨x, hx, rfl⟩ := Option.map_eq_some_iff.mp h
            obtain ⟨tail, rfl⟩ := readClosing?_eq_some_iff.mp hx
            exact ⟨.aliased hf hne htarget hane hshown, tail, by simp [spell, hf]⟩
        · exact absurd h (by simp)
      · rename_i hf
        obtain ⟨x, hx, rfl⟩ := Option.map_eq_some_iff.mp h
        obtain ⟨tail, rfl⟩ := readClosing?_eq_some_iff.mp hx
        have hf : f.hasAlias = false := by simpa using hf
        exact ⟨.bare hf hne htarget, tail, by simp [spell, hf]⟩
  · exact absurd h (by simp)

/-- A link is read exactly where a text begins with its spelling. -/
theorem read?_eq_some_iff {f : Form} {text : Text} {l : Link} :
    f.read? text = some l ↔ f.Admits l ∧ f.spell l <+: text := by
  constructor
  · exact of_read?
  · rintro ⟨hl, rest, rfl⟩
    exact read?_spell hl rest

/-! ## The first closing bracket -/

/-- What a link spells before its closing brackets. -/
def inside (f : Form) (l : Link) : Text :=
  '[' :: '[' :: (l.target ++
    ((if f.hasAlias then '|' :: l.alias?.getD [] else []) ++ f.inner l.command))

theorem spell_eq (f : Form) (l : Link) :
    f.spell l = f.inside l ++ ']' :: ']' :: f.behind l.command := by
  cases hf : f.hasAlias <;> simp [spell, inside, hf, closing_eq]

/-- A spelling goes on behind its first closing bracket for four characters, or two. -/
theorem length_spell (f : Form) (l : Link) :
    (f.spell l).length = (f.inside l).length + if f.isPostfix then 4 else 2 := by
  have hbehind : (f.behind l.command).length + 2 = if f.isPostfix then 4 else 2 := by
    cases f <;> rfl
  rw [spell_eq, List.length_append, List.length_cons, List.length_cons, hbehind]

theorem inside_aliased {f : Form} (hf : f.hasAlias = true) (target shown : Text) (x : Command) :
    f.inside ⟨target, some shown, x⟩ = '[' :: '[' :: (target ++ '|' :: (shown ++ f.inner x)) := by
  simp [inside, hf]

theorem inside_bare {f : Form} (hf : f.hasAlias = false) (target : Text) (x : Command) :
    f.inside ⟨target, none, x⟩ = '[' :: '[' :: (target ++ f.inner x) := by
  simp [inside, hf]

theorem not_mem_inner {c : Char} (hc : isSign c = true) (hb : c ≠ '\\') (f : Form) (x : Command) :
    c ∉ f.inner x := by
  have hx := x.letter_ne hc
  unfold inner
  split
  · simp
  · simp [hb, hx.symm]

theorem targetChar_ne {f : Form} {c : Char} (h : f.targetChar c = true) : c ≠ ']' ∧ c ≠ '|' := by
  simp only [targetChar, Bool.and_eq_true, bne_iff_ne] at h
  exact h.1

theorem aliasChar_ne {f : Form} {c : Char} (h : f.aliasChar c = true) : c ≠ ']' := by
  simp only [aliasChar, Bool.and_eq_true, bne_iff_ne] at h
  exact h.1

theorem Admits.close_not_mem_inside {f : Form} {l : Link} (h : f.Admits l) : ']' ∉ f.inside l := by
  have hinner : ∀ x, ']' ∉ f.inner x := not_mem_inner (by decide) (by decide) f
  cases h with
  | @aliased target shown x hf hne htarget hane hshown =>
      have ht : ']' ∉ target := fun hm => (targetChar_ne (htarget _ hm)).1 rfl
      have ha : ']' ∉ shown := fun hm => aliasChar_ne (hshown _ hm) rfl
      simp [inside_aliased hf, ht, ha, hinner x]
  | @bare target x hf hne htarget =>
      have ht : ']' ∉ target := fun hm => (targetChar_ne (htarget _ hm)).1 rfl
      simp [inside_bare hf, ht, hinner x]

theorem Admits.bar_mem_inside_iff {f : Form} {l : Link} (h : f.Admits l) :
    '|' ∈ f.inside l ↔ f.hasAlias = true := by
  cases h with
  | @aliased target shown x hf hne htarget hane hshown => simp [inside_aliased hf, hf]
  | @bare target x hf hne htarget =>
      have hinner : '|' ∉ f.inner x := not_mem_inner (by decide) (by decide) f x
      have ht : '|' ∉ target := fun hm => (targetChar_ne (htarget _ hm)).2 rfl
      simp [inside_bare hf, hf, ht, hinner]

variable {f : Form} {w r : Text} {l : Link}

/-- At a text whose first closing bracket is followed by another, the link read is the one whose
inside is what stands before the two, with its command behind them if it is of a postfix form. -/
theorem read?_closed (hw : ']' ∉ w) :
    f.read? (w ++ ']' :: ']' :: r) = some l ↔
      f.Admits l ∧ w = f.inside l ∧ f.behind l.command <+: r := by
  rw [read?_eq_some_iff]
  refine and_congr_right (fun hl => ?_)
  constructor
  · rintro ⟨rest, h⟩
    rw [spell_eq, List.append_assoc] at h
    obtain ⟨hinside, hrest⟩ := Text.cut_unique hl.close_not_mem_inside hw h
    exact ⟨hinside.symm, rest, (List.cons.inj hrest).2⟩
  · rintro ⟨rfl, rest, rfl⟩
    exact ⟨rest, by simp [spell_eq]⟩

theorem read?_unclosed (hw : ']' ∉ w) : f.read? w = none := by
  rw [Option.eq_none_iff_forall_ne_some]
  intro l h
  obtain ⟨hl, rest, rfl⟩ := of_read? h
  exact hw (by simp [spell_eq])

theorem read?_lone (hw : ']' ∉ w) (hr : r.head? ≠ some ']') : f.read? (w ++ ']' :: r) = none := by
  rw [Option.eq_none_iff_forall_ne_some]
  intro l h
  obtain ⟨hl, rest, h⟩ := of_read? h
  rw [spell_eq, List.append_assoc] at h
  obtain ⟨-, hrest⟩ := Text.cut_unique hl.close_not_mem_inside hw h
  exact hr (by rw [← hrest]; rfl)

theorem read?_cons_of_ne {c : Char} (hc : c ≠ '[') (r : Text) : f.read? (c :: r) = none := by
  rw [Option.eq_none_iff_forall_ne_some]
  intro l h
  obtain ⟨-, rest, h⟩ := of_read? h
  rw [spell_eq] at h
  simp only [inside, List.cons_append, List.cons.injEq] at h
  exact hc h.1.symm

end Form

end WikiCasing
