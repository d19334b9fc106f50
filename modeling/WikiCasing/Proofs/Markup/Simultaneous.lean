import WikiCasing.Proofs.Markup.Resolved

/-!
# One replacement for all forms together

Recasing replaces the links of the four forms one form after the other, each over the whole result
of the one before. Where no postfix alias link has an alias with a backslash or with two opening
brackets in a row, this comes to replacing the resolved occurrences of the text all at once:
`recase_eq_substitute`. The replacement reads the occurrences as a partial function from offsets to
occurrences, so that their order in the list plays no part.
-/

namespace WikiCasing

/-- The spans of two occurrences have no character in common. -/
def Occurrence.Apart (o p : Occurrence) : Prop := o.stop ≤ p.start ∨ p.stop ≤ o.start

/-- The character at an offset belongs to the occurrence. -/
def Occurrence.covers (o : Occurrence) (i : Nat) : Bool := o.start ≤ i && i < o.stop

/-- What takes the place of the character at an offset: the replacement of an occurrence for its
first character, nothing for its others, and the character itself where there is no occurrence. -/
def standIn (s : Settings) (os : List Occurrence) (c : Char) (i : Nat) : Text :=
  match os.find? fun o => o.covers i with
  | none => [c]
  | some o => if i = o.start then o.link.render s else []

/-- A text with the spans of some occurrences replaced, all at once. -/
def substitute (s : Settings) (os : List Occurrence) (t : Text) : Text :=
  t.zipIdx.flatMap fun p => standIn s os p.1 p.2

theorem Occurrence.covers_iff {o : Occurrence} {i : Nat} :
    o.covers i = true ↔ o.start ≤ i ∧ i < o.stop := by
  simp [covers]

theorem Occurrence.Apart.symm {o p : Occurrence} (h : o.Apart p) : p.Apart o := Or.symm h

/-! ## Where an offset falls -/

section

variable {os os' : List Occurrence} {i : Nat}

/-- Of occurrences that are apart, at most one covers an offset. -/
theorem find?_covers_eq_some_iff (h : os.Pairwise Occurrence.Apart) {o : Occurrence} :
    os.find? (fun o => o.covers i) = some o ↔ o ∈ os ∧ o.covers i = true := by
  induction os with
  | nil => simp
  | cons p os ih =>
      obtain ⟨hp, hos⟩ := List.pairwise_cons.mp h
      cases hcover : p.covers i with
      | false =>
          rw [List.find?_cons_of_neg (by simp [hcover]), ih hos, List.mem_cons]
          constructor
          · exact fun ⟨hm, hi⟩ => ⟨Or.inr hm, hi⟩
          · rintro ⟨rfl | hm, hi⟩
            · rw [hcover] at hi
              exact Bool.noConfusion hi
            · exact ⟨hm, hi⟩
      | true =>
          rw [List.find?_cons_of_pos (by simp [hcover]), List.mem_cons]
          constructor
          · intro heq
            obtain rfl := Option.some.inj heq
            exact ⟨Or.inl rfl, hcover⟩
          · rintro ⟨rfl | hm, hi⟩
            · rfl
            · have hapart := hp o hm
              rw [Occurrence.covers_iff] at hcover hi
              unfold Occurrence.Apart at hapart
              omega

theorem find?_covers_perm (h : os.Perm os') (hos : os'.Pairwise Occurrence.Apart) :
    os.find? (fun o => o.covers i) = os'.find? (fun o => o.covers i) := by
  have hos' : os.Pairwise Occurrence.Apart := (h.pairwise_iff Occurrence.Apart.symm).mpr hos
  refine Option.ext (fun o => ?_)
  rw [find?_covers_eq_some_iff hos, find?_covers_eq_some_iff hos', h.mem_iff]

theorem find?_covers_append_left {n : Nat} (hi : i < n) :
    (os ++ os'.map (Occurrence.shift n)).find? (fun o => o.covers i) =
      os.find? (fun o => o.covers i) := by
  have hnone : (os'.map (Occurrence.shift n)).find? (fun o => o.covers i) = none := by
    rw [List.find?_eq_none]
    intro o ho
    obtain ⟨o', -, rfl⟩ := List.mem_map.mp ho
    rw [Occurrence.covers_iff, Occurrence.shift_start]
    omega
  rw [List.find?_append, hnone, Option.or_none]

theorem find?_covers_append_right {n : Nat} (h : ∀ o ∈ os, o.stop ≤ n) :
    (os ++ os'.map (Occurrence.shift n)).find? (fun o => o.covers (n + i)) =
      (os'.find? fun o => o.covers i).map (Occurrence.shift n) := by
  have hnone : os.find? (fun o => o.covers (n + i)) = none := by
    rw [List.find?_eq_none]
    intro o ho
    have hstop := h o ho
    rw [Occurrence.covers_iff]
    omega
  have hshift : ∀ o : Occurrence, (o.shift n).covers (n + i) = o.covers i := by
    intro o
    simp [Occurrence.covers]
  rw [List.find?_append, hnone, Option.none_or, List.find?_map]
  simp only [Function.comp_def, hshift]

end

/-! ## The replacement of all spans at once -/

section

variable (s : Settings) {os os' : List Occurrence}

@[simp] theorem substitute_nil (t : Text) : substitute s [] t = t := by
  have h : (fun p : Char × Nat => standIn s [] p.1 p.2) = fun p => [p.1] := rfl
  rw [substitute, h, ← List.map_eq_flatMap, List.zipIdx_map_fst]

theorem substitute_perm (h : os.Perm os') (hos : os'.Pairwise Occurrence.Apart) (t : Text) :
    substitute s os t = substitute s os' t := by
  simp only [substitute, standIn, find?_covers_perm h hos]

theorem substitute_append {p : Text} (h : ∀ o ∈ os, o.stop ≤ p.length) (q : Text) :
    substitute s (os ++ os'.map (Occurrence.shift p.length)) (p ++ q) =
      substitute s os p ++ substitute s os' q := by
  rw [substitute, List.zipIdx_append, List.flatMap_append]
  congr 1
  · refine List.flatMap_congr (fun x hx => ?_)
    have hi : x.2 < p.length := by
      have hlt := List.snd_lt_of_mem_zipIdx hx
      omega
    rw [standIn, find?_covers_append_left hi, standIn]
  · rw [List.zipIdx_eq_map_add, List.flatMap_map, substitute]
    refine List.flatMap_congr (fun x _ => ?_)
    rw [standIn, Nat.zero_add, find?_covers_append_right h, standIn]
    cases os'.find? fun o => o.covers x.2 with
    | none => rfl
    | some o => simp

theorem substitute_append_plain {p : Text} (h : ∀ o ∈ os, o.stop ≤ p.length) (q : Text) :
    substitute s os (p ++ q) = substitute s os p ++ q := by
  have happend := @substitute_append s os [] p h q
  rwa [List.map_nil, List.append_nil, substitute_nil] at happend

theorem substitute_whole {o : Occurrence} {u : Text} (hu : u ≠ []) (hstart : o.start = 0)
    (hstop : o.stop = u.length) : substitute s [o] u = o.link.render s := by
  have hcover : ∀ i, i < u.length → o.covers i = true := by
    intro i hi
    rw [Occurrence.covers_iff]
    omega
  cases u with
  | nil => exact absurd rfl hu
  | cons c u =>
      have hrest : ((u.zipIdx 1).flatMap fun p => standIn s [o] p.1 p.2) = [] := by
        refine List.flatMap_eq_nil_iff.mpr (fun x hx => ?_)
        have hle := List.le_snd_of_mem_zipIdx hx
        have hlt := List.snd_lt_add_of_mem_zipIdx hx
        have hx := hcover x.2 (by rw [List.length_cons]; omega)
        have hne : x.2 ≠ o.start := by omega
        simp [standIn, hx, hne]
      have hzero := hcover 0 (by simp)
      rw [substitute, List.zipIdx_cons, List.flatMap_cons, Nat.zero_add, hrest]
      simp [standIn, hzero, hstart]

end

/-! ## The forms together -/

/-- The resolved occurrences of a text are apart, and recasing replaces them all at once. -/
structure Simultaneous (s : Settings) (t : Text) : Prop where
  apart : (resolved t).Pairwise Occurrence.Apart
  recase_eq : recaseCounted s t = ⟨substitute s (resolved t) t, (resolved t).length⟩

namespace Simultaneous

variable {s : Settings}

theorem of_free {p : Text} (h : ∀ f : Form, f.Free p []) : Simultaneous s p where
  apart := by
    rw [resolved_of_free h]
    exact List.Pairwise.nil
  recase_eq := by
    rw [recase_of_free s h, resolved_of_free h, substitute_nil]
    rfl

theorem of_first {b : Block} {f : Form} {l : Link} (h : b.Finds f l)
    (hearlier : ∀ g ∈ f.earlier, ∀ l', ¬ b.Ends g l') (hplain : f = .postfixAlias → l.PlainAlias) :
    Simultaneous s b.text := by
  obtain ⟨before, hbody⟩ := h.inside
  have hresolved := h.resolved_eq hbody.symm hearlier
  let o : Occurrence := ⟨f, 0, (f.spell l).length, l⟩
  have hshift : resolved b.text = [] ++ [o].map (Occurrence.shift before.length) := hresolved
  have hspell : substitute s [o] (f.spell l) = l.render s := by
    refine substitute_whole s (fun hnil => ?_) rfl rfl
    have hpos := Form.spell_length_pos f l
    rw [hnil] at hpos
    exact Nat.lt_irrefl _ hpos
  have hrest : substitute s [o] (f.spell l ++ commandsText (f.after b.commands)) =
      l.render s ++ commandsText (f.after b.commands) := by
    rw [substitute_append_plain s (by simp [o]), hspell]
  constructor
  · rw [hresolved]
    exact List.pairwise_singleton _ _
  · rw [h.recase_of_first hbody.symm hearlier hplain, hshift, h.toEnds.text_eq hbody.symm,
      substitute_append s (by simp), substitute_nil, hrest]
    rfl

theorem append {p q : Text} (hcut : Cut p q) (hp : Simultaneous s p) (hq : Simultaneous s q) :
    Simultaneous s (p ++ q) := by
  have hperm := hcut.resolved_append
  have hstop : ∀ o ∈ resolved p, o.stop ≤ p.length := by
    intro o ho
    exact (Form.mem_occurrences (mem_resolved_iff.mp ho).1).2.2.2.2
  have hapart : (resolved p ++ (resolved q).map (Occurrence.shift p.length)).Pairwise
      Occurrence.Apart := by
    refine List.pairwise_append.mpr ⟨hp.apart, ?_, ?_⟩
    · rw [List.pairwise_map]
      refine hq.apart.imp (fun {o o'} h => ?_)
      unfold Occurrence.Apart at *
      rw [Occurrence.shift_start, Occurrence.shift_stop, Occurrence.shift_start,
        Occurrence.shift_stop]
      omega
    · intro o ho o' ho'
      obtain ⟨o'', -, rfl⟩ := List.mem_map.mp ho'
      have h := hstop o ho
      refine Or.inl ?_
      rw [Occurrence.shift_start]
      omega
  constructor
  · exact (hperm.pairwise_iff Occurrence.Apart.symm).mpr hapart
  · rw [hcut.recase_append s, hp.recase_eq, hq.recase_eq, substitute_perm s hperm hapart,
      substitute_append s hstop, hperm.length_eq]
    simp

end Simultaneous

/-- Where every postfix alias link has a plain alias, the resolved occurrences of a text have
disjoint spans, and recasing the forms one after the other comes to replacing these occurrences all
at once: every other character is kept, and there are as many replacements as occurrences. -/
theorem recase_eq_substitute (s : Settings) (t : Text)
    (hplain : ∀ o ∈ Form.postfixAlias.occurrences t, o.link.PlainAlias) :
    (resolved t).Pairwise Occurrence.Apart ∧
      recase s t = substitute s (resolved t) t ∧
      (recaseCounted s t).count = (resolved t).length := by
  have h : Simultaneous s t := by
    induction t using Cut.text_induction with
    | free p hp => exact .of_free hp
    | block b =>
        rcases b.exists_first with ⟨f, l, hfinds, hearlier⟩ | hnone
        · refine .of_first hfinds hearlier (fun hf => ?_)
          subst hf
          obtain ⟨before, hbody⟩ := hfinds.inside
          have hmem := hfinds.occurrences hbody.symm
          exact hplain ⟨.postfixAlias, _, _, l⟩ (by rw [hmem]; exact List.mem_singleton_self _)
        · exact .of_free (fun f => Form.free_block rfl (hnone f))
    | append p q hcut ihp ihq =>
        rw [hcut.occurrences_append] at hplain
        refine .append hcut (ihp (fun o ho => ?_)) (ihq (fun o ho => ?_))
        · exact hplain o (List.mem_append_left _ ho)
        · have hmem := List.mem_map_of_mem (f := Occurrence.shift p.length) ho
          exact hplain (o.shift p.length) (List.mem_append_right _ hmem)
  exact ⟨h.apart, congrArg Recased.text h.recase_eq, congrArg Recased.count h.recase_eq⟩

/-- A link in the span of another, and one directly behind it. -/
theorem recase_eq_substitute_adjacent :
    let t := "[[a|b]]\\u[[x[[c\\t]] [[É]]\\l".toList
    (∀ o ∈ Form.postfixAlias.occurrences t, o.link.PlainAlias) ∧
      (resolved t).Pairwise Occurrence.Apart ∧
      recase .standard t = substitute .standard (resolved t) t ∧
      (recaseCounted .standard t).count = (resolved t).length := by
  intro t
  have hplain : ∀ o ∈ Form.postfixAlias.occurrences t, o.link.PlainAlias := by decide +kernel
  exact ⟨hplain, recase_eq_substitute .standard t hplain⟩

/-- Without a plain alias the two differ: the replacement of the outer link leaves another one. -/
example :
    let t := "[[a|x [[b\\u]]\\l".toList
    recase .standard t = "[[a|X [[B]]".toList ∧
      substitute .standard (resolved t) t = "[[a|x [[b\\u]]".toList := by
  decide +kernel

end WikiCasing
