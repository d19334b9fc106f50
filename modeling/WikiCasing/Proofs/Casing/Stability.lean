import Mathlib.Logic.Function.Iterate
import WikiCasing.Proofs.Casing.Recast

/-!
# Title and capital casing done twice

Title casing and capital casing lower a text, mark some of its characters, and raise those. Where
the upper case of a marked character is longer than itself, the second time may lower what is behind
its first character: a sharp s becomes `SS`, and then `Ss`. So neither is idempotent
(`exists_title_and_capital_not_idempotent`). Each is so on a text exactly when all that is marked
raises stably (`title_and_capital_stable_iff`), and a third time never changes anything
(`title_and_capital_settle`).

Both are shown to be so by one argument, about any marking that finds its marks again when the
marked characters have been raised and lowered (`Marking`).
-/

namespace WikiCasing.Casing

open Unicode

/-! ## Markings -/

/-- A way of marking characters of a text that marks the first character of each block again, and
no other. -/
structure Marking (mark : Text → List (Char × Bool)) : Prop where
  map_fst : ∀ t, (mark t).map Prod.fst = t
  mark_flatten : ∀ {t : Text} {blocks : List (List (Char × Bool))},
    List.Forall₂ Recast (mark t) blocks → mark (blocks.flatten.map Prod.fst) = blocks.flatten

/-- The lower case of a text with its marked characters raised. -/
def raiseMarked (mark : Text → List (Char × Bool)) (t : Text) : Text := raised (mark (lower t))

theorem upper_raised (marks : List (Char × Bool)) :
    upper (raised marks) = upper (marks.map Prod.fst) := by
  induction marks with
  | nil => rfl
  | cons p marks ih =>
      obtain ⟨c, b⟩ := p
      rw [raised_cons, upper_append, ih, List.map_cons, upper_cons]
      cases b with
      | true =>
          have htwice : upper (upperChar c) = upperChar c :=
            flatMap_of_stays fun _ => closed_upper.mapChar_of_mem
          rw [if_pos rfl, htwice]
      | false => rw [if_neg Bool.false_ne_true, upper_singleton]

theorem length_upperChar_of_length_upper {t : Text} (h : (upper t).length = t.length) :
    ∀ c ∈ t, (upperChar c).length = 1 := by
  induction t with
  | nil => exact fun _ hc => absurd hc List.not_mem_nil
  | cons c t ih =>
      have hhead : 0 < (upperChar c).length := List.length_pos_iff.mpr (upperChar_faithful c).ne_nil
      have htail := (keeps_upper t).length_le
      rw [upper_cons, List.length_append, List.length_cons] at h
      refine List.forall_mem_cons.mpr ⟨by omega, ih (by omega)⟩

namespace Marking

variable {mark : Text → List (Char × Bool)} (h : Marking mark)
include h

theorem fst_mem {t : Text} {p : Char × Bool} (hp : p ∈ mark t) : p.1 ∈ t := by
  rw [← h.map_fst t]
  exact List.mem_map_of_mem hp

theorem exists_blocks (t : Text) :
    ∃ blocks, List.Forall₂ Recast (mark (lower t)) blocks ∧
      mark (lower (raiseMarked mark t)) = blocks.flatten := by
  have hlowered : ∀ p ∈ mark (lower t), Lowered p.1 := fun p hp =>
    lowered_of_mem_lowerFrom (h.fst_mem hp)
  obtain ⟨blocks, hblocks, htext⟩ :=
    Casing.exists_blocks hlowered (lowersTo_lower (raiseMarked mark t))
  refine ⟨blocks, hblocks, ?_⟩
  rw [← htext]
  exact h.mark_flatten hblocks

/-- The second time changes nothing exactly when all that is marked raises stably. -/
theorem twice_eq_iff (t : Text) :
    raiseMarked mark (raiseMarked mark t) = raiseMarked mark t ↔
      ∀ p ∈ mark (lower t), p.2 = true → RaisesStably p.1 := by
  obtain ⟨blocks, hblocks, hmarks⟩ := h.exists_blocks t
  rw [raiseMarked, hmarks]
  exact raised_flatten_eq_iff hblocks

/-- The third time changes nothing. -/
theorem thrice_eq (t : Text) :
    raiseMarked mark (raiseMarked mark (raiseMarked mark t)) =
      raiseMarked mark (raiseMarked mark t) := by
  obtain ⟨blocks, hblocks, hmarks⟩ := h.exists_blocks t
  rw [h.twice_eq_iff, hmarks]
  exact raisesStably_of_mem_flatten hblocks

theorem iterate_eq (n : Nat) (t : Text) :
    (raiseMarked mark)^[n + 2] t = raiseMarked mark (raiseMarked mark t) := by
  induction n with
  | zero => rfl
  | succ n ih =>
      show (raiseMarked mark)^[(n + 2) + 1] t = _
      rw [Function.iterate_succ_apply', ih, h.thrice_eq]

theorem twice_eq_of_length {t : Text} (ht : (upper (lower t)).length = (lower t).length) :
    raiseMarked mark (raiseMarked mark t) = raiseMarked mark t := by
  rw [h.twice_eq_iff]
  intro p hp _
  exact raisesStably_of_length (length_upperChar_of_length_upper ht p.1 (h.fst_mem hp))

theorem upper_raiseMarked (t : Text) : upper (raiseMarked mark t) = upper (lower t) := by
  rw [raiseMarked, upper_raised, h.map_fst]

theorem upper_twice (t : Text) :
    upper (raiseMarked mark (raiseMarked mark t)) = upper (raiseMarked mark t) := by
  have hplain : ∀ c ∈ raiseMarked mark t, c ∉ oneWayCapitals := by
    intro c hct hc
    have hraised : c ∈ upper (raiseMarked mark t) := mem_upper_of_mem_oneWayCapitals hc hct
    rw [h.upper_raiseMarked] at hraised
    exact not_mem_upper_lower hraised hc
  rw [h.upper_raiseMarked]
  exact (lowersTo_lower _).upper_eq_upper hplain

end Marking

/-! ## The marking of title casing -/

theorem marked_lettered {before vs : Text} {v : Char} (hopens : opensWord before = true)
    (h : isLettered (v :: vs) = true) :
    marked before (v :: vs) = (v, true) :: vs.map (·, false) ∧
      endsInWord ((v :: vs).reverse ++ before) = true := by
  obtain ⟨hv, hvs⟩ := isLettered_cons_iff.mp h
  have hword : ∀ d ∈ vs, isWordChar d = true := fun d hd => isWordChar_of_letter_or_mark (hvs d hd)
  have hend : endsInWord (v :: before) = true := isWordChar_of_letter_or_mark (Or.inl hv)
  constructor
  · rw [marked, hv, hopens, marked_of_endsInWord hend hword]
    rfl
  · rw [List.reverse_cons, List.append_assoc]
    exact endsInWord_reverse_append hend hword

/-- The letters that open words still do when they have been raised and lowered, and no others. -/
theorem marked_flatten {x y t : Text} {blocks : List (List (Char × Bool))} (hxy : Alike x y)
    (h : List.Forall₂ Recast (marked x t) blocks) :
    marked y (blocks.flatten.map Prod.fst) = blocks.flatten := by
  induction t generalizing x y blocks with
  | nil =>
      cases h
      rfl
  | cons c t ih =>
      rw [marked] at h
      cases h with
      | @cons _ block _ blocks hblock hrest =>
          generalize hmark : (isLetter c && opensWord x) = b at hblock
          rw [List.flatten_cons, List.map_append]
          cases hblock with
          | kept =>
              rw [hxy.opens] at hmark
              rw [List.map_singleton, List.singleton_append, marked, hmark,
                ih (hxy.cons c) hrest, List.singleton_append]
          | @relowered _ v vs hrelowered =>
              -- the block ends in a word as its character did, so what follows is marked alike
              rw [Bool.and_eq_true] at hmark
              obtain ⟨hletter, hopens⟩ := hmark
              obtain ⟨hmarked, hends⟩ :=
                marked_lettered (hxy.opens ▸ hopens) (hrelowered.lettered hletter)
              have hend : endsInWord (c :: x) = true :=
                isWordChar_of_letter_or_mark (Or.inl hletter)
              rw [List.map_cons, map_fst_unmarked, marked_append, hmarked,
                ih (Alike.of_endsInWord hend hends) hrest]

theorem marking_marked : Marking (marked []) where
  map_fst := map_fst_marked []
  mark_flatten := marked_flatten (Alike.refl [])

theorem title_eq_raiseMarked : title = raiseMarked (marked []) := funext title_eq_raised

/-! ## The marking of capital casing -/

/-- The characters of a text, with the first one marked. -/
def markedFirst : Text → List (Char × Bool)
  | [] => []
  | c :: cs => (c, true) :: cs.map (·, false)

theorem marking_markedFirst : Marking markedFirst where
  map_fst t := by
    cases t with
    | nil => rfl
    | cons c cs => rw [markedFirst, List.map_cons, map_fst_unmarked]
  mark_flatten := by
    intro t blocks h
    cases t with
    | nil =>
        cases h
        rfl
    | cons c cs =>
        cases h with
        | cons hblock hrest =>
            cases hblock with
            | @relowered _ v vs _ =>
                rw [List.flatten_cons, flatten_unmarked hrest, List.cons_append, ← List.map_append,
                  List.map_cons, map_fst_unmarked, markedFirst]

theorem capital_eq_raiseMarked : capital = raiseMarked markedFirst := by
  funext t
  unfold capital raiseMarked
  cases lower t with
  | nil => rfl
  | cons c cs =>
      rw [markedFirst, raised_cons, raised_unmarked]
      rfl

/-! ## Both -/

/-- The letter `c` stands in the text at a place where it opens a word. -/
def OpensWordIn (t : Text) (c : Char) : Prop :=
  ∃ before after, t = before ++ c :: after ∧ isLetter c = true ∧ opensWord before.reverse = true

theorem opensWordIn_iff {t : Text} {c : Char} : OpensWordIn t c ↔ (c, true) ∈ marked [] t := by
  rw [mem_marked_iff]
  simp only [List.append_nil]
  rfl

/-- Title casing is stable on a text exactly when each letter that opens a word of the lower case
raises stably, and capital casing exactly when the first character of it does. -/
theorem title_and_capital_stable_iff (t : Text) :
    (title (title t) = title t ↔ ∀ c, OpensWordIn (lower t) c → RaisesStably c) ∧
      (capital (capital t) = capital t ↔
        t = [] ∨ ∃ c rest, lower t = c :: rest ∧ RaisesStably c) := by
  constructor
  · rw [title_eq_raiseMarked, marking_marked.twice_eq_iff]
    simp only [opensWordIn_iff]
    constructor
    · intro h c hc
      exact h (c, true) hc rfl
    · rintro h ⟨c, b⟩ hp rfl
      exact h c hp
  · rw [capital_eq_raiseMarked, marking_markedFirst.twice_eq_iff]
    cases hlower : lower t with
    | nil =>
        have ht : t = [] := (apply_eq_nil_iff .lower false t).mp hlower
        exact ⟨fun _ => Or.inl ht, fun _ _ hp => absurd hp List.not_mem_nil⟩
    | cons c rest =>
        have ht : t ≠ [] := by
          rintro rfl
          exact absurd hlower.symm (List.cons_ne_nil c rest)
        constructor
        · intro h
          exact Or.inr ⟨c, rest, rfl, h (c, true) List.mem_cons_self rfl⟩
        · intro h p hp hmarked
          obtain ⟨d, u, heq, hd⟩ := h.resolve_left ht
          obtain ⟨rfl, rfl⟩ := List.cons.inj heq
          rcases List.mem_cons.mp hp with rfl | hp
          · exact hd
          · obtain ⟨e, -, rfl⟩ := List.mem_map.mp hp
            exact absurd hmarked Bool.false_ne_true

/-- Title and capital casing are idempotent on a text no letter of which is raised to more than one.
On any text they change nothing from the third time on, and the second time nothing but case. -/
theorem title_and_capital_settle (t : Text) :
    ((upper (lower t)).length = (lower t).length →
      title (title t) = title t ∧ capital (capital t) = capital t) ∧
    (∀ n, title^[n + 2] t = title (title t) ∧ capital^[n + 2] t = capital (capital t)) ∧
    upper (title (title t)) = upper (title t) ∧
    upper (capital (capital t)) = upper (capital t) := by
  rw [title_eq_raiseMarked, capital_eq_raiseMarked]
  refine ⟨?_, ?_, marking_marked.upper_twice t, marking_markedFirst.upper_twice t⟩
  · intro ht
    exact ⟨marking_marked.twice_eq_of_length ht, marking_markedFirst.twice_eq_of_length ht⟩
  · intro n
    exact ⟨marking_marked.iterate_eq n t, marking_markedFirst.iterate_eq n t⟩

/-- Both are idempotent on a text with a digraph, sigmas and an apostrophe within a word. -/
theorem title_and_capital_settle_digraph :
    (upper (lower "ǅ ΟΔΟΣ l’ÎLE".toList)).length = (lower "ǅ ΟΔΟΣ l’ÎLE".toList).length ∧
      title (title "ǅ ΟΔΟΣ l’ÎLE".toList) = title "ǅ ΟΔΟΣ l’ÎLE".toList ∧
      capital (capital "ǅ ΟΔΟΣ l’ÎLE".toList) = capital "ǅ ΟΔΟΣ l’ÎLE".toList := by
  have hlength : (upper (lower "ǅ ΟΔΟΣ l’ÎLE".toList)).length =
      (lower "ǅ ΟΔΟΣ l’ÎLE".toList).length := by decide +kernel
  exact ⟨hlength, (title_and_capital_settle _).1 hlength⟩

/-- A sharp s is raised to two letters, the second of which is lowered the next time. -/
theorem exists_title_and_capital_not_idempotent :
    title (title ['ß']) ≠ title ['ß'] ∧ capital (capital ['ß']) ≠ capital ['ß'] := by
  decide +kernel

end WikiCasing.Casing
