import WikiCasing.Proofs.Casing.Words

/-!
# Raised characters lowered again

What a character is raised to, the next lowering takes back. The first character of it is lowered
to one that is raised to the same again. What stands behind it may be lowered to something else, and
stays so. `RaisesStably` says that lowering leaves all of that alone, as it does for most letters; a
sharp s is one of those for which it does not.

`Recast` says what becomes of a character of a marked text when the text is raised and lowered: a
marked one becomes a block with its mark in front, any other stays. `exists_blocks` takes a whole
text apart into these blocks.
-/

namespace WikiCasing.Casing

open Unicode

/-! ## What a raised character is lowered to -/

theorem upper_singleton (c : Char) : upper [c] = upperChar c := List.flatMap_singleton upperChar c

theorem lower_singleton (c : Char) : lower [c] = lowerChar c := by
  by_cases h : c = 'Σ'
  · subst h
    decide +kernel
  · show (if c = 'Σ' then [lowerSigma false []] else lowerChar c) ++ [] = lowerChar c
    rw [if_neg h, List.append_nil]

/-- Lowering leaves alone all that a character is raised to, but for the first character of it. -/
def RaisesStably (c : Char) : Prop := ∀ d ∈ (upper [c]).tail, lower [d] = [d]

instance (c : Char) : Decidable (RaisesStably c) :=
  List.decidableBAll (fun d => lower [d] = [d]) (upper [c]).tail

theorem raisesStably_iff {c : Char} : RaisesStably c ↔ ∀ d ∈ (upperChar c).tail, Lowered d := by
  unfold RaisesStably Lowered
  rw [upper_singleton]
  constructor
  · intro h d hd
    rw [← lower_singleton]
    exact h d hd
  · intro h d hd
    rw [lower_singleton]
    exact h d hd

/-- A caron stays when it is lowered, the second letter of two does not. -/
example : RaisesStably 'ǰ' ∧ ¬ RaisesStably 'ß' := by decide +kernel

theorem raisesStably_of_length {c : Char} (h : (upperChar c).length = 1) : RaisesStably c := by
  obtain ⟨u, hu⟩ := List.length_eq_one_iff.mp h
  rw [raisesStably_iff, hu]
  exact fun _ hd => absurd hd List.not_mem_nil

theorem LowerForm.exists_eq {d : Char} {image : Text} (h : LowerForm d image)
    (hraised : upperChar d = [d]) (hd : d ∉ oneWayCapitals) :
    ∃ v, image = [v] ∧ upperChar v = [d] ∧ (v = d ↔ Lowered d) := by
  rcases h with rfl | ⟨rfl, rfl⟩
  · obtain ⟨v, hlower, hupper⟩ := exists_lowerChar_eq hraised hd
    refine ⟨v, hlower, hupper, ?_⟩
    rw [Lowered, hlower, List.singleton_inj]
  · exact ⟨'ς', rfl, by decide +kernel, by decide +kernel⟩

theorem LowersTo.eq_iff {t u : Text} (h : LowersTo t u)
    (ht : ∀ d ∈ t, upperChar d = [d] ∧ d ∉ oneWayCapitals) :
    u.length = t.length ∧ (u = t ↔ ∀ d ∈ t, Lowered d) := by
  induction h with
  | nil => exact ⟨rfl, fun _ _ hd => absurd hd List.not_mem_nil, fun _ => rfl⟩
  | @cons d image t u hd _ ih =>
      obtain ⟨⟨hraised, honeWay⟩, ht⟩ := List.forall_mem_cons.mp ht
      obtain ⟨hlength, hiff⟩ := ih ht
      obtain ⟨v, rfl, -, hv⟩ := hd.exists_eq hraised honeWay
      constructor
      · rw [List.singleton_append, List.length_cons, List.length_cons, hlength]
      · rw [List.singleton_append, List.cons.injEq, List.forall_mem_cons, hv, hiff]

/-! ### Letters stay letters -/

theorem LowerForm.lettered {c : Char} {image : Text} (h : LowerForm c image)
    (hc : isLetter c = true) : isLettered image = true := by
  rcases h with rfl | ⟨rfl, rfl⟩
  · exact keepsLetters_lower.isLettered_mapChar hc
  · decide +kernel

theorem LowerForm.of_mem {c d : Char} {image : Text} (h : LowerForm c image)
    (hc : isLetter c = true ∨ isMark c = true) (hd : d ∈ image) :
    isLetter d = true ∨ isMark d = true := by
  rcases h with rfl | ⟨rfl, rfl⟩
  · exact keepsLetters_lower.of_mem_mapChar hc hd
  · rw [List.mem_singleton.mp hd]
    exact Or.inl (by decide +kernel)

theorem LowersTo.of_mem {t u : Text} {d : Char} (h : LowersTo t u)
    (ht : ∀ c ∈ t, isLetter c = true ∨ isMark c = true) (hd : d ∈ u) :
    isLetter d = true ∨ isMark d = true := by
  induction h with
  | nil => exact absurd hd List.not_mem_nil
  | cons hc _ ih =>
      obtain ⟨hhead, htail⟩ := List.forall_mem_cons.mp ht
      rcases List.mem_append.mp hd with hd | hd
      · exact hc.of_mem hhead hd
      · exact ih htail hd

theorem LowersTo.lettered {t u : Text} (h : LowersTo t u) (ht : isLettered t = true) :
    isLettered u = true := by
  cases h with
  | nil => exact ht
  | @cons c image t u hc hrest =>
      obtain ⟨hletter, ht⟩ := isLettered_cons_iff.mp ht
      have himage := hc.lettered hletter
      cases image with
      | nil => exact absurd himage Bool.false_ne_true
      | cons v vs =>
          obtain ⟨hv, hvs⟩ := isLettered_cons_iff.mp himage
          refine isLettered_cons_iff.mpr ⟨hv, ?_⟩
          intro d hd
          rcases List.mem_append.mp hd with hd | hd
          · exact hvs d hd
          · exact hrest.of_mem ht hd

/-! ## Blocks -/

/-- The upper case of `c` is lowered to `v` and `vs`. -/
structure Relowered (c v : Char) (vs : Text) : Prop where
  length_upperChar : (upperChar v).length = 1
  upperChar_eq : upperChar c = upperChar v ++ (upperChar c).tail
  length_eq : vs.length = (upperChar c).tail.length
  eq_tail_iff : vs = (upperChar c).tail ↔ RaisesStably c
  lettered : isLetter c = true → isLettered (v :: vs) = true

theorem exists_relowered {c : Char} {w : Text} (hc : Lowered c) (h : LowersTo (upperChar c) w) :
    ∃ v vs, w = v :: vs ∧ Relowered c v vs := by
  have hkept : ∀ d ∈ upperChar c, upperChar d = [d] ∧ d ∉ oneWayCapitals := fun d hd =>
    ⟨closed_upper.mapChar_of_mem hd, not_mem_of_mem_upperChar hc.not_mem_oneWayCapitals hd⟩
  have hlettered : isLetter c = true → isLettered w = true := fun hletter =>
    h.lettered (keepsLetters_upper.isLettered_mapChar hletter)
  obtain ⟨u, us, hupper⟩ := List.exists_cons_of_ne_nil (upperChar_faithful c).ne_nil
  rw [hupper] at h hkept
  obtain ⟨⟨hraised, honeWay⟩, hus⟩ := List.forall_mem_cons.mp hkept
  cases h with
  | @cons _ image _ vs hu hrest =>
      obtain ⟨v, rfl, hv, -⟩ := hu.exists_eq hraised honeWay
      obtain ⟨hlength, hiff⟩ := hrest.eq_iff hus
      refine ⟨v, vs, rfl, ?_⟩
      exact
        { length_upperChar := by rw [hv, List.length_singleton]
          upperChar_eq := by rw [hupper, hv, List.tail_cons, List.singleton_append]
          length_eq := by rw [hupper, List.tail_cons, hlength]
          eq_tail_iff := by rw [raisesStably_iff, hupper, List.tail_cons, hiff]
          lettered := hlettered }

/-- What a character that is marked or not has become when the text has been raised and lowered,
and what is marked of it then. -/
inductive Recast : Char × Bool → List (Char × Bool) → Prop
  | kept (c : Char) : Recast (c, false) [(c, false)]
  | relowered {c v : Char} {vs : Text} :
      Relowered c v vs → Recast (c, true) ((v, true) :: vs.map (·, false))

theorem map_fst_unmarked (t : Text) : (t.map (·, false)).map Prod.fst = t := by
  rw [List.map_map]
  exact List.map_id t

theorem LowersTo.eq_of_lowered {c : Char} {w : Text} (hc : Lowered c) (h : LowersTo [c] w) :
    w = [c] := by
  cases h with
  | cons hform hrest =>
      cases hrest
      rw [List.append_nil]
      rcases hform with rfl | ⟨hsigma, -⟩
      · exact hc
      · exact absurd hsigma hc.ne_sigma

theorem exists_block {p : Char × Bool} {w : Text} (hp : Lowered p.1) (h : LowersTo (raised [p]) w) :
    ∃ block, Recast p block ∧ block.map Prod.fst = w := by
  obtain ⟨c, b⟩ := p
  rw [raised_cons, raised, List.flatMap_nil, List.append_nil] at h
  cases b with
  | false => exact ⟨_, .kept c, (h.eq_of_lowered hp).symm⟩
  | true =>
      obtain ⟨v, vs, rfl, hrelowered⟩ := exists_relowered hp h
      refine ⟨_, .relowered hrelowered, ?_⟩
      rw [List.map_cons, map_fst_unmarked]

theorem raised_cons_eq (p : Char × Bool) (marks : List (Char × Bool)) :
    raised (p :: marks) = raised [p] ++ raised marks := raised_append [p] marks

/-- A marked text that is raised and lowered becomes one block after another. -/
theorem exists_blocks {marks : List (Char × Bool)} {u : Text} (hmarks : ∀ p ∈ marks, Lowered p.1)
    (h : LowersTo (raised marks) u) :
    ∃ blocks, List.Forall₂ Recast marks blocks ∧ blocks.flatten.map Prod.fst = u := by
  induction marks generalizing u with
  | nil =>
      cases h
      exact ⟨[], .nil, rfl⟩
  | cons p marks ih =>
      obtain ⟨hp, hmarks⟩ := List.forall_mem_cons.mp hmarks
      rw [raised_cons_eq] at h
      obtain ⟨w, u, rfl, hw, hu⟩ := h.exists_append
      obtain ⟨block, hblock, rfl⟩ := exists_block hp hw
      obtain ⟨blocks, hblocks, rfl⟩ := ih hmarks hu
      refine ⟨block :: blocks, .cons hblock hblocks, ?_⟩
      rw [List.flatten_cons, List.map_append]

namespace Recast

variable {p : Char × Bool} {block : List (Char × Bool)}

theorem length_raised (h : Recast p block) : (raised block).length = (raised [p]).length := by
  cases h with
  | kept c => rfl
  | @relowered c v vs h =>
      rw [raised_cons, raised_unmarked, raised_cons, if_pos rfl, if_pos rfl, h.upperChar_eq]
      simp only [List.length_append, h.length_eq]
      rfl

/-- A block is raised to what its character has been raised to, if that is stable. -/
theorem raised_eq_iff (h : Recast p block) :
    raised block = raised [p] ↔ (p.2 = true → RaisesStably p.1) := by
  cases h with
  | kept c => exact ⟨fun _ hc => absurd hc Bool.false_ne_true, fun _ => rfl⟩
  | @relowered c v vs h =>
      have hraised : raised [(c, true)] = upperChar v ++ (upperChar c).tail :=
        (List.append_nil (upperChar c)).trans h.upperChar_eq
      rw [raised_cons, raised_unmarked, if_pos rfl, hraised, List.append_cancel_left_eq,
        h.eq_tail_iff]
      exact ⟨fun hc _ => hc, fun hc => hc rfl⟩

theorem raisesStably (h : Recast p block) : ∀ q ∈ block, q.2 = true → RaisesStably q.1 := by
  intro q hq hmarked
  cases h with
  | kept c =>
      rw [List.mem_singleton.mp hq] at hmarked
      exact absurd hmarked Bool.false_ne_true
  | relowered h =>
      rcases List.mem_cons.mp hq with rfl | hq
      · exact raisesStably_of_length h.length_upperChar
      · obtain ⟨d, -, rfl⟩ := List.mem_map.mp hq
        exact absurd hmarked Bool.false_ne_true

end Recast

section Blocks

variable {marks : List (Char × Bool)} {blocks : List (List (Char × Bool))}

theorem raised_flatten_eq_iff (h : List.Forall₂ Recast marks blocks) :
    raised blocks.flatten = raised marks ↔ ∀ p ∈ marks, p.2 = true → RaisesStably p.1 := by
  induction h with
  | nil => exact ⟨fun _ _ hp => absurd hp List.not_mem_nil, fun _ => rfl⟩
  | @cons p block marks blocks hblock _ ih =>
      rw [List.flatten_cons, raised_append, raised_cons_eq, List.forall_mem_cons,
        ← hblock.raised_eq_iff, ← ih]
      constructor
      · intro h
        exact List.append_inj h hblock.length_raised
      · rintro ⟨hhead, htail⟩
        rw [hhead, htail]

theorem raisesStably_of_mem_flatten (h : List.Forall₂ Recast marks blocks) :
    ∀ q ∈ blocks.flatten, q.2 = true → RaisesStably q.1 := by
  induction h with
  | nil => exact fun _ hq => absurd hq List.not_mem_nil
  | cons hblock _ ih =>
      rw [List.flatten_cons]
      intro q hq
      rcases List.mem_append.mp hq with hq | hq
      · exact hblock.raisesStably q hq
      · exact ih q hq

theorem flatten_unmarked {t : Text} (h : List.Forall₂ Recast (t.map (·, false)) blocks) :
    blocks.flatten = t.map (·, false) := by
  induction t generalizing blocks with
  | nil =>
      cases h
      rfl
  | cons c t ih =>
      cases h with
      | cons hblock hrest =>
          cases hblock
          rw [List.flatten_cons, ih hrest, List.map_cons, List.singleton_append]

end Blocks

end WikiCasing.Casing
