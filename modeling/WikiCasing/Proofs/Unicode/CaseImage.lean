import WikiCasing.Unicode.CaseMap

/-!
# What a case mapping can yield

A look-up in the tables answers from one entry of the table, so a property of the image of a
character follows from a check of the entries: `mapChar_induction` says this once, for any
property of images.
-/

namespace WikiCasing.Unicode

/-- The run moves this code point. -/
def CaseRun.moves (r : CaseRun) (n : Nat) : Bool :=
  r.first ≤ n && n ≤ r.last && (n - r.first) % r.step = 0

/-- Where the run moves a code point. -/
def CaseRun.imageOf (r : CaseRun) (n : Nat) : Nat := r.image + (n - r.first)

theorem CaseRun.exists_of_find? {n m : Nat} {rs : List CaseRun} (h : CaseRun.find? n rs = some m) :
    ∃ r ∈ rs, r.moves n = true ∧ m = r.imageOf n := by
  induction rs with
  | nil => simp [find?] at h
  | cons r rs ih =>
      simp only [find?] at h
      split at h
      · exact absurd h (by simp)
      · rename_i hfirst
        split at h
        · rename_i hlast
          split at h
          · rename_i hstep
            have hm : r.image + (n - r.first) = m := Option.some.inj h
            refine ⟨r, List.mem_cons_self, ?_, hm.symm⟩
            simp [moves, Nat.le_of_not_lt hfirst, hlast, hstep]
          · exact absurd h (by simp)
        · obtain ⟨r', hr, hrest⟩ := ih h
          exact ⟨r', List.mem_cons_of_mem _ hr, hrest⟩

theorem CaseRun.moves_iff {r : CaseRun} {n : Nat} :
    r.moves n = true ↔ (r.first ≤ n ∧ n ≤ r.last) ∧ (n - r.first) % r.step = 0 := by
  simp [moves]

theorem mem_of_expansion? {n : Nat} {image : List Nat} {es : List (Nat × List Nat)}
    (h : expansion? n es = some image) : (n, image) ∈ es := by
  induction es with
  | nil => simp [expansion?] at h
  | cons e es ih =>
      obtain ⟨m, im⟩ := e
      simp only [expansion?] at h
      split at h
      · exact absurd h (by simp)
      · split at h
        · rename_i hnm
          have him : im = image := Option.some.inj h
          subst hnm him
          exact List.mem_cons_self
        · exact List.mem_cons_of_mem _ (ih h)

/-- A property of the image of a character holds if it holds of the character itself where the
mapping leaves it alone, of every expansion of it, and of every image of it under a run. -/
theorem mapChar_induction {es : List (Nat × List Nat)} {rs : List CaseRun} {c : Char}
    {P : Text → Prop} (stays : mapChar es rs c = [c] → P [c])
    (expands : ∀ image, (c.toNat, image) ∈ es → P (image.map Char.ofNat))
    (moves : ∀ r ∈ rs, r.moves c.toNat = true → P [Char.ofNat (r.imageOf c.toNat)]) :
    P (mapChar es rs c) := by
  cases hexpansion : expansion? c.toNat es with
  | some image =>
      have hmap : mapChar es rs c = image.map Char.ofNat := by rw [mapChar, hexpansion]
      rw [hmap]
      exact expands image (mem_of_expansion? hexpansion)
  | none =>
      cases hfind : CaseRun.find? c.toNat rs with
      | some m =>
          have hmap : mapChar es rs c = [Char.ofNat m] := by rw [mapChar, hexpansion, hfind]
          obtain ⟨r, hr, hmoves, rfl⟩ := CaseRun.exists_of_find? hfind
          rw [hmap]
          exact moves r hr hmoves
      | none =>
          have hmap : mapChar es rs c = [c] := by rw [mapChar, hexpansion, hfind]
          rw [hmap]
          exact stays hmap

theorem toNat_ofNat_eq_or (n : Nat) : (Char.ofNat n).toNat = n ∨ (Char.ofNat n).toNat = 0 := by
  by_cases h : n.isValidChar
  · rw [Char.ofNat, dif_pos h]
    exact Or.inl rfl
  · rw [Char.ofNat, dif_neg h]
    exact Or.inr rfl

end WikiCasing.Unicode
