import WikiCasing.Proofs.Unicode.CaseImage
import WikiCasing.Unicode.Category

/-!
# Case mappings done twice

No run of a case mapping moves what its tables yield: the images of a run lie beside every run, or
fill the gaps of one that moves every second code point. So the characters of an image are mapped
to themselves (`Closed.mapChar_of_mem`), and the mapping done twice is the mapping done once
(`Closed.flatMap_flatMap`).

Both mappings keep to the characters that words are made of (`KeepsLetters`): a letter is mapped to
a letter with letters and marks behind it. The runs that do not yield letters are those of numbers
and circled signs.

The tables are long, so the checks walk each of them once for a whole run, and stop where the
look-up itself would stop.
-/

namespace WikiCasing.Unicode

/-! ## Runs -/

namespace CaseRun

variable {r q : CaseRun} {n : Nat}

/-- The last code point that a run yields. -/
def imageEnd (r : CaseRun) : Nat := r.image + (r.last - r.first)

/-- A run yields characters, no surrogates. -/
def yieldsScalars (r : CaseRun) : Bool :=
  Nat.blt r.imageEnd 0xD800 || Nat.blt 0xDFFF r.image && Nat.blt r.imageEnd 0x110000

/-- A run of every second code point is passed over by images of the other parity. -/
def fillsGapsOf (r q : CaseRun) : Bool :=
  Nat.beq q.step 2 && (Nat.beq r.step 2 || Nat.beq r.first r.last) &&
    Nat.beq ((r.image + q.first) % 2) 1

/-- No run of an ascending list moves what this one yields. -/
def avoids (r : CaseRun) : List CaseRun → Bool
  | [] => true
  | q :: qs =>
    bif Nat.blt q.last r.image then r.avoids qs
    else Nat.blt r.imageEnd q.first || r.fillsGapsOf q && r.avoids qs

/-- No expansion of an ascending list is one of what this run yields. -/
def avoidsKeys (r : CaseRun) : List (Nat × List Nat) → Bool
  | [] => true
  | e :: es => bif Nat.blt e.1 r.image then r.avoidsKeys es else Nat.blt r.imageEnd e.1

theorem image_le_imageOf : r.image ≤ r.imageOf n := Nat.le_add_right _ _

theorem imageOf_le_imageEnd (hn : r.moves n = true) : r.imageOf n ≤ r.imageEnd := by
  obtain ⟨⟨-, hlast⟩, -⟩ := moves_iff.mp hn
  exact Nat.add_le_add_left (Nat.sub_le_sub_right hlast _) _

theorem toNat_ofNat_imageOf (h : r.yieldsScalars = true) (hn : r.moves n = true) :
    (Char.ofNat (r.imageOf n)).toNat = r.imageOf n := by
  have hvalid : (r.imageOf n).isValidChar := by
    have hlo : r.image ≤ r.imageOf n := image_le_imageOf
    have hhi := imageOf_le_imageEnd hn
    simp only [yieldsScalars, Bool.or_eq_true, Bool.and_eq_true, Nat.blt_eq] at h
    rcases h with h | ⟨hbegin, hend⟩
    · exact Or.inl (by omega)
    · exact Or.inr ⟨by omega, by omega⟩
  rw [Char.ofNat, dif_pos hvalid]
  rfl

theorem not_step_of_fillsGapsOf (h : r.fillsGapsOf q = true) (hn : r.moves n = true)
    (hfirst : q.first ≤ r.imageOf n) : (r.imageOf n - q.first) % q.step ≠ 0 := by
  simp only [fillsGapsOf, Bool.and_eq_true, Bool.or_eq_true, Nat.beq_eq] at h
  obtain ⟨⟨hstep, hsame⟩, hparity⟩ := h
  obtain ⟨⟨hlo, hhi⟩, hmod⟩ := moves_iff.mp hn
  have heven : (n - r.first) % 2 = 0 := by
    rcases hsame with hsame | hsame
    · rwa [hsame] at hmod
    · omega
  rw [hstep]
  unfold imageOf at hfirst ⊢
  omega

theorem find?_imageOf_eq_none {rs : List CaseRun} (h : r.avoids rs = true)
    (hn : r.moves n = true) : find? (r.imageOf n) rs = none := by
  have hlo : r.image ≤ r.imageOf n := image_le_imageOf
  have hhi := imageOf_le_imageEnd hn
  induction rs with
  | nil => rfl
  | cons q qs ih =>
      rw [avoids] at h
      rw [find?]
      cases hbefore : Nat.blt q.last r.image with
      | true =>
          have hlast : q.last < r.image := Nat.blt_eq.mp hbefore
          rw [hbefore] at h
          split
          · rfl
          · rw [if_neg (by omega)]
            exact ih h
      | false =>
          rw [hbefore, cond_false, Bool.or_eq_true, Bool.and_eq_true, Nat.blt_eq] at h
          by_cases hfirst : r.imageOf n < q.first
          · rw [if_pos hfirst]
          · obtain ⟨hgaps, hrest⟩ := h.resolve_left (by omega)
            rw [if_neg hfirst, if_neg (not_step_of_fillsGapsOf hgaps hn (Nat.le_of_not_lt hfirst)),
              ih hrest, ite_self]

theorem expansion?_imageOf_eq_none {es : List (Nat × List Nat)} (h : r.avoidsKeys es = true)
    (hn : r.moves n = true) : expansion? (r.imageOf n) es = none := by
  have hlo : r.image ≤ r.imageOf n := image_le_imageOf
  have hhi := imageOf_le_imageEnd hn
  induction es with
  | nil => rfl
  | cons e es ih =>
      obtain ⟨key, image⟩ := e
      rw [avoidsKeys] at h
      rw [expansion?]
      cases hbefore : Nat.blt key r.image with
      | true =>
          have hkey : key < r.image := Nat.blt_eq.mp hbefore
          rw [hbefore] at h
          rw [if_neg (by omega), if_neg (by omega)]
          exact ih h
      | false =>
          rw [hbefore, cond_false, Nat.blt_eq] at h
          rw [if_pos (Nat.lt_of_le_of_lt hhi h)]

end CaseRun

/-! ## Mappings -/

theorem flatMap_of_stays {image : Char → Text} {t : Text} (h : ∀ c ∈ t, image c = [c]) :
    t.flatMap image = t := by
  induction t with
  | nil => rfl
  | cons c t ih =>
      have ht : ∀ d ∈ t, image d = [d] := fun d hd => h d (List.mem_cons_of_mem c hd)
      rw [List.flatMap_cons, h c List.mem_cons_self, ih ht, List.singleton_append]

/-- What the tables of a mapping yield is left alone by the mapping. -/
structure Closed (es : List (Nat × List Nat)) (rs : List CaseRun) : Prop where
  scalar : rs.all CaseRun.yieldsScalars = true
  unmoved : rs.all (·.avoids rs) = true
  unexpanded : rs.all (·.avoidsKeys es) = true
  expansions : ∀ e ∈ es, ∀ n ∈ e.2, mapChar es rs (Char.ofNat n) = [Char.ofNat n]

namespace Closed

variable {es : List (Nat × List Nat)} {rs : List CaseRun} (h : Closed es rs)
include h

theorem mapChar_of_mem {c d : Char} (hd : d ∈ mapChar es rs c) : mapChar es rs d = [d] := by
  revert hd
  apply mapChar_induction (P := fun image => d ∈ image → mapChar es rs d = [d])
  · intro hstays hd
    rwa [List.mem_singleton.mp hd]
  · intro image himage hd
    obtain ⟨n, hn, rfl⟩ := List.mem_map.mp hd
    exact h.expansions _ himage n hn
  · intro r hr hmoves hd
    have hscalar := List.all_eq_true.mp h.scalar r hr
    have hunmoved := List.all_eq_true.mp h.unmoved r hr
    have hunexpanded := List.all_eq_true.mp h.unexpanded r hr
    rw [List.mem_singleton.mp hd, mapChar, CaseRun.toNat_ofNat_imageOf hscalar hmoves,
      CaseRun.expansion?_imageOf_eq_none hunexpanded hmoves,
      CaseRun.find?_imageOf_eq_none hunmoved hmoves]

/-- A text mapped once is left alone by the mapping. -/
theorem flatMap_flatMap (t : Text) :
    (t.flatMap (mapChar es rs)).flatMap (mapChar es rs) = t.flatMap (mapChar es rs) := by
  apply flatMap_of_stays
  intro d hd
  obtain ⟨c, -, hdc⟩ := List.mem_flatMap.mp hd
  exact h.mapChar_of_mem hdc

end Closed

theorem closed_lower : Closed lowerExpansions lowerRuns where
  scalar := by decide +kernel
  unmoved := by decide +kernel
  unexpanded := by decide +kernel
  expansions := by decide +kernel

theorem closed_upper : Closed upperExpansions upperRuns where
  scalar := by decide +kernel
  unmoved := by decide +kernel
  unexpanded := by decide +kernel
  expansions := by decide +kernel

/-! ## Letters and marks -/

/-- What `follow` answers for every code point of a range; `none` if a change is within it. -/
def CodeSet.followRange (lo hi : Nat) : List Nat → Bool → Option Bool
  | [], inside => some inside
  | b :: bs, inside =>
    bif Nat.ble b lo then followRange lo hi bs (!inside)
    else bif Nat.blt hi b then some inside else none

theorem CodeSet.follow_of_followRange {lo hi n : Nat} {bs : List Nat} {inside answer : Bool}
    (h : followRange lo hi bs inside = some answer) (hlo : lo ≤ n) (hhi : n ≤ hi) :
    follow n bs inside = answer := by
  induction bs generalizing inside with
  | nil => exact Option.some.inj h
  | cons b bs ih =>
      rw [followRange] at h
      rw [follow]
      cases hbefore : Nat.ble b lo with
      | true =>
          have hb : b ≤ lo := Nat.ble_eq.mp hbefore
          rw [hbefore] at h
          rw [if_neg (by omega)]
          exact ih h
      | false =>
          cases hbehind : Nat.blt hi b with
          | true =>
              have hb : hi < b := Nat.blt_eq.mp hbehind
              rw [hbefore, hbehind] at h
              rw [if_pos (by omega)]
              exact Option.some.inj h
          | false =>
              rw [hbefore, hbehind] at h
              exact absurd h (by simp)

namespace CaseRun

/-- The code points that a run moves, one by one. -/
def points (r : CaseRun) : List Nat :=
  ((List.range (r.last - r.first + 1)).map (r.first + ·)).filter r.moves

theorem mem_points_iff {r : CaseRun} {n : Nat} : n ∈ r.points ↔ r.moves n = true := by
  rw [points, List.mem_filter, List.mem_map]
  constructor
  · intro h
    exact h.2
  · intro h
    obtain ⟨⟨hfirst, hlast⟩, -⟩ := moves_iff.mp h
    refine ⟨⟨n - r.first, List.mem_range.mpr (by omega), by omega⟩, h⟩

/-- A run that yields letters. The gaps of one that moves every second code point may hold something
else. -/
def yieldsLetters (r : CaseRun) : Bool :=
  CodeSet.followRange r.image r.imageEnd letters.changes false == some true ||
    r.points.all fun n => isLetter (Char.ofNat (r.imageOf n))

/-- A run that yields letters, or moves neither letters nor marks. -/
def keepsLetters (r : CaseRun) : Bool :=
  r.yieldsLetters ||
    CodeSet.followRange r.first r.last letters.changes false == some false &&
      CodeSet.followRange r.first r.last marks.changes false == some false

variable {r : CaseRun} {c : Char}

theorem isLetter_of_yieldsLetters (hscalar : r.yieldsScalars = true) (h : r.yieldsLetters = true)
    (hmoves : r.moves c.toNat = true) : isLetter (Char.ofNat (r.imageOf c.toNat)) = true := by
  rw [yieldsLetters, Bool.or_eq_true, beq_iff_eq] at h
  rcases h with hrange | hpoints
  · have hanswer := CodeSet.follow_of_followRange hrange image_le_imageOf
      (imageOf_le_imageEnd hmoves)
    rw [← toNat_ofNat_imageOf hscalar hmoves] at hanswer
    exact hanswer
  · exact List.all_eq_true.mp hpoints c.toNat (mem_points_iff.mpr hmoves)

theorem isLetter_imageOf (hscalar : r.yieldsScalars = true) (h : r.keepsLetters = true)
    (hmoves : r.moves c.toNat = true) (hc : isLetter c = true ∨ isMark c = true) :
    isLetter (Char.ofNat (r.imageOf c.toNat)) = true := by
  simp only [keepsLetters, Bool.or_eq_true, Bool.and_eq_true, beq_iff_eq] at h
  rcases h with h | ⟨hletters, hmarks⟩
  · exact isLetter_of_yieldsLetters hscalar h hmoves
  · obtain ⟨⟨hfirst, hlast⟩, -⟩ := moves_iff.mp hmoves
    have hletter : isLetter c = false := CodeSet.follow_of_followRange hletters hfirst hlast
    have hmark : isMark c = false := CodeSet.follow_of_followRange hmarks hfirst hlast
    rw [hletter, hmark] at hc
    exact absurd hc (by simp)

end CaseRun

/-- A letter with letters and marks behind it. -/
def isLettered : Text → Bool
  | [] => false
  | c :: cs => isLetter c && cs.all fun d => isLetter d || isMark d

theorem isLettered_cons_iff {c : Char} {cs : Text} :
    isLettered (c :: cs) = true ↔
      isLetter c = true ∧ ∀ d ∈ cs, isLetter d = true ∨ isMark d = true := by
  simp only [isLettered, Bool.and_eq_true, List.all_eq_true, Bool.or_eq_true]

theorem isLettered_singleton {c : Char} (h : isLetter c = true) : isLettered [c] = true :=
  isLettered_cons_iff.mpr ⟨h, fun _ hd => absurd hd List.not_mem_nil⟩

theorem of_mem_isLettered {t : Text} {d : Char} (h : isLettered t = true) (hd : d ∈ t) :
    isLetter d = true ∨ isMark d = true := by
  cases t with
  | nil => exact absurd hd List.not_mem_nil
  | cons c cs =>
      obtain ⟨hc, hcs⟩ := isLettered_cons_iff.mp h
      rcases List.mem_cons.mp hd with rfl | hd
      · exact Or.inl hc
      · exact hcs d hd

/-- The tables of a mapping keep letters and marks among themselves. -/
structure KeepsLetters (es : List (Nat × List Nat)) (rs : List CaseRun) : Prop where
  scalar : rs.all CaseRun.yieldsScalars = true
  runs : rs.all CaseRun.keepsLetters = true
  expansions : (es.all fun e => isLettered (e.2.map Char.ofNat)) = true

namespace KeepsLetters

variable {es : List (Nat × List Nat)} {rs : List CaseRun} {c : Char} (h : KeepsLetters es rs)
include h

theorem isLettered_mapChar (hc : isLetter c = true) : isLettered (mapChar es rs c) = true := by
  apply mapChar_induction (P := fun image => isLettered image = true)
  · intro _
    exact isLettered_singleton hc
  · intro image himage
    exact List.all_eq_true.mp h.expansions _ himage
  · intro r hr hmoves
    have hscalar := List.all_eq_true.mp h.scalar r hr
    have hkeeps := List.all_eq_true.mp h.runs r hr
    exact isLettered_singleton (CaseRun.isLetter_imageOf hscalar hkeeps hmoves (Or.inl hc))

theorem of_mem_mapChar {d : Char} (hc : isLetter c = true ∨ isMark c = true)
    (hd : d ∈ mapChar es rs c) : isLetter d = true ∨ isMark d = true := by
  revert hd
  apply mapChar_induction (P := fun image => d ∈ image → isLetter d = true ∨ isMark d = true)
  · intro _ hd
    rwa [List.mem_singleton.mp hd]
  · intro image himage hd
    exact of_mem_isLettered (List.all_eq_true.mp h.expansions _ himage) hd
  · intro r hr hmoves hd
    have hscalar := List.all_eq_true.mp h.scalar r hr
    have hkeeps := List.all_eq_true.mp h.runs r hr
    rw [List.mem_singleton.mp hd]
    exact Or.inl (CaseRun.isLetter_imageOf hscalar hkeeps hmoves hc)

end KeepsLetters

theorem keepsLetters_lower : KeepsLetters lowerExpansions lowerRuns where
  scalar := closed_lower.scalar
  runs := by decide +kernel
  expansions := by decide +kernel

theorem keepsLetters_upper : KeepsLetters upperExpansions upperRuns where
  scalar := closed_upper.scalar
  runs := by decide +kernel
  expansions := by decide +kernel

end WikiCasing.Unicode
