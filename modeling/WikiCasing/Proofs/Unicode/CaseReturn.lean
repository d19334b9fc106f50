import WikiCasing.Proofs.Casing.Skeleton
import WikiCasing.Proofs.Unicode.CaseClosure

/-!
# Raising what was lowered

To raise a character, it makes no difference whether it has been lowered before
(`flatMap_upperChar_lowerChar`), but for six capitals: their lower case is raised to another
letter, or to two (`oneWayCapitals`). No other character is raised to one of the six
(`not_mem_of_mem_upperChar`), so a raised character that is none of them is lowered to one
character, and comes back from there (`exists_lowerChar_eq`).

Of most runs of the lower case, what they move is left alone by the upper case, and one run of the
upper case moves all of it back (`returns`). The runs of titlecase letters, of Greek capitals with
an iota below, and of the six go through expansions or lie across several runs; these are followed
one code point after another.
-/

namespace WikiCasing.Unicode

/-- The capitals that do not come back when they are lowered and raised: a capital I with a dot, a
capital theta symbol, a capital sharp s, and the signs for ohm, kelvin and angstrom. -/
def oneWayCapitals : List Char := ['\u0130', '\u03F4', '\u1E9E', '\u2126', '\u212A', '\u212B']

/-! ## Runs that another run takes back -/

namespace CaseRun

variable {r q : CaseRun} {n : Nat}

/-- What a run moves, left in its place. -/
def staying (r : CaseRun) : CaseRun := { r with image := r.first }

theorem imageOf_staying (hn : r.moves n = true) : r.staying.imageOf n = n := by
  obtain ⟨⟨hfirst, -⟩, -⟩ := moves_iff.mp hn
  exact Nat.add_sub_cancel' hfirst

/-- The run `q` moves all that `r` yields back to where `r` took it from. -/
def undoes (q r : CaseRun) : Bool :=
  Nat.ble q.first r.image && Nat.ble r.imageEnd q.last &&
    (Nat.beq q.step 1 ||
      Nat.beq q.step 2 && (Nat.beq r.step 2 || Nat.beq r.first r.last) &&
        Nat.beq ((r.image - q.first) % 2) 0) &&
    Nat.beq (q.image + r.image) (q.first + r.first)

/-- The first run of an ascending list that reaches what this one yields takes it back. -/
def comesBack (r : CaseRun) : List CaseRun → Bool
  | [] => false
  | q :: qs =>
    bif Nat.blt q.last r.image then Nat.ble q.first r.image && r.comesBack qs else q.undoes r

theorem moves_imageOf_of_undoes (h : q.undoes r = true) (hn : r.moves n = true) :
    q.moves (r.imageOf n) = true ∧ q.imageOf (r.imageOf n) = n := by
  have hlo : r.image ≤ r.imageOf n := image_le_imageOf
  have hhi := imageOf_le_imageEnd hn
  simp only [undoes, Bool.and_eq_true, Bool.or_eq_true, Nat.ble_eq, Nat.beq_eq] at h
  obtain ⟨⟨⟨hfirst, hlast⟩, hstep⟩, hback⟩ := h
  obtain ⟨⟨hrfirst, hrlast⟩, hmod⟩ := moves_iff.mp hn
  have hin : (r.imageOf n - q.first) % q.step = 0 := by
    rcases hstep with hone | ⟨⟨htwo, hsame⟩, heven⟩
    · rw [hone]
      exact Nat.mod_one _
    · have hnmod : (n - r.first) % 2 = 0 := by
        rcases hsame with hsame | hsame
        · rwa [hsame] at hmod
        · omega
      rw [htwo]
      unfold imageOf
      omega
  constructor
  · exact moves_iff.mpr ⟨⟨by omega, by omega⟩, hin⟩
  · unfold imageOf at hlo ⊢
    omega

theorem find?_imageOf_eq_self {rs : List CaseRun} (h : r.comesBack rs = true)
    (hn : r.moves n = true) : find? (r.imageOf n) rs = some n := by
  have hlo : r.image ≤ r.imageOf n := image_le_imageOf
  induction rs with
  | nil => exact absurd h Bool.false_ne_true
  | cons q qs ih =>
      rw [comesBack] at h
      rw [find?]
      cases hbefore : Nat.blt q.last r.image with
      | true =>
          have hlast : q.last < r.image := Nat.blt_eq.mp hbefore
          rw [hbefore, cond_true, Bool.and_eq_true, Nat.ble_eq] at h
          obtain ⟨hfirst, hrest⟩ := h
          rw [if_neg (by omega), if_neg (by omega)]
          exact ih hrest
      | false =>
          rw [hbefore, cond_false] at h
          obtain ⟨hmoves, hback⟩ := moves_imageOf_of_undoes h hn
          obtain ⟨⟨hfirst, hlast⟩, hstep⟩ := moves_iff.mp hmoves
          rw [if_neg (by omega), if_pos hlast, if_pos hstep]
          exact congrArg some hback

/-- The upper case leaves alone what this run of the lower case moves, and moves what it yields
back. -/
def returns (r : CaseRun) : Bool :=
  r.staying.avoids upperRuns && r.staying.avoidsKeys upperExpansions &&
    r.avoidsKeys upperExpansions && r.comesBack upperRuns

/-- What this run moves is raised as what it yields, code point by code point, or is one of the
capitals that do not come back. -/
def returnsPointwise (r : CaseRun) : Bool :=
  r.points.all fun n =>
    decide (Char.ofNat n ∈ oneWayCapitals) ||
      decide (upperChar (Char.ofNat (r.imageOf n)) = upperChar (Char.ofNat n))

theorem upperChar_imageOf_of_returns {c : Char} (hscalar : r.yieldsScalars = true)
    (h : r.returns = true) (hc : r.moves c.toNat = true) :
    upperChar (Char.ofNat (r.imageOf c.toNat)) = [c] ∧ upperChar c = [c] := by
  simp only [returns, Bool.and_eq_true] at h
  obtain ⟨⟨⟨hunmoved, hunexpanded⟩, himage⟩, hback⟩ := h
  have hstays : r.staying.moves c.toNat = true := hc
  constructor
  · rw [upperChar, mapChar, toNat_ofNat_imageOf hscalar hc, expansion?_imageOf_eq_none himage hc,
      find?_imageOf_eq_self hback hc]
    exact congrArg ([·]) (Char.ofNat_toNat c)
  · have hfind := find?_imageOf_eq_none hunmoved hstays
    have hexpansion := expansion?_imageOf_eq_none hunexpanded hstays
    rw [imageOf_staying hc] at hfind hexpansion
    rw [upperChar, mapChar, hexpansion, hfind]

end CaseRun

/-! ## Characters -/

theorem lowerRuns_return :
    (lowerRuns.all fun r => r.returns || r.returnsPointwise) = true := by
  decide +kernel

/-- A character is raised as its lower case is, unless it is a capital that does not come back. -/
theorem flatMap_upperChar_lowerChar {c : Char} (hc : c ∉ oneWayCapitals) :
    (lowerChar c).flatMap upperChar = upperChar c := by
  apply mapChar_induction (P := fun image => image.flatMap upperChar = upperChar c)
  · intro _
    exact List.flatMap_singleton upperChar c
  · intro image himage
    -- The one expansion is that of the first of the six capitals.
    have hkey : c.toNat = 0x0130 := congrArg Prod.fst (List.mem_singleton.mp himage)
    have hmem : Char.ofNat 0x0130 ∈ oneWayCapitals := List.mem_cons_self
    rw [← hkey, Char.ofNat_toNat] at hmem
    exact absurd hmem hc
  · intro r hr hmoves
    rw [List.flatMap_singleton]
    have hscalar := List.all_eq_true.mp closed_lower.scalar r hr
    have hreturns := List.all_eq_true.mp lowerRuns_return r hr
    rw [Bool.or_eq_true] at hreturns
    rcases hreturns with h | h
    · obtain ⟨himage, hstays⟩ := CaseRun.upperChar_imageOf_of_returns hscalar h hmoves
      rw [himage, hstays]
    · have hpoint := List.all_eq_true.mp h c.toNat (CaseRun.mem_points_iff.mpr hmoves)
      rw [Bool.or_eq_true, decide_eq_true_eq, decide_eq_true_eq, Char.ofNat_toNat] at hpoint
      exact hpoint.resolve_left hc

/-! ## The six capitals -/

theorem oneWayCapitals_cased :
    (oneWayCapitals.all fun c => upperChar c = [c] ∧ lowerChar c ≠ [c]) = true := by
  decide +kernel

theorem upperChar_lowerChar_of_mem {c : Char} (hc : c ∈ oneWayCapitals) :
    upperChar c = [c] ∧ lowerChar c ≠ [c] :=
  of_decide_eq_true (List.all_eq_true.mp oneWayCapitals_cased c hc)

/-- The run yields none of the six capitals. -/
def CaseRun.passesOneWay (r : CaseRun) : Bool :=
  oneWayCapitals.all fun c => Nat.blt c.toNat r.image || Nat.blt r.imageEnd c.toNat

theorem upperRuns_passOneWay : upperRuns.all CaseRun.passesOneWay = true := by
  decide +kernel

theorem upperExpansions_passOneWay :
    (upperExpansions.all fun e => e.2.all fun n => Char.ofNat n ∉ oneWayCapitals) = true := by
  decide +kernel

/-- Only the six capitals themselves are raised to one of them. -/
theorem not_mem_of_mem_upperChar {c d : Char} (hc : c ∉ oneWayCapitals) (hd : d ∈ upperChar c) :
    d ∉ oneWayCapitals := by
  revert hd
  apply mapChar_induction (P := fun image => d ∈ image → d ∉ oneWayCapitals)
  · intro _ hd
    rwa [List.mem_singleton.mp hd]
  · intro image himage hd
    obtain ⟨n, hn, rfl⟩ := List.mem_map.mp hd
    have hplain := List.all_eq_true.mp upperExpansions_passOneWay _ himage
    exact of_decide_eq_true (List.all_eq_true.mp hplain n hn)
  · intro r hr hmoves hd hmem
    have hscalar := List.all_eq_true.mp closed_upper.scalar r hr
    have hpasses := List.all_eq_true.mp upperRuns_passOneWay r hr
    have hcode : d.toNat = r.imageOf c.toNat := by
      rw [List.mem_singleton.mp hd]
      exact CaseRun.toNat_ofNat_imageOf hscalar hmoves
    have hout := List.all_eq_true.mp hpasses d hmem
    have hlo : r.image ≤ r.imageOf c.toNat := CaseRun.image_le_imageOf
    have hhi := CaseRun.imageOf_le_imageEnd hmoves
    rw [Bool.or_eq_true, Nat.blt_eq, Nat.blt_eq, hcode] at hout
    omega

theorem exists_lowerChar_eq {d : Char} (hraised : upperChar d = [d]) (hd : d ∉ oneWayCapitals) :
    ∃ v, lowerChar d = [v] ∧ upperChar v = [d] := by
  have hback := flatMap_upperChar_lowerChar hd
  obtain ⟨v, vs, hlower⟩ := List.exists_cons_of_ne_nil (lowerChar_faithful d).ne_nil
  obtain ⟨u, us, hupper⟩ := List.exists_cons_of_ne_nil (upperChar_faithful v).ne_nil
  rw [hlower, List.flatMap_cons, hupper, hraised, List.cons_append, List.cons.injEq,
    List.append_eq_nil_iff] at hback
  obtain ⟨rfl, rfl, hrest⟩ := hback
  cases vs with
  | nil => exact ⟨v, hlower, hupper⟩
  | cons w ws =>
      rw [List.flatMap_cons, List.append_eq_nil_iff] at hrest
      exact absurd hrest.1 (upperChar_faithful w).ne_nil

end WikiCasing.Unicode
