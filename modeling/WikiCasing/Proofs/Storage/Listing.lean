import Mathlib.Data.List.Induction
import Mathlib.Data.List.Nodup
import WikiCasing.Proofs.Storage.Tree
import WikiCasing.Vault.Recase

/-!
# What a listing shows of a tree

A tree is well formed if no location is held twice, everything stands in a directory, and no name
holds a slash. A listing of what is below a location then shows each thing once and in order
(`mem_below_iff`, `pairwise_below`), and the notes of a vault are all that is named like one below
it (`mem_notes_iff`, `pairwise_notes`): that the vault itself is a directory goes without saying, as
soon as something is below it. Whoever keeps the locations and the directories of a well-formed tree
keeps it well formed (`WellFormed.of_sameShape`).
-/

namespace WikiCasing

/-- Some names lead to something that is named like a note. -/
def isNoteName (names : List Text) : Bool := isMarkdownName (names.getLast?.getD [])

theorem ne_nil_of_isNoteName {names : List Text} (h : isNoteName names = true) : names ≠ [] := by
  rintro rfl
  exact absurd h (by decide)

namespace Tree

/-- No location is held twice. -/
def Distinct (t : Tree) : Prop := (t.entries.map (·.1)).Nodup

/-- A tree as there can be one on a disk. -/
structure WellFormed (t : Tree) : Prop where
  distinct : t.Distinct
  /-- Everything stands in a directory. -/
  housed : ∀ l, t.get? l ≠ none → t.isDirectory l.parent = true
  /-- No name holds a slash. -/
  named : ∀ l, t.get? l ≠ none → ∀ name ∈ l, '/' ∉ name

variable {t t' : Tree} {l m : Location} {e : Entry}

/-! ## Distinct locations -/

theorem Distinct.erase (h : t.Distinct) (l : Location) : (t.erase l).Distinct :=
  h.sublist (List.filter_sublist.map _)

theorem Distinct.put (h : t.Distinct) (l : Location) (e : Entry) : (t.put l e).Distinct := by
  refine List.nodup_cons.mpr ⟨fun hmem => ?_, h.erase l⟩
  obtain ⟨p, hp, heq⟩ := List.mem_map.mp hmem
  have hne := (List.mem_filter.mp hp).2
  simp [heq] at hne

theorem Distinct.replace (h : t.Distinct) (l : Location) (bytes : Bytes) :
    (t.replace l bytes).1.Distinct := by
  unfold Tree.replace
  split
  · exact h
  · rename_i hwrite
    obtain ⟨-, -, rfl⟩ := write_eq_ok_iff.mp hwrite
    split
    · exact h.put _ _
    · rename_i hrename
      obtain ⟨-, -, -, rfl⟩ := rename_eq_ok_iff.mp hrename
      exact ((h.put _ _).erase _).put _ _

theorem Distinct.lookup_eq_some_iff (h : t.Distinct) :
    t.entries.lookup l = some e ↔ (l, e) ∈ t.entries := by
  obtain ⟨entries⟩ := t
  unfold Distinct at h
  dsimp only at h ⊢
  induction entries with
  | nil => simp
  | cons p entries ih =>
      obtain ⟨k, d⟩ := p
      rw [List.map_cons, List.nodup_cons] at h
      rw [lookup_cons_eq, List.mem_cons, ← ih h.2, Prod.mk.injEq]
      by_cases hk : l = k
      · subst hk
        have hnone : ¬ entries.lookup l = some e := by
          rw [ih h.2]
          exact fun hmem => h.1 (List.mem_map.mpr ⟨(l, e), hmem, rfl⟩)
        simp [hnone, eq_comm]
      · simp [hk]

/-! ## Well-formed trees -/

theorem mem_entries_of_get? (h : t.get? l = some e) (hl : l ≠ []) : (l, e) ∈ t.entries := by
  rw [get?_of_ne_root hl] at h
  obtain ⟨k, k', hentries, -⟩ := List.lookup_eq_some_iff.mp h
  rw [hentries]
  simp

/-- Whether a tree is well formed can be seen from what it holds. -/
theorem WellFormed.of_entries (hdistinct : t.Distinct)
    (h : ∀ p ∈ t.entries, t.isDirectory p.1.parent = true ∧ ∀ name ∈ p.1, '/' ∉ name) :
    t.WellFormed := by
  have hentry : ∀ l, t.get? l ≠ none → l ≠ [] → ∃ p ∈ t.entries, p.1 = l := by
    intro l hget hl
    obtain ⟨e, he⟩ := Option.ne_none_iff_exists'.mp hget
    exact ⟨(l, e), mem_entries_of_get? he hl, rfl⟩
  refine ⟨hdistinct, fun l hget => ?_, fun l hget => ?_⟩
  · by_cases hl : l = []
    · subst hl
      rfl
    · obtain ⟨p, hp, rfl⟩ := hentry l hget hl
      exact (h p hp).1
  · by_cases hl : l = []
    · subst hl
      simp
    · obtain ⟨p, hp, rfl⟩ := hentry l hget hl
      exact (h p hp).2

theorem WellFormed.slash_not_mem (h : t.WellFormed) {names : List Text}
    (hget : t.get? (l ++ names) ≠ none) : ∀ name ∈ names, '/' ∉ name :=
  fun name hmem => h.named _ hget name (List.mem_append_right l hmem)

theorem WellFormed.isDirectory_of_below (h : t.WellFormed) {names : List Text} (hne : names ≠ [])
    (hbelow : t.get? (l ++ names) ≠ none) : t.isDirectory l = true := by
  induction names using List.reverseRecOn with
  | nil => exact absurd rfl hne
  | append_singleton names name ih =>
      have hparent := h.housed _ hbelow
      rw [← List.append_assoc, Location.parent, List.dropLast_concat] at hparent
      by_cases hnames : names = []
      · rwa [hnames, List.append_nil] at hparent
      · apply ih hnames
        rw [isDirectory, decide_eq_true_iff] at hparent
        rw [hparent]
        simp

theorem WellFormed.of_sameShape (h : t.WellFormed) (hdistinct : t'.Distinct)
    (hshape : t.SameShape t') : t'.WellFormed where
  distinct := hdistinct
  housed l hl := by
    rw [hshape.isDirectory_eq]
    exact h.housed l (mt (hshape.get?_eq_none_iff l).mpr hl)
  named l hl := h.named l (mt (hshape.get?_eq_none_iff l).mpr hl)

/-! ## Listings -/

theorem below_perm (t : Tree) (l : Location) :
    (t.below l).Perm (t.entries.filterMap fun (m, e) =>
      if l.isPrefixOf m && l.length < m.length then some (m.drop l.length, e) else none) :=
  List.mergeSort_perm _ _

/-- A listing shows what is at the locations below, each once. -/
theorem mem_below_iff (h : t.Distinct) {names : List Text} :
    (names, e) ∈ t.below l ↔ names ≠ [] ∧ t.get? (l ++ names) = some e := by
  rw [(t.below_perm l).mem_iff, List.mem_filterMap]
  constructor
  · rintro ⟨⟨m, d⟩, hmem, hif⟩
    dsimp only at hif
    split at hif
    · rename_i hbelow
      rw [Bool.and_eq_true, List.isPrefixOf_iff_prefix, decide_eq_true_iff] at hbelow
      obtain ⟨⟨rest, rfl⟩, hlen⟩ := hbelow
      obtain ⟨rfl, rfl⟩ : rest = names ∧ d = e := by simpa using hif
      have hne : rest ≠ [] := by
        rintro rfl
        simp at hlen
      exact ⟨hne, by rwa [get?_of_ne_root (by simp [hne]), h.lookup_eq_some_iff]⟩
    · exact absurd hif (by simp)
  · rintro ⟨hne, hget⟩
    rw [get?_of_ne_root (by simp [hne]), h.lookup_eq_some_iff] at hget
    refine ⟨_, hget, ?_⟩
    have hlen : 0 < names.length := List.length_pos_iff.mpr hne
    simp [hlen]

theorem nodup_below (h : t.Distinct) (l : Location) : ((t.below l).map (·.1)).Nodup := by
  rw [((t.below_perm l).map _).nodup_iff]
  have hnames : (t.entries.filterMap fun (m, e) =>
      if l.isPrefixOf m && l.length < m.length then some (m.drop l.length, e) else none).map (·.1) =
        (t.entries.map (·.1)).filterMap fun m =>
          if l.isPrefixOf m && l.length < m.length then some (m.drop l.length) else none := by
    rw [List.map_filterMap, List.filterMap_map]
    refine List.filterMap_congr (fun p _ => ?_)
    dsimp only [Function.comp]
    split <;> rfl
  rw [hnames]
  refine h.filterMap (fun a b names ha hb => ?_)
  simp only [Option.mem_def, Option.ite_none_right_eq_some, Option.some.injEq, Bool.and_eq_true,
    List.isPrefixOf_iff_prefix] at ha hb
  obtain ⟨⟨⟨as, rfl⟩, -⟩, ha⟩ := ha
  obtain ⟨⟨⟨bs, rfl⟩, -⟩, hb⟩ := hb
  rw [List.drop_left] at ha hb
  rw [ha, hb]

theorem pairwise_below (h : t.Distinct) (l : Location) :
    ((t.below l).map (·.1)).Pairwise (· < ·) := by
  have hsorted : (t.below l).Pairwise fun a b => (!decide (b.1 < a.1)) = true := by
    refine List.pairwise_mergeSort (fun a b c hab hbc => ?_) (fun a b => ?_) _
    · simp only [Bool.not_eq_true', decide_eq_false_iff_not, List.not_lt] at hab hbc ⊢
      exact List.le_trans hab hbc
    · simp only [Bool.or_eq_true, Bool.not_eq_true', decide_eq_false_iff_not, List.not_lt]
      exact List.le_total _ _
  have hnodup := List.pairwise_map.mp (nodup_below h l)
  rw [List.pairwise_map]
  refine (hsorted.and hnodup).imp (fun {a b} hab => ?_)
  obtain ⟨hle, hne⟩ := hab
  simp only [Bool.not_eq_true', decide_eq_false_iff_not, List.not_lt] at hle
  by_contra hnot
  exact hne (List.le_antisymm hle (List.not_lt.mp hnot))

/-! ## The notes of a vault -/

theorem WellFormed.mem_notes_iff (h : t.WellFormed) {vault : Location} {names : List Text} :
    names ∈ t.notes vault ↔ isNoteName names = true ∧ t.get? (vault ++ names) ≠ none := by
  have hbelow : names ∈ (t.below vault).map (·.1) ↔
      names ≠ [] ∧ t.get? (vault ++ names) ≠ none := by
    rw [List.mem_map]
    constructor
    · rintro ⟨⟨names', e⟩, hmem, rfl⟩
      obtain ⟨hne, hget⟩ := (mem_below_iff h.distinct).mp hmem
      exact ⟨hne, by rw [hget]; simp⟩
    · rintro ⟨hne, hget⟩
      obtain ⟨e, he⟩ := Option.ne_none_iff_exists'.mp hget
      exact ⟨(names, e), (mem_below_iff h.distinct).mpr ⟨hne, he⟩, rfl⟩
  unfold notes
  split
  · rw [List.mem_filter, hbelow]
    constructor
    · rintro ⟨⟨-, hget⟩, hname⟩
      exact ⟨hname, hget⟩
    · rintro ⟨hname, hget⟩
      exact ⟨⟨ne_nil_of_isNoteName hname, hget⟩, hname⟩
  · rename_i hvault
    simp only [List.not_mem_nil, false_iff, not_and]
    intro hname hget
    exact hvault (h.isDirectory_of_below (ne_nil_of_isNoteName hname) hget)

theorem WellFormed.pairwise_notes (h : t.WellFormed) (vault : Location) :
    (t.notes vault).Pairwise (· < ·) := by
  unfold notes
  split
  · exact (pairwise_below h.distinct vault).filter _
  · exact List.Pairwise.nil

theorem WellFormed.nodup_notes (h : t.WellFormed) (vault : Location) : (t.notes vault).Nodup := by
  refine (h.pairwise_notes vault).imp (fun {a b} hlt => ?_)
  rintro rfl
  exact List.lt_irrefl a hlt

end Tree

end WikiCasing
