import WikiCasing.Proofs.Note.File
import WikiCasing.Proofs.Text.Cut

/-!
# A run over a vault, file by file

A run lists the notes before it recases the first of them, and recasing one shows at its own
location alone. No temporary file is left, and files stay files. So each note is found as it was at
the start of the run, and what the run makes of a location and what it reports of it depend on what
was there and on nothing else (`recaseVault_file_by_file`): not on the other notes, and not on
whether they could be read.
-/

namespace WikiCasing

/-! ## Reports -/

namespace Report

/-- The report with some more changed files. -/
def addAll (r : Report) (changes : List (Text × Nat)) : Report :=
  ⟨r.filesChanged + changes.length, r.linksRecased + (changes.map (·.2)).sum, r.changes ++ changes⟩

theorem addAll_nil (r : Report) : r.addAll [] = r := by
  simp [addAll]

theorem addAll_append (r : Report) (as bs : List (Text × Nat)) :
    r.addAll (as ++ bs) = (r.addAll as).addAll bs := by
  simp [addAll, Nat.add_assoc]

end Report

/-! ## What a run does at a location -/

namespace VaultRun

variable {run : VaultRun} {t t' : Tree} {vault l : Location}

/-- A run recases what is at a location: it is named like a note below the vault, and it is not
excluded. -/
def Covers (run : VaultRun) (vault l : Location) : Prop :=
  l ∉ run.excluded ∧ ∃ names, isNoteName names = true ∧ l = vault ++ names

/-- The number of links that a run replaces at the location of a note. -/
def linksAt (run : VaultRun) (t : Tree) (l : Location) : Nat :=
  if l ∈ run.excluded then 0 else t.linksAt run.settings l

/-- What a run leaves at the location of a note. -/
def leaves (run : VaultRun) (t : Tree) (l : Location) : Option Entry :=
  if run.dryRun = true ∨ l ∈ run.excluded then t.get? l
  else (t.get? l).map (Entry.recased run.settings)

/-- The notes among some in which a run replaces links. -/
def changed (run : VaultRun) (t : Tree) (vault : Location) (ns : List Location) : List Location :=
  ns.filter fun names => run.linksAt t (vault ++ names) != 0

/-- The changes that a run reports of some notes. -/
def changes (run : VaultRun) (t : Tree) (vault : Location) (ns : List Location) :
    List (Text × Nat) :=
  (run.changed t vault ns).map fun names =>
    (Text.joinWith '/' names, run.linksAt t (vault ++ names))

theorem linksAt_congr (h : t'.get? l = t.get? l) : run.linksAt t' l = run.linksAt t l := by
  rw [linksAt, linksAt, Tree.linksAt_congr h]

theorem leaves_congr (h : t'.get? l = t.get? l) : run.leaves t' l = run.leaves t l := by
  rw [leaves, leaves, h]

theorem mem_changed_iff {ns : List Location} {names : Location} :
    names ∈ run.changed t vault ns ↔ names ∈ ns ∧ run.linksAt t (vault ++ names) ≠ 0 := by
  rw [changed, List.mem_filter, bne_iff_ne]

theorem linksAt_ne_zero_iff :
    run.linksAt t l ≠ 0 ↔ l ∉ run.excluded ∧ t.linksAt run.settings l ≠ 0 := by
  rw [linksAt]
  split <;> simp_all

theorem changes_congr {ns : List Location}
    (h : ∀ names ∈ ns, t'.get? (vault ++ names) = t.get? (vault ++ names)) :
    run.changes t' vault ns = run.changes t vault ns := by
  have hlinks : ∀ names ∈ ns, run.linksAt t' (vault ++ names) = run.linksAt t (vault ++ names) :=
    fun names hmem => linksAt_congr (h names hmem)
  have hchanged : run.changed t' vault ns = run.changed t vault ns :=
    List.filter_congr (fun names hmem => by rw [hlinks names hmem])
  rw [changes, changes, hchanged]
  exact List.map_congr_left fun names hmem => by rw [hlinks names (mem_changed_iff.mp hmem).1]

theorem changes_cons (names : Location) (ns : List Location) :
    run.changes t vault (names :: ns) =
      run.changes t vault [names] ++ run.changes t vault ns := by
  rw [changes, changes, changes, ← List.map_append, changed, changed, changed,
    ← List.filter_append]
  rfl

theorem changes_singleton (names : Location) :
    run.changes t vault [names] =
      if run.linksAt t (vault ++ names) = 0 then []
      else [(Text.joinWith '/' names, run.linksAt t (vault ++ names))] := by
  rw [changes, changed]
  by_cases hzero : run.linksAt t (vault ++ names) = 0
  · simp [hzero]
  · simp [hzero]

theorem map_isDirectory_leaves (run : VaultRun) (t : Tree) (l : Location) :
    (run.leaves t l).map Entry.isDirectory = (t.get? l).map Entry.isDirectory := by
  unfold leaves
  split
  · rfl
  · exact Entry.map_isDirectory_recased run.settings (t.get? l)

end VaultRun

/-! ## One note after the other -/

namespace VaultState

variable {run : VaultRun} {vault : Location} {st : VaultState}

theorem tree_visit (run : VaultRun) (vault : Location) (st : VaultState) (names : Location) :
    (st.visit run vault names).tree =
      if vault ++ names ∈ run.excluded then st.tree
      else (st.tree.recaseNote run.settings run.dryRun (vault ++ names)).1 := by
  unfold visit
  by_cases hexcluded : vault ++ names ∈ run.excluded
  · rw [if_pos (List.contains_iff_mem.mpr hexcluded), if_pos hexcluded]
  · rw [if_neg (mt List.contains_iff_mem.mp hexcluded), if_neg hexcluded]
    dsimp only
    split <;> rename_i hrecase <;> rw [hrecase]

theorem report_visit (run : VaultRun) (vault : Location) (st : VaultState) (names : Location) :
    (st.visit run vault names).report =
      if vault ++ names ∈ run.excluded then st.report
      else
        let links := linksOf (st.tree.recaseNote run.settings run.dryRun (vault ++ names)).2
        if links = 0 then st.report else st.report.add (Text.joinWith '/' names) links := by
  unfold visit
  by_cases hexcluded : vault ++ names ∈ run.excluded
  · rw [if_pos (List.contains_iff_mem.mpr hexcluded), if_pos hexcluded]
  · rw [if_neg (mt List.contains_iff_mem.mp hexcluded), if_neg hexcluded]
    dsimp only
    split <;> rename_i hrecase <;> rw [hrecase] <;> rfl

theorem visit_spec {names : Location}
    (h : run.dryRun = false → st.tree.Replaceable (vault ++ names)) :
    (st.visit run vault names).report = st.report.addAll (run.changes st.tree vault [names]) ∧
      ∀ m, (st.visit run vault names).tree.get? m =
        if m = vault ++ names then run.leaves st.tree m else st.tree.get? m := by
  obtain ⟨hlinks, htree⟩ := Tree.recaseNote_spec h run.settings
  rw [tree_visit, report_visit, hlinks, VaultRun.changes_singleton, VaultRun.linksAt]
  by_cases hexcluded : vault ++ names ∈ run.excluded
  · rw [if_pos hexcluded, if_pos hexcluded, if_pos hexcluded, if_pos rfl]
    refine ⟨st.report.addAll_nil.symm, fun m => ?_⟩
    split
    · rename_i hm
      rw [VaultRun.leaves, if_pos (.inr (hm ▸ hexcluded))]
    · rfl
  · rw [if_neg hexcluded, if_neg hexcluded, if_neg hexcluded]
    refine ⟨?_, fun m => ?_⟩
    · dsimp only
      split
      · exact st.report.addAll_nil.symm
      · rfl
    · rw [htree m]
      by_cases hm : m = vault ++ names
      · subst hm
        rw [if_pos rfl, VaultRun.leaves]
        cases run.dryRun <;> simp [hexcluded]
      · rw [if_neg hm, if_neg (fun hand => hm hand.2)]

theorem distinct_foldl_visit (run : VaultRun) (vault : Location) (st : VaultState)
    (h : st.tree.Distinct) (ns : List Location) :
    (ns.foldl (visit run vault) st).tree.Distinct := by
  induction ns generalizing st with
  | nil => exact h
  | cons names ns ih =>
      refine ih _ ?_
      rw [tree_visit]
      split
      · exact h
      · exact h.recaseNote run.settings run.dryRun (vault ++ names)

/-- Notes that are visited one after the other are each found as they were at the start. -/
theorem foldl_visit_spec (run : VaultRun) (vault : Location) (st : VaultState)
    {ns : List Location} (hnodup : ns.Nodup)
    (h : run.dryRun = false → ∀ names ∈ ns, st.tree.Replaceable (vault ++ names)) :
    (ns.foldl (visit run vault) st).report = st.report.addAll (run.changes st.tree vault ns) ∧
      ∀ m, (ns.foldl (visit run vault) st).tree.get? m =
        if ∃ names ∈ ns, m = vault ++ names then run.leaves st.tree m else st.tree.get? m := by
  induction ns generalizing st with
  | nil => exact ⟨st.report.addAll_nil.symm, fun m => (if_neg (by simp)).symm⟩
  | cons names ns ih =>
      obtain ⟨hfresh, hnodup⟩ := List.nodup_cons.mp hnodup
      obtain ⟨hreport, htree⟩ := visit_spec fun hreal => h hreal names List.mem_cons_self
      -- a visit changes no kind of entry, and nothing at the places of the notes to come
      have hshape : st.tree.SameShape (st.visit run vault names).tree := by
        intro m
        rw [htree m]
        split
        · exact run.map_isDirectory_leaves st.tree m
        · rfl
      have hother : ∀ {m}, m ≠ vault ++ names →
          (st.visit run vault names).tree.get? m = st.tree.get? m := by
        intro m hm
        rw [htree m, if_neg hm]
      have hrest : ∀ other ∈ ns, vault ++ other ≠ vault ++ names := by
        intro other hmem heq
        obtain rfl := List.append_cancel_left heq
        exact hfresh hmem
      obtain ⟨hreports, htrees⟩ := ih (st.visit run vault names) hnodup
        fun hreal other hmem => hshape.replaceable (h hreal other (List.mem_cons_of_mem _ hmem))
      rw [List.foldl_cons]
      refine ⟨?_, fun m => ?_⟩
      · rw [hreports, hreport, VaultRun.changes_cons names ns, Report.addAll_append,
          VaultRun.changes_congr fun other hmem => hother (hrest other hmem)]
      · rw [htrees m]
        by_cases hhere : m = vault ++ names
        · subst hhere
          rw [if_neg (by rintro ⟨other, hmem, heq⟩; exact hrest other hmem heq.symm), htree,
            if_pos rfl, if_pos ⟨names, List.mem_cons_self, rfl⟩]
        · rw [VaultRun.leaves_congr (hother hhere), hother hhere]
          refine if_congr ?_ rfl rfl
          simp only [List.exists_mem_cons_iff, hhere, false_or]

end VaultState

/-! ## The whole run -/

namespace Tree

/-- Every note below a vault can be replaced. -/
def Roomy (t : Tree) (vault : Location) : Prop :=
  ∀ names, isNoteName names = true → t.Replaceable (vault ++ names)

variable {run : VaultRun} {t : Tree} {vault l : Location}

theorem Roomy.of_entries
    (h : ∀ p ∈ t.entries, t.get? p.1.temporary = none ∧ p.1.temporary.fits = true) :
    t.Roomy vault := by
  intro names hname bytes hfile
  exact h _ (mem_entries_of_get? hfile (by simp [ne_nil_of_isNoteName hname]))

theorem notes_replaceable (hwf : t.WellFormed) (hroom : run.dryRun = false → t.Roomy vault) :
    run.dryRun = false → ∀ names ∈ t.notes vault, t.Replaceable (vault ++ names) :=
  fun hreal names hmem => hroom hreal names (hwf.mem_notes_iff.mp hmem).1

theorem report_recaseVault (run : VaultRun) (hwf : t.WellFormed)
    (hroom : run.dryRun = false → t.Roomy vault) :
    let changes := run.changes t vault (t.notes vault)
    (t.recaseVault run vault).report = ⟨changes.length, (changes.map (·.2)).sum, changes⟩ := by
  intro changes
  have hreport := (VaultState.foldl_visit_spec run vault ⟨t, {}, []⟩ (hwf.nodup_notes vault)
    (notes_replaceable hwf hroom)).1
  rw [recaseVault, hreport, Report.addAll, Nat.zero_add, Nat.zero_add, List.nil_append]

theorem get?_recaseVault (hreal : run.dryRun = false) (hwf : t.WellFormed) (hroom : t.Roomy vault)
    (l : Location) :
    (run.Covers vault l → (t.recaseVault run vault).tree.get? l =
        (t.get? l).map (Entry.recased run.settings)) ∧
      (¬ run.Covers vault l → (t.recaseVault run vault).tree.get? l = t.get? l) := by
  have hget := (VaultState.foldl_visit_spec run vault ⟨t, {}, []⟩ (hwf.nodup_notes vault)
    (notes_replaceable hwf fun _ => hroom)).2 l
  rw [← recaseVault] at hget
  dsimp only at hget
  constructor
  · rintro ⟨hexcluded, names, hname, rfl⟩
    rw [hget]
    by_cases hnone : t.get? (vault ++ names) = none
    · split
      · rw [VaultRun.leaves, if_neg (by simp [hreal, hexcluded])]
      · rw [hnone, Option.map_none]
    · rw [if_pos ⟨names, hwf.mem_notes_iff.mpr ⟨hname, hnone⟩, rfl⟩, VaultRun.leaves,
        if_neg (by simp [hreal, hexcluded])]
  · intro hcovers
    rw [hget]
    split
    · rename_i hnote
      obtain ⟨names, hmem, rfl⟩ := hnote
      have hexcluded : vault ++ names ∈ run.excluded := by
        by_contra hnot
        exact hcovers ⟨hnot, names, (hwf.mem_notes_iff.mp hmem).1, rfl⟩
      rw [VaultRun.leaves, if_pos (.inr hexcluded)]
    · rfl

theorem sameShape_recaseVault (hreal : run.dryRun = false) (hwf : t.WellFormed)
    (hroom : t.Roomy vault) : t.SameShape (t.recaseVault run vault).tree := by
  intro l
  obtain ⟨hcovered, hother⟩ := get?_recaseVault hreal hwf hroom l
  by_cases hcovers : run.Covers vault l
  · rw [hcovered hcovers, Entry.map_isDirectory_recased]
  · rw [hother hcovers]

theorem WellFormed.recaseVault (hwf : t.WellFormed) (hreal : run.dryRun = false)
    (hroom : t.Roomy vault) : (t.recaseVault run vault).tree.WellFormed :=
  hwf.of_sameShape (VaultState.distinct_foldl_visit run vault ⟨t, {}, []⟩ hwf.distinct _)
    (sameShape_recaseVault hreal hwf hroom)

theorem Roomy.recaseVault (hroom : t.Roomy vault) (hreal : run.dryRun = false)
    (hwf : t.WellFormed) : (t.recaseVault run vault).tree.Roomy vault :=
  fun names hname => (sameShape_recaseVault hreal hwf hroom).replaceable (hroom names hname)

/-! ## What a run changes and reports -/

theorem mem_changed_notes_iff (hwf : t.WellFormed) {names : Location} :
    names ∈ run.changed t vault (t.notes vault) ↔
      isNoteName names = true ∧ run.linksAt t (vault ++ names) ≠ 0 := by
  rw [VaultRun.mem_changed_iff, hwf.mem_notes_iff]
  constructor
  · rintro ⟨⟨hname, -⟩, hlinks⟩
    exact ⟨hname, hlinks⟩
  · rintro ⟨hname, hlinks⟩
    have hsome := get?_ne_none_of_linksAt (VaultRun.linksAt_ne_zero_iff.mp hlinks).2
    exact ⟨⟨hname, hsome⟩, hlinks⟩

theorem get?_recaseVault_ne_iff (hreal : run.dryRun = false) (hwf : t.WellFormed)
    (hroom : t.Roomy vault) {l : Location} :
    (t.recaseVault run vault).tree.get? l ≠ t.get? l ↔
      ∃ names ∈ run.changed t vault (t.notes vault), l = vault ++ names := by
  obtain ⟨hcovered, hother⟩ := get?_recaseVault hreal hwf hroom l
  constructor
  · intro hne
    have hcovers : run.Covers vault l := by
      by_contra hnot
      exact hne (hother hnot)
    rw [hcovered hcovers, Ne, map_recased_eq_self_iff] at hne
    obtain ⟨hexcluded, names, hname, rfl⟩ := hcovers
    have hlinks := VaultRun.linksAt_ne_zero_iff.mpr ⟨hexcluded, hne⟩
    exact ⟨names, (mem_changed_notes_iff hwf).mpr ⟨hname, hlinks⟩, rfl⟩
  · rintro ⟨names, hmem, rfl⟩
    obtain ⟨hname, hlinks⟩ := (mem_changed_notes_iff hwf).mp hmem
    obtain ⟨hexcluded, hlinks⟩ := VaultRun.linksAt_ne_zero_iff.mp hlinks
    rw [hcovered ⟨hexcluded, names, hname, rfl⟩, Ne, map_recased_eq_self_iff]
    exact hlinks

/-- The files that a report lists are told apart by their names. -/
theorem joinWith_inj_of_changed (hwf : t.WellFormed) {names other : Location}
    (hname : isNoteName names = true) (hslash : ∀ name ∈ names, '/' ∉ name)
    (hother : other ∈ run.changed t vault (t.notes vault)) :
    Text.joinWith '/' other = Text.joinWith '/' names ↔ other = names := by
  obtain ⟨hnote, -⟩ := VaultRun.mem_changed_iff.mp hother
  obtain ⟨hothername, hget⟩ := hwf.mem_notes_iff.mp hnote
  exact Text.joinWith_inj (ne_nil_of_isNoteName hothername) (ne_nil_of_isNoteName hname)
    (hwf.slash_not_mem hget) hslash

theorem mem_changes_recaseVault_iff (hwf : t.WellFormed)
    (hroom : run.dryRun = false → t.Roomy vault) {names : Location}
    (hname : isNoteName names = true) (hslash : ∀ name ∈ names, '/' ∉ name) {n : Nat} :
    (Text.joinWith '/' names, n) ∈ (t.recaseVault run vault).report.changes ↔
      n ≠ 0 ∧ run.linksAt t (vault ++ names) = n := by
  rw [report_recaseVault run hwf hroom]
  dsimp only
  rw [VaultRun.changes, List.mem_map]
  constructor
  · rintro ⟨other, hmem, heq⟩
    obtain ⟨hfile, rfl⟩ := Prod.mk.injEq .. ▸ heq
    obtain rfl := (joinWith_inj_of_changed hwf hname hslash hmem).mp hfile
    exact ⟨((mem_changed_notes_iff hwf).mp hmem).2, rfl⟩
  · rintro ⟨hlinks, rfl⟩
    exact ⟨names, (mem_changed_notes_iff hwf).mpr ⟨hname, hlinks⟩, rfl⟩

theorem nodup_files_recaseVault (hwf : t.WellFormed) (hroom : run.dryRun = false → t.Roomy vault) :
    ((t.recaseVault run vault).report.changes.map (·.1)).Nodup := by
  rw [report_recaseVault run hwf hroom]
  dsimp only
  rw [VaultRun.changes, List.map_map]
  refine ((hwf.nodup_notes vault).filter _).map_on ?_
  intro names hnames other hother heq
  obtain ⟨hname, hget⟩ := hwf.mem_notes_iff.mp (VaultRun.mem_changed_iff.mp hother).1
  exact (joinWith_inj_of_changed hwf hname (hwf.slash_not_mem hget) hnames).mp heq

theorem forall₂_changes_recaseVault (hwf : t.WellFormed)
    (hroom : run.dryRun = false → t.Roomy vault) :
    List.Forall₂ (fun names (change : Text × Nat) =>
      change.1 = Text.joinWith '/' names ∧ ∃ bytes content,
        t.get? (vault ++ names) = some (.file bytes) ∧ Utf8.decode bytes = some content ∧
        change.2 = (recaseCounted run.settings (Note.split content).body).count)
      (run.changed t vault (t.notes vault)) (t.recaseVault run vault).report.changes := by
  rw [report_recaseVault run hwf hroom]
  refine List.forall₂_map_right_iff.mpr (List.forall₂_same.mpr fun names hmem => ⟨rfl, ?_⟩)
  obtain ⟨-, hlinks⟩ := VaultRun.mem_changed_iff.mp hmem
  obtain ⟨hexcluded, hlinks⟩ := VaultRun.linksAt_ne_zero_iff.mp hlinks
  obtain ⟨bytes, content, hfile, hdecode, hcount⟩ := exists_content_of_linksAt hlinks
  exact ⟨bytes, content, hfile, hdecode, (if_neg hexcluded).trans hcount⟩

/-- What becomes of a note and what is reported of it is the same in every tree that has the
note. -/
theorem recaseVault_congr (hreal : run.dryRun = false) (hwf : t.WellFormed) (hroom : t.Roomy vault)
    {t' : Tree} (hwf' : t'.WellFormed) (hroom' : t'.Roomy vault) {names : Location}
    (hname : isNoteName names = true) (hsome : t.get? (vault ++ names) ≠ none)
    (hsame : t'.get? (vault ++ names) = t.get? (vault ++ names)) :
    (t'.recaseVault run vault).tree.get? (vault ++ names) =
        (t.recaseVault run vault).tree.get? (vault ++ names) ∧
      ∀ n, (Text.joinWith '/' names, n) ∈ (t'.recaseVault run vault).report.changes ↔
        (Text.joinWith '/' names, n) ∈ (t.recaseVault run vault).report.changes := by
  obtain ⟨hcovered, hother⟩ := get?_recaseVault hreal hwf hroom (vault ++ names)
  obtain ⟨hcovered', hother'⟩ := get?_recaseVault hreal hwf' hroom' (vault ++ names)
  constructor
  · by_cases hcovers : run.Covers vault (vault ++ names)
    · rw [hcovered' hcovers, hcovered hcovers, hsame]
    · rw [hother' hcovers, hother hcovers, hsame]
  · intro n
    have hslash := hwf.slash_not_mem hsome
    rw [mem_changes_recaseVault_iff hwf' (fun _ => hroom') hname hslash,
      mem_changes_recaseVault_iff hwf (fun _ => hroom) hname hslash, VaultRun.linksAt_congr hsame]

/-- A run acts file by file. A note that it covers and that can be read as text holds its header and
its recased body; everything else is as it was, and nothing is added or removed. The report has the
files that changed, each once, in the order of the names on the way, with the number of links
replaced in each, and it says how many files and how many links that are. What becomes of a note,
and what the report says of it, is the same whatever the rest of the tree is. -/
theorem recaseVault_file_by_file (run : VaultRun) (t : Tree) (vault : Location)
    (hreal : run.dryRun = false) (hwf : t.WellFormed) (hroom : t.Roomy vault) :
    let after := t.recaseVault run vault
    (∀ l bytes content, run.Covers vault l → t.get? l = some (.file bytes) →
      Utf8.decode bytes = some content →
      after.tree.get? l = some (.file (Utf8.encode
        ((Note.split content).header ++ recase run.settings (Note.split content).body)))) ∧
    (∀ l, ¬ run.Covers vault l ∨
        (∀ bytes, t.get? l = some (.file bytes) → Utf8.decode bytes = none) →
      after.tree.get? l = t.get? l) ∧
    (∀ l, after.tree.get? l = none ↔ t.get? l = none) ∧
    (∃ changed : List Location, changed.Pairwise (· < ·) ∧
      (∀ l, after.tree.get? l ≠ t.get? l ↔ ∃ names ∈ changed, l = vault ++ names) ∧
      List.Forall₂ (fun names (change : Text × Nat) =>
        change.1 = Text.joinWith '/' names ∧ ∃ bytes content,
          t.get? (vault ++ names) = some (.file bytes) ∧ Utf8.decode bytes = some content ∧
          change.2 = (recaseCounted run.settings (Note.split content).body).count)
        changed after.report.changes) ∧
    (after.report.changes.map (·.1)).Nodup ∧
    after.report.filesChanged = after.report.changes.length ∧
    after.report.linksRecased = (after.report.changes.map (·.2)).sum ∧
    (∀ t' : Tree, t'.WellFormed → t'.Roomy vault → ∀ names, isNoteName names = true →
      t.get? (vault ++ names) ≠ none → t'.get? (vault ++ names) = t.get? (vault ++ names) →
      (t'.recaseVault run vault).tree.get? (vault ++ names) = after.tree.get? (vault ++ names) ∧
      ∀ n, (Text.joinWith '/' names, n) ∈ (t'.recaseVault run vault).report.changes ↔
        (Text.joinWith '/' names, n) ∈ after.report.changes) := by
  intro after
  have hget := get?_recaseVault hreal hwf hroom
  have hreport := report_recaseVault run hwf fun _ => hroom
  refine ⟨?_, ?_, ?_, ⟨run.changed t vault (t.notes vault), ?_, ?_, ?_⟩, ?_, ?_, ?_, ?_⟩
  · intro l bytes content hcovers hfile hdecode
    obtain rfl := Utf8.decode_eq_some_iff.mp hdecode
    rw [(hget l).1 hcovers, hfile, Option.map_some, Entry.recased_encode]
    rfl
  · rintro l (hcovers | hdecode)
    · exact (hget l).2 hcovers
    · by_cases hcovers : run.Covers vault l
      · rw [(hget l).1 hcovers, map_recased_of_undecodable hdecode]
      · exact (hget l).2 hcovers
  · exact (sameShape_recaseVault hreal hwf hroom).get?_eq_none_iff
  · exact (hwf.pairwise_notes vault).filter _
  · exact fun l => get?_recaseVault_ne_iff hreal hwf hroom
  · exact forall₂_changes_recaseVault hwf fun _ => hroom
  · exact nodup_files_recaseVault hwf fun _ => hroom
  · rw [hreport]
  · rw [hreport]
  · intro t' hwf' hroom' names hname hsome hsame
    exact recaseVault_congr hreal hwf hroom hwf' hroom' hname hsome hsame

/-- A note that is no text stands between two that are. -/
theorem recaseVault_file_by_file_undecodable :
    let vault : Location := [['v']]
    let note (letter : Char) : Location := vault ++ [letter :: markdownEnding]
    let content := "[[X]]\\l".toList
    let old := Entry.file (Utf8.encode content)
    let t : Tree := ⟨[(vault, .directory), (note 'a', old), (note 'b', .file [255]),
      (note 'c', old)]⟩
    let run : VaultRun := {}
    run.dryRun = false ∧ t.WellFormed ∧ t.Roomy vault ∧
      (t.recaseVault run vault).tree.get? (note 'b') = some (.file [255]) ∧
      (t.recaseVault run vault).tree.get? (note 'c') =
        some (.file (Utf8.encode "[[X|x]]".toList)) := by
  intro vault note content old t run
  have hwf : t.WellFormed := WellFormed.of_entries (by unfold Distinct; decide) (by decide)
  have hroom : t.Roomy vault := Roomy.of_entries (by decide)
  obtain ⟨hnotes, hkept, -⟩ := recaseVault_file_by_file run t vault rfl hwf hroom
  have hb : t.get? (note 'b') = some (.file [255]) := by decide
  have hc : t.get? (note 'c') = some old := by decide
  have hcovers : run.Covers vault (note 'c') := ⟨by decide, ['c' :: markdownEnding], by decide, rfl⟩
  have htext : (Note.split content).header ++ recase run.settings (Note.split content).body =
      "[[X|x]]".toList := by decide +kernel
  refine ⟨rfl, hwf, hroom, (hkept (note 'b') (.inr ?_)).trans hb, ?_⟩
  · rw [hb]
    rintro bytes hfile
    obtain rfl : [255] = bytes := by simpa using hfile
    decide
  · have hnote := hnotes (note 'c') _ content hcovers hc (Utf8.decode_encode content)
    rwa [htext] at hnote

end Tree

end WikiCasing
