import WikiCasing.Proofs.Vault.Run

/-!
# Runs over a vault, one after the other

Each run cuts the notes anew, and finds the cut where the run before left it (`Note.split_recase`).
So several runs do to a note what as many passes do to its body, those that exclude it left out, and
the header stays as it is (`Note.afterRuns_spec`). What holds of passes over a text then holds of
runs over a vault (`vault_runs_converge`): the backslashes of a body bound what is replaced in it,
by whatever runs, and as many runs as there are backslashes leave nothing to replace.
-/

namespace WikiCasing

/-- The number of links that a report has for a file. -/
def Report.linksIn (r : Report) (file : Text) : Nat :=
  ((r.changes.filter (·.1 = file)).map (·.2)).sum

namespace Tree

/-- The tree that several runs over a vault leave. -/
def afterRuns (t : Tree) (vault : Location) : List VaultRun → Tree
  | [] => t
  | run :: runs => (t.recaseVault run vault).tree.afterRuns vault runs

/-- The reports of several runs over a vault, one for each. -/
def reportsOfRuns (t : Tree) (vault : Location) : List VaultRun → List Report
  | [] => []
  | run :: runs =>
    (t.recaseVault run vault).report :: (t.recaseVault run vault).tree.reportsOfRuns vault runs

end Tree

/-- The settings of the runs that do not exclude a location. -/
def settingsOfRuns (l : Location) (runs : List VaultRun) : List Settings :=
  (runs.filter (!·.excluded.contains l)).map (·.settings)

/-! ## What a report says of one file -/

namespace Report

variable {r : Report} {file : Text} {n : Nat}

theorem linksIn_eq_zero (h : ∀ n, (file, n) ∉ r.changes) : r.linksIn file = 0 := by
  have hnil : r.changes.filter (·.1 = file) = [] := by
    rw [List.filter_eq_nil_iff]
    rintro ⟨file', n⟩ hmem hfile
    rw [decide_eq_true_iff] at hfile
    exact h n (hfile ▸ hmem)
  rw [linksIn, hnil]
  rfl

theorem linksIn_eq_of_mem (hnodup : (r.changes.map (·.1)).Nodup) (h : (file, n) ∈ r.changes) :
    r.linksIn file = n := by
  unfold linksIn
  generalize r.changes = changes at hnodup h
  induction changes with
  | nil => exact absurd h List.not_mem_nil
  | cons change changes ih =>
      rw [List.map_cons, List.nodup_cons] at hnodup
      obtain ⟨hfresh, hnodup⟩ := hnodup
      rcases List.mem_cons.mp h with rfl | hmem
      · have hnil : changes.filter (·.1 = file) = [] := by
          rw [List.filter_eq_nil_iff]
          intro change hmem hfile
          rw [decide_eq_true_iff] at hfile
          exact hfresh (List.mem_map.mpr ⟨change, hmem, hfile⟩)
        rw [List.filter_cons_of_pos (by simp), hnil]
        rfl
      · have hne : change.1 ≠ file := by
          rintro rfl
          exact hfresh (List.mem_map.mpr ⟨_, hmem, rfl⟩)
        rw [List.filter_cons_of_neg (by simpa using hne)]
        exact ih hnodup hmem

end Report

namespace Tree

variable {t : Tree} {vault names : Location}

theorem linksIn_recaseVault (run : VaultRun) (hwf : t.WellFormed)
    (hroom : run.dryRun = false → t.Roomy vault) (hname : isNoteName names = true)
    (hslash : ∀ name ∈ names, '/' ∉ name) :
    (t.recaseVault run vault).report.linksIn (Text.joinWith '/' names) =
      run.linksAt t (vault ++ names) := by
  have hmem := fun n => mem_changes_recaseVault_iff (n := n) hwf hroom hname hslash
  by_cases hzero : run.linksAt t (vault ++ names) = 0
  · rw [hzero]
    refine Report.linksIn_eq_zero fun n hn => ?_
    obtain ⟨hne, heq⟩ := (hmem n).mp hn
    exact hne (heq.symm.trans hzero)
  · exact Report.linksIn_eq_of_mem (nodup_files_recaseVault hwf hroom) ((hmem _).mpr ⟨hzero, rfl⟩)

end Tree

/-! ## One note through several runs -/

section

variable {run : VaultRun} {runs : List VaultRun} {l : Location}

theorem settingsOfRuns_excluding (h : l ∈ run.excluded) : settingsOfRuns l [run] = [] := by
  simp [settingsOfRuns, h]

theorem settingsOfRuns_covering (h : l ∉ run.excluded) :
    settingsOfRuns l [run] = [run.settings] := by
  simp [settingsOfRuns, h]

theorem settingsOfRuns_cons (l : Location) (run : VaultRun) (runs : List VaultRun) :
    settingsOfRuns l (run :: runs) = settingsOfRuns l [run] ++ settingsOfRuns l runs := by
  rw [settingsOfRuns, settingsOfRuns, settingsOfRuns, ← List.map_append, ← List.filter_append]
  rfl

end

theorem passesUnder_append (as bs : List Settings) (t : Text) :
    passesUnder (as ++ bs) t = passesUnder as t ++ passesUnder bs (settle as t) := by
  induction as generalizing t with
  | nil => rfl
  | cons s as ih => exact congrArg (recaseCounted s t :: ·) (ih (recaseCounted s t).text)

namespace Note

/-- The note with its body put through several passes. -/
def settle (ss : List Settings) (note : Note) : Note :=
  ⟨note.header, WikiCasing.settle ss note.body⟩

theorem settle_append (as bs : List Settings) (note : Note) :
    note.settle (as ++ bs) = (note.settle as).settle bs := by
  rw [settle, WikiCasing.settle, List.foldl_append]
  rfl

variable {run : VaultRun} {runs : List VaultRun} {t : Tree} {vault names : Location} {note : Note}

theorem afterRun_spec (hreal : run.dryRun = false) (hwf : t.WellFormed) (hroom : t.Roomy vault)
    (hname : isNoteName names = true) (hsplit : split note.content = note)
    (hfile : t.get? (vault ++ names) = some (.file (Utf8.encode note.content))) :
    let after := t.recaseVault run vault
    let ss := settingsOfRuns (vault ++ names) [run]
    split (note.settle ss).content = note.settle ss ∧
      after.tree.get? (vault ++ names) = some (.file (Utf8.encode (note.settle ss).content)) ∧
      after.report.linksIn (Text.joinWith '/' names) =
        ((passesUnder ss note.body).map Recased.count).sum := by
  intro after ss
  have hslash : ∀ name ∈ names, '/' ∉ name := hwf.slash_not_mem (by rw [hfile]; simp)
  obtain ⟨hcovered, hother⟩ := Tree.get?_recaseVault hreal hwf hroom (vault ++ names)
  have hlinks := Tree.linksIn_recaseVault run hwf (fun _ => hroom) hname hslash
  by_cases hexcluded : vault ++ names ∈ run.excluded
  · have hss : ss = [] := settingsOfRuns_excluding hexcluded
    rw [hss]
    rw [VaultRun.linksAt, if_pos hexcluded] at hlinks
    exact ⟨hsplit, (hother fun hcovers => hcovers.1 hexcluded).trans hfile, hlinks⟩
  · have hss : ss = [run.settings] := settingsOfRuns_covering hexcluded
    rw [hss]
    rw [VaultRun.linksAt, if_neg hexcluded, Tree.linksAt, hfile, Option.map_some,
      Entry.links_encode, hsplit] at hlinks
    have hafter := hcovered ⟨hexcluded, names, hname, rfl⟩
    rw [hfile, Option.map_some, Entry.recased_encode, hsplit] at hafter
    have hkept := split_recase run.settings note.content
    rw [hsplit] at hkept
    exact ⟨hkept, hafter, hlinks⟩

/-- Several runs do to a note what passes under their settings do to its body. -/
theorem afterRuns_spec (hreal : ∀ run ∈ runs, run.dryRun = false) (hwf : t.WellFormed)
    (hroom : t.Roomy vault) (hname : isNoteName names = true) (hsplit : split note.content = note)
    (hfile : t.get? (vault ++ names) = some (.file (Utf8.encode note.content))) :
    let after := t.afterRuns vault runs
    let ss := settingsOfRuns (vault ++ names) runs
    (after.WellFormed ∧ after.Roomy vault) ∧ split (note.settle ss).content = note.settle ss ∧
      after.get? (vault ++ names) = some (.file (Utf8.encode (note.settle ss).content)) ∧
      ((t.reportsOfRuns vault runs).map (·.linksIn (Text.joinWith '/' names))).sum =
        ((passesUnder ss note.body).map Recased.count).sum := by
  induction runs generalizing t note with
  | nil => exact ⟨⟨hwf, hroom⟩, hsplit, hfile, rfl⟩
  | cons run runs ih =>
      obtain ⟨hrun, hruns⟩ := List.forall_mem_cons.mp hreal
      obtain ⟨hkept, hafter, hlinks⟩ := afterRun_spec hrun hwf hroom hname hsplit hfile
      obtain ⟨hplaces, hsplits, hafters, hsum⟩ :=
        ih hruns (hwf.recaseVault hrun hroom) (hroom.recaseVault hrun hwf) hkept hafter
      intro after ss
      have hss : ss = settingsOfRuns (vault ++ names) [run] ++
        settingsOfRuns (vault ++ names) runs := settingsOfRuns_cons _ run runs
      rw [hss, settle_append, passesUnder_append]
      refine ⟨hplaces, hsplits, hafters, ?_⟩
      rw [Tree.reportsOfRuns, List.map_cons, List.sum_cons, hlinks, hsum, List.map_append,
        List.sum_append]
      rfl

end Note

namespace Tree

/-- Runs over a vault converge and leave front matter alone. Through any runs, a note keeps its
header, and its content goes on to be cut there. The links replaced in it are at most as many as its
body has backslashes, by all runs together. Once as many runs have not excluded it, a further run
replaces nothing in it, does not report it, and leaves its bytes as they are. -/
theorem vault_runs_converge (t : Tree) (vault names : Location) (runs : List VaultRun)
    (bytes : Bytes) (content : Text) (hreal : ∀ run ∈ runs, run.dryRun = false)
    (hwf : t.WellFormed) (hroom : t.Roomy vault) (hname : isNoteName names = true)
    (hfile : t.get? (vault ++ names) = some (.file bytes))
    (hdecode : Utf8.decode bytes = some content) :
    let note := Note.split content
    let file := Text.joinWith '/' names
    let after := t.afterRuns vault runs
    (∃ body, after.get? (vault ++ names) =
        some (.file (Utf8.encode note.header ++ Utf8.encode body)) ∧
      Note.split (note.header ++ body) = ⟨note.header, body⟩) ∧
    ((t.reportsOfRuns vault runs).map (·.linksIn file)).sum ≤ note.body.count '\\' ∧
    (note.body.count '\\' ≤ (runs.filter (!·.excluded.contains (vault ++ names))).length →
      ∀ next : VaultRun, next.dryRun = false →
        (∀ n, (file, n) ∉ (after.recaseVault next vault).report.changes) ∧
        (after.recaseVault next vault).tree.get? (vault ++ names) =
          after.get? (vault ++ names)) := by
  intro note file after
  obtain rfl := Utf8.decode_eq_some_iff.mp hdecode
  have hcontent : note.content = content := Note.content_split content
  have hsplit : Note.split note.content = note := by rw [hcontent]
  rw [← hcontent] at hfile
  obtain ⟨⟨hwf', hroom'⟩, hsplit', hafter, hsum⟩ :=
    Note.afterRuns_spec hreal hwf hroom hname hsplit hfile
  refine ⟨⟨_, ?_, hsplit'⟩, ?_, ?_⟩
  · rw [← Utf8.encode_append]
    exact hafter
  · rw [hsum]
    exact sum_counts_le _ _
  · intro hcount next hnext
    -- the runs that covered the note were passes over its body, and there were enough of them
    have hsettled : Settled (settle (settingsOfRuns (vault ++ names) runs) note.body) :=
      settled_settle _ _ (by rwa [settingsOfRuns, List.length_map])
    have hlinks : next.linksAt after (vault ++ names) = 0 := by
      rw [VaultRun.linksAt, linksAt, hafter, Option.map_some, Entry.links_encode, hsplit']
      split
      · rfl
      · exact congrArg Recased.count (hsettled.recase next.settings)
    have hslash : ∀ name ∈ names, '/' ∉ name := hwf.slash_not_mem (by rw [hfile]; simp)
    constructor
    · intro n hn
      obtain ⟨hne, heq⟩ :=
        (mem_changes_recaseVault_iff hwf' (fun _ => hroom') hname hslash).mp hn
      exact hne (heq.symm.trans hlinks)
    · by_contra hchanged
      obtain ⟨names', hmem, heq⟩ := (get?_recaseVault_ne_iff hnext hwf' hroom').mp hchanged
      rw [List.append_cancel_left heq] at hlinks
      exact (VaultRun.mem_changed_iff.mp hmem).2 hlinks

/-- A link with two commands, recased by two runs of which the second has other settings, and after
them by a third. -/
theorem vault_runs_converge_two_commands :
    let vault : Location := [['v']]
    let names : Location := ["a.md".toList]
    let content := "---\n---\n[[X]]\\l\\u".toList
    let t : Tree := ⟨[(vault, .directory), (vault ++ names, .file (Utf8.encode content))]⟩
    let runs : List VaultRun := [{}, { settings := ⟨true⟩ }]
    (∀ run ∈ runs, run.dryRun = false) ∧ t.WellFormed ∧ t.Roomy vault ∧
      isNoteName names = true ∧
      ∀ n, (Text.joinWith '/' names, n) ∉
        ((t.afterRuns vault runs).recaseVault {} vault).report.changes := by
  intro vault names content t runs
  have hreal : ∀ run ∈ runs, run.dryRun = false := by decide
  have hwf : t.WellFormed := WellFormed.of_entries (by unfold Distinct; decide) (by decide)
  have hroom : t.Roomy vault := Roomy.of_entries (by decide)
  have hname : isNoteName names = true := by decide
  have hfile : t.get? (vault ++ names) = some (.file (Utf8.encode content)) := by decide
  obtain ⟨-, -, hlater⟩ := vault_runs_converge t vault names runs _ content hreal hwf hroom hname
    hfile (Utf8.decode_encode content)
  have hcount : (Note.split content).body.count '\\' ≤
      (runs.filter (!·.excluded.contains (vault ++ names))).length := by decide +kernel
  exact ⟨hreal, hwf, hroom, hname, (hlater hcount {} rfl).1⟩

end Tree

end WikiCasing
