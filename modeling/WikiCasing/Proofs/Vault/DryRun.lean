import WikiCasing.Proofs.Vault.Run

/-!
# What a dry run says

A dry run goes through the same notes and counts the same links, and no tree differs from the one it
began with. What a run over the same tree in earnest would report depends on that tree alone
(`report_recaseVault`), since it finds each note as it was at the start. So the dry run's report is
the other one's (`dry_run_predicts`).
-/

namespace WikiCasing

/-- The run as a dry one. -/
def VaultRun.dry (run : VaultRun) : VaultRun := { run with dryRun := true }

variable {run : VaultRun} {vault : Location}

namespace VaultState

theorem tree_foldl_visit_dry (run : VaultRun) (vault : Location) (st : VaultState)
    (ns : List Location) : (ns.foldl (visit run.dry vault) st).tree = st.tree := by
  induction ns generalizing st with
  | nil => rfl
  | cons names ns ih =>
      rw [List.foldl_cons, ih, tree_visit]
      split
      · rfl
      · exact Tree.recaseNote_dry st.tree run.settings (vault ++ names)

end VaultState

namespace Tree

/-- A dry run leaves the tree as it is, and it reports what the run in earnest would: the files that
it lists are the ones that the run in earnest changes. -/
theorem dry_run_predicts (run : VaultRun) (t : Tree) (vault : Location) (hreal : run.dryRun = false)
    (hwf : t.WellFormed) (hroom : t.Roomy vault) :
    let planned := t.recaseVault run.dry vault
    let done := t.recaseVault run vault
    planned.tree = t ∧ planned.report = done.report ∧
    ∃ listed : List Location, listed.Pairwise (· < ·) ∧
      planned.report.changes.map (·.1) = listed.map (Text.joinWith '/') ∧
      ∀ l, done.tree.get? l ≠ t.get? l ↔ ∃ names ∈ listed, l = vault ++ names := by
  intro planned done
  have hplanned : planned.report = _ := report_recaseVault run.dry hwf nofun
  have hdone : done.report = _ := report_recaseVault run hwf fun _ => hroom
  refine ⟨VaultState.tree_foldl_visit_dry run vault ⟨t, {}, []⟩ (t.notes vault),
    hplanned.trans hdone.symm, run.changed t vault (t.notes vault),
    (hwf.pairwise_notes vault).filter _, ?_, ?_⟩
  · rw [hplanned]
    dsimp only
    rw [VaultRun.changes, List.map_map]
    rfl
  · exact fun l => get?_recaseVault_ne_iff hreal hwf hroom

/-- A dry run over a vault with a note and a directory that is named like one. -/
theorem dry_run_predicts_one_note :
    let vault : Location := [['v']]
    let t : Tree := ⟨[(vault, .directory), (vault ++ ["a.md".toList], .directory),
      (vault ++ ["b.md".toList], .file (Utf8.encode "---\n---\n[[X]]\\l".toList))]⟩
    let run : VaultRun := {}
    run.dryRun = false ∧ t.WellFormed ∧ t.Roomy vault ∧
      (t.recaseVault run.dry vault).tree = t ∧
      (t.recaseVault run.dry vault).report = (t.recaseVault run vault).report := by
  intro vault t run
  have hwf : t.WellFormed := WellFormed.of_entries (by unfold Distinct; decide) (by decide)
  have hroom : t.Roomy vault := Roomy.of_entries (by decide)
  obtain ⟨htree, hreport, -⟩ := dry_run_predicts run t vault rfl hwf hroom
  exact ⟨rfl, hwf, hroom, htree, hreport⟩

end Tree

end WikiCasing
