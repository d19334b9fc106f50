import WikiCasing.Log.Notice
import WikiCasing.Note.File

/-!
# Recasing a vault

A vault is a directory of notes. Every Markdown file below it, hidden ones included, is recased
in the order of the names on its way. A file that cannot be read or written is skipped with a
notice and changes nothing about the others; so is a directory that is named like a note.
-/

namespace WikiCasing

/-- What a run over a vault did, or would do. -/
structure Report where
  filesChanged : Nat := 0
  linksRecased : Nat := 0
  /-- The changed files with the number of links recased in each, in order. -/
  changes : List (Text × Nat) := []
deriving DecidableEq, Repr

/-- The report with one more changed file. -/
def Report.add (r : Report) (file : Text) (links : Nat) : Report :=
  ⟨r.filesChanged + 1, r.linksRecased + links, r.changes ++ [(file, links)]⟩

/-- How to run over a vault. -/
structure VaultRun where
  settings : Settings := .standard
  dryRun : Bool := false
  /-- Files that are left alone. -/
  excluded : List Location := []

/-- The ending of a Markdown file's name. -/
def markdownEnding : Text := ['.', 'm', 'd']

/-- A name of a Markdown file. -/
def isMarkdownName (name : Text) : Bool := markdownEnding.isSuffixOf name

/-- The notes below a vault, by the names on the way from it, in order. Listing them never fails: a
path is listed whatever its length as a whole, where `Tree.locate` would refuse it, and however deep
its directories are nested. -/
def Tree.notes (t : Tree) (vault : Location) : List Location :=
  if t.isDirectory vault then
    ((t.below vault).map (·.1)).filter fun names => isMarkdownName (names.getLast?.getD [])
  else []

/-- How far a run over a vault has come. -/
structure VaultState where
  tree : Tree
  report : Report := {}
  notices : List Notice := []

/-- One note of a vault recased, unless it is excluded. -/
def VaultState.visit (run : VaultRun) (vault : Location) (st : VaultState) (names : Location) :
    VaultState :=
  if run.excluded.contains (vault ++ names) then st
  else
    let file := Text.joinWith '/' names
    match st.tree.recaseNote run.settings run.dryRun (vault ++ names) with
    | (t, .error _) => { st with tree := t, notices := st.notices ++ [.skipped file] }
    | (t, .ok 0) => { st with tree := t }
    | (t, .ok (n + 1)) =>
      let notice := if run.dryRun then Notice.wouldRecase (n + 1) file else .recased (n + 1) file
      ⟨t, st.report.add file (n + 1), st.notices ++ [notice]⟩

/-- A run over a vault. The notes are listed before the first of them is recased. A note is read and
written where it is listed, by its location: only the length of a name is looked at, not that of its
whole path. -/
def Tree.recaseVault (run : VaultRun) (t : Tree) (vault : Location) : VaultState :=
  (t.notes vault).foldl (VaultState.visit run vault) ⟨t, {}, []⟩

end WikiCasing
