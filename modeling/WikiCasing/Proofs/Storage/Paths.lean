import Mathlib.Data.List.Basic
import WikiCasing.Proofs.Storage.Listing

/-!
# What operations at a path do to a file tree

No operation at a path takes a directory away. So where a path leads once, it leads for good
(`locate_of_keepsDirectories`), whatever is made, written or replaced in between; a path from the
root without two dots leads to the place that it spells (`locate_eq_parts`). Making directories
fills free locations only, also when it fails on the way (`makeDirectories_spec`). Replacing a file
at a path either fails, with the temporary file the only thing it may have left behind
(`replaceAt_error`), or puts the file where the path leads and takes the temporary file away
(`replaceAt_ok`). A path that leads to a file ends in a name (`WellFormed.exists_name_of_file`), and
such a file is replaced whenever the temporary one can be written (`exists_replaceAt_eq_ok`).
-/

namespace WikiCasing

namespace Tree

variable {t t' t'' : Tree} {home l m : Location} {p : Path} {name : Text} {bytes : Bytes}

/-! ## Directories that stay -/

/-- Every directory of a tree is one of another. -/
def KeepsDirectories (t t' : Tree) : Prop :=
  ∀ l, t.get? l = some .directory → t'.get? l = some .directory

namespace KeepsDirectories

theorem refl (t : Tree) : t.KeepsDirectories t := fun _ h => h

theorem trans (h : t.KeepsDirectories t') (h' : t'.KeepsDirectories t'') : t.KeepsDirectories t'' :=
  fun l hl => h' l (h l hl)

end KeepsDirectories

theorem walk_of_keepsDirectories (h : t.KeepsDirectories t') {names : List Text}
    (hwalk : t.walk l names = .ok m) : t'.walk l names = .ok m := by
  induction names generalizing l with
  | nil => exact hwalk
  | cons name names ih =>
      rw [walk] at hwalk ⊢
      split at hwalk
      · rename_i hdots
        rw [if_pos hdots]
        exact ih hwalk
      · rename_i hdots
        rw [if_neg hdots]
        split at hwalk
        · exact absurd hwalk (by simp)
        · rename_i hfits
          rw [if_neg hfits]
          split at hwalk
          · rename_i hdirectory
            rw [h _ hdirectory]
            exact ih hwalk
          · exact absurd hwalk (by simp)
          · exact absurd hwalk (by simp)

theorem locate_eq_ok_iff (hname : p.parts.getLast? = some name) (hdots : name ≠ twoDots) :
    t.locate home p = .ok l ↔ p.refusal? = none ∧ nameFits name = true ∧
      ∃ d, t.walk (p.origin home) p.parts.dropLast = .ok d ∧ l = d ++ [name] := by
  rw [locate, hname]
  cases p.refusal? with
  | some e => simp
  | none =>
      cases t.walk (p.origin home) p.parts.dropLast with
      | error e => simp
      | ok d =>
          dsimp only
          rw [if_neg hdots]
          split
          · rename_i hfits
            simp only [hfits, Except.ok.injEq, true_and, exists_eq_left', eq_comm (a := l)]
          · rename_i hfits
            simp [hfits]

theorem locate_of_keepsDirectories (h : t.KeepsDirectories t') (hlocate : t.locate home p = .ok l) :
    t'.locate home p = .ok l := by
  unfold locate at hlocate ⊢
  split at hlocate
  · exact absurd hlocate (by simp)
  · exact absurd hlocate (by simp)
  · rename_i hrefusal hwalk
    rw [hrefusal, walk_of_keepsDirectories h hwalk]
    exact hlocate

theorem walk_eq_append {names : List Text} (hplain : twoDots ∉ names)
    (hwalk : t.walk l names = .ok m) : m = l ++ names := by
  induction names generalizing l with
  | nil => simpa [walk, eq_comm] using hwalk
  | cons name names ih =>
      rw [List.mem_cons, not_or] at hplain
      obtain ⟨hname, hnames⟩ := hplain
      rw [walk, if_neg (Ne.symm hname)] at hwalk
      split at hwalk
      · exact absurd hwalk (by simp)
      · split at hwalk
        · rw [ih hnames hwalk, List.append_assoc]
          rfl
        · exact absurd hwalk (by simp)
        · exact absurd hwalk (by simp)

/-- A path from the root without two dots leads to the place that it spells. -/
theorem locate_eq_parts (hroot : p.isAbsolute = true) (hplain : twoDots ∉ p.parts)
    (hlocate : t.locate home p = .ok l) : l = p.parts := by
  unfold locate at hlocate
  split at hlocate
  · exact absurd hlocate (by simp)
  · exact absurd hlocate (by simp)
  · rename_i d hrefusal hwalk
    rw [Path.origin, if_pos hroot] at hwalk
    obtain rfl := walk_eq_append (fun hmem => hplain ((List.dropLast_sublist _).subset hmem)) hwalk
    split at hlocate
    · rename_i hnone
      rw [List.getLast?_eq_none_iff.mp hnone] at hlocate ⊢
      simpa [eq_comm] using hlocate
    · rename_i name hname
      have hdots : name ≠ twoDots := fun heq => hplain (heq ▸ List.mem_of_getLast? hname)
      rw [if_neg hdots] at hlocate
      split at hlocate
      · rw [← Except.ok.inj hlocate, List.nil_append]
        exact List.dropLast_append_getLast? name hname
      · exact absurd hlocate (by simp)

theorem onPath_eq_ok_iff {α : Type} {operation : Location → Except FileError α} {a : α} :
    t.onPath home p operation = .ok a ↔ ∃ l, t.locate home p = .ok l ∧ operation l = .ok a := by
  unfold onPath
  split <;> simp_all

theorem bind_get?_of_look {found : Option Entry} (h : t.look home p = .ok found) :
    (t.locate home p).toOption.bind t.get? = found := by
  unfold look at h
  split at h <;> rename_i hlocate
  · rw [hlocate]
    exact Except.ok.inj h
  · exact absurd h (by simp)
  · rw [hlocate]
    exact Except.ok.inj h

theorem look_eq_some_iff {e : Entry} :
    t.look home p = .ok (some e) ↔ ∃ l, t.locate home p = .ok l ∧ t.get? l = some e := by
  unfold look
  split <;> rename_i hlocate <;> simp [hlocate]

/-! ## Directories that are made -/

/-- A tree has new directories where another has nothing, and is the same elsewhere. -/
def AddsDirectories (t t' : Tree) : Prop :=
  ∀ m, t'.get? m = t.get? m ∨ t.get? m = none ∧ t'.get? m = some .directory

namespace AddsDirectories

theorem refl (t : Tree) : t.AddsDirectories t := fun _ => .inl rfl

theorem trans (h : t.AddsDirectories t') (h' : t'.AddsDirectories t'') : t.AddsDirectories t'' := by
  intro m
  rcases h m with hm | ⟨hnone, hnew⟩ <;> rcases h' m with hm' | ⟨hnone', hnew'⟩
  · exact .inl (hm'.trans hm)
  · exact .inr ⟨hm.symm.trans hnone', hnew'⟩
  · exact .inr ⟨hnone, hm'.trans hnew⟩
  · exact .inr ⟨hnone, hnew'⟩

theorem keepsDirectories (h : t.AddsDirectories t') : t.KeepsDirectories t' := by
  intro m hm
  rcases h m with heq | ⟨hnone, -⟩
  · exact heq.trans hm
  · exact absurd (hm.symm.trans hnone) (by simp)

theorem get?_eq_file_iff (h : t.AddsDirectories t') (m : Location) (bytes : Bytes) :
    t'.get? m = some (.file bytes) ↔ t.get? m = some (.file bytes) := by
  rcases h m with heq | ⟨hnone, hnew⟩
  · rw [heq]
  · simp [hnone, hnew]

end AddsDirectories

theorem makeDirectory_addsDirectories (h : t.makeDirectory l = .ok t') : t.AddsDirectories t' := by
  unfold makeDirectory at h
  split at h
  · exact absurd h (by simp)
  · rename_i hnone
    obtain rfl : t.put l .directory = t' := by simpa using h
    intro m
    rw [get?_put (ne_root_of_get? (by rw [hnone]; simp))]
    split
    · rename_i hm
      exact .inr ⟨hm ▸ hnone, rfl⟩
    · exact .inl rfl

theorem onPath_makeDirectory_addsDirectories (h : t.onPath home p t.makeDirectory = .ok t') :
    t.AddsDirectories t' := by
  obtain ⟨l, -, hmade⟩ := onPath_eq_ok_iff.mp h
  exact makeDirectory_addsDirectories hmade

theorem makeDirectories_spec (t : Tree) (home : Location) (p : Path) (depth : Nat) :
    t.AddsDirectories (t.makeDirectories home p depth).1 := by
  induction depth generalizing t p with
  | zero => exact .refl t
  | succ depth ih =>
      rw [makeDirectories]
      dsimp only
      split
      · have habove := ih t p.parent
        split <;> rename_i hresult <;> rw [hresult] at habove
        · refine habove.trans ?_
          split
          · exact onPath_makeDirectory_addsDirectories ‹_›
          · split <;> exact .refl _
        · exact habove
      · split
        · exact onPath_makeDirectory_addsDirectories ‹_›
        · split <;> exact .refl _

/-! ## Files that are replaced -/

theorem keepsDirectories_put (hl : t.get? l ≠ some .directory) (bytes : Bytes) :
    t.KeepsDirectories (t.put l (.file bytes)) := by
  intro m hm
  rw [get?_put (ne_root_of_get? hl), if_neg]
  · exact hm
  · rintro rfl
    exact hl hm

theorem keepsDirectories_rename {source target : Location} (h : t.rename source target = .ok t') :
    t.KeepsDirectories t' := by
  obtain ⟨bytes, hsource, htarget, hget⟩ := get?_of_rename h
  intro m hm
  rw [hget m, if_neg, if_neg]
  · exact hm
  · rintro rfl
    simp [hsource] at hm
  · rintro rfl
    exact htarget hm

section

variable (hname : p.parts.getLast? = some name)

include hname

theorem parts_temporary : p.temporary.parts = p.parts.dropLast ++ [temporaryName name] := by
  rw [Path.temporary, Path.name, hname]
  rfl

theorem exists_locate_eq (hdots : name ≠ twoDots) (h : t.locate home p = .ok l) :
    ∃ d, t.walk (p.origin home) p.parts.dropLast = .ok d ∧ l = d ++ [name] :=
  ((locate_eq_ok_iff hname hdots).mp h).2.2

theorem exists_locate_temporary_eq (h : t.locate home p.temporary = .ok l) :
    ∃ d, t.walk (p.origin home) p.parts.dropLast = .ok d ∧ l = d ++ [temporaryName name] := by
  have hparts := parts_temporary hname
  have hlast : p.temporary.parts.getLast? = some (temporaryName name) := by
    rw [hparts, List.getLast?_concat]
  have hlong : temporaryName name ≠ twoDots := by
    intro heq
    have hlen := length_temporaryName name
    rw [heq] at hlen
    exact absurd hlen (by simp [twoDots])
  have hwhere := exists_locate_eq hlast hlong h
  rwa [hparts, List.dropLast_concat] at hwhere

theorem writeTemporary_spec
    (h : (t.onPath home p.temporary fun l => t.write l bytes) = .ok t') :
    t.KeepsDirectories t' ∧ ∃ d, t'.walk (p.origin home) p.parts.dropLast = .ok d ∧
      t'.locate home p.temporary = .ok (d ++ [temporaryName name]) ∧
      ∀ m, t'.get? m =
        if m = d ++ [temporaryName name] then some (.file bytes) else t.get? m := by
  obtain ⟨l, hlocate, hwrite⟩ := onPath_eq_ok_iff.mp h
  obtain ⟨hdirectory, -, rfl⟩ := write_eq_ok_iff.mp hwrite
  have hkeeps := keepsDirectories_put hdirectory bytes
  obtain ⟨d, hwalk, rfl⟩ := exists_locate_temporary_eq hname hlocate
  exact ⟨hkeeps, d, walk_of_keepsDirectories hkeeps hwalk,
    locate_of_keepsDirectories hkeeps hlocate, get?_put (ne_root_of_get? hdirectory) _⟩

theorem replaceAt_error {f : FileFailure} (h : t.replaceAt home p bytes = (t', .error f)) :
    t.KeepsDirectories t' ∧
      ∀ m, m.getLast? ≠ some (temporaryName name) → t'.get? m = t.get? m := by
  unfold replaceAt at h
  split at h
  · obtain ⟨rfl, -⟩ := Prod.mk.injEq .. ▸ h
    exact ⟨.refl t, fun _ _ => rfl⟩
  · rename_i t₁ hwrite
    obtain ⟨hkeeps, d, -, -, hget⟩ := writeTemporary_spec hname hwrite
    have htree : t₁ = t' := by
      split at h
      · split at h
        · simp at h
        · exact (Prod.mk.injEq .. ▸ h).1
      · exact (Prod.mk.injEq .. ▸ h).1
      · exact (Prod.mk.injEq .. ▸ h).1
    subst htree
    refine ⟨hkeeps, fun m hm => ?_⟩
    rw [hget m, if_neg]
    rintro rfl
    exact hm List.getLast?_concat

theorem replaceAt_ok (hdots : name ≠ twoDots) (h : t.replaceAt home p bytes = (t', .ok ())) :
    t.KeepsDirectories t' ∧ ∃ l, t'.locate home p = .ok l ∧
      t'.locate home p.temporary = .ok l.temporary ∧
      ∀ m, t'.get? m =
        if m = l then some (.file bytes) else if m = l.temporary then none else t.get? m := by
  unfold replaceAt at h
  split at h
  · simp at h
  rename_i t₁ hwrite
  obtain ⟨hkeeps, d, hwalk, hlocate, hget⟩ := writeTemporary_spec hname hwrite
  rw [hlocate] at h
  split at h
  · rename_i source target hsource htarget
    -- both names are in the directory that the way to the file leads to
    obtain ⟨d', hwalk', rfl⟩ := exists_locate_eq hname hdots htarget
    obtain rfl : d = d' := by simpa [hwalk] using hwalk'
    obtain rfl : d ++ [temporaryName name] = source := by simpa using hsource
    have hlast : p.name ≠ twoDots := by rwa [Path.name, hname]
    rw [if_neg hlast] at h
    split at h
    · rename_i hrename
      obtain rfl := (Prod.mk.injEq .. ▸ h).1
      have hkeeps' := keepsDirectories_rename hrename
      have htemporary : Location.temporary (d ++ [name]) = d ++ [temporaryName name] := by
        simp [Location.temporary, Location.parent]
      obtain ⟨bytes', hsource, -, hget'⟩ := get?_of_rename hrename
      obtain rfl : bytes = bytes' := by simpa [hget] using hsource
      refine ⟨hkeeps.trans hkeeps', d ++ [name], locate_of_keepsDirectories hkeeps' htarget, ?_, ?_⟩
      · rw [htemporary]
        exact locate_of_keepsDirectories hkeeps' hlocate
      · intro m
        rw [hget' m, hget m, htemporary]
        split <;> simp_all
    · simp at h
  · simp at h
  · simp at h

theorem exists_replaceAt_eq_ok {old : Bytes} (hdots : name ≠ twoDots)
    (hlocate : t.locate home p = .ok l) (hfile : t.get? l = some (.file old))
    (hwrite : (t.onPath home p.temporary fun l => t.write l bytes) = .ok t') :
    ∃ t'', t.replaceAt home p bytes = (t'', .ok ()) := by
  obtain ⟨hkeeps, d, -, hsource, hget⟩ := writeTemporary_spec hname hwrite
  have htarget : t'.get? l ≠ some .directory := by
    rw [hget l]
    split
    · simp
    · simp [hfile]
  have hrename := rename_eq_ok_iff.mpr
    ⟨bytes, (hget (d ++ [temporaryName name])).trans (if_pos rfl), htarget, rfl⟩
  have hlast : p.name ≠ twoDots := by rwa [Path.name, hname]
  refine ⟨(t'.erase (d ++ [temporaryName name])).put l (.file bytes), ?_⟩
  rw [replaceAt, hwrite]
  dsimp only
  rw [hsource, locate_of_keepsDirectories hkeeps hlocate]
  dsimp only
  rw [if_neg hlast, hrename]

end

/-! ## Paths that lead to files -/

theorem WellFormed.isDirectory_of_walk (hwf : t.WellFormed) {names : List Text}
    (hl : t.isDirectory l = true) (hwalk : t.walk l names = .ok m) : t.isDirectory m = true := by
  induction names generalizing l with
  | nil =>
      obtain rfl : l = m := by simpa [walk] using hwalk
      exact hl
  | cons name names ih =>
      rw [walk] at hwalk
      split at hwalk
      · refine ih (hwf.housed l ?_) hwalk
        rw [of_decide_eq_true hl]
        simp
      · split at hwalk
        · exact absurd hwalk (by simp)
        · split at hwalk
          · rename_i hdirectory
            exact ih (decide_eq_true hdirectory) hwalk
          · exact absurd hwalk (by simp)
          · exact absurd hwalk (by simp)

theorem WellFormed.exists_name_of_file (hwf : t.WellFormed) (hhome : t.isDirectory home = true)
    (hlocate : t.locate home p = .ok l) (hfile : t.get? l = some (.file bytes)) :
    ∃ name, p.parts.getLast? = some name ∧ name ≠ twoDots := by
  have hno : t.isDirectory l ≠ true := by simp [isDirectory, hfile]
  have horigin : t.isDirectory (p.origin home) = true := by
    unfold Path.origin
    split
    · rfl
    · exact hhome
  unfold locate at hlocate
  split at hlocate
  · exact absurd hlocate (by simp)
  · exact absurd hlocate (by simp)
  · rename_i d hrefusal hwalk
    have hd := hwf.isDirectory_of_walk horigin hwalk
    split at hlocate
    · obtain rfl := Except.ok.inj hlocate
      exact absurd hd hno
    · rename_i name hname
      refine ⟨name, hname, fun hdots => ?_⟩
      rw [if_pos hdots] at hlocate
      obtain rfl := Except.ok.inj hlocate
      have habove : t.isDirectory d.parent = true := by
        refine hwf.housed d ?_
        rw [of_decide_eq_true hd]
        simp
      exact hno habove

section

variable {old : Bytes}

/-- A file that a path leads to is still there, as it was, if it could not be replaced. -/
theorem WellFormed.look_of_replaceAt_error {f : FileFailure} (hwf : t.WellFormed)
    (hhome : t.isDirectory home = true) (hlook : t.look home p = .ok (some (.file old)))
    (h : t.replaceAt home p bytes = (t', .error f)) :
    t'.look home p = .ok (some (.file old)) := by
  obtain ⟨l, hlocate, hfile⟩ := look_eq_some_iff.mp hlook
  obtain ⟨name, hname, hdots⟩ := hwf.exists_name_of_file hhome hlocate hfile
  obtain ⟨hkeeps, hget⟩ := replaceAt_error hname h
  obtain ⟨d, -, rfl⟩ := exists_locate_eq hname hdots hlocate
  refine look_eq_some_iff.mpr ⟨_, locate_of_keepsDirectories hkeeps hlocate, ?_⟩
  rw [hget, hfile]
  rw [List.getLast?_concat, ne_eq, Option.some.injEq]
  intro heq
  have hlen := length_temporaryName name
  rw [← heq] at hlen
  omega

/-- A file that a path leads to is replaced if its temporary file can be written, and nothing else
changes, but that the temporary file is gone. -/
theorem WellFormed.exists_replaceAt_of_look (hwf : t.WellFormed)
    (hhome : t.isDirectory home = true) (hlook : t.look home p = .ok (some (.file old)))
    (hwrite : (t.onPath home p.temporary fun l => t.write l bytes) = .ok t') :
    ∃ t'' l, t.replaceAt home p bytes = (t'', .ok ()) ∧ t.locate home p = .ok l ∧
      t''.locate home p = .ok l ∧ ∀ m, t''.get? m =
        if m = l then some (.file bytes) else if m = l.temporary then none else t.get? m := by
  obtain ⟨l, hlocate, hfile⟩ := look_eq_some_iff.mp hlook
  obtain ⟨name, hname, hdots⟩ := hwf.exists_name_of_file hhome hlocate hfile
  obtain ⟨t'', hreplace⟩ := exists_replaceAt_eq_ok hname hdots hlocate hfile hwrite
  obtain ⟨hkeeps, l', hlocate', -, hget⟩ := replaceAt_ok hname hdots hreplace
  have hsame := locate_of_keepsDirectories hkeeps hlocate
  obtain rfl : l = l' := Except.ok.inj (hsame.symm.trans hlocate')
  exact ⟨t'', l, hreplace, hlocate, hlocate', hget⟩

end

end Tree

end WikiCasing
