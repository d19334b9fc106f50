import WikiCasing.Storage.Replace

/-!
# What an operation does to a file tree

Two trees that hold the same at every location are the same to whoever looks at them, so each
operation is described by what `Tree.get?` says afterwards: the location that it is about, and every
other one as it was. A file that is replaced goes through a temporary file beside it. Where nothing
stood in its way, nothing is left of it (`replace_eq`), and so the replacement is seen at one
location only.
-/

namespace WikiCasing

/-- What is at a location is a directory. -/
def Entry.isDirectory : Entry → Bool
  | .file _ => false
  | .directory => true

namespace Tree

variable {t t' : Tree} {l m : Location}

@[simp] theorem get?_root (t : Tree) : t.get? [] = some .directory := rfl

theorem get?_of_ne_root (h : l ≠ []) : t.get? l = t.entries.lookup l := if_neg h

theorem ne_root_of_get? (h : t.get? l ≠ some .directory) : l ≠ [] := by
  rintro rfl
  exact h t.get?_root

theorem lookup_cons_eq (k : Location) (e : Entry) (entries : List (Location × Entry))
    (m : Location) :
    ((k, e) :: entries).lookup m = if m = k then some e else entries.lookup m := by
  rw [List.lookup_cons]
  by_cases h : m = k
  · simp [h]
  · rw [beq_false_of_ne h, if_neg h]

theorem lookup_filter_ne (entries : List (Location × Entry)) (l m : Location) :
    (entries.filter (·.1 != l)).lookup m = if m = l then none else entries.lookup m := by
  induction entries with
  | nil => simp
  | cons p entries ih =>
      obtain ⟨k, e⟩ := p
      rw [lookup_cons_eq, List.filter_cons]
      by_cases hk : k = l
      · subst hk
        rw [if_neg (by simp), ih]
        split <;> rfl
      · rw [if_pos (by simpa using hk), lookup_cons_eq, ih]
        by_cases hm : m = l
        · subst hm
          rw [if_pos rfl, if_pos rfl, if_neg (Ne.symm hk)]
        · rw [if_neg hm, if_neg hm]

theorem get?_erase (hl : l ≠ []) (m : Location) :
    (t.erase l).get? m = if m = l then none else t.get? m := by
  by_cases hm : m = []
  · subst hm
    rw [if_neg (Ne.symm hl)]
    rfl
  · rw [get?_of_ne_root hm, get?_of_ne_root hm]
    exact lookup_filter_ne t.entries l m

theorem get?_put (hl : l ≠ []) (e : Entry) (m : Location) :
    (t.put l e).get? m = if m = l then some e else t.get? m := by
  by_cases hm : m = []
  · subst hm
    rw [if_neg (Ne.symm hl)]
    rfl
  · have herase := get?_erase (t := t) hl m
    rw [get?_of_ne_root hm] at herase ⊢
    rw [put, lookup_cons_eq]
    by_cases hml : m = l
    · rw [if_pos hml, if_pos hml]
    · rw [if_neg hml] at herase ⊢
      rw [if_neg hml]
      exact herase

theorem read_eq_ok_iff {bytes : Bytes} : t.read l = .ok bytes ↔ t.get? l = some (.file bytes) := by
  unfold read
  split <;> simp_all

theorem write_eq_ok_iff {bytes : Bytes} :
    t.write l bytes = .ok t' ↔
      t.get? l ≠ some .directory ∧ l.fits = true ∧ t.put l (.file bytes) = t' := by
  unfold write
  split
  · simp_all
  · rename_i hdirectory
    split <;> simp_all

theorem rename_eq_ok_iff {source target : Location} :
    t.rename source target = .ok t' ↔
      ∃ bytes, t.get? source = some (.file bytes) ∧ t.get? target ≠ some .directory ∧
        (t.erase source).put target (.file bytes) = t' := by
  unfold rename
  cases hread : t.read source with
  | error e =>
      simp only [reduceCtorEq, false_iff]
      rintro ⟨bytes, hsource, -⟩
      rw [read_eq_ok_iff.mpr hsource] at hread
      exact absurd hread (by simp)
  | ok bytes =>
      rw [read_eq_ok_iff] at hread
      simp only [hread, Option.some.injEq, Entry.file.injEq, exists_eq_left']
      split <;> simp_all

theorem get?_of_rename {source target : Location} (h : t.rename source target = .ok t') :
    ∃ bytes, t.get? source = some (.file bytes) ∧ t.get? target ≠ some .directory ∧
      ∀ m, t'.get? m =
        if m = target then some (.file bytes) else if m = source then none else t.get? m := by
  obtain ⟨bytes, hsource, htarget, rfl⟩ := rename_eq_ok_iff.mp h
  refine ⟨bytes, hsource, htarget, fun m => ?_⟩
  have hroot : source ≠ [] := ne_root_of_get? (by rw [hsource]; simp)
  rw [get?_put (ne_root_of_get? htarget), get?_erase hroot]

/-! ## The shape of a tree -/

/-- Two trees have files at the same locations and directories at the same locations. -/
def SameShape (t t' : Tree) : Prop :=
  ∀ l, (t'.get? l).map Entry.isDirectory = (t.get? l).map Entry.isDirectory

namespace SameShape

theorem get?_eq_none_iff (h : t.SameShape t') (l : Location) :
    t'.get? l = none ↔ t.get? l = none := by
  rw [← Option.map_eq_none_iff, h l, Option.map_eq_none_iff]

theorem isDirectory_eq (h : t.SameShape t') (l : Location) :
    t'.isDirectory l = t.isDirectory l := by
  have hl := h l
  unfold isDirectory
  cases hget : t.get? l <;> cases hget' : t'.get? l <;> simp_all
  rename_i e e'
  cases e <;> cases e' <;> simp_all [Entry.isDirectory]

theorem exists_file (h : t.SameShape t') {bytes : Bytes} (hfile : t'.get? l = some (.file bytes)) :
    ∃ old, t.get? l = some (.file old) := by
  have hl := h l
  rw [hfile, eq_comm, Option.map_some, Option.map_eq_some_iff] at hl
  obtain ⟨e, he, hkind⟩ := hl
  cases e with
  | file old => exact ⟨old, he⟩
  | directory => exact absurd hkind (by simp [Entry.isDirectory])

end SameShape

end Tree

/-! ## Replacing a file -/

theorem Location.temporary_ne_root (l : Location) : l.temporary ≠ [] := by
  simp [temporary]

theorem length_temporaryName (name : Text) : (temporaryName name).length = name.length + 7 := by
  simp [temporaryName]

/-- A temporary file has a longer name than the file it stands in for. -/
theorem Location.temporary_ne {l : Location} (h : l ≠ []) : l.temporary ≠ l := by
  intro heq
  obtain ⟨dir, name, rfl⟩ : ∃ dir name, l = dir ++ [name] :=
    ⟨l.dropLast, l.getLast h, (List.dropLast_concat_getLast h).symm⟩
  have hname : temporaryName name = name := by
    simpa [temporary, parent] using heq
  have hlen := length_temporaryName name
  rw [hname] at hlen
  omega

namespace Tree

variable {t : Tree} {l : Location}

theorem replace_eq {old : Bytes} (bytes : Bytes) (hfile : t.get? l = some (.file old))
    (hfree : t.get? l.temporary = none) (hfits : l.temporary.fits = true) :
    ∃ t', t.replace l bytes = (t', .ok ()) ∧
      ∀ m, t'.get? m = if m = l then some (.file bytes) else t.get? m := by
  have hroot : l ≠ [] := ne_root_of_get? (by rw [hfile]; simp)
  have hwrite : t.write l.temporary bytes = .ok (t.put l.temporary (.file bytes)) :=
    write_eq_ok_iff.mpr ⟨by rw [hfree]; simp, hfits, rfl⟩
  have hput := get?_put (t := t) l.temporary_ne_root (.file bytes)
  have hrename := rename_eq_ok_iff.mpr ⟨bytes, by rw [hput, if_pos rfl],
    by rw [hput, if_neg (Location.temporary_ne hroot).symm, hfile]; simp, rfl⟩
  obtain ⟨bytes', hsource, -, hget⟩ := get?_of_rename hrename
  refine ⟨_, by rw [replace, hwrite]; dsimp only; rw [hrename], fun m => ?_⟩
  rw [hput, if_pos rfl] at hsource
  obtain rfl : bytes = bytes' := by simpa using hsource
  rw [hget m, hput m]
  by_cases hm : m = l.temporary
  · subst hm
    rw [if_neg (Location.temporary_ne hroot), if_pos rfl, if_neg (Location.temporary_ne hroot),
      hfree]
  · rw [if_neg hm, if_neg hm]

/-- A file that is replaced holds its old bytes or the new ones, also when the replacement fails. -/
theorem replace_old_or_new {old : Bytes} (bytes : Bytes) (hfile : t.get? l = some (.file old)) :
    (t.replace l bytes).1.get? l = some (.file old) ∨
      (t.replace l bytes).1.get? l = some (.file bytes) := by
  have hroot : l ≠ [] := ne_root_of_get? (by rw [hfile]; simp)
  unfold replace
  cases hwrite : t.write l.temporary bytes with
  | error e => exact Or.inl hfile
  | ok written =>
      obtain ⟨-, -, rfl⟩ := write_eq_ok_iff.mp hwrite
      have hput := get?_put (t := t) l.temporary_ne_root (.file bytes)
      dsimp only
      cases hrename : (t.put l.temporary (.file bytes)).rename l.temporary l with
      | error e =>
          -- the temporary file stays, beside the file
          refine Or.inl ?_
          dsimp only
          rw [hput, if_neg (Location.temporary_ne hroot).symm, hfile]
      | ok moved =>
          obtain ⟨bytes', hsource, -, hget⟩ := get?_of_rename hrename
          rw [hput, if_pos rfl] at hsource
          obtain rfl : bytes = bytes' := by simpa using hsource
          refine Or.inr ?_
          dsimp only
          rw [hget, if_pos rfl]

end Tree

end WikiCasing
