import Mathlib.Data.List.Find
import WikiCasing.Proofs.Storage.Paths
import WikiCasing.Proofs.Text.Utf8
import WikiCasing.Settings.Store

/-!
# The settings file as a register

Settings are saved and loaded while the environment names one home for them and then another, and
homes may stand within each other: the settings file of one may be in the way of another home, and
the other way round. Still each place that the settings file can have is a register
(`settings_register`). What carries this is that directories stay, so that a place once reached is
reached for good, and that a save, whatever becomes of it, touches no settings file but its own
(`saveAt_error`, `saveAt_ok`): the temporary file is named differently, and a directory is made only
where nothing is.
-/

namespace WikiCasing

/-- The name of the settings file. -/
def settingsName : Text := "data.json".toList

/-- Two trees hold the same settings files. -/
def Tree.SameSettingsFiles (t t' : Tree) : Prop :=
  ∀ l bytes, l.getLast? = some settingsName →
    (t'.get? l = some (.file bytes) ↔ t.get? l = some (.file bytes))

theorem toOption_eq_some_iff {ε α : Type} {x : Except ε α} {a : α} :
    x.toOption = some a ↔ x = .ok a := by
  cases x <;> simp [Except.toOption]

theorem Environment.getLast?_settingsPath {env : Environment} {p : Path}
    (h : env.settingsPath = .ok p) : p.parts.getLast? = some settingsName := by
  unfold Environment.settingsPath at h
  split at h
  · obtain rfl := Except.ok.inj h
    exact List.getLast?_concat
  · exact absurd h (by simp)

namespace Settings

variable {t t' : Tree} {env : Environment} {p : Path} {s : Settings}

/-! ## One save -/

theorem ofBytes_toText (s : Settings) : ofBytes (Utf8.encode s.toText) = .ok s := by
  rw [← toOption_eq_some_iff, ofBytes, Utf8.decode_encode]
  obtain ⟨flag⟩ := s
  cases flag <;> decide +kernel

section

variable (hname : p.parts.getLast? = some settingsName)

include hname

theorem saveAt_error {e : StoreError} (h : saveAt t env p s = (t', .error e)) :
    t.KeepsDirectories t' ∧ t.SameSettingsFiles t' := by
  have hmade := t.makeDirectories_spec env.workingDirectory p.parent p.parent.parts.length
  unfold saveAt at h
  split at h <;> rename_i t₁ _ hresult <;> rw [hresult] at hmade
  · obtain rfl := (Prod.mk.injEq .. ▸ h).1
    exact ⟨hmade.keepsDirectories, fun l bytes _ => hmade.get?_eq_file_iff l bytes⟩
  · split at h
    · obtain rfl := (Prod.mk.injEq .. ▸ h).1
      exact ⟨hmade.keepsDirectories, fun l bytes _ => hmade.get?_eq_file_iff l bytes⟩
    · split at h
      · simp at h
      · rename_i hreplace
        obtain rfl := (Prod.mk.injEq .. ▸ h).1
        obtain ⟨hkeeps, hget⟩ := Tree.replaceAt_error hname hreplace
        refine ⟨hmade.keepsDirectories.trans hkeeps, fun l bytes hl => ?_⟩
        rw [hget l (by rw [hl]; decide)]
        exact hmade.get?_eq_file_iff l bytes

/-- A save that succeeds puts the settings where the path leads, leaves no temporary file, and
leaves every other settings file as it was. -/
theorem saveAt_ok (h : saveAt t env p s = (t', .ok ())) :
    t.KeepsDirectories t' ∧ ∃ l, t'.locate env.workingDirectory p = .ok l ∧
      t'.get? l = some (.file (Utf8.encode s.toText)) ∧
      t'.locate env.workingDirectory p.temporary = .ok l.temporary ∧
      t'.get? l.temporary = none ∧
      ∀ m bytes, m ≠ l → m.getLast? = some settingsName →
        (t'.get? m = some (.file bytes) ↔ t.get? m = some (.file bytes)) := by
  have hmade := t.makeDirectories_spec env.workingDirectory p.parent p.parent.parts.length
  unfold saveAt at h
  split at h <;> rename_i t₁ _ hresult <;> rw [hresult] at hmade
  · simp at h
  · split at h
    · simp at h
    · split at h
      · rename_i hreplace
        obtain rfl := (Prod.mk.injEq .. ▸ h).1
        obtain ⟨hkeeps, l, hlocate, htemporary, hget⟩ :=
          Tree.replaceAt_ok hname (by decide) hreplace
        have hl : l.getLast? = some settingsName := by
          obtain ⟨d, -, rfl⟩ := Tree.exists_locate_eq hname (by decide) hlocate
          exact List.getLast?_concat
        have hne : ∀ m : Location, m.getLast? = some settingsName → m ≠ l.temporary := by
          rintro m hm rfl
          rw [Location.temporary, List.getLast?_concat, hl] at hm
          exact absurd hm (by decide)
        refine ⟨hmade.keepsDirectories.trans hkeeps, l, hlocate, ?_, htemporary, ?_, ?_⟩
        · rw [hget l, if_pos rfl]
        · rw [hget, if_neg (hne l hl).symm, if_pos rfl]
        · intro m bytes hml hm
          rw [hget m, if_neg hml, if_neg (hne m hm)]
          exact hmade.get?_eq_file_iff m bytes
      · simp at h

end

end Settings

namespace Store

variable {t t' : Tree} {env : Environment} {s : Settings}

theorem save_error {e : StoreError} (h : Store.save {} t env s = (t', .error e)) :
    t.KeepsDirectories t' ∧ t.SameSettingsFiles t' := by
  unfold save at h
  split at h
  · obtain rfl := (Prod.mk.injEq .. ▸ h).1
    exact ⟨.refl t, fun _ _ _ => Iff.rfl⟩
  · rename_i hpath
    exact Settings.saveAt_error (Environment.getLast?_settingsPath hpath) h

theorem save_ok (h : Store.save {} t env s = (t', .ok ())) :
    ∃ p, env.settingsPath = .ok p ∧ Settings.saveAt t env p s = (t', .ok ()) := by
  unfold save at h
  split at h
  · simp at h
  · rename_i p hpath
    exact ⟨p, hpath, h⟩

theorem load_of_file {p : Path} {l : Location} (hpath : env.settingsPath = .ok p)
    (hlocate : t.locate env.workingDirectory p = .ok l)
    (hfile : t.get? l = some (.file (Utf8.encode s.toText))) :
    Store.load {} t env = .ok (s, []) := by
  have hlook : t.look env.workingDirectory p = .ok (some (.file (Utf8.encode s.toText))) :=
    Tree.look_eq_some_iff.mpr ⟨l, hlocate, hfile⟩
  have hpath' : Store.path {} env = .ok p := hpath
  rw [load, hpath']
  dsimp only
  rw [Settings.loadAt, hlook]
  dsimp only
  rw [Settings.ofBytes_toText]

end Store

/-! ## Saves and loads, one after the other -/

/-- What happens to a settings store. -/
inductive StoreStep where
  /-- The environment chooses a home for settings, or chooses none. -/
  | choose (home? : Option Text)
  | save (s : Settings)
  | load
deriving DecidableEq, Repr

/-- How far the saves and loads have come: the file tree, the environment, and the saves that
succeeded, each with the path of the settings at the time, the latest first. -/
structure StoreRun where
  tree : Tree
  env : Environment
  saved : List (Path × Settings) := []

namespace StoreRun

/-- One step of a settings store that has no path of its own. -/
def step (r : StoreRun) : StoreStep → StoreRun
  | .choose home? => { r with env := { r.env with settingsHome? := home? } }
  | .save s =>
    match Store.save {} r.tree r.env s, r.env.settingsPath with
    | (t, .ok ()), .ok p => { r with tree := t, saved := (p, s) :: r.saved }
    | (t, _), _ => { r with tree := t }
  | .load => r

/-- The place that a path leads to, if it leads anywhere. -/
def place? (r : StoreRun) (p : Path) : Option Location :=
  (r.tree.locate r.env.workingDirectory p).toOption

/-- The settings of the latest save to a place. -/
def latest? (r : StoreRun) (l : Location) : Option Settings :=
  (r.saved.find? fun save => r.place? save.1 = some l).map (·.2)

/-- The settings files are what has been saved. -/
structure Consistent (r : StoreRun) : Prop where
  /-- Every save went to a settings file, and its path leads there still. -/
  placed : ∀ save ∈ r.saved, save.1.parts.getLast? = some settingsName ∧
    ∃ l, r.place? save.1 = some l
  holds : ∀ l bytes, l.getLast? = some settingsName →
    (r.tree.get? l = some (.file bytes) ↔ ∃ s, r.latest? l = some s ∧ bytes = Utf8.encode s.toText)

variable {r : StoreRun} {t' : Tree} {p : Path} {l : Location} {s : Settings}

theorem place?_eq_some_iff :
    r.place? p = some l ↔ r.tree.locate r.env.workingDirectory p = .ok l := toOption_eq_some_iff

theorem getLast?_of_place? (hname : p.parts.getLast? = some settingsName)
    (h : r.place? p = some l) : l.getLast? = some settingsName := by
  obtain ⟨d, -, rfl⟩ := Tree.exists_locate_eq hname (by decide) (place?_eq_some_iff.mp h)
  exact List.getLast?_concat

theorem place?_of_keepsDirectories (hkeeps : r.tree.KeepsDirectories t')
    (h : r.place? p = some l) : place? { r with tree := t' } p = some l :=
  place?_eq_some_iff.mpr (Tree.locate_of_keepsDirectories hkeeps (place?_eq_some_iff.mp h))

/-- As long as directories stay, no path of a save comes to lead to another place. -/
theorem Consistent.latest?_eq (h : r.Consistent) (hkeeps : r.tree.KeepsDirectories t')
    (l : Location) : latest? { r with tree := t' } l = r.latest? l := by
  have hplace : ∀ save ∈ r.saved, place? { r with tree := t' } save.1 = r.place? save.1 := by
    intro save hmem
    obtain ⟨-, l, hl⟩ := h.placed save hmem
    rw [hl, place?_of_keepsDirectories hkeeps hl]
  unfold latest?
  congr 1
  exact List.find?_congr fun save hmem => by rw [hplace save hmem]

theorem Consistent.of_failed_save (h : r.Consistent) (hkeeps : r.tree.KeepsDirectories t')
    (hsame : r.tree.SameSettingsFiles t') : Consistent { r with tree := t' } where
  placed save hmem := by
    obtain ⟨hname, l, hl⟩ := h.placed save hmem
    exact ⟨hname, l, place?_of_keepsDirectories hkeeps hl⟩
  holds l bytes hl := by
    rw [h.latest?_eq hkeeps]
    exact (hsame l bytes hl).trans (h.holds l bytes hl)

theorem Consistent.of_save (h : r.Consistent) (hpath : r.env.settingsPath = .ok p)
    (hsave : Settings.saveAt r.tree r.env p s = (t', .ok ())) :
    Consistent { r with tree := t', saved := (p, s) :: r.saved } := by
  have hname := Environment.getLast?_settingsPath hpath
  obtain ⟨hkeeps, l, hlocate, hfile, -, -, hother⟩ := Settings.saveAt_ok hname hsave
  have hplace : place? { r with tree := t', saved := (p, s) :: r.saved } p = some l :=
    place?_eq_some_iff.mpr hlocate
  -- the paths of earlier saves lead where they led, so only the latest at `l` is another
  have hlatest : ∀ m, latest? { r with tree := t', saved := (p, s) :: r.saved } m =
      if m = l then some s else r.latest? m := by
    intro m
    rw [← h.latest?_eq hkeeps, latest?, List.find?_cons, hplace]
    by_cases hm : m = l
    · simp [hm]
    · rw [if_neg hm, decide_eq_false (fun heq => hm (Option.some.inj heq).symm)]
      rfl
  constructor
  · intro save hmem
    rcases List.mem_cons.mp hmem with rfl | hmem
    · exact ⟨hname, l, hplace⟩
    · obtain ⟨hname', m, hm⟩ := h.placed save hmem
      exact ⟨hname', m, place?_of_keepsDirectories hkeeps hm⟩
  · intro m bytes hm
    rw [hlatest m]
    by_cases hml : m = l
    · subst hml
      simp [hfile, eq_comm]
    · rw [if_neg hml]
      exact (hother m bytes hml hm).trans (h.holds m bytes hm)

theorem step_save_cases (r : StoreRun) (s : Settings) :
    (∃ t' e, Store.save {} r.tree r.env s = (t', .error e) ∧
      r.step (.save s) = { r with tree := t' }) ∨
    ∃ t' p, r.env.settingsPath = .ok p ∧ Settings.saveAt r.tree r.env p s = (t', .ok ()) ∧
      r.step (.save s) = { r with tree := t', saved := (p, s) :: r.saved } := by
  obtain ⟨t', result, hsave⟩ : ∃ t' result, Store.save {} r.tree r.env s = (t', result) :=
    ⟨_, _, rfl⟩
  cases result with
  | error e => exact .inl ⟨t', e, hsave, by simp only [step, hsave]⟩
  | ok _ =>
      obtain ⟨p, hpath, hsaved⟩ := Store.save_ok hsave
      exact .inr ⟨t', p, hpath, hsaved, by simp only [step, hsave, hpath]⟩

theorem Consistent.step (h : r.Consistent) (a : StoreStep) : (r.step a).Consistent := by
  cases a with
  | choose home? => exact ⟨h.placed, h.holds⟩
  | load => exact h
  | save s =>
      obtain ⟨t', e, hsave, hstep⟩ | ⟨t', p, hpath, hsaved, hstep⟩ := r.step_save_cases s
      · obtain ⟨hkeeps, hsame⟩ := Store.save_error hsave
        exact hstep ▸ h.of_failed_save hkeeps hsame
      · exact hstep ▸ h.of_save hpath hsaved

theorem place?_step (a : StoreStep) (h : r.place? p = some l) : (r.step a).place? p = some l := by
  cases a with
  | choose home? => exact h
  | load => exact h
  | save s =>
      obtain ⟨t', e, hsave, hstep⟩ | ⟨t', p', hpath, hsaved, hstep⟩ := r.step_save_cases s
      · rw [hstep]
        exact place?_of_keepsDirectories (Store.save_error hsave).1 h
      · obtain ⟨hkeeps, -⟩ := Settings.saveAt_ok (Environment.getLast?_settingsPath hpath) hsaved
        rw [hstep]
        exact place?_of_keepsDirectories hkeeps h

theorem Consistent.load_eq (h : r.Consistent) {notices : List Notice}
    (hload : Store.load {} r.tree r.env = .ok (s, notices)) :
    notices = [] ∧ ∃ p, r.env.settingsPath = .ok p ∧
      s = ((r.place? p).bind r.latest?).getD .standard := by
  unfold Store.load at hload
  split at hload
  · exact absurd hload (by simp)
  rename_i p hpath
  have hname := Environment.getLast?_settingsPath hpath
  suffices hsame : notices = [] ∧ s = ((r.place? p).bind r.latest?).getD .standard from
    ⟨hsame.1, p, hpath, hsame.2⟩
  unfold Settings.loadAt at hload
  split at hload
  · exact absurd hload (by simp)
  · rename_i hlook
    obtain ⟨rfl, rfl⟩ := Prod.mk.injEq .. ▸ Except.ok.inj hload
    have hnone : (r.place? p).bind r.latest? = none := by
      rw [Option.bind_eq_none_iff]
      intro l hplace
      have hget := Option.bind_eq_none_iff.mp (Tree.bind_get?_of_look hlook) l hplace
      cases hlatest : r.latest? l with
      | none => rfl
      | some s =>
          have hfile := (h.holds l _ (getLast?_of_place? hname hplace)).mpr ⟨s, hlatest, rfl⟩
          exact absurd (hget.symm.trans hfile) (by simp)
    rw [hnone]
    exact ⟨rfl, rfl⟩
  · exact absurd hload (by simp)
  · rename_i bytes hlook
    obtain ⟨l, hplace, hfile⟩ := Option.bind_eq_some_iff.mp (Tree.bind_get?_of_look hlook)
    obtain ⟨s', hlatest, rfl⟩ := (h.holds l bytes (getLast?_of_place? hname hplace)).mp hfile
    rw [Settings.ofBytes_toText] at hload
    obtain ⟨rfl, rfl⟩ := Prod.mk.injEq .. ▸ Except.ok.inj hload
    have hplace' : r.place? p = some l := hplace
    rw [hplace', Option.bind_some, hlatest]
    exact ⟨rfl, rfl⟩

/-- Where something has been saved, a load does not fail. -/
theorem Consistent.load_of_latest? (h : r.Consistent) (hpath : r.env.settingsPath = .ok p)
    (hplace : r.place? p = some l) (hlatest : r.latest? l = some s) :
    Store.load {} r.tree r.env = .ok (s, []) := by
  have hname := Environment.getLast?_settingsPath hpath
  refine Store.load_of_file hpath (place?_eq_some_iff.mp hplace) ?_
  exact (h.holds l _ (getLast?_of_place? hname hplace)).mpr ⟨s, hlatest, rfl⟩

/-- Saves and loads one after the other. -/
def after (r : StoreRun) (steps : List StoreStep) : StoreRun := steps.foldl step r

theorem Consistent.after (h : r.Consistent) (steps : List StoreStep) :
    (r.after steps).Consistent := by
  induction steps generalizing r with
  | nil => exact h
  | cons a steps ih => exact ih (h.step a)

theorem place?_after (steps : List StoreStep) (h : r.place? p = some l) :
    (r.after steps).place? p = some l := by
  induction steps generalizing r with
  | nil => exact h
  | cons a steps ih => exact ih (place?_step a h)

theorem consistent_of_fresh {t : Tree}
    (h : ∀ l bytes, l.getLast? = some settingsName → t.get? l ≠ some (.file bytes))
    (env : Environment) : Consistent ⟨t, env, []⟩ where
  placed _ hmem := absurd hmem List.not_mem_nil
  holds l bytes hl := by
    simp [h l bytes hl, latest?]

/-- The settings file is a register at each place that it can have. Through any saves, loads and
changes of home, starting where there is no settings file, a load that succeeds gives the settings
of the latest save to where the path of the settings leads, the standard ones if there is none, and
complains of nothing. A save that fails leaves every settings file as it was. One that succeeds puts
the settings where the path leads, no temporary file is beside them, and the next load gives them;
and no load fails where something has been saved, whatever has been saved elsewhere since. The path
of a save leads somewhere, where a path leads it leads for good, and a path from the root without
two dots leads to the place that it spells. -/
theorem settings_register (t : Tree) (env : Environment) (steps : List StoreStep)
    (hfresh : ∀ l bytes, l.getLast? = some settingsName → t.get? l ≠ some (.file bytes)) :
    let r := after ⟨t, env, []⟩ steps
    (∀ s notices, Store.load {} r.tree r.env = .ok (s, notices) →
      notices = [] ∧ ∃ p, r.env.settingsPath = .ok p ∧
        s = ((r.place? p).bind r.latest?).getD .standard) ∧
    (∀ s t' e, Store.save {} r.tree r.env s = (t', .error e) → r.tree.SameSettingsFiles t') ∧
    (∀ s t', Store.save {} r.tree r.env s = (t', .ok ()) →
      ∃ p l, r.env.settingsPath = .ok p ∧ t'.locate r.env.workingDirectory p = .ok l ∧
        t'.get? l = some (.file (Utf8.encode s.toText)) ∧
        t'.locate r.env.workingDirectory p.temporary = .ok l.temporary ∧
        t'.get? l.temporary = none ∧ Store.load {} t' r.env = .ok (s, [])) ∧
    (∀ p l s, r.env.settingsPath = .ok p → r.place? p = some l → r.latest? l = some s →
      Store.load {} r.tree r.env = .ok (s, [])) ∧
    (∀ save ∈ r.saved, ∃ l, r.place? save.1 = some l) ∧
    (∀ p l, r.place? p = some l → ∀ more, (r.after more).place? p = some l) ∧
    (∀ p l, r.place? p = some l → p.isAbsolute = true → twoDots ∉ p.parts → l = p.parts) := by
  intro r
  have hconsistent : r.Consistent := (consistent_of_fresh hfresh env).after steps
  refine ⟨?_, ?_, ?_, ?_, ?_, ?_, ?_⟩
  · exact fun s notices hload => hconsistent.load_eq hload
  · exact fun s t' e hsave => (Store.save_error hsave).2
  · intro s t' hsave
    obtain ⟨p, hpath, hsaved⟩ := Store.save_ok hsave
    obtain ⟨-, l, hlocate, hfile, htemporary, hfree, -⟩ :=
      Settings.saveAt_ok (Environment.getLast?_settingsPath hpath) hsaved
    exact ⟨p, l, hpath, hlocate, hfile, htemporary, hfree,
      Store.load_of_file hpath hlocate hfile⟩
  · exact fun p l s hpath hplace hlatest => hconsistent.load_of_latest? hpath hplace hlatest
  · exact fun save hmem => (hconsistent.placed save hmem).2
  · exact fun p l hplace more => place?_after more hplace
  · exact fun p l hplace hroot hplain =>
      Tree.locate_eq_parts hroot hplain (place?_eq_some_iff.mp hplace)

/-- One home is chosen, then one that would have to stand where the settings file of the first is,
so that its save fails, then the first again. What has been saved there is loaded. -/
theorem settings_register_nested_homes :
    let t : Tree := ⟨[([['w']], .directory)]⟩
    let env : Environment := ⟨[['w']], "/w".toList, [], none⟩
    let r := after ⟨t, env, []⟩ [.choose (some ['a']), .save ⟨true⟩,
      .choose (some "a/data.json".toList), .save ⟨false⟩, .choose (some ['a'])]
    (∀ l bytes, l.getLast? = some settingsName → t.get? l ≠ some (.file bytes)) ∧
      Store.load {} r.tree r.env = .ok (⟨true⟩, []) ∧
      ∀ s notices, Store.load {} r.tree r.env = .ok (s, notices) → s = ⟨true⟩ := by
  intro t env r
  have hfresh : ∀ l bytes, l.getLast? = some settingsName → t.get? l ≠ some (.file bytes) := by
    intro l bytes _ hfile
    have hroot : l ≠ [] := Tree.ne_root_of_get? (by rw [hfile]; simp)
    rw [Tree.get?_of_ne_root hroot, Tree.lookup_cons_eq] at hfile
    split at hfile <;> simp at hfile
  have hlatest : (r.env.settingsPath.toOption.bind fun p => (r.place? p).bind r.latest?) =
      some ⟨true⟩ := by decide +kernel
  obtain ⟨-, -, -, hload, -⟩ := settings_register t env _ hfresh
  obtain ⟨p, hpath, hplaced⟩ := Option.bind_eq_some_iff.mp hlatest
  obtain ⟨l, hplace, hsaved⟩ := Option.bind_eq_some_iff.mp hplaced
  have hok : r.env.settingsPath = .ok p := toOption_eq_some_iff.mp hpath
  have hloaded : Store.load {} r.tree r.env = .ok (⟨true⟩, []) := hload p l _ hok hplace hsaved
  refine ⟨hfresh, hloaded, fun s notices h => ?_⟩
  rw [hloaded] at h
  exact (Prod.mk.inj (Except.ok.inj h)).1.symm

end StoreRun

end WikiCasing
