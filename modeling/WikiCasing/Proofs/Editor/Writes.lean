import WikiCasing.Proofs.Editor.Notification

/-!
# The writes that a change causes

The writes in a nest of notifications form one chain: each replaces the text that the one before
it has put in place, by the recasing of that text under the settings of the controller that writes,
and never by the same text (`Told.writeRun`). Since such a step uses up a backslash, the chain is no
longer than the changed text has backslashes. A controller that is told of its own write does
nothing about it (`Told.writes_eq_nil`), so one that is alone and told once writes once at most.
-/

namespace WikiCasing

theorem count_backslash_recase_lt {s : Settings} {t : Text} (h : recase s t ≠ t) :
    (recase s t).count '\\' < t.count '\\' := by
  have hcost := count_backslash_recaseForms s Form.all t
  rw [← recaseCounted] at hcost
  rw [Ne, recase_eq_iff_count] at h
  rw [recase]
  omega

namespace Editor

variable {e e' : Editor} {i : Nat} {p : Plan} {ls : List Listener} {ws ws' : List Write}
  {out : Outcome Unit} {t u v : Text} {ss : List Settings}

/-! ## Chains of writes -/

/-- Some writes lead from a text to another, each replacing what the one before it has put in
place. -/
def Linked : Text → List Write → Text → Prop
  | t, [], u => t = u
  | t, w :: ws, u => w.before = t ∧ Linked w.after ws u

theorem Linked.append (h : Linked t ws u) (h' : Linked u ws' v) : Linked t (ws ++ ws') v := by
  induction ws generalizing t with
  | nil =>
      cases h
      exact h'
  | cons w ws ih => exact ⟨h.1, ih h.2⟩

/-- A write replaces a text by its recasing under the settings of the controller, which is another
text. -/
def Write.Recases (ss : List Settings) (w : Write) : Prop :=
  ∃ s, ss[w.controller]? = some s ∧ w.after = recase s w.before ∧ w.after ≠ w.before

theorem Linked.length_le (h : Linked t ws u) (hws : ∀ w ∈ ws, w.Recases ss) :
    ws.length + u.count '\\' ≤ t.count '\\' := by
  induction ws generalizing t with
  | nil =>
      cases h
      simp
  | cons w ws ih =>
      obtain ⟨rfl, hrest⟩ := h
      obtain ⟨s, -, hafter, hne⟩ := hws w List.mem_cons_self
      have hlater := ih hrest (fun w hw => hws w (List.mem_cons_of_mem _ hw))
      have hless : w.after.count '\\' < w.before.count '\\' := by
        rw [hafter] at hne ⊢
        exact count_backslash_recase_lt hne
      rw [List.length_cons]
      omega

/-- What becomes of an editor by a chain of writes of its controllers. -/
structure WriteRun (e : Editor) (ws : List Write) (e' : Editor) : Prop where
  linked : Linked e.text ws e'.text
  recases : ∀ w ∈ ws, w.Recases e.settings
  writes_eq : e'.writes = e.writes + ws.length

theorem WriteRun.refl (e : Editor) : WriteRun e [] e :=
  ⟨rfl, fun _ hw => absurd hw List.not_mem_nil, rfl⟩

theorem WriteRun.trans {e'' : Editor} (h : WriteRun e ws e') (h' : WriteRun e' ws' e'')
    (hsettings : e'.settings = e.settings) : WriteRun e (ws ++ ws') e'' where
  linked := h.linked.append h'.linked
  recases := by
    intro w hw
    rcases List.mem_append.mp hw with hw | hw
    · exact h.recases w hw
    · rw [← hsettings]
      exact h'.recases w hw
  writes_eq := by
    rw [h'.writes_eq, h.writes_eq, List.length_append, Nat.add_assoc]

theorem Heeds.writeRun_beginWrite {c : Controller} (h : e.Heeds i c)
    (hchanged : (c.planFor e).changed = true) :
    WriteRun e [⟨i, e.text, (c.planFor e).text⟩] (e.beginWrite i (c.planFor e)) where
  linked := ⟨rfl, rfl⟩
  recases := by
    intro w hw
    obtain rfl := List.mem_singleton.mp hw
    refine ⟨c.settings, ?_, c.text_planFor e, ?_⟩
    · rw [settings, List.getElem?_map, h.controller_eq, Option.map_some]
    · dsimp only
      rw [c.text_planFor e]
      exact Controller.changed_planFor.mp hchanged
  writes_eq := rfl

theorem writeRun_endWrite (h : WriteRun e ws e') (i : Nat) (p : Plan) :
    WriteRun e ws (e'.endWrite i p) := by
  unfold endWrite
  split
  · exact ⟨h.linked, h.recases, h.writes_eq⟩
  · exact ⟨h.linked, h.recases, h.writes_eq⟩

/-- The writes in a nest of notifications are a chain of recasings. -/
theorem Told.writeRun (h : Told ls e ws out) : WriteRun e ws out.1 := by
  induction h with
  | done => exact WriteRun.refl _
  | recorder _ ih => exact ⟨ih.linked, ih.recases, ih.writes_eq⟩
  | passing _ _ ih => exact ⟨ih.linked, ih.recases, ih.writes_eq⟩
  | failing => exact ⟨rfl, fun _ hw => absurd hw List.not_mem_nil, rfl⟩
  | ignored _ _ ih => exact ih
  | @unchanged i c _ e _ _ _ _ _ ih =>
      have hnoted : WriteRun e [] (e.noted i (c.planFor e)) :=
        ⟨rfl, fun _ hw => absurd hw List.not_mem_nil, rfl⟩
      exact hnoted.trans ih (kept_noted e i _).settings_eq
  | @wrote i c _ e _ _ _ _ hi hchanged hwrite _ ihwrite ih =>
      have hwritten := (hi.writeRun_beginWrite hchanged).trans ihwrite
        (settings_beginWrite e i (c.planFor e))
      exact (writeRun_endWrite hwritten i _).trans ih (hi.kept_endWrite hwrite.kept).settings_eq
  | @broken i c _ e _ _ _ hi hchanged _ ihwrite =>
      have hwritten := (hi.writeRun_beginWrite hchanged).trans ihwrite
        (settings_beginWrite e i (c.planFor e))
      exact ⟨hwritten.linked, hwritten.recases, hwritten.writes_eq⟩

theorem WriteRun.length_le (h : WriteRun e ws e') : ws.length ≤ e.text.count '\\' := by
  have hcost := h.linked.length_le h.recases
  omega

/-! ## Controllers told of their own writes -/

theorem Told.writes_eq_nil (h : Told ls e ws out)
    (hls : ∀ i, .controller i ∈ ls → e.Ignores i) : ws = [] := by
  induction h with
  | done => rfl
  | recorder _ ih => exact ih (fun i hi => hls i (List.mem_cons_of_mem _ hi))
  | passing _ _ ih => exact ih (fun i hi => hls i (List.mem_cons_of_mem _ hi))
  | failing => rfl
  | ignored _ _ ih => exact ih (fun i hi => hls i (List.mem_cons_of_mem _ hi))
  | unchanged hi => exact absurd (hls _ List.mem_cons_self) hi.not_ignores
  | wrote hi => exact absurd (hls _ List.mem_cons_self) hi.not_ignores
  | broken hi => exact absurd (hls _ List.mem_cons_self) hi.not_ignores

/-- A controller told once, and no other listening, writes once if recasing changes the text, and
not at all otherwise, however often it listens. -/
theorem Told.writes_of_only {c : Controller} (h : Told [.controller i] e ws out)
    (hi : e.Heeds i c) (honly : ∀ j, .controller j ∈ e.listeners → j = i) :
    ws = if recase c.settings e.text = e.text then []
      else [⟨i, e.text, recase c.settings e.text⟩] := by
  have hnested : ∀ {ws : List Write} {out : Outcome Unit} (p : Plan),
      Told e.listeners (e.beginWrite i p) ws out → ws = [] := by
    intro ws out p h
    refine h.writes_eq_nil (fun j hj => ?_)
    rw [honly j hj]
    exact ignores_beginWrite e i p
  cases h with
  | ignored hignores => exact absurd hignores hi.not_ignores
  | unchanged hi' hsame hrest =>
      obtain rfl := hi.controller_unique hi'
      cases hrest
      have hsame : ¬ recase c.settings e.text ≠ e.text := by
        rw [← Controller.changed_planFor, hsame]
        exact Bool.false_ne_true
      rw [if_pos (not_not.mp hsame)]
  | wrote hi' hchanged hwrite hrest =>
      obtain rfl := hi.controller_unique hi'
      cases hrest
      rw [if_neg (Controller.changed_planFor.mp hchanged), hnested _ hwrite, c.text_planFor]
      rfl
  | broken hi' hchanged hwrite =>
      obtain rfl := hi.controller_unique hi'
      rw [if_neg (Controller.changed_planFor.mp hchanged), hnested _ hwrite, c.text_planFor]

theorem Told.length_le_one (h : Told [.controller i] e ws out)
    (honly : ∀ j, .controller j ∈ e.listeners → j = i) : ws.length ≤ 1 := by
  rcases e.ignores_or_heeds i with hi | ⟨c, hi⟩
  · have hnil := h.writes_eq_nil (fun j hj => by
      obtain rfl := Listener.controller.inj (List.mem_singleton.mp hj)
      exact hi)
    rw [hnil]
    exact Nat.zero_le 1
  · rw [h.writes_of_only hi honly]
    split
    · exact Nat.zero_le 1
    · exact Nat.le_refl 1

/-! ## Changes from outside -/

/-- A change made to an editor from outside: a character typed, or the text replaced. -/
inductive Change where
  | typed (c : Char)
  | replaced (t : Text)

namespace Change

/-- The editor as its listeners find it when they are told of the change. -/
def made : Change → Editor → Editor
  | typed c, e => e.insert [c]
  | replaced t, e => e.replaced t

/-- The change made, and what comes of telling the listeners. -/
def perform : Change → Editor → Outcome Unit
  | typed c, e => e.type [c]
  | replaced t, e => e.setText t

theorem listeners_made (change : Change) (e : Editor) :
    (change.made e).listeners = e.listeners := by
  cases change <;> rfl

theorem settings_made (change : Change) (e : Editor) :
    (change.made e).settings = e.settings := by
  cases change <;> rfl

theorem perform_eq (change : Change) (he : e.kind = .announcing) :
    change.perform e = (change.made e).notify := by
  cases change with
  | typed c =>
      rw [perform, type_cons, made]
      cases (e.insert [c]).notify with
      | mk e' result => cases result <;> rfl
  | replaced t =>
      have hloud : ¬ (e.kind = .quiet ∧ t = e.text) := by
        rw [he]
        exact fun h => absurd h.1 (by decide)
      rw [perform, setText, replaceText_eq, if_neg hloud]
      rfl

end Change

/-- A change of an editor to which controllers listen, whatever their settings, however often each
of them listens and whoever holds their guards: telling the listeners comes to an end without a
bound on the depth of notifications, in one way only, and it is the outcome of the change. The
writes that the controllers make until then are a chain of recasings of the changed text, each
under the settings of the controller that writes and each to another text; there are at most as many
as the changed text has backslashes, and one at most if a single controller listens, and once. -/
theorem notifications_end (he : e.kind = .announcing)
    (hls : ∀ l ∈ e.listeners, ∃ i, l = .controller i) (change : Change) :
    ∃ ws e', change.perform e = (e', .ok ()) ∧
      (∀ ws' out, Told e.listeners (change.made e) ws' out ↔ ws' = ws ∧ out = (e', .ok ())) ∧
      WriteRun (change.made e) ws e' ∧
      (∀ w ∈ ws, ∃ c, e.controllers[w.controller]? = some c ∧
        w.after = recase c.settings w.before ∧ w.after ≠ w.before) ∧
      ws.length ≤ (change.made e).text.count '\\' ∧
      ∀ i, e.listeners = [.controller i] → ws.length ≤ 1 := by
  obtain ⟨ws, h⟩ := exists_told_notify (change.made e)
  rw [change.listeners_made, ← change.perform_eq he] at h
  have hnofail : ∀ fails, .failing fails ∉ e.listeners := by
    intro fails hm
    obtain ⟨i, hi⟩ := hls _ hm
    exact absurd hi (by simp)
  have hok := h.ok hnofail (by rw [change.listeners_made]; exact hnofail)
  have hrun := h.writeRun
  have hperform : change.perform e = ((change.perform e).1, .ok ()) := Prod.ext rfl hok
  refine ⟨ws, (change.perform e).1, hperform, fun ws' out => ?_, hrun, fun w hw => ?_,
    hrun.length_le, fun i hi => ?_⟩
  · constructor
    · intro h'
      rw [← hperform]
      exact h.unique h'
    · rintro ⟨rfl, rfl⟩
      rw [← hperform]
      exact h
  · obtain ⟨s, hs, hafter, hne⟩ := hrun.recases w hw
    rw [change.settings_made, settings, List.getElem?_map, Option.map_eq_some_iff] at hs
    obtain ⟨c, hc, rfl⟩ := hs
    exact ⟨c, hc, hafter, hne⟩
  · rw [hi] at h
    refine h.length_le_one (fun j hj => ?_)
    rw [change.listeners_made, hi] at hj
    exact Listener.controller.inj (List.mem_singleton.mp hj)

/-- One controller lowers, and the other, told of this write, raises; told once more, it cases the
titles. A third one has its guard held from outside. -/
theorem notifications_end_nested :
    let e : Editor :=
      { kind := .announcing
        text := []
        caret := 0
        listeners := [0, 1, 0, 2, 1].map .controller
        controllers := [{ settings := ⟨true⟩ }, {}, { guard := ⟨true⟩ }] }
    let change := Change.replaced "[[a|B C]]\\l\\u\\t".toList
    e.kind = .announcing ∧ (∀ l ∈ e.listeners, ∃ i, l = .controller i) ∧
      ∃ ws e', change.perform e = (e', .ok ()) ∧
        (∀ ws' out, Told e.listeners (change.made e) ws' out ↔ ws' = ws ∧ out = (e', .ok ())) ∧
        WriteRun (change.made e) ws e' ∧ e'.text = "[[a|B C]]".toList ∧ ws.length = 3 ∧
        (change.made e).text.count '\\' = 3 := by
  intro e change
  have hls : ∀ l ∈ e.listeners, ∃ i, l = .controller i := by
    intro l hl
    obtain ⟨i, -, hi⟩ := List.mem_map.mp hl
    exact ⟨i, hi.symm⟩
  obtain ⟨ws, e', hperform, hunique, hrun, -, -, -⟩ := notifications_end rfl hls change
  have htext : (change.perform e).1.text = "[[a|B C]]".toList := by decide +kernel
  have hwrites : (change.perform e).1.writes = 4 := by decide +kernel
  rw [hperform] at htext hwrites
  refine ⟨rfl, hls, ws, e', hperform, hunique, hrun, htext, ?_, by decide +kernel⟩
  have hcount := hrun.writes_eq
  rw [hwrites] at hcount
  have hmade : (change.made e).writes = 1 := rfl
  omega

end Editor

end WikiCasing
