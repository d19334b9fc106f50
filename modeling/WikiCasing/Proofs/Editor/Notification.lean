import Mathlib.Data.List.Basic
import WikiCasing.Proofs.Editor.Reaction

/-!
# Notifications within notifications

A controller that writes causes another round of notifications before its write is over, and other
controllers may write in the course of it. `Told` says what comes of telling some listeners, with
the writes that controllers make on the way, and knows no bound on the depth: a derivation of it is
a nest of notifications that has come to an end. Every nest does (`exists_told`), since each level
takes one more guard, in one way only (`Told.unique`), and this is what telling listeners to the
depth of the free guards comes to (`Told.tellEach_eq`).

So whatever holds of a notification is shown by induction on such a nest, starting with what it
leaves as it was (`Kept`).
-/

namespace WikiCasing

/-- The plan that a controller makes of an editor. -/
def Controller.planFor (c : Controller) (e : Editor) : Plan := plan c.settings e.text e.caret

theorem Controller.changed_planFor {c : Controller} {e : Editor} :
    (c.planFor e).changed = true ↔ recase c.settings e.text ≠ e.text := by
  rw [planFor, plan_eq, decide_eq_true_iff]

theorem Controller.text_planFor (c : Controller) (e : Editor) :
    (c.planFor e).text = recase c.settings e.text := by
  rw [planFor, plan_eq]

namespace Editor

variable {e e' : Editor} {i : Nat} {c : Controller} {p : Plan} {ls : List Listener}

/-! ## One controller and one notification -/

/-- A notification reaches the controller `c` while its guard is free. -/
structure Heeds (e : Editor) (i : Nat) (c : Controller) : Prop where
  controller_eq : e.controllers[i]? = some c
  free : c.guard.held = false

/-- A notification is lost on a controller whose guard is held. -/
def Ignores (e : Editor) (i : Nat) : Prop :=
  ∀ c, e.controllers[i]? = some c → c.guard.held = true

theorem ignores_or_heeds (e : Editor) (i : Nat) : e.Ignores i ∨ ∃ c, e.Heeds i c := by
  cases hc : e.controllers[i]? with
  | none => exact Or.inl (fun c h => absurd (hc.symm.trans h) (by simp))
  | some c =>
      cases hheld : c.guard.held with
      | false => exact Or.inr ⟨c, hc, hheld⟩
      | true =>
          refine Or.inl (fun c' h => ?_)
          rw [hc, Option.some.injEq] at h
          rw [← h]
          exact hheld

theorem Heeds.not_ignores (h : e.Heeds i c) : ¬ e.Ignores i := by
  intro hi
  have hheld := hi c h.controller_eq
  rw [h.free] at hheld
  exact Bool.noConfusion hheld

theorem Heeds.controller_unique {c' : Controller} (h : e.Heeds i c) (h' : e.Heeds i c') :
    c = c' := Option.some.inj (h.controller_eq.symm.trans h'.controller_eq)

theorem Heeds.exists_depth (h : e.Heeds i c) : ∃ depth, e.controllers.length = depth + 1 := by
  have hlt : i < e.controllers.length := (List.getElem?_eq_some_iff.mp h.controller_eq).1
  exact Nat.exists_eq_add_one.mpr (by omega)

/-- What a recorder leaves behind. -/
def recorded (e : Editor) : Editor := { e with sightings := e.sightings ++ [e.sighting] }

/-- What a listener that may fail leaves behind. -/
def called (e : Editor) : Editor := { e with calls := e.calls + 1 }

/-- The editor when the listeners are told of the write of a controller: the plan is noted, the
guard is held, and the text is that of the plan. -/
def beginWrite (e : Editor) (i : Nat) (p : Plan) : Editor :=
  ((e.noted i p).setGuard i ⟨true⟩).replaced p.text

/-- The write broken off, or over: the guard is free again. -/
def release (e : Editor) (i : Nat) : Editor := e.setGuard i {}

/-- The caret placed as a plan says, if it says so, and the write over. -/
def endWrite (e : Editor) (i : Nat) (p : Plan) : Editor :=
  (match p.caret with
    | some offset => e.placeCaret offset
    | none => e).release i

theorem react_of_ignores (host : Host) (h : e.Ignores i) (depth : Nat) :
    host.react depth i e = (e, .ok false) := by
  cases hc : e.controllers[i]? with
  | none =>
      cases depth with
      | zero => rfl
      | succ depth => simp [Host.react, hc]
  | some c => exact Host.react_of_held host hc (h c hc) depth

theorem react_of_heeds (h : e.Heeds i c) (depth : Nat) :
    react (depth + 1) i e =
      if (c.planFor e).changed then
        match announce (react depth) (e.beginWrite i (c.planFor e)) with
        | (e', .ok ()) => (e'.endWrite i (c.planFor e), .ok true)
        | (e', .error x) => (e'.release i, .error x)
      else (e.noted i (c.planFor e), .ok false) := by
  rw [react, Host.react_of_free host h.controller_eq h.free, ← Controller.planFor]
  split
  · rename_i hchanged
    have hdiffers : (c.planFor e).text ≠ e.text := by
      rw [Controller.text_planFor]
      exact Controller.changed_planFor.mp hchanged
    have hreplace : host.replaceText (react depth) (c.planFor e).text
          ((e.noted i (c.planFor e)).setGuard i ⟨true⟩) =
        announce (react depth) (e.beginWrite i (c.planFor e)) := by
      rw [replaceText_eq]
      exact if_neg fun hquiet => hdiffers hquiet.2
    show host.carryOut (react depth) i ⟨true⟩ (c.planFor e) _ = _
    rw [Host.carryOut, hreplace]
    rcases announce (react depth) (e.beginWrite i (c.planFor e)) with ⟨e', result⟩
    cases result <;> rfl
  · rfl

/-! ## What stays as it is -/

/-- The guards of the controllers. -/
def guards (e : Editor) : List Guard := e.controllers.map (·.guard)

/-- The settings of the controllers. -/
def settings (e : Editor) : List Settings := e.controllers.map (·.settings)

/-- How many controllers have a free guard. -/
def freeGuards (e : Editor) : Nat := e.guards.countP fun g => !g.held

theorem freeGuards_le (e : Editor) : e.freeGuards ≤ e.controllers.length := by
  have hle : e.freeGuards ≤ e.guards.length := List.countP_le_length
  rwa [guards, List.length_map] at hle

/-- An editor has the listeners that another had, and controllers with the same settings and the
same guards. -/
structure Kept (e e' : Editor) : Prop where
  listeners_eq : e'.listeners = e.listeners
  settings_eq : e'.settings = e.settings
  guards_eq : e'.guards = e.guards

theorem Kept.refl (e : Editor) : Kept e e := ⟨rfl, rfl, rfl⟩

theorem Kept.trans {e'' : Editor} (h : Kept e e') (h' : Kept e' e'') : Kept e e'' :=
  ⟨h'.listeners_eq.trans h.listeners_eq, h'.settings_eq.trans h.settings_eq,
    h'.guards_eq.trans h.guards_eq⟩

theorem Kept.freeGuards_eq (h : Kept e e') : e'.freeGuards = e.freeGuards := by
  rw [freeGuards, h.guards_eq, freeGuards]

/-- A change of a controller that some part of it does not notice. -/
theorem map_updateController {α : Type} {g : Controller → α} {f : Controller → Controller}
    (h : ∀ c, g (f c) = g c) (e : Editor) (i : Nat) :
    (e.updateController i f).controllers.map g = e.controllers.map g := by
  refine List.ext_getElem? (fun j => ?_)
  rw [updateController, List.getElem?_map, List.getElem?_map, List.getElem?_modify]
  cases e.controllers[j]? with
  | none => rfl
  | some c =>
      by_cases hj : i = j
      · simp [hj, h]
      · simp [hj]

theorem kept_noted (e : Editor) (i : Nat) (p : Plan) : Kept e (e.noted i p) where
  listeners_eq := rfl
  settings_eq := map_updateController (by intro c; rfl) e i
  guards_eq := map_updateController (by intro c; rfl) e i

theorem kept_recorded (e : Editor) : Kept e e.recorded := ⟨rfl, rfl, rfl⟩

theorem kept_called (e : Editor) : Kept e e.called := ⟨rfl, rfl, rfl⟩

theorem settings_setGuard (e : Editor) (i : Nat) (g : Guard) :
    (e.setGuard i g).settings = e.settings :=
  map_updateController (by intro c; rfl) e i

theorem guards_setGuard (e : Editor) (i : Nat) (g : Guard) :
    (e.setGuard i g).guards = e.guards.set i g := by
  refine List.ext_getElem? (fun j => ?_)
  rw [guards, setGuard, updateController, List.getElem?_map, List.getElem?_modify, guards,
    List.getElem?_set, List.getElem?_map]
  by_cases hj : i = j
  · subst hj
    by_cases hi : i < e.controllers.length
    · simp [hi]
    · simp [hi]
  · simp [hj]

theorem guards_beginWrite (e : Editor) (i : Nat) (p : Plan) :
    (e.beginWrite i p).guards = e.guards.set i ⟨true⟩ := by
  show ((e.noted i p).setGuard i ⟨true⟩).guards = _
  rw [guards_setGuard, (kept_noted e i p).guards_eq]

theorem settings_beginWrite (e : Editor) (i : Nat) (p : Plan) :
    (e.beginWrite i p).settings = e.settings := by
  show ((e.noted i p).setGuard i ⟨true⟩).settings = _
  rw [settings_setGuard, (kept_noted e i p).settings_eq]

theorem ignores_beginWrite (e : Editor) (i : Nat) (p : Plan) : (e.beginWrite i p).Ignores i := by
  intro c hc
  have hguard : (e.beginWrite i p).guards[i]? = some c.guard := by
    rw [guards, List.getElem?_map, hc, Option.map_some]
  rw [guards_beginWrite, List.getElem?_set_self'] at hguard
  obtain ⟨g, -, hg⟩ := Option.map_eq_some_iff.mp hguard
  rw [← hg]
  rfl

theorem Heeds.getElem?_guards (h : e.Heeds i c) : e.guards[i]? = some {} := by
  rw [guards, List.getElem?_map, h.controller_eq, Option.map_some]
  exact congrArg some (congrArg Guard.mk h.free)

theorem Heeds.freeGuards_beginWrite (h : e.Heeds i c) (p : Plan) :
    (e.beginWrite i p).freeGuards + 1 = e.freeGuards := by
  obtain ⟨hi, hget⟩ := List.getElem?_eq_some_iff.mp h.getElem?_guards
  have hpos : 0 < e.guards.countP fun g => !g.held :=
    List.countP_pos_iff.mpr ⟨{}, List.mem_of_getElem? h.getElem?_guards, rfl⟩
  rw [freeGuards, guards_beginWrite, List.countP_set hi, hget, freeGuards]
  simp
  omega

theorem Heeds.freeGuards_beginWrite_le (h : e.Heeds i c) {depth : Nat}
    (hdepth : e.controllers.length ≤ depth + 1) (p : Plan) :
    (e.beginWrite i p).freeGuards ≤ depth := by
  have htaken := h.freeGuards_beginWrite p
  have hle := e.freeGuards_le
  omega

theorem Heeds.kept_release (h : e.Heeds i c) (he : Kept (e.beginWrite i p) e') :
    Kept e (e'.release i) where
  listeners_eq := he.listeners_eq
  settings_eq := by
    rw [release, settings_setGuard, he.settings_eq, settings_beginWrite]
  guards_eq := by
    rw [release, guards_setGuard, he.guards_eq, guards_beginWrite, List.set_set]
    obtain ⟨hi, hget⟩ := List.getElem?_eq_some_iff.mp h.getElem?_guards
    rw [← hget, List.set_getElem_self]

theorem Heeds.kept_endWrite (h : e.Heeds i c) (he : Kept (e.beginWrite i p) e') :
    Kept e (e'.endWrite i p) := by
  unfold endWrite
  split
  · exact h.kept_release ⟨he.listeners_eq, he.settings_eq, he.guards_eq⟩
  · exact h.kept_release he

/-! ## Nests of notifications -/

/-- A write of a controller: the text that it replaced, and the text that it put in place. -/
structure Write where
  controller : Nat
  before : Text
  after : Text
deriving DecidableEq, Repr

/-- Some listeners are told of a change, one after the other: the writes that controllers make
until all of it is over, those made within another write behind it, and the outcome. -/
inductive Told : List Listener → Editor → List Write → Outcome Unit → Prop
  | done {e : Editor} : Told [] e [] (e, .ok ())
  | recorder {ls : List Listener} {e : Editor} {ws : List Write} {out : Outcome Unit} :
      Told ls e.recorded ws out → Told (.recorder :: ls) e ws out
  | passing {fails : Nat → Sighting → Bool} {ls : List Listener} {e : Editor} {ws : List Write}
      {out : Outcome Unit} :
      fails e.calls e.sighting = false → Told ls e.called ws out →
      Told (.failing fails :: ls) e ws out
  | failing {fails : Nat → Sighting → Bool} {ls : List Listener} {e : Editor} :
      fails e.calls e.sighting = true →
      Told (.failing fails :: ls) e [] (e.called, .error .listenerFailed)
  | ignored {i : Nat} {ls : List Listener} {e : Editor} {ws : List Write} {out : Outcome Unit} :
      e.Ignores i → Told ls e ws out → Told (.controller i :: ls) e ws out
  | unchanged {i : Nat} {c : Controller} {ls : List Listener} {e : Editor} {ws : List Write}
      {out : Outcome Unit} :
      e.Heeds i c → (c.planFor e).changed = false →
      Told ls (e.noted i (c.planFor e)) ws out → Told (.controller i :: ls) e ws out
  | wrote {i : Nat} {c : Controller} {ls : List Listener} {e e' : Editor} {ws ws' : List Write}
      {out : Outcome Unit} :
      e.Heeds i c → (c.planFor e).changed = true →
      Told e.listeners (e.beginWrite i (c.planFor e)) ws (e', .ok ()) →
      Told ls (e'.endWrite i (c.planFor e)) ws' out →
      Told (.controller i :: ls) e (⟨i, e.text, (c.planFor e).text⟩ :: (ws ++ ws')) out
  | broken {i : Nat} {c : Controller} {ls : List Listener} {e e' : Editor} {ws : List Write}
      {x : EditorError} :
      e.Heeds i c → (c.planFor e).changed = true →
      Told e.listeners (e.beginWrite i (c.planFor e)) ws (e', .error x) →
      Told (.controller i :: ls) e (⟨i, e.text, (c.planFor e).text⟩ :: ws)
        (e'.release i, .error x)

variable {ws ws' : List Write} {out out' : Outcome Unit}

/-- Listeners, settings and guards are what they were when all is over, also where a listener has
failed. -/
theorem Told.kept (h : Told ls e ws out) : Kept e out.1 := by
  induction h with
  | done => exact Kept.refl _
  | recorder _ ih => exact (kept_recorded _).trans ih
  | passing _ _ ih => exact (kept_called _).trans ih
  | failing => exact kept_called _
  | ignored _ _ ih => exact ih
  | unchanged _ _ _ ih => exact (kept_noted _ _ _).trans ih
  | wrote hi _ _ _ ihwrite ih => exact (hi.kept_endWrite ihwrite).trans ih
  | broken hi _ _ ihwrite => exact hi.kept_release ihwrite

theorem Told.error_eq {x : EditorError} (h : Told ls e ws out) (hx : out.2 = .error x) :
    x = .listenerFailed := by
  induction h with
  | done => cases hx
  | recorder _ ih => exact ih hx
  | passing _ _ ih => exact ih hx
  | failing =>
      cases hx
      rfl
  | ignored _ _ ih => exact ih hx
  | unchanged _ _ _ ih => exact ih hx
  | wrote _ _ _ _ _ ih => exact ih hx
  | broken _ _ _ ihwrite => exact ihwrite hx

theorem Told.ok (h : Told ls e ws out) (hls : ∀ fails, .failing fails ∉ ls)
    (he : ∀ fails, .failing fails ∉ e.listeners) : out.2 = .ok () := by
  induction h with
  | done => rfl
  | recorder _ ih => exact ih (fun fails hm => hls fails (List.mem_cons_of_mem _ hm)) he
  | passing => exact absurd List.mem_cons_self (hls _)
  | failing => exact absurd List.mem_cons_self (hls _)
  | ignored _ _ ih => exact ih (fun fails hm => hls fails (List.mem_cons_of_mem _ hm)) he
  | unchanged _ _ _ ih => exact ih (fun fails hm => hls fails (List.mem_cons_of_mem _ hm)) he
  | wrote hi _ hwrite _ _ ih =>
      refine ih (fun fails hm => hls fails (List.mem_cons_of_mem _ hm)) ?_
      rw [(hi.kept_endWrite hwrite.kept).listeners_eq]
      exact he
  | broken _ _ _ ihwrite => exact absurd (ihwrite he he) (by simp)

theorem Told.wrote_or_broken (h : Told (.controller i :: ls) e ws out) (hi : e.Heeds i c)
    (hchanged : (c.planFor e).changed = true) :
    (∃ e' ws₁ ws₂, Told e.listeners (e.beginWrite i (c.planFor e)) ws₁ (e', .ok ()) ∧
      Told ls (e'.endWrite i (c.planFor e)) ws₂ out ∧
      ws = ⟨i, e.text, (c.planFor e).text⟩ :: (ws₁ ++ ws₂)) ∨
    ∃ e' ws₁ x, Told e.listeners (e.beginWrite i (c.planFor e)) ws₁ (e', .error x) ∧
      ws = ⟨i, e.text, (c.planFor e).text⟩ :: ws₁ ∧ out = (e'.release i, .error x) := by
  cases h with
  | ignored hi' => exact absurd hi' hi.not_ignores
  | unchanged hi' hsame =>
      obtain rfl := hi.controller_unique hi'
      exact absurd (hsame.symm.trans hchanged) (by simp)
  | wrote hi' _ hwrite hrest =>
      obtain rfl := hi.controller_unique hi'
      exact .inl ⟨_, _, _, hwrite, hrest, rfl⟩
  | broken hi' _ hwrite =>
      obtain rfl := hi.controller_unique hi'
      exact .inr ⟨_, _, _, hwrite, rfl, rfl⟩

theorem Told.unique (h : Told ls e ws out) (h' : Told ls e ws' out') : ws' = ws ∧ out' = out := by
  induction h generalizing ws' out' with
  | done =>
      cases h'
      exact ⟨rfl, rfl⟩
  | recorder _ ih =>
      cases h' with
      | recorder h' => exact ih h'
  | passing hpass _ ih =>
      cases h' with
      | passing _ h' => exact ih h'
      | failing hfail => exact absurd (hpass.symm.trans hfail) (by simp)
  | failing hfail =>
      cases h' with
      | passing hpass => exact absurd (hpass.symm.trans hfail) (by simp)
      | failing => exact ⟨rfl, rfl⟩
  | ignored hi _ ih =>
      cases h' with
      | ignored _ h' => exact ih h'
      | unchanged hi' => exact absurd hi hi'.not_ignores
      | wrote hi' => exact absurd hi hi'.not_ignores
      | broken hi' => exact absurd hi hi'.not_ignores
  | unchanged hi hsame _ ih =>
      cases h' with
      | ignored hi' => exact absurd hi' hi.not_ignores
      | unchanged hi' _ h' =>
          obtain rfl := hi.controller_unique hi'
          exact ih h'
      | wrote hi' hchanged =>
          obtain rfl := hi.controller_unique hi'
          exact absurd (hsame.symm.trans hchanged) (by simp)
      | broken hi' hchanged =>
          obtain rfl := hi.controller_unique hi'
          exact absurd (hsame.symm.trans hchanged) (by simp)
  | wrote hi hchanged _ _ ihwrite ih =>
      obtain ⟨e', ws₁, ws₂, hwrite', hrest, rfl⟩ | ⟨e', ws₁, x, hwrite', -, -⟩ :=
        h'.wrote_or_broken hi hchanged
      · obtain ⟨rfl, hout⟩ := ihwrite hwrite'
        obtain rfl := congrArg Prod.fst hout
        obtain ⟨rfl, rfl⟩ := ih hrest
        exact ⟨rfl, rfl⟩
      · exact absurd (congrArg Prod.snd (ihwrite hwrite').2) (by simp)
  | broken hi hchanged _ ihwrite =>
      obtain ⟨e', ws₁, ws₂, hwrite', -, -⟩ | ⟨e', ws₁, x, hwrite', rfl, rfl⟩ :=
        h'.wrote_or_broken hi hchanged
      · exact absurd (congrArg Prod.snd (ihwrite hwrite').2) (by simp)
      · obtain ⟨rfl, hout⟩ := ihwrite hwrite'
        cases hout
        exact ⟨rfl, rfl⟩

/-- Every nest of notifications comes to an end: each write in it is made with one guard fewer
free than the one around it. -/
theorem exists_told (ls : List Listener) (e : Editor) : ∃ ws out, Told ls e ws out := by
  -- the outer induction is for what a write tells, the inner one for the listeners behind it
  induction hn : e.freeGuards using Nat.strong_induction_on generalizing ls e with
  | _ n nested =>
    induction ls generalizing e with
    | nil => exact ⟨[], _, .done⟩
    | cons l ls ih =>
        cases l with
        | recorder =>
            obtain ⟨ws, out, h⟩ := ih e.recorded hn
            exact ⟨ws, out, .recorder h⟩
        | failing fails =>
            cases hfails : fails e.calls e.sighting with
            | true => exact ⟨[], _, .failing hfails⟩
            | false =>
                obtain ⟨ws, out, h⟩ := ih e.called hn
                exact ⟨ws, out, .passing hfails h⟩
        | controller i =>
            rcases e.ignores_or_heeds i with hi | ⟨c, hi⟩
            · obtain ⟨ws, out, h⟩ := ih e hn
              exact ⟨ws, out, .ignored hi h⟩
            cases hchanged : (c.planFor e).changed with
            | false =>
                obtain ⟨ws, out, h⟩ := ih (e.noted i (c.planFor e))
                  ((kept_noted e i _).freeGuards_eq.trans hn)
                exact ⟨ws, out, .unchanged hi hchanged h⟩
            | true =>
                have hless : (e.beginWrite i (c.planFor e)).freeGuards < n := by
                  have htaken := hi.freeGuards_beginWrite (c.planFor e)
                  omega
                obtain ⟨ws, ⟨e', result⟩, hwrite⟩ := nested _ hless e.listeners _ rfl
                cases result with
                | error x => exact ⟨_, _, .broken hi hchanged hwrite⟩
                | ok =>
                    obtain ⟨ws', out, h⟩ := ih (e'.endWrite i (c.planFor e))
                      ((hi.kept_endWrite hwrite.kept).freeGuards_eq.trans hn)
                    exact ⟨_, out, .wrote hi hchanged hwrite h⟩

/-- Telling the listeners with room for as many nested notifications as there are free guards, or
for more, comes to the end that the nest of notifications comes to. -/
theorem Told.tellEach_eq (h : Told ls e ws out) {depth : Nat} (hdepth : e.freeGuards ≤ depth) :
    tellEach (react depth) ls e = out := by
  induction h generalizing depth with
  | done => rfl
  | recorder _ ih => exact ih hdepth
  | passing hpass _ ih =>
      rw [tellEach, tell, if_neg (by simp [hpass])]
      exact ih hdepth
  | failing hfail =>
      rw [tellEach, tell, if_pos hfail]
      rfl
  | ignored hi _ ih =>
      rw [tellEach, tell, react, react_of_ignores host hi]
      exact ih hdepth
  | @unchanged i c ls e ws out hi hsame _ ih =>
      have hpos := hi.freeGuards_beginWrite (c.planFor e)
      obtain ⟨depth, rfl⟩ : ∃ n, depth = n + 1 := Nat.exists_eq_add_one.mpr (by omega)
      rw [tellEach, tell, react_of_heeds hi, if_neg (by simp [hsame])]
      exact ih (by rw [(kept_noted e i _).freeGuards_eq]; exact hdepth)
  | @wrote i c ls e e' ws ws' out hi hchanged hwrite _ ihwrite ih =>
      have hpos := hi.freeGuards_beginWrite (c.planFor e)
      obtain ⟨depth, rfl⟩ : ∃ n, depth = n + 1 := Nat.exists_eq_add_one.mpr (by omega)
      have hannounce : announce (react depth) (e.beginWrite i (c.planFor e)) = (e', .ok ()) :=
        ihwrite (by omega)
      rw [tellEach, tell, react_of_heeds hi, if_pos hchanged, hannounce]
      exact ih (by rw [(hi.kept_endWrite hwrite.kept).freeGuards_eq]; exact hdepth)
  | @broken i c ls e e' ws x hi hchanged _ ihwrite =>
      have hpos := hi.freeGuards_beginWrite (c.planFor e)
      obtain ⟨depth, rfl⟩ : ∃ n, depth = n + 1 := Nat.exists_eq_add_one.mpr (by omega)
      have hannounce : announce (react depth) (e.beginWrite i (c.planFor e)) = (e', .error x) :=
        ihwrite (by omega)
      rw [tellEach, tell, react_of_heeds hi, if_pos hchanged, hannounce]

theorem exists_told_tellEach (ls : List Listener) {depth : Nat} (hdepth : e.freeGuards ≤ depth) :
    ∃ ws, Told ls e ws (tellEach (react depth) ls e) := by
  obtain ⟨ws, out, h⟩ := exists_told ls e
  exact ⟨ws, by rw [h.tellEach_eq hdepth]; exact h⟩

theorem exists_told_notify (e : Editor) : ∃ ws, Told e.listeners e ws e.notify :=
  exists_told_tellEach e.listeners e.freeGuards_le

theorem exists_told_handle (e : Editor) (i : Nat) :
    ∃ ws, Told [.controller i] e ws ((e.handle i).1, (e.handle i).2.map fun _ => ()) := by
  obtain ⟨ws, h⟩ := exists_told_tellEach [.controller i] e.freeGuards_le
  refine ⟨ws, ?_⟩
  have hone : tellEach (react e.controllers.length) [.controller i] e =
      ((e.handle i).1, (e.handle i).2.map fun _ => ()) := by
    have hreact : react e.controllers.length i e = e.handle i := rfl
    rw [tellEach, tell, hreact]
    cases e.handle i with
    | mk e' result => cases result <;> rfl
  rwa [hone] at h

theorem Told.announce_eq (h : Told e.listeners e ws out) {depth : Nat}
    (hdepth : e.freeGuards ≤ depth) : announce (react depth) e = out := h.tellEach_eq hdepth

/-- Room for more nested notifications than there are controllers makes no difference. -/
theorem react_eq_handle {depth : Nat} (hdepth : e.controllers.length ≤ depth) (i : Nat) :
    react depth i e = e.handle i := by
  rcases e.ignores_or_heeds i with hi | ⟨c, hi⟩
  · show host.react depth i e = host.react e.controllers.length i e
    rw [react_of_ignores host hi, react_of_ignores host hi]
  obtain ⟨n, hn⟩ := hi.exists_depth
  obtain ⟨m, rfl⟩ : ∃ m, depth = m + 1 := Nat.exists_eq_add_one.mpr (by omega)
  obtain ⟨ws, out, h⟩ := exists_told e.listeners (e.beginWrite i (c.planFor e))
  have hm : announce (react m) (e.beginWrite i (c.planFor e)) = out :=
    h.announce_eq (hi.freeGuards_beginWrite_le hdepth _)
  have hn' : announce (react n) (e.beginWrite i (c.planFor e)) = out :=
    h.announce_eq (hi.freeGuards_beginWrite_le (Nat.le_of_eq hn) _)
  show react (m + 1) i e = react e.controllers.length i e
  rw [hn, react_of_heeds hi, react_of_heeds hi, hm, hn']

end Editor

end WikiCasing
