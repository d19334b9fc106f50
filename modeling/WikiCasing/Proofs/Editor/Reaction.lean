import WikiCasing.Editor.Host
import WikiCasing.Proofs.Markup.Change

/-!
# What a controller does about a change

On any host, a controller pays no attention to a notification while its guard is held, and otherwise
carries out its plan if there is anything to change (`Host.react_of_held`, `Host.react_of_free`).

A controller that is the only listener of an editor writes once if recasing changes the text, and
not at all otherwise (`Alone.react_eq`). Its own write reaches it while its guard is held, so that
notifications do not nest any further, however deep they may. When it is done, its guard is free
again, and the editor differs from what it was in its text, its caret, the number of writes and the
plan that the controller made last, and in nothing else.
-/

namespace WikiCasing

namespace Editor

variable {e : Editor} {i : Nat} {c : Controller}

/-! ## Controllers of an editor -/

theorem updateController_congr {f g : Controller → Controller} (hc : e.controllers[i]? = some c)
    (h : f c = g c) : e.updateController i f = e.updateController i g := by
  have hmodify : e.controllers.modify i f = e.controllers.modify i g := by
    refine List.ext_getElem? (fun j => ?_)
    rw [List.getElem?_modify, List.getElem?_modify]
    by_cases hj : i = j
    · subst hj
      simp [hc, h]
    · simp [hj]
  rw [updateController, updateController, hmodify]

theorem updateController_updateController (f g : Controller → Controller) :
    (e.updateController i f).updateController i g = e.updateController i (g ∘ f) := by
  simp [updateController, List.modify_modify_eq]

theorem getElem?_updateController (hc : e.controllers[i]? = some c) (f : Controller → Controller) :
    (e.updateController i f).controllers[i]? = some (f c) := by
  simp [updateController, hc]

theorem setGuard_setGuard (hc : e.controllers[i]? = some c) (g : Guard) :
    (e.setGuard i g).setGuard i c.guard = e := by
  have hid : e.updateController i id = e := by simp [updateController]
  rw [setGuard, setGuard, updateController_updateController]
  refine Eq.trans (updateController_congr hc ?_) hid
  rfl

/-- The plan that a controller has made of an editor, noted. -/
def noted (e : Editor) (i : Nat) (p : Plan) : Editor :=
  e.updateController i fun c => { c with lastPlan := some p }

end Editor

/-! ## Reactions -/

namespace Host

variable {e : Editor} {i : Nat} {c : Controller}

theorem react_of_held (h : Host) (hc : e.controllers[i]? = some c)
    (hheld : c.guard.held = true) (depth : Nat) : h.react depth i e = (e, .ok false) := by
  cases depth with
  | zero => rfl
  | succ depth => simp [Host.react, hc, hheld]

theorem react_of_free (h : Host) (hc : e.controllers[i]? = some c)
    (hfree : c.guard.held = false) (depth : Nat) :
    let p := plan c.settings e.text e.caret
    h.react (depth + 1) i e =
      if p.changed then h.carryOut (h.react depth) i ⟨true⟩ p (e.noted i p)
      else (e.noted i p, .ok false) := by
  simp [Host.react, hc, hfree, Editor.noted, Guard.take]

end Host

namespace Editor

variable {e : Editor} {i : Nat} {c : Controller}

/-- The text of a plan written and the caret placed. -/
def carriedOut (e : Editor) (p : Plan) : Editor :=
  { e with
    text := p.text
    caret := match p.caret with
      | some offset => max 0 (min offset p.text.length)
      | none => min e.caret p.text.length
    writes := e.writes + 1 }

/-- An editor whose text has been recased by a controller, if that changes it. -/
def recasedBy (e : Editor) (i : Nat) (s : Settings) : Editor :=
  let p := plan s e.text e.caret
  if recase s e.text = e.text then e.noted i p else (e.noted i p).carriedOut p

theorem text_recasedBy (e : Editor) (i : Nat) (s : Settings) :
    (e.recasedBy i s).text = recase s e.text := by
  unfold recasedBy
  split
  · rename_i hsame
    exact hsame.symm
  · exact congrArg Plan.text (plan_eq s e.text e.caret)

theorem writes_recasedBy (e : Editor) (i : Nat) (s : Settings) :
    (e.recasedBy i s).writes = if recase s e.text = e.text then e.writes else e.writes + 1 := by
  unfold recasedBy
  split <;> rfl

/-! ## Texts put in place and characters typed -/

/-- The listeners of an editor are told of a text that is put in place, unless the editor is quiet
and the text is the one it has. -/
theorem replaceText_eq (r : Nat → Editor → Outcome Bool) (text : Text) (e : Editor) :
    host.replaceText r text e =
      if e.kind = .quiet ∧ text = e.text then (e.replaced text, .ok ())
      else announce r (e.replaced text) := by
  by_cases hquiet : e.kind = .quiet ∧ text = e.text
  · simp [Host.replaceText, host, hquiet]
  · simp only [Host.replaceText, host, hquiet, decide_false, Bool.not_false, if_true, if_false]
    rfl

theorem type_nil (e : Editor) : e.type [] = (e, .ok ()) := rfl

theorem type_cons (c : Char) (cs : Text) (e : Editor) :
    e.type (c :: cs) =
      match (e.insert [c]).notify with
      | (e, .ok ()) => e.type cs
      | (e, .error x) => (e, .error x) := rfl

theorem announce_of_react {r : Nat → Editor → Outcome Bool} {e' : Editor} {b : Bool}
    (he : e.listeners = [.controller i]) (hr : r i e = (e', .ok b)) :
    announce r e = (e', .ok ()) := by
  simp [announce, host, he, tellEach, tell, hr]

/-- A controller is the only listener of an editor, and its guard is free. -/
structure Alone (e : Editor) (i : Nat) (c : Controller) : Prop where
  listeners_eq : e.listeners = [.controller i]
  controller_eq : e.controllers[i]? = some c
  free : c.guard.held = false

namespace Alone

theorem noted (h : Alone e i c) (p : Plan) :
    Alone (e.noted i p) i { c with lastPlan := some p } :=
  ⟨h.listeners_eq, getElem?_updateController h.controller_eq _, h.free⟩

theorem carryOut_eq (h : Alone e i c) {p : Plan} (hchanged : p.text ≠ e.text) (depth : Nat) :
    host.carryOut (react depth) i ⟨true⟩ p e = (e.carriedOut p, .ok true) := by
  let held := e.setGuard i ⟨true⟩
  have hwrite : host.replaceText (react depth) p.text held = (held.replaced p.text, .ok ()) := by
    have hloud : ¬ (held.kind = .quiet ∧ p.text = held.text) := fun h => hchanged h.2
    have hc : (held.replaced p.text).controllers[i]? = some { c with guard := ⟨true⟩ } :=
      getElem?_updateController h.controller_eq _
    rw [replaceText_eq, if_neg hloud]
    exact announce_of_react h.listeners_eq (Host.react_of_held host hc rfl depth)
  have hback : held.setGuard i {} = e := by
    have hguard : c.guard = {} := congrArg Guard.mk h.free
    rw [← hguard]
    exact setGuard_setGuard h.controller_eq ⟨true⟩
  rw [Host.carryOut, hwrite]
  dsimp only
  cases hcaret : p.caret with
  | none =>
      show ({ held.setGuard i {} with
        text := p.text
        caret := min e.caret p.text.length
        writes := e.writes + 1 }, Except.ok true) = _
      rw [hback, carriedOut, hcaret]
  | some offset =>
      show ({ held.setGuard i {} with
        text := p.text
        caret := max 0 (min offset p.text.length)
        writes := e.writes + 1 }, Except.ok true) = _
      rw [hback, carriedOut, hcaret]

/-- A controller that is alone writes exactly if recasing changes the text, and then once. -/
theorem react_eq (h : Alone e i c) (depth : Nat) :
    react (depth + 1) i e =
      (e.recasedBy i c.settings, .ok (decide (recase c.settings e.text ≠ e.text))) := by
  rw [react, Host.react_of_free host h.controller_eq h.free depth, Editor.recasedBy]
  by_cases hsame : recase c.settings e.text = e.text
  · simp [plan_eq, hsame]
  · have hcarry := (h.noted (plan c.settings e.text e.caret)).carryOut_eq
      (p := plan c.settings e.text e.caret) (by rw [plan_eq]; exact hsame) depth
    have hchanged : (plan c.settings e.text e.caret).changed = true := by simp [plan_eq, hsame]
    rw [if_neg hsame, if_pos hchanged, decide_eq_true hsame]
    exact hcarry

theorem notify_eq (h : Alone e i c) : e.notify = (e.recasedBy i c.settings, .ok ()) := by
  obtain ⟨depth, hdepth⟩ : ∃ depth, e.controllers.length = depth + 1 := by
    refine Nat.exists_eq_add_one.mpr ?_
    have hlt := (List.getElem?_eq_some_iff.mp h.controller_eq).1
    omega
  rw [notify, Host.notify, hdepth]
  exact announce_of_react h.listeners_eq (h.react_eq depth)

theorem recasedBy (h : Alone e i c) (s : Settings) :
    Alone (e.recasedBy i s) i { c with lastPlan := some (plan s e.text e.caret) } := by
  have hnoted := h.noted (plan s e.text e.caret)
  unfold Editor.recasedBy
  split
  · exact hnoted
  · exact ⟨hnoted.listeners_eq, hnoted.controller_eq, h.free⟩

end Alone

end Editor

end WikiCasing
