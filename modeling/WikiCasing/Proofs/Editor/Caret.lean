import WikiCasing.Editor.Session
import WikiCasing.Proofs.Editor.LineBuffer

/-!
# The caret stays in the text

An editor whose caret stands in its text, or at one of its ends, never loses it: not between two
operations, whether they succeed or fail, and not while it tells its listeners, at whatever depth
(`Session.caret_in_text`). This is not for the plans to see to. A plan may send the caret beyond the
text that it puts in place, and by the time that the caret is placed another controller may have
shortened the text; but the editor takes every caret it is sent to the nearest one that the text
has, and brings it back when the text is replaced.

`Calls` says at what moments listeners are called in a nest of notifications. That it leaves out
none is seen from what recorders note: each of their sightings is of such a moment
(`Told.steady`).
-/

namespace WikiCasing

namespace Editor

variable {e e' : Editor} {ls : List Listener} {l : Listener} {ws : List Write}
  {out : Outcome Unit}

/-! ## While listeners are told -/

/-- While some listeners are told of a change, and find it made in the editor `e`, a listener is
called and finds the editor in some state: its turn comes, or it is told of the write of a
controller whose turn has come. -/
inductive Calls : List Listener → Editor → Listener → Editor → Prop
  | turn {l : Listener} {ls : List Listener} {e : Editor} : Calls (l :: ls) e l e
  | within {i : Nat} {c : Controller} {ls : List Listener} {e e' : Editor} {l : Listener} :
      e.Heeds i c → (c.planFor e).changed = true →
      Calls e.listeners (e.beginWrite i (c.planFor e)) l e' → Calls (.controller i :: ls) e l e'
  | later {k l : Listener} {ls : List Listener} {e e₁ e' : Editor} {ws : List Write} :
      Told [k] e ws (e₁, .ok ()) → Calls ls e₁ l e' → Calls (k :: ls) e l e'

/-- Between two states of an editor the caret has not left the text, and all that recorders have
noted since they have noted in states for which `P` holds. -/
structure Steady (P : Editor → Prop) (e e' : Editor) : Prop where
  inText : e.InText → e'.InText
  noted : ∃ noted, e'.sightings = e.sightings ++ noted ∧ ∀ x ∈ noted, ∃ e₁, P e₁ ∧ e₁.sighting = x

namespace Steady

variable {P Q : Editor → Prop} {e'' : Editor}

theorem silent (hcaret : e.InText → e'.InText) (h : e'.sightings = e.sightings) : Steady P e e' :=
  ⟨hcaret, [], by rw [h, List.append_nil], fun _ hx => absurd hx List.not_mem_nil⟩

theorem refl (e : Editor) : Steady P e e := silent id rfl

theorem trans (h : Steady P e e') (h' : Steady P e' e'') : Steady P e e'' where
  inText := h'.inText ∘ h.inText
  noted := by
    obtain ⟨noted, heq, hnoted⟩ := h.noted
    obtain ⟨noted', heq', hnoted'⟩ := h'.noted
    refine ⟨noted ++ noted', by rw [heq', heq, List.append_assoc], fun x hx => ?_⟩
    rcases List.mem_append.mp hx with hx | hx
    · exact hnoted x hx
    · exact hnoted' x hx

theorem mono (h : Steady P e e') (hPQ : ∀ e₁, P e₁ → Q e₁) : Steady Q e e' where
  inText := h.inText
  noted := by
    obtain ⟨noted, heq, hnoted⟩ := h.noted
    refine ⟨noted, heq, fun x hx => ?_⟩
    obtain ⟨e₁, he₁, hx⟩ := hnoted x hx
    exact ⟨e₁, hPQ e₁ he₁, hx⟩

theorem beginWrite (e : Editor) (i : Nat) (p : Plan) : Steady P e (e.beginWrite i p) :=
  silent (fun h => h.beginWrite i p) rfl

theorem endWrite (e : Editor) (i : Nat) (p : Plan) : Steady P e (e.endWrite i p) := by
  refine silent (fun h => h.endWrite i p) ?_
  unfold Editor.endWrite
  split <;> rfl

end Steady

/-- While listeners are told the caret stays in the text, also if one of them fails; and whatever
is noted on the way, a recorder notes that is called. -/
theorem Told.steady (h : Told ls e ws out) : Steady (Calls ls e .recorder) e out.1 := by
  induction h with
  | done => exact .refl _
  | @recorder ls e _ _ _ ih =>
      have hself : Steady (Calls (.recorder :: ls) e .recorder) e e.recorded :=
        ⟨id, [e.sighting], rfl, fun x hx => ⟨e, .turn, (List.mem_singleton.mp hx).symm⟩⟩
      exact hself.trans (ih.mono fun _ => .later (.recorder .done))
  | @passing fails ls e _ _ hpass _ ih =>
      have hcalled : Steady (Calls (.failing fails :: ls) e .recorder) e e.called := .silent id rfl
      exact hcalled.trans (ih.mono fun _ => .later (.passing hpass .done))
  | failing => exact .silent id rfl
  | ignored hi _ ih => exact ih.mono fun _ => .later (.ignored hi .done)
  | @unchanged i c ls e _ _ hi hsame _ ih =>
      have hnoted : Steady (Calls (.controller i :: ls) e .recorder) e
          (e.noted i (c.planFor e)) := .silent id rfl
      exact hnoted.trans (ih.mono fun _ => .later (.unchanged hi hsame .done))
  | @wrote i c ls e e' _ _ _ hi hchanged hwrite _ ihwrite ih =>
      have hwithin : Steady (Calls (.controller i :: ls) e .recorder) e e' :=
        (Steady.beginWrite e i (c.planFor e)).trans (ihwrite.mono fun _ => .within hi hchanged)
      have hlater := ih.mono fun _ => Calls.later (.wrote hi hchanged hwrite .done)
      exact (hwithin.trans (.endWrite e' i _)).trans hlater
  | @broken i c ls e e' _ _ hi hchanged _ ihwrite =>
      have hwithin : Steady (Calls (.controller i :: ls) e .recorder) e e' :=
        (Steady.beginWrite e i (c.planFor e)).trans (ihwrite.mono fun _ => .within hi hchanged)
      exact hwithin.trans (.silent id rfl)

theorem Calls.inText (h : Calls ls e l e') (he : e.InText) : e'.InText := by
  induction h with
  | turn => exact he
  | within _ _ _ ih => exact ih (he.beginWrite _ _)
  | later hk _ ih => exact ih (hk.steady.inText he)

/-! ## Operations -/

theorem steady_notify (e : Editor) : Steady (Calls e.listeners e .recorder) e e.notify.1 := by
  obtain ⟨ws, h⟩ := exists_told_notify e
  exact h.steady

theorem steady_handle (e : Editor) (i : Nat) :
    Steady (Calls [.controller i] e .recorder) e (e.handle i).1 := by
  obtain ⟨ws, h⟩ := exists_told_handle e i
  exact h.steady

/-- With one character taken out the text has room for every caret but the last. -/
theorem inText_cutOut {n : Nat} (hn : n < e.text.length) {caret : Int} (hlow : 0 ≤ caret)
    (hhigh : caret < e.text.length) : (e.cutOut n (n + 1) caret).InText := by
  have hlen : (e.cutOut n (n + 1) caret).text.length + 1 = e.text.length := by
    simp only [Editor.cutOut, List.length_append, List.length_take, List.length_drop]
    omega
  have hcaret : (e.cutOut n (n + 1) caret).caret = caret := rfl
  refine ⟨?_, ?_⟩ <;> omega

theorem steady_type (e : Editor) (chars : Text) :
    Steady (fun e' => ∃ before c after e₁, chars = before ++ c :: after ∧
      e.type before = (e₁, .ok ()) ∧ Calls e₁.listeners (e₁.insert [c]) .recorder e')
      e (e.type chars).1 := by
  induction chars generalizing e with
  | nil => exact .refl e
  | cons c cs ih =>
      have hinsert : Steady (Calls e.listeners (e.insert [c]) .recorder) e (e.insert [c]) :=
        .silent (fun h => h.insert [c]) rfl
      have hfirst := (hinsert.trans (steady_notify (e.insert [c]))).mono
        fun e' h => (⟨[], c, cs, e, rfl, rfl, h⟩ : ∃ before d after e₁,
          c :: cs = before ++ d :: after ∧ e.type before = (e₁, .ok ()) ∧
            Calls e₁.listeners (e₁.insert [d]) .recorder e')
      rw [type_cons]
      split
      · rename_i e₁ heq
        rw [heq] at hfirst
        refine hfirst.trans ((ih e₁).mono ?_)
        rintro e' ⟨before, d, after, e₂, rfl, htype, hcalls⟩
        exact ⟨c :: before, d, after, e₂, rfl, by rw [type_cons, heq]; exact htype, hcalls⟩
      · rename_i e₁ x heq
        rw [heq] at hfirst
        exact hfirst

end Editor

/-! ## Steps of a session -/

namespace Session

variable {session : Session} {step : Step} {ls : List Listener} {e e' : Editor} {l : Listener}

/-- In a step of a session some listeners are told of a change, and find it made in the editor. Each
character that is typed is a change. -/
inductive Tells (session : Session) : Step → List Listener → Editor → Prop
  | typed {before after : Text} {c : Char} {e : Editor} :
      session.editor.type before = (e, .ok ()) →
      Tells session (.type (before ++ c :: after)) e.listeners (e.insert [c])
  | pasted {piece : Text} : ¬ (session.editor.kind = .quiet ∧ piece = []) →
      Tells session (.paste piece) session.editor.listeners (session.editor.insert piece)
  | backspaced {n : Nat} : session.editor.before = n + 1 →
      Tells session .backspace session.editor.listeners
        (session.editor.cutOut n (n + 1) (session.editor.caret - 1))
  | deleted {c : Char} {cs : Text} :
      session.editor.text.drop session.editor.before = c :: cs →
      Tells session .delete session.editor.listeners
        (session.editor.cutOut session.editor.before (session.editor.before + 1)
          session.editor.caret)
  | replaced {text : Text} : ¬ (session.editor.kind = .quiet ∧ text = session.editor.text) →
      Tells session (.setText text) session.editor.listeners (session.editor.replaced text)
  | asked {i : Nat} : Tells session (.handle i) [.controller i] session.editor

/-- In a step of a session a listener is called and finds the editor in some state. -/
def Calls (session : Session) (step : Step) (l : Listener) (e' : Editor) : Prop :=
  ∃ ls e, session.Tells step ls e ∧ Editor.Calls ls e l e'

theorem Tells.inText (h : session.Tells step ls e) (hin : session.editor.InText) : e.InText := by
  have hbefore := hin.before_eq
  have hlow := hin.1
  have hhigh := hin.2
  cases h with
  | @typed before _ c e₁ htype =>
      have htyped := (Editor.steady_type session.editor before).inText hin
      rw [htype] at htyped
      exact htyped.insert [c]
  | pasted => exact hin.insert _
  | backspaced hn => exact Editor.inText_cutOut (by omega) (by omega) (by omega)
  | deleted hc =>
      have hlen := congrArg List.length hc
      simp only [List.length_drop, List.length_cons] at hlen
      exact Editor.inText_cutOut (by omega) hlow (by omega)
  | replaced => exact hin.replaced _
  | asked => exact hin

theorem Calls.inText (h : session.Calls step l e') (hin : session.editor.InText) : e'.InText := by
  obtain ⟨ls, e, htells, hcalls⟩ := h
  exact hcalls.inText (htells.inText hin)

theorem editor_answer {α : Type} (session : Session) (reply : α → Reply) (outcome : Outcome α) :
    (session.answer reply outcome).1.editor = outcome.1 := by
  rcases outcome with ⟨e, result⟩
  cases result <;> rfl

theorem Tells.steady_notify (h : session.Tells step ls e) (hall : ls = e.listeners)
    (hsame : e.sightings = session.editor.sightings) :
    Editor.Steady (session.Calls step .recorder) session.editor e.notify.1 := by
  have hmade : Editor.Steady (session.Calls step .recorder) session.editor e :=
    .silent h.inText hsame
  subst hall
  exact hmade.trans ((Editor.steady_notify e).mono fun _ hcalls => ⟨e.listeners, e, h, hcalls⟩)

/-- In a step the caret stays in the text, and whatever is noted, a recorder notes that is
called. -/
theorem steady_perform (session : Session) (step : Step) :
    Editor.Steady (session.Calls step .recorder) session.editor
      (session.perform step).1.editor := by
  cases step with
  | addController | attach | record | fail | setFirstWordOnly | release => exact .silent id rfl
  | hold i =>
      rw [perform]
      split
      · exact .refl _
      · split
        · exact .silent id rfl
        · exact .refl _
  | setCaret offset => exact .silent (fun _ => .placeCaret session.editor offset) rfl
  | handle i =>
      rw [perform, editor_answer]
      exact (Editor.steady_handle session.editor i).mono fun _ hcalls => ⟨_, _, .asked, hcalls⟩
  | type chars =>
      rw [perform, editor_answer]
      refine (Editor.steady_type session.editor chars).mono ?_
      rintro e' ⟨before, c, after, e₁, rfl, htype, hcalls⟩
      exact ⟨_, _, .typed htype, hcalls⟩
  | paste piece =>
      rw [perform, editor_answer, Editor.paste]
      split
      · exact .refl _
      · rename_i hloud
        exact (Tells.pasted hloud).steady_notify rfl rfl
  | setText text =>
      rw [perform, editor_answer, Editor.setText, Editor.replaceText_eq]
      split
      · exact .silent (fun hin => hin.replaced text) rfl
      · rename_i hloud
        exact (Tells.replaced hloud).steady_notify rfl rfl
  | backspace =>
      rw [perform, editor_answer, Editor.backspace]
      split
      · exact .refl _
      · rename_i n hn
        have htold := (Tells.backspaced hn).steady_notify rfl rfl
        split <;> rename_i heq <;> rwa [heq] at htold
  | delete =>
      rw [perform, editor_answer, Editor.delete]
      split
      · exact .refl _
      · rename_i c cs hc
        have htold := (Tells.deleted hc).steady_notify rfl rfl
        split <;> rename_i heq <;> rwa [heq] at htold

theorem steady_run (hin : session.editor.InText) (steps : List Step) :
    Editor.Steady Editor.InText session.editor (session.run steps).editor := by
  induction steps generalizing session with
  | nil => exact .refl _
  | cons step steps ih =>
      have hstep := session.steady_perform step
      exact (hstep.mono fun _ hcalls => hcalls.inText hin).trans (ih (hstep.inText hin))

/-- However many controllers, recorders and listeners that may fail there are, whatever makes these
fail, and whatever is done to an editor whose caret stands in its text: the caret stands in the text
after every step, also where a listener has failed; in every step, every listener that is called
finds it there, at whatever depth; and so has every recorder seen it. -/
theorem caret_in_text (hin : session.editor.InText) (steps : List Step) :
    (session.run steps).editor.InText ∧
      (∀ step l e', (session.run steps).Calls step l e' →
        0 ≤ e'.caret ∧ e'.caret ≤ e'.text.length) ∧
      ∃ noted, (session.run steps).editor.sightings = session.editor.sightings ++ noted ∧
        ∀ x ∈ noted, 0 ≤ x.caret ∧ x.caret ≤ x.text.length := by
  have hrun := steady_run hin steps
  have hafter := hrun.inText hin
  refine ⟨hafter, fun step l e' hcalls => hcalls.inText hafter, ?_⟩
  obtain ⟨noted, heq, hnoted⟩ := hrun.noted
  refine ⟨noted, heq, fun x hx => ?_⟩
  obtain ⟨e₁, hin₁, rfl⟩ := hnoted x hx
  exact hin₁

/-- The plan of the first controller sends the caret beyond the text that it puts in place. Then the
second controller shortens the text while the first one writes, and at last a listener fails, once
the first links of what is typed have been recased. -/
theorem caret_in_text_failing :
    let e : Editor :=
      { kind := .announcing
        text := "[[a|b\\u]]\\l".toList
        caret := 3
        listeners := [.recorder, .controller 0, .controller 1]
        controllers := [{}, { settings := ⟨true⟩ }] }
    let session : Session := ⟨e, ⟨.standard, []⟩⟩
    let long (seen : Sighting) : Bool := decide (20 < seen.text.length)
    let steps : List Step := [.handle 0, .setText "[[ß|B]]\\t\\u".toList, .setCaret (-2),
      .fail fun _ seen => long seen, .type "[[x\\u]][[y\\u]]".toList]
    session.editor.InText ∧ (plan .standard e.text e.caret).caret = some 9 ∧
      (e.handle 0).1.text.length = 7 ∧
      ((session.run (steps.take 4)).perform (.type "[[x\\u]][[y\\u]]".toList)).2 =
        .error .listenerFailed ∧
      (session.run (steps.take 4)).editor.writes < (session.run steps).editor.writes ∧
      (session.run steps).editor.InText ∧
      ∀ step l e', (session.run steps).Calls step l e' →
        0 ≤ e'.caret ∧ e'.caret ≤ e'.text.length := by
  intro e session long steps
  have hin : session.editor.InText := ⟨by decide, by decide⟩
  obtain ⟨hafter, hcalls, -⟩ := caret_in_text hin steps
  exact ⟨hin, by decide +kernel, by decide +kernel, by decide +kernel, by decide +kernel, hafter,
    hcalls⟩

end Session

end WikiCasing
