import WikiCasing.Editor.Session
import WikiCasing.Proofs.Editor.LineBuffer

/-!
# Two hosts for one controller

A controller works alike on an editor, which tells its listeners of every text that is put in place,
and on a line buffer, which tells its handlers only of a text that differs and of which no more is
known than its laws. Whatever is typed, attached, toggled and asked for, the two show the same after
every step (`hosts_agree`).

One step of a session on a lawful buffer agrees with the step on an editor of either kind, and keeps
the caret in the text (`Buffer.Lawful.perform_agree`). Since nothing that shows depends on the kind
of an editor, all that shows is the same on the two hosts (`Buffer.Lawful.log_eq`).
-/

namespace WikiCasing

/-! ## Sessions on either host -/

/-- The steps that both hosts know. A text put in place from outside, pasted or cut out is not
among them. -/
def Step.shared : Step → Bool
  | .paste _ | .backspace | .delete | .setText _ => false
  | _ => true

/-- One step of a session on a line buffer, if it is one that both hosts know. Those that neither
type, nor move the cursor, nor ask for a reaction do not go to the buffer. -/
def Buffer.perform (b : Buffer) (session : Session) :
    Step → Session × Except EditorError Reply
  | .type chars => session.answer (fun _ => .nothing) (b.host.type chars session.editor)
  | .setCaret offset =>
    ({ session with editor := b.host.place session.editor offset }, .ok .nothing)
  | .handle i => session.answer .wrote (b.host.handle i session.editor)
  | step => session.perform step

/-- What shows after a step: the text and the caret, the settings of the controllers and those that
were saved, and what the step answered. -/
structure Seen where
  text : Text
  caret : Int
  settings : List Settings
  saved : List Settings
  reply : Except EditorError Reply
deriving DecidableEq

namespace Session

/-- What shows after a step with some answer. -/
def seen (session : Session) (reply : Except EditorError Reply) : Seen :=
  ⟨session.editor.text, session.editor.caret, session.editor.settings, session.store.saved, reply⟩

/-- What shows after each of some steps, where every step is performed in some way. -/
def log (perform : Session → Step → Session × Except EditorError Reply) (session : Session) :
    List Step → List Seen
  | [] => []
  | step :: steps =>
    (perform session step).1.seen (perform session step).2 ::
      (perform session step).1.log perform steps

/-- The session, but on an editor of some kind. -/
def withKind (session : Session) (k : EditorKind) : Session :=
  { session with editor := session.editor.withKind k }

/-- The outcome of a step on one host, and its outcome on an editor of some kind: they are the same,
the kind apart, and the caret stands in the text. -/
structure Agree (k : EditorKind) (out out' : Session × Except EditorError Reply) : Prop where
  inText : out.1.editor.InText
  eq_withKind : out' = (out.1.withKind k, out.2)

theorem answer_agree {α : Type} {k : EditorKind} {out out' : Outcome α}
    (h : Editor.Agree k out out') (session : Session) (reply : α → Reply) :
    Agree k (session.answer reply out) ((session.withKind k).answer reply out') := by
  obtain ⟨hin, rfl⟩ := h
  rcases out with ⟨e, result⟩
  cases result <;> exact ⟨hin, rfl⟩

end Session

namespace Buffer

variable {b : Buffer} {session : Session} {step : Step}

/-- A step that both hosts know, on a lawful buffer and on an editor of either kind. -/
theorem Lawful.perform_agree (hb : b.Lawful) (k : EditorKind) (h : session.editor.InText)
    (hstep : step.shared = true) :
    Session.Agree k (b.perform session step) ((session.withKind k).perform step) := by
  cases step with
  | addController | attach | record | fail | setFirstWordOnly | release => exact ⟨h, rfl⟩
  | paste | backspace | delete | setText => exact absurd hstep (by simp [Step.shared])
  | type chars => exact Session.answer_agree (hb.faithful.type_agree k h chars) session _
  | setCaret offset =>
      rw [perform, hb.faithful.place_eq _ offset h]
      exact ⟨Editor.InText.placeCaret session.editor offset, rfl⟩
  | handle i => exact Session.answer_agree (hb.faithful.react_agree k _ i h) session _
  | hold i =>
      have hcontrollers : (session.withKind k).editor.controllers = session.editor.controllers :=
        rfl
      show Session.Agree k (session.perform (.hold i)) _
      rw [Session.perform, Session.perform, hcontrollers]
      cases session.editor.controllers[i]? with
      | none => exact ⟨h, rfl⟩
      | some c =>
          dsimp only
          cases c.guard.take <;> exact ⟨h, rfl⟩

theorem Lawful.log_eq (hb : b.Lawful) (k : EditorKind) (h : session.editor.InText)
    {steps : List Step} (hsteps : ∀ step ∈ steps, step.shared = true) :
    session.log b.perform steps = (session.withKind k).log Session.perform steps := by
  induction steps generalizing session with
  | nil => rfl
  | cons step steps ih =>
      obtain ⟨hstep, hsteps⟩ := List.forall_mem_cons.mp hsteps
      obtain ⟨hin, heq⟩ := hb.perform_agree k h hstep
      rw [Session.log, Session.log, heq, ih hin hsteps]
      rfl

end Buffer

/-- After every step that both hosts know, a session on an empty buffer that is lawful shows what a
session on an empty editor shows that announces every text, with a controller of the same settings;
and so does one on an empty editor that announces only a text that differs. -/
theorem hosts_agree {b : Buffer} (hb : b.Lawful) (s : Settings) {steps : List Step}
    (hsteps : ∀ step ∈ steps, step.shared = true) :
    (Session.start .quiet [] 0 s).log b.perform steps =
        (Session.start .announcing [] 0 s).log Session.perform steps ∧
      (Session.start .quiet [] 0 s).log Session.perform steps =
        (Session.start .announcing [] 0 s).log Session.perform steps := by
  have hempty : (Session.start .quiet [] 0 s).editor.InText := ⟨Int.le_refl 0, Int.le_refl 0⟩
  have hannouncing := hb.log_eq .announcing hempty hsteps
  have hquiet := hb.log_eq .quiet hempty hsteps
  exact ⟨hannouncing, hquiet.symm.trans hannouncing⟩

/-- A controller that is attached twice is told of what it wrote itself, and finds nothing left to
do. The cursor is then sent before the text, and typing goes on there. -/
theorem hosts_agree_attached_twice :
    let steps : List Step :=
      [.attach 0, .attach 0, .type "[[A B\\l".toList, .setFirstWordOnly 0 true,
        .type "]]\\t".toList, .setCaret (-3), .type "x".toList, .handle 0]
    plainBuffer.Lawful ∧ (∀ step ∈ steps, step.shared = true) ∧
      (Session.start .quiet [] 0 ⟨false⟩).log plainBuffer.perform steps =
        (Session.start .announcing [] 0 ⟨false⟩).log Session.perform steps ∧
      ((Session.start .quiet [] 0 ⟨false⟩).log plainBuffer.perform steps).map
          (fun seen => (seen.text, seen.caret)) =
        [([], 0), ([], 0), ("[[A B\\l".toList, 7), ("[[A B\\l".toList, 7),
          ("[[A B|A B]]".toList, 11), ("[[A B|A B]]".toList, 0), ("x[[A B|A B]]".toList, 1),
          ("x[[A B|A B]]".toList, 1)] := by
  intro steps
  have hshared : ∀ step ∈ steps, step.shared = true := by decide
  refine ⟨plainBuffer_lawful, hshared, ?_, by decide +kernel⟩
  exact (hosts_agree plainBuffer_lawful ⟨false⟩ hshared).1

end WikiCasing
