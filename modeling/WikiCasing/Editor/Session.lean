import WikiCasing.Editor.Host

/-!
# Sessions

A session is an editor whose controllers share a store for settings that is kept in memory. Its
steps are what a user or a program can do from outside: change the text, move the caret, add and
attach controllers, change their settings, and hold their guards.
-/

namespace WikiCasing

/-- Settings kept in memory: those at the start, and all that were saved since. -/
structure MemoryStore where
  initial : Settings
  saved : List Settings := []
deriving Repr

/-- The settings saved last. -/
def MemoryStore.current (m : MemoryStore) : Settings := m.saved.getLast?.getD m.initial

/-- Settings saved. -/
def MemoryStore.save (m : MemoryStore) (s : Settings) : MemoryStore :=
  { m with saved := m.saved ++ [s] }

/-- An editor and the store of its controllers. -/
structure Session where
  editor : Editor
  store : MemoryStore

/-- What can be done to a session. Controllers go by their numbers. -/
inductive Step where
  | addController
  | attach (index : Nat)
  | record
  /-- A listener attached that may fail; unless told otherwise, it fails whenever it is called. -/
  | fail (fails : Nat → Sighting → Bool := fun _ _ => true)
  | type (chars : Text)
  | paste (piece : Text)
  | backspace
  | delete
  | setText (text : Text)
  | setCaret (offset : Int)
  | handle (index : Nat)
  | setFirstWordOnly (index : Nat) (enabled : Bool)
  | hold (index : Nat)
  | release (index : Nat)

/-- What a step answers. -/
inductive Reply where
  | nothing
  | wrote (yes : Bool)
  | deleted (piece : Text)
deriving DecidableEq, Repr

namespace Session

/-- A session with one controller, which is not attached yet. -/
def start (kind : EditorKind) (text : Text) (caret : Int) (s : Settings) : Session :=
  ⟨{ kind := kind, text := text, caret := caret, controllers := [{ settings := s }] }, ⟨s, []⟩⟩

/-- The outcome of an operation of the editor, with its answer. -/
def answer {α : Type} (session : Session) (reply : α → Reply) (outcome : Outcome α) :
    Session × Except EditorError Reply :=
  match outcome with
  | (e, .ok a) => ({ session with editor := e }, .ok (reply a))
  | (e, .error x) => ({ session with editor := e }, .error x)

/-- The session with one more listener. -/
def listen (session : Session) (l : Listener) : Session :=
  { session with
    editor := { session.editor with listeners := session.editor.listeners ++ [l] } }

/-- One step of a session. -/
def perform (session : Session) : Step → Session × Except EditorError Reply
  | .addController =>
    let c : Controller := { settings := session.store.current }
    let e := { session.editor with controllers := session.editor.controllers ++ [c] }
    ({ session with editor := e }, .ok .nothing)
  | .attach i => (session.listen (.controller i), .ok .nothing)
  | .record => (session.listen .recorder, .ok .nothing)
  | .fail fails => (session.listen (.failing fails), .ok .nothing)
  | .type chars => session.answer (fun _ => .nothing) (session.editor.type chars)
  | .paste piece => session.answer (fun _ => .nothing) (session.editor.paste piece)
  | .backspace => session.answer .deleted session.editor.backspace
  | .delete => session.answer .deleted session.editor.delete
  | .setText text => session.answer (fun _ => .nothing) (session.editor.setText text)
  | .setCaret offset => ({ session with editor := session.editor.placeCaret offset }, .ok .nothing)
  | .handle i => session.answer .wrote (session.editor.handle i)
  | .setFirstWordOnly i enabled =>
    let e := session.editor.updateController i fun c => { c with settings := ⟨enabled⟩ }
    (⟨e, session.store.save ⟨enabled⟩⟩, .ok .nothing)
  | .hold i =>
    match session.editor.controllers[i]? with
    | none => (session, .ok .nothing)
    | some c =>
      match c.guard.take with
      | .ok g => ({ session with editor := session.editor.setGuard i g }, .ok .nothing)
      | .error x => (session, .error x)
  | .release i =>
    let e := session.editor.updateController i fun c =>
      { c with guard := (c.guard.letGo none).1 }
    ({ session with editor := e }, .ok .nothing)

/-- Some steps of a session, one after the other. -/
def run (session : Session) (steps : List Step) : Session :=
  steps.foldl (fun session step => (session.perform step).1) session

end Session

end WikiCasing
