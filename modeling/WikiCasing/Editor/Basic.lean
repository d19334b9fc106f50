import WikiCasing.Markup.Plan

/-!
# Editors, controllers and listeners

An editor holds a text and a caret and tells its listeners of every change. A controller listens
to an editor and recases its text; since that is a change too, the controller holds its guard
while it writes, and pays no attention to notifications that reach it then. A guard cannot be held
twice. It is let go whether what happens meanwhile succeeds or fails, and a failure is passed on.
-/

namespace WikiCasing

/-! ## Guards -/

/-- What goes wrong in an editor: a guard is taken that is held already, or a listener fails. -/
inductive EditorError where
  | alreadyHeld
  | listenerFailed
deriving DecidableEq, Repr

/-- A guard, held or free. -/
structure Guard where
  held : Bool := false
deriving DecidableEq, Repr

namespace Guard

/-- The guard taken, which only a free guard can be. -/
def take (g : Guard) : Except EditorError Guard :=
  if g.held then .error .alreadyHeld else .ok ⟨true⟩

/-- The guard let go, with the failure to pass on if there is one. -/
def letGo (_ : Guard) (failure? : Option EditorError) : Guard × Option EditorError :=
  (⟨false⟩, failure?)

end Guard

/-! ## Editors -/

/-- How an editor deals with a text that is put in place of its own: one kind tells its listeners
each time, the other only if the text differs. -/
inductive EditorKind where
  | announcing
  | quiet
deriving DecidableEq, Repr

/-- A controller: its settings, its guard, and the plan it made last. -/
structure Controller where
  settings : Settings := .standard
  guard : Guard := {}
  lastPlan : Option Plan := none
deriving DecidableEq, Repr

/-- What a listener sees: the text, the caret, and which guards are held. -/
structure Sighting where
  text : Text
  caret : Int
  guards : List Bool
deriving DecidableEq, Repr

/-- Who is told of a change: a controller, by its number; a recorder, which notes what it sees;
or a listener that may fail, depending on what it sees and on how many calls of such listeners
there were before. -/
inductive Listener where
  | controller (index : Nat)
  | recorder
  | failing (fails : Nat → Sighting → Bool)

/-- An editor with its controllers and listeners. -/
structure Editor where
  kind : EditorKind
  text : Text
  /-- Where the next character goes. A negative caret counts from the end of the text. -/
  caret : Int
  /-- How many times the text was replaced as a whole. -/
  writes : Nat := 0
  listeners : List Listener := []
  controllers : List Controller := []
  sightings : List Sighting := []
  /-- How many times a listener that may fail was called. -/
  calls : Nat := 0

/-- What an operation leaves behind, and whether it succeeded. A failed operation may have changed
the editor. -/
abbrev Outcome (α : Type) := Editor × Except EditorError α

namespace Editor

/-! ## Text, caret and controllers -/

/-- The caret moved to an offset, or to the end of the text that is nearer to it. -/
def placeCaret (e : Editor) (offset : Int) : Editor :=
  { e with caret := max 0 (min offset e.text.length) }

/-- The number of characters before the caret. -/
def before (e : Editor) : Nat :=
  if e.caret < 0 then (e.text.length + e.caret).toNat else min e.caret.toNat e.text.length

/-- A text put in at the caret, which moves behind it. -/
def insert (e : Editor) (piece : Text) : Editor :=
  { e with
    text := e.text.take e.before ++ piece ++ e.text.drop e.before
    caret := e.caret + piece.length }

/-- The characters from one offset to another taken out, and the caret placed. -/
def cutOut (e : Editor) (start stop : Nat) (caret : Int) : Editor :=
  { e with text := e.text.take start ++ e.text.drop stop, caret := caret }

/-- A text put in place of the one that is there. The caret keeps its offset as far as the new text
reaches. -/
def replaced (e : Editor) (text : Text) : Editor :=
  { e with text := text, caret := min e.caret text.length, writes := e.writes + 1 }

/-- A controller changed. -/
def updateController (e : Editor) (i : Nat) (f : Controller → Controller) : Editor :=
  { e with controllers := e.controllers.modify i f }

/-- The guard of a controller set. -/
def setGuard (e : Editor) (i : Nat) (g : Guard) : Editor :=
  e.updateController i fun c => { c with guard := g }

/-- What a listener would see now. -/
def sighting (e : Editor) : Sighting := ⟨e.text, e.caret, e.controllers.map (·.guard.held)⟩

/-! ## Listeners

What a controller does about a change is an argument here, since in doing it the controller tells
the listeners of a change in its turn. -/

/-- One listener told of a change. -/
def tell (react : Nat → Editor → Outcome Bool) (l : Listener) (e : Editor) : Outcome Unit :=
  match l with
  | .controller i =>
    match react i e with
    | (e, .ok _) => (e, .ok ())
    | (e, .error x) => (e, .error x)
  | .recorder => ({ e with sightings := e.sightings ++ [e.sighting] }, .ok ())
  | .failing fails =>
    let called := { e with calls := e.calls + 1 }
    if fails e.calls e.sighting then (called, .error .listenerFailed) else (called, .ok ())

/-- Some listeners told of a change, one after the other; a failure ends it. -/
def tellEach (react : Nat → Editor → Outcome Bool) : List Listener → Editor → Outcome Unit
  | [], e => (e, .ok ())
  | l :: ls, e =>
    match tell react l e with
    | (e, .ok ()) => tellEach react ls e
    | (e, .error x) => (e, .error x)

end Editor

end WikiCasing
