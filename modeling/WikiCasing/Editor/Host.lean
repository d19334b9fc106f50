import WikiCasing.Editor.Basic

/-!
# Controllers on their hosts

A controller asks four things of the host of a text: to put characters in, to put a text in place of
its own, to place the caret, and to tell those who listen. An editor is such a host, and so is any
other thing that can do these four.

What a controller does about a change is the same on every host. It plans the recasing of the text
and has it carried out while it holds its guard. In the course of this other controllers may be told
of the write and write in their turn, so notifications nest. Each level of the nest holds one more
guard, so the number of controllers bounds its depth.
-/

namespace WikiCasing

/-- The host of a text. What the text and the caret are, who listens, and the controllers with
their guards are told by an editor. -/
structure Host where
  /-- The editor as the listeners find it when a character has been put in at the caret. -/
  insert : Editor → Char → Editor
  /-- The editor as the listeners find it when a text has been put in place of its own, and whether
  they are told. -/
  assign : Editor → Text → Editor × Bool
  /-- The editor when the caret has been sent to an offset. -/
  place : Editor → Int → Editor
  /-- What comes of telling all listeners of a change. -/
  announce : (react : Nat → Editor → Outcome Bool) → Editor → Outcome Unit

namespace Host

variable (h : Host)

/-- The text replaced. -/
def replaceText (react : Nat → Editor → Outcome Bool) (text : Text) (e : Editor) : Outcome Unit :=
  match h.assign e text with
  | (e, told) => if told then h.announce react e else (e, .ok ())

/-- The text of a plan written and the caret placed, while the guard of a controller is held. -/
def carryOut (react : Nat → Editor → Outcome Bool) (i : Nat) (g : Guard) (p : Plan)
    (e : Editor) : Outcome Bool :=
  match h.replaceText react p.text (e.setGuard i g) with
  | (e, .error x) => (e.setGuard i (g.letGo (some x)).1, .error x)
  | (e, .ok ()) =>
    let e := match p.caret with
      | some offset => h.place e offset
      | none => e
    (e.setGuard i (g.letGo none).1, .ok true)

/-- How a controller reacts to a change, with at most `depth` notifications inside one another:
unless its guard is held, it plans the recasing of the text and carries it out if there is
anything to change. The answer says whether it wrote. -/
def react : (depth : Nat) → Nat → Editor → Outcome Bool
  | 0, _, e => (e, .ok false)
  | depth + 1, i, e =>
    match e.controllers[i]? with
    | none => (e, .ok false)
    | some c =>
      if c.guard.held then (e, .ok false)
      else
        let p := plan c.settings e.text e.caret
        let e := e.updateController i fun c => { c with lastPlan := some p }
        if p.changed then
          match c.guard.take with
          | .error x => (e, .error x)
          | .ok g => h.carryOut (react depth) i g p e
        else (e, .ok false)

/-- The reaction of a controller, with as many nested notifications as there can be. -/
def handle (i : Nat) (e : Editor) : Outcome Bool := h.react e.controllers.length i e

/-- All listeners told of a change from outside. -/
def notify (e : Editor) : Outcome Unit := h.announce (h.react e.controllers.length) e

/-- Characters typed at the caret, each of them a change. -/
def type : Text → Editor → Outcome Unit
  | [], e => (e, .ok ())
  | c :: cs, e =>
    match h.notify (h.insert e c) with
    | (e, .ok ()) => type cs e
    | (e, .error x) => (e, .error x)

end Host

/-! ## Editors as hosts -/

namespace Editor

/-- An editor as the host of its text. -/
def host : Host where
  insert e c := e.insert [c]
  assign e text := (e.replaced text, !decide (e.kind = .quiet ∧ text = e.text))
  place := placeCaret
  announce react e := tellEach react e.listeners e

/-- All listeners told of a change. -/
def announce (react : Nat → Editor → Outcome Bool) (e : Editor) : Outcome Unit :=
  host.announce react e

/-- The reaction of a controller, with at most `depth` notifications inside one another. -/
def react (depth i : Nat) (e : Editor) : Outcome Bool := host.react depth i e

/-- The reaction of a controller, with as many nested notifications as there can be. -/
def handle (i : Nat) (e : Editor) : Outcome Bool := host.handle i e

/-- All listeners told of a change from outside. -/
def notify (e : Editor) : Outcome Unit := host.notify e

/-- Characters typed at the caret, each of them a change. -/
def type (chars : Text) (e : Editor) : Outcome Unit := host.type chars e

/-- The text replaced from outside. -/
def setText (text : Text) (e : Editor) : Outcome Unit :=
  host.replaceText (react e.controllers.length) text e

/-- A text put in at the caret as one change. -/
def paste (piece : Text) (e : Editor) : Outcome Unit :=
  if e.kind = .quiet ∧ piece = [] then (e, .ok ()) else (e.insert piece).notify

/-- The character before the caret deleted, if there is one; the answer is what was deleted. -/
def backspace (e : Editor) : Outcome Text :=
  match e.before with
  | 0 => (e, .ok [])
  | n + 1 =>
    match (e.cutOut n (n + 1) (e.caret - 1)).notify with
    | (after, .ok ()) => (after, .ok (e.text.drop n |>.take 1))
    | (after, .error x) => (after, .error x)

/-- The character behind the caret deleted, if there is one; the answer is what was deleted. -/
def delete (e : Editor) : Outcome Text :=
  let n := e.before
  match e.text.drop n with
  | [] => (e, .ok [])
  | c :: _ =>
    match (e.cutOut n (n + 1) e.caret).notify with
    | (after, .ok ()) => (after, .ok [c])
    | (after, .error x) => (after, .error x)

end Editor

end WikiCasing
