import WikiCasing.Editor.Host

/-!
# Line buffers

A controller may also work on the buffer of a line editor, which someone else keeps: it holds the
text and the cursor, and it tells its handlers. A `Buffer` is any such thing, and of what it does no
more is known than the laws that a host relies on (`Buffer.Lawful`). Who listens, the controllers,
and the count of the texts that were put in place are kept beside it.
-/

namespace WikiCasing

/-- What a line buffer holds. -/
structure Line where
  text : Text
  cursor : Nat
deriving DecidableEq, Repr

/-- A line buffer, as far as a controller has to do with it. -/
structure Buffer where
  /-- The line when a character has been put in at the cursor, as the handlers find it. -/
  insert : Char → Line → Line
  /-- The line when the text has been replaced, as the handlers find it, and whether they are
  told. -/
  assign : Text → Line → Line × Bool
  /-- The line when the cursor has been sent to an offset. -/
  place : Int → Line → Line
  /-- What telling the handlers comes to. -/
  fire : List (Editor → Outcome Unit) → Editor → Outcome Unit

/-- What a host relies on, while the cursor stands in the text or behind it: a character goes in at
the cursor, and the cursor behind it, before the handlers are told; a text that is assigned brings
the cursor back to its own length, and the handlers are told of it if it differs; the cursor goes to
the offset within the text that is nearest to the one it is sent to; and the handlers are called in
their order, each when the one before is through, until one fails. -/
structure Buffer.Lawful (b : Buffer) : Prop where
  insert_eq : ∀ (c : Char) (l : Line), l.cursor ≤ l.text.length →
    b.insert c l = ⟨l.text.take l.cursor ++ [c] ++ l.text.drop l.cursor, l.cursor + 1⟩
  assign_eq : ∀ (text : Text) (l : Line), l.cursor ≤ l.text.length →
    b.assign text l = (⟨text, min l.cursor text.length⟩, decide (text ≠ l.text))
  place_eq : ∀ (offset : Int) (l : Line), l.cursor ≤ l.text.length →
    b.place offset l = ⟨l.text, (max 0 (min offset l.text.length)).toNat⟩
  fire_nil : ∀ e : Editor, b.fire [] e = (e, .ok ())
  fire_cons : ∀ (handler : Editor → Outcome Unit) (handlers : List (Editor → Outcome Unit))
    (e : Editor), b.fire (handler :: handlers) e =
      match handler e with
      | (e', .ok ()) => b.fire handlers e'
      | (e', .error x) => (e', .error x)

/-- A plain buffer, which keeps its line as it is put in and calls its handlers one by one. -/
def plainBuffer : Buffer where
  insert c l := ⟨l.text.take l.cursor ++ c :: l.text.drop l.cursor, l.cursor + 1⟩
  assign text l :=
    let cursor := if text.length < l.cursor then text.length else l.cursor
    (⟨text, cursor⟩, text != l.text)
  place offset l :=
    if offset < 0 then ⟨l.text, 0⟩
    else if l.text.length < offset then ⟨l.text, l.text.length⟩
    else ⟨l.text, offset.toNat⟩
  fire := fire
where
  fire : List (Editor → Outcome Unit) → Editor → Outcome Unit
    | [], e => (e, .ok ())
    | handler :: handlers, e =>
      match handler e with
      | (e, .ok ()) => fire handlers e
      | failed => failed

namespace Editor

/-- The line that the buffer holds. -/
def line (e : Editor) : Line := ⟨e.text, e.caret.toNat⟩

/-- The buffer holds another line. -/
def withLine (e : Editor) (l : Line) : Editor := { e with text := l.text, caret := l.cursor }

end Editor

/-- A buffer as the host of its text. Each listener is told by a handler of the buffer. -/
def Buffer.host (b : Buffer) : Host where
  insert e c := e.withLine (b.insert c e.line)
  assign e text :=
    let (l, told) := b.assign text e.line
    ({ e.withLine l with writes := e.writes + 1 }, told)
  place e offset := e.withLine (b.place offset e.line)
  announce react e := b.fire (e.listeners.map (Editor.tell react)) e

end WikiCasing
