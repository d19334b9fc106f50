import WikiCasing.Markup.Form
import WikiCasing.Text.Quoted

/-!
# Naming commands and forms

Commands and forms can be asked for by name. What is given as a name may be any value; only the
exact name counts.
-/

namespace WikiCasing

/-- A value that names nothing. -/
inductive UnknownName where
  | command (given : Json)
  | form (given : Json)

/-- The words for a value that names nothing. -/
def UnknownName.message : UnknownName → Text
  | .command given => given.shown ++ " is not a valid CasingCommand".toList
  | .form given => given.shown ++ " is not a valid PatternForm".toList

/-- The command that a value names. -/
def Command.ofJson (given : Json) : Except UnknownName Command :=
  match given with
  | .text t =>
    match ofText? t with
    | some x => .ok x
    | none => .error (.command given)
  | _ => .error (.command given)

/-- The form that a value names. -/
def Form.ofJson (given : Json) : Except UnknownName Form :=
  match given with
  | .text t =>
    match ofName? t with
    | some f => .ok f
    | none => .error (.form given)
  | _ => .error (.form given)

end WikiCasing
