import WikiCasing.Settings.Reader

/-!
# Notices

What the library reports while it works, beside its results: the files of a vault that it
recases or skips, settings that it cannot read, and settings that a user changes.
-/

namespace WikiCasing

/-- How much a notice matters. -/
inductive Level where
  | info
  | warning
deriving DecidableEq, Repr

/-- The name of a level. -/
def Level.name : Level → Text
  | .info => "INFO".toList
  | .warning => "WARNING".toList

/-- A notice. -/
inductive Notice where
  /-- Links of a file were recased. -/
  | recased (links : Nat) (file : Text)
  /-- Links of a file would be recased. -/
  | wouldRecase (links : Nat) (file : Text)
  /-- A file could not be read or written. -/
  | skipped (file : Text)
  /-- Stored settings could not be read. -/
  | unreadableSettings (problem : Settings.Problem)
  /-- The user limited lowering to the first word, or lifted the limit. -/
  | firstWordOnlySet (enabled : Bool)
deriving DecidableEq, Repr

namespace Notice

/-- The level of a notice. -/
def level : Notice → Level
  | recased .. | wouldRecase .. | firstWordOnlySet .. => .info
  | skipped .. | unreadableSettings .. => .warning

/-- The words of a notice. Of a problem with settings only the wrong kind of value is told. -/
def message : Notice → Text
  | recased n file => "Rewrote ".toList ++ Text.ofNat n ++ " link(s) in ".toList ++ file
  | wouldRecase n file => "Would rewrite ".toList ++ Text.ofNat n ++ " link(s) in ".toList ++ file
  | skipped file => "Skipping ".toList ++ file
  | unreadableSettings (.notAnObject kind) =>
    "Ignoring unreadable settings: ".toList ++ (Settings.Problem.notAnObject kind).message
  | unreadableSettings _ => "Ignoring unreadable settings".toList
  | firstWordOnlySet enabled =>
    "lowercaseFirstWordOnly set to ".toList ++ (if enabled then "True" else "False").toList

end Notice

end WikiCasing
