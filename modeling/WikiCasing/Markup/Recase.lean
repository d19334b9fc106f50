import WikiCasing.Casing.Transform
import WikiCasing.Markup.Form

/-!
# Recasing links

A link with a command is replaced by a plain wiki link whose alias the command has cased. The
four forms are replaced one after the other, each over the whole result of the one before, so a
command behind a link is used up before a command inside one is looked at.
-/

namespace WikiCasing

/-- A wiki link without an alias. -/
def plainLink (target : Text) : Text := '[' :: '[' :: (target ++ [']', ']'])

/-- A wiki link with an alias. -/
def aliasedLink (target shown : Text) : Text :=
  '[' :: '[' :: (target ++ '|' :: (shown ++ [']', ']']))

/-- What replaces a link: its alias is cased and kept, even if empty; without an alias the cased
target becomes one, unless casing leaves the target as it is. -/
def Link.render (s : Settings) (l : Link) : Text :=
  match l.alias? with
  | some shown => aliasedLink l.target (Casing.apply l.command s.firstWordOnly shown)
  | none =>
    let shown := Casing.apply l.command s.firstWordOnly l.target
    if shown = l.target then plainLink l.target else aliasedLink l.target shown

/-- What replaces a segment. -/
def Segment.render (s : Settings) : Segment → Text
  | .plain c => [c]
  | .link l => l.render s

/-- The segment is a link. -/
def Segment.isLink : Segment → Bool
  | .plain _ => false
  | .link _ => true

/-- A recased text and the number of links replaced on the way. -/
structure Recased where
  text : Text
  count : Nat
deriving DecidableEq, Repr

/-- Every link of one form replaced. -/
def Form.recase (f : Form) (s : Settings) (text : Text) : Recased :=
  let segments := f.segments text
  ⟨segments.flatMap (Segment.render s), segments.countP Segment.isLink⟩

/-- Every link of some forms replaced, one form after the other. -/
def recaseForms (s : Settings) : List Form → Text → Recased
  | [], text => ⟨text, 0⟩
  | f :: fs, text =>
    let first := f.recase s text
    let rest := recaseForms s fs first.text
    ⟨rest.text, first.count + rest.count⟩

/-- Every link of every form replaced, with the number of replacements. -/
def recaseCounted (s : Settings) (text : Text) : Recased := recaseForms s Form.all text

/-- Every link of every form replaced. -/
def recase (s : Settings) (text : Text) : Text := (recaseCounted s text).text

/-- The results of as many passes, each over the result of the one before. -/
def passes (s : Settings) : Nat → Text → List Recased
  | 0, _ => []
  | n + 1, text =>
    let first := recaseCounted s text
    first :: passes s n first.text

end WikiCasing
