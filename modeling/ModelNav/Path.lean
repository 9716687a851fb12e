import ModelNav.Text.Basic

/-!
# Paths

A path is an anchor and a list of parts.  Reading a path drops empty parts and parts that are a
single dot; two dots are kept, since only the file system knows where they lead.  Exactly two
leading slashes are an anchor of their own; three or more mean the root.
-/

namespace ModelNav

/-- Where a path starts: at the working directory, at the root, or at the doubled root. -/
inductive Anchor where
  | relative
  | root
  | doubleRoot
deriving DecidableEq, Repr

/-- A path: where it starts and the parts it goes through. -/
structure Path where
  anchor : Anchor
  parts : List Text
deriving DecidableEq, Repr

namespace Path

/-- A part that a path keeps: neither empty nor a single dot. -/
def keeps (part : Text) : Bool :=
  part != [] && part != ['.']

/-- The anchor of a written path. -/
def anchorOf (text : Text) : Anchor :=
  match (text.takeWhile (· == '/')).length with
  | 0 => .relative
  | 2 => .doubleRoot
  | _ => .root

/-- Reads a path. -/
def ofText (text : Text) : Path :=
  ⟨anchorOf text, (Text.splitOn '/' text).filter keeps⟩

/-- The anchor as it is written. -/
def writtenAnchor : Anchor → Text
  | .relative => []
  | .root => ['/']
  | .doubleRoot => ['/', '/']

/-- Writes a path; the path with no parts at the working directory is a single dot. -/
def toText (path : Path) : Text :=
  if path.anchor = .relative ∧ path.parts = [] then ['.']
  else writtenAnchor path.anchor ++ Text.join ['/'] path.parts

/-- The second path taken from the place that the first one names. -/
def append (base path : Path) : Path :=
  match path.anchor with
  | .relative => ⟨base.anchor, base.parts ++ path.parts⟩
  | _ => path

instance : Append Path := ⟨append⟩

/-- The path that a written path names from the place of another one. -/
def join (base : Path) (text : Text) : Path :=
  base ++ ofText text

/-- The path of an entry of the directory that a path names. -/
def child (path : Path) (name : Text) : Path :=
  ⟨path.anchor, path.parts ++ [name]⟩

/-- The path with parts that are two dots resolved by name alone. -/
def normalize (path : Path) : Path :=
  let step (above : List Text) (part : Text) : List Text :=
    if part = ['.', '.'] then above.tail else part :: above
  ⟨path.anchor, (path.parts.foldl step []).reverse⟩

/-- The second path goes through all parts of the first one before its own. -/
def isWithin (path base : Path) : Prop :=
  path.anchor = base.anchor ∧ base.parts <+: path.parts

theorem append_def (base path : Path) : base ++ path = append base path := rfl

theorem append_of_relative
    {base path : Path}
    (relative : path.anchor = .relative) :
    base ++ path = ⟨base.anchor, base.parts ++ path.parts⟩ := by
  simp [append_def, append, relative]

end Path
end ModelNav
