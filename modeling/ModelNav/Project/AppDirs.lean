import ModelNav.Failure

/-!
# The order of application directories

The common directory comes first, the others follow by the code points of their names.
-/

namespace ModelNav
namespace AppDirs

/-- One name comes before another, or at the same place. -/
def precedes (common first second : Text) : Bool :=
  first == common || (second != common && Text.inOrder first second)

/-- The names in the order in which their directories are searched. -/
def sort (common : Text) (names : List Text) : List Text :=
  names.mergeSort (precedes common)

/-- The names in order, unless one holds a NUL, which cannot be compared. -/
def collate (common : Text) (names : List Text) : Except Failure (List Text) :=
  if names.any (·.contains '\x00') then .error .nulInName else .ok (sort common names)

end AppDirs
end ModelNav
