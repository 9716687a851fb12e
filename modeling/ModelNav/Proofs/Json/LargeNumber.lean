import ModelNav.Json.Encoding
import ModelNav.Json.Printer
import ModelNav.Json.Reader
import ModelNav.Proofs.FileSystem
import ModelNav.Proofs.Text.Numeral
import ModelNav.Proofs.Text.Utf8

/-!
# Numbers that are too large to be read

A number may be written in JSON with any number of digits, but it is read only up to a limit.  A
larger one keeps the whole text from being read, whatever else the text holds.
-/

namespace ModelNav
namespace Json

variable {number : Nat}

/-- The text of an object whose first member, named `line`, is a number. -/
def lineText (number : Nat) (rest : Text) : Text :=
  ['{', '"', 'l', 'i', 'n', 'e', '"', ':'] ++ (Numeral.ofNat number ++ ',' :: rest)

end Json
end ModelNav
