import ModelNav.FileSystem.Basic
import ModelNav.Text.Lines
import ModelNav.Text.Numeral
import ModelNav.Text.Quoted

/-!
# Reading files as text, and what is said when that fails
-/

namespace ModelNav

/-- The number of a refusal. -/
def Refusal.code : Refusal → Nat
  | .notFound => 2
  | .alreadyExists => 17
  | .notADirectory => 20
  | .isADirectory => 21
  | .nameTooLong => 36

/-- The words of a refusal. -/
def Refusal.words : Refusal → String
  | .notFound => "No such file or directory"
  | .alreadyExists => "File exists"
  | .notADirectory => "Not a directory"
  | .isADirectory => "Is a directory"
  | .nameTooLong => "File name too long"

/-- What is said about a path that cannot be used. -/
def AccessFault.message : AccessFault → Text
  | .nulInPath => "embedded null byte".toList
  | .refused refusal path =>
    s!"[Errno {refusal.code}] {refusal.words}: ".toList ++ path.toText.quoted

/-- The words of a reason. -/
def Utf8.Reason.words : Utf8.Reason → String
  | .startByte => "invalid start byte"
  | .continuationByte => "invalid continuation byte"
  | .endOfData => "unexpected end of data"

/-- What is said about bytes that cannot be read; one byte is shown, several are not. -/
def Utf8.Fault.message (fault : Utf8.Fault) : Text :=
  let reason := fault.reason.words
  let first := fault.position
  if fault.length = 1 then
    let byte := String.ofList (Text.hexadecimal 2 fault.byte.toNat)
    s!"'utf-8' codec can't decode byte 0x{byte} in position {first}: {reason}".toList
  else
    let last := first + fault.length - 1
    s!"'utf-8' codec can't decode bytes in position {first}-{last}: {reason}".toList

/-- Why a file cannot be read as text. -/
inductive ReadFault where
  | access (fault : AccessFault)
  | undecodable (fault : Utf8.Fault)
deriving DecidableEq, Repr

/-- What is said about a file that cannot be read as text. -/
def ReadFault.message : ReadFault → Text
  | .access fault => fault.message
  | .undecodable fault => fault.message

namespace FileSystem

/-- The text of the file that a path leads to, with unified line ends. -/
def readText (files : FileSystem) (path : Path) : Except ReadFault Text := do
  let bytes ← (files.read path).mapError .access
  let text ← (Utf8.decode bytes).mapError .undecodable
  return text.unifyLineEnds

end FileSystem
end ModelNav
