import ModelNav.Text.Basic

/-!
# UTF-8

Writing a text as bytes and reading it back.  Reading is strict: overlong forms, surrogates, code
points beyond the last plane, stray continuation bytes and a sequence that the end cuts short are
faults.  A fault tells the bytes it covers: the longest beginning of a well-formed sequence that
stands there, and at least one byte.
-/

namespace ModelNav

/-- The content of a file. -/
abbrev Bytes := List UInt8

namespace Utf8

/-- The reason why bytes cannot be read. -/
inductive Reason where
  | startByte
  | continuationByte
  | endOfData
deriving DecidableEq, Repr

/-- The first place where bytes cannot be read: the byte there, its position, how many bytes are
covered, and why. -/
structure Fault where
  byte : UInt8
  position : Nat
  length : Nat
  reason : Reason
deriving DecidableEq, Repr

/-- The bytes of a character. -/
def encodeChar (character : Char) : Bytes :=
  let code := character.toNat
  if code < 0x80 then [UInt8.ofNat code]
  else if code < 0x800 then [UInt8.ofNat (0xC0 + code / 0x40), UInt8.ofNat (0x80 + code % 0x40)]
  else if code < 0x10000 then
    [UInt8.ofNat (0xE0 + code / 0x1000), UInt8.ofNat (0x80 + code / 0x40 % 0x40),
      UInt8.ofNat (0x80 + code % 0x40)]
  else
    [UInt8.ofNat (0xF0 + code / 0x40000), UInt8.ofNat (0x80 + code / 0x1000 % 0x40),
      UInt8.ofNat (0x80 + code / 0x40 % 0x40), UInt8.ofNat (0x80 + code % 0x40)]

/-- The bytes of a text. -/
def encode (text : Text) : Bytes :=
  text.flatMap encodeChar

/-- The number of bytes of a text. -/
def byteLength (text : Text) : Nat :=
  (encode text).length

/-- A byte that may stand inside a sequence. -/
def isContinuation (byte : UInt8) : Bool :=
  0x80 ≤ byte && byte ≤ 0xBF

/-- A byte that may come second in a sequence that begins with the given byte. -/
def isSecond (first second : UInt8) : Bool :=
  isContinuation second &&
    (first != 0xE0 || 0xA0 ≤ second) && (first != 0xED || second ≤ 0x9F) &&
    (first != 0xF0 || 0x90 ≤ second) && (first != 0xF4 || second ≤ 0x8F)

/-- The six bits that a continuation byte carries. -/
def payload (byte : UInt8) : Nat :=
  byte.toNat - 0x80

/-- Reads bytes that stand at a position of the whole. -/
def decodeFrom (position : Nat) : Bytes → Except Fault Text
  | [] => .ok []
  | first :: rest =>
    let fault length reason := .error ⟨first, position, length, reason⟩
    if first < 0x80 then do
      let text ← decodeFrom (position + 1) rest
      return Char.ofNat first.toNat :: text
    else if first < 0xC2 || 0xF5 ≤ first then fault 1 .startByte
    else
      match rest with
      | [] => fault 1 .endOfData
      | second :: rest =>
        if !isSecond first second then fault 1 .continuationByte
        else if first < 0xE0 then do
          let text ← decodeFrom (position + 2) rest
          return Char.ofNat ((first.toNat - 0xC0) * 0x40 + payload second) :: text
        else
          match rest with
          | [] => fault 2 .endOfData
          | third :: rest =>
            if !isContinuation third then fault 2 .continuationByte
            else if first < 0xF0 then do
              let text ← decodeFrom (position + 3) rest
              return Char.ofNat
                ((first.toNat - 0xE0) * 0x1000 + payload second * 0x40 + payload third) :: text
            else
              match rest with
              | [] => fault 3 .endOfData
              | fourth :: rest =>
                if !isContinuation fourth then fault 3 .continuationByte
                else do
                  let text ← decodeFrom (position + 4) rest
                  return Char.ofNat
                    ((first.toNat - 0xF0) * 0x40000 + payload second * 0x1000 +
                      payload third * 0x40 + payload fourth) :: text

/-- Reads bytes as text. -/
def decode (bytes : Bytes) : Except Fault Text :=
  decodeFrom 0 bytes

@[simp]
theorem encode_nil : encode [] = [] := rfl

@[simp]
theorem encode_cons (character : Char) (text : Text) :
    encode (character :: text) = encodeChar character ++ encode text := by
  simp [encode]

@[simp]
theorem encode_append (first second : Text) :
    encode (first ++ second) = encode first ++ encode second := by
  simp [encode]

@[simp]
theorem decode_nil : decode [] = .ok [] := rfl

end Utf8
end ModelNav
