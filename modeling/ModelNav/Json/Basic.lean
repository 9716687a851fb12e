import ModelNav.Rounding
import ModelNav.Text.Basic

/-!
# JSON values

Request bodies and the list setting are written in JSON.  Whole numbers and numbers with a fraction
or an exponent are told apart, because only the latter are rounded to binary floating point.
-/

namespace ModelNav

/-- A double-precision number: a significand scaled by a power of two, or a special value. -/
inductive Binary64 where
  | finite (negative : Bool) (significand : Nat) (exponent : Int)
  | infinite (negative : Bool)
  | notANumber
deriving DecidableEq, Repr

namespace Binary64

/-- A power of two. -/
def twoTo (exponent : Nat) : Nat :=
  Nat.pow 2 exponent

/-- A power of ten. -/
def tenTo (exponent : Nat) : Nat :=
  Nat.pow 10 exponent

/-- The double-precision number nearest to a positive fraction. -/
def ofFraction (negative : Bool) (numerator denominator : Nat) : Binary64 :=
  let scale : Int := (numerator.log2 : Int) - denominator.log2
  let below := numerator * twoTo (-scale).toNat < denominator * twoTo scale.toNat
  let exponent := max (scale - (if below then 53 else 52)) (-1074)
  let significand :=
    roundDiv (numerator * twoTo (-exponent).toNat) (denominator * twoTo exponent.toNat)
  if twoTo 1024 ≤ significand * twoTo exponent.toNat then .infinite negative
  else .finite negative significand exponent

/-- The double-precision number nearest to the given digits times a power of ten. -/
def ofDecimal (negative : Bool) (digits : Nat) (exponent : Int) : Binary64 :=
  let magnitude : Int := (Nat.toDigits 10 digits).length + exponent
  if digits = 0 ∨ magnitude < -400 then .finite negative 0 0
  else if 400 < magnitude then .infinite negative
  else ofFraction negative (digits * tenTo exponent.toNat) (tenTo (-exponent).toNat)

/-- The whole number that a finite number without fraction is. -/
def whole? : Binary64 → Option Int
  | .finite negative significand exponent =>
    let unit := twoTo (-exponent).toNat
    if significand % unit = 0 then
      let value : Int := (significand / unit * twoTo exponent.toNat : Nat)
      some (if negative then -value else value)
    else none
  | _ => none

end Binary64

/-- A JSON value; the members of an object keep their order. -/
inductive Json where
  | null
  | bool (value : Bool)
  | int (value : Int)
  | real (value : Binary64)
  | str (value : Text)
  | arr (items : List Json)
  | obj (members : List (Text × Json))

namespace Json

/-- The value of a member of an object. -/
def member? (value : Json) (name : String) : Option Json :=
  match value with
  | .obj members => members.lookup name.toList
  | _ => none

mutual

/-- All numbers of the value are finite, so that the value can be written. -/
def allFinite : Json → Bool
  | .real (.finite ..) => true
  | .real _ => false
  | .arr items => itemsFinite items
  | .obj members => membersFinite members
  | _ => true

/-- All numbers of the items are finite. -/
def itemsFinite : List Json → Bool
  | [] => true
  | item :: items => allFinite item && itemsFinite items

/-- All numbers of the members are finite. -/
def membersFinite : List (Text × Json) → Bool
  | [] => true
  | (_, value) :: members => allFinite value && membersFinite members

end

end Json
end ModelNav
