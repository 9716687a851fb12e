/-!
# Dictionaries

A dictionary is a list of keys with their values, in the order in which the keys were first put.
Putting a key again replaces its value and keeps its place.
-/

namespace ModelNav

/-- Keys with their values, in the order in which the keys were first put. -/
abbrev Dictionary (κ ν : Type) := List (κ × ν)

namespace Dictionary

variable {κ ν : Type} [BEq κ]

/-- The dictionary with a value put at a key. -/
def put : Dictionary κ ν → κ → ν → Dictionary κ ν
  | [], key, value => [(key, value)]
  | (known, old) :: rest, key, value =>
    if known == key then (known, value) :: rest else (known, old) :: put rest key value

/-- The dictionary without a key. -/
def erase (dictionary : Dictionary κ ν) (key : κ) : Dictionary κ ν :=
  dictionary.filter fun (known, _) => !(known == key)

/-- The dictionary that holds the given pairs, put one after the other. -/
def ofPairs (pairs : List (κ × ν)) : Dictionary κ ν :=
  pairs.foldl (fun dictionary (key, value) => put dictionary key value) []

@[simp]
theorem put_nil (key : κ) (value : ν) : put [] key value = [(key, value)] := rfl

end Dictionary
end ModelNav
