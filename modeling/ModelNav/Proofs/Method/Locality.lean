import ModelNav.Proofs.Method.Lookup

/-!
# Methods in lists that grow

Lines that are put in front of a list and do not define the method move it down and change at most
its comment, which is read upwards.  Lines that are put behind a list in which the method stands
change at most its declaration, which is read downwards.
-/

namespace ModelNav

variable {front lines behind : List Text} {name : Text} {extra : Int} {method : Method}

/-- Lines from the line of the method on do not matter for its comment. -/
theorem Comment.above_append
    {methodLine : Nat}
    (inBounds : methodLine ≤ lines.length)
    (behind : List Text) :
    Comment.above (lines ++ behind) methodLine = Comment.above lines methodLine := by
  rw [Comment.above, List.take_append_of_le_length inBounds, Comment.above]

/-- Lines above the first line of a declaration do not matter for it. -/
theorem Declaration.startingAt_append
    (front lines : List Text)
    (start : Nat)
    (extra : Int) :
    Declaration.startingAt (front ++ lines) ((front.length + start : Nat) : Int) extra =
      Declaration.startingAt lines start extra := by
  have same : Declaration.linesFrom (front ++ lines) ((front.length + start : Nat) : Int) =
      Declaration.linesFrom lines start :=
    List.drop_length_add_append start
  rw [Declaration.startingAt, same, Declaration.startingAt]

namespace Method

/-! ## Lines in front -/

/-- The method is found further down, with the comment that stands above it there. -/
theorem findIn?_append_of_undefined
    (undefined : ∀ line ∈ front, ¬Defines name line)
    (found : findIn? lines name extra = some method) :
    findIn? (front ++ lines) name extra =
      some { method with
        line := front.length + method.line
        comment := Comment.above (front ++ lines) (front.length + method.line) } := by
  obtain ⟨index, line, standsAt, defines, first, rfl⟩ := findIn?_eq_some_iff.mp found
  refine findIn?_eq_some_iff.mpr ⟨front.length + index, line, ?_, defines, ?_, ?_⟩
  · rw [List.getElem?_append_right (Nat.le_add_right _ _), Nat.add_sub_cancel_left]
    exact standsAt
  · intro earlier before other isOther
    rcases Nat.lt_or_ge earlier front.length with inFront | inLines
    · rw [List.getElem?_append_left inFront] at isOther
      exact undefined other (List.mem_of_getElem? isOther)
    · rw [List.getElem?_append_right inLines] at isOther
      exact first (earlier - front.length) (by omega) other isOther
  · simp only [definedAt, Declaration.startingAt_append]

theorem findIn?_append_eq_none_iff
    (undefined : ∀ line ∈ front, ¬Defines name line) :
    findIn? (front ++ lines) name extra = none ↔ findIn? lines name extra = none := by
  rw [findIn?_eq_none_iff, List.forall_mem_append, findIn?_eq_none_iff]
  exact and_iff_right undefined

/-! ## Lines behind -/

/-- The method stays where it is, with the declaration that follows it there. -/
theorem findIn?_append_of_found
    (found : findIn? lines name extra = some method)
    (behind : List Text) :
    findIn? (lines ++ behind) name extra =
      some { method with
        declaration := Declaration.startingAt (lines ++ behind) method.line extra } := by
  obtain ⟨index, line, standsAt, defines, first, rfl⟩ := findIn?_eq_some_iff.mp found
  obtain ⟨inBounds, -⟩ := List.getElem?_eq_some_iff.mp standsAt
  refine findIn?_eq_some_iff.mpr ⟨index, line, ?_, defines, ?_, ?_⟩
  · rw [List.getElem?_append_left inBounds]
    exact standsAt
  · intro earlier before other isOther
    rw [List.getElem?_append_left (Nat.lt_trans before inBounds)] at isOther
    exact first earlier before other isOther
  · simp only [definedAt, Comment.above_append (Nat.le_of_lt inBounds)]

/-! ## Both -/

/-- Lines in front that do not define the method make no difference to whether it is found, move it
down by their number and keep its column and its declaration.  Lines behind keep a method that is
found, with its line, its column and its comment. -/
theorem findIn?_local
    (front lines behind : List Text)
    (name : Text)
    (extra : Int) :
    ((∀ line ∈ front, ¬Defines name line) →
      (findIn? (front ++ lines) name extra = none ↔ findIn? lines name extra = none) ∧
        ∀ method, findIn? lines name extra = some method →
          ∃ moved, findIn? (front ++ lines) name extra = some moved ∧
            moved.line = method.line + front.length ∧
              moved.character = method.character ∧ moved.declaration = method.declaration) ∧
      ∀ method, findIn? lines name extra = some method →
        ∃ kept, findIn? (lines ++ behind) name extra = some kept ∧
          kept.line = method.line ∧
            kept.character = method.character ∧ kept.comment = method.comment := by
  constructor
  · intro undefined
    refine ⟨findIn?_append_eq_none_iff undefined, ?_⟩
    intro method found
    exact ⟨_, findIn?_append_of_undefined undefined found, Nat.add_comm _ _, rfl, rfl⟩
  · intro method found
    exact ⟨_, findIn?_append_of_found found behind, rfl, rfl, rfl⟩

/-- A line comment in front joins the comment of the method, and a brace behind ends its
declaration; all else is as it was. -/
theorem findIn?_local_sample :
    (∀ line ∈ ["function put()".toList, "// Cached.".toList], ¬Defines "get".toList line) ∧
      ∃ method moved kept,
        findIn? ["// Reads.".toList, "function get($a)".toList] "get".toList 10 = some method ∧
          findIn? (["function put()".toList, "// Cached.".toList] ++
            ["// Reads.".toList, "function get($a)".toList]) "get".toList 10 = some moved ∧
          moved.line = method.line + 2 ∧ moved.declaration = method.declaration ∧
          moved.comment ≠ method.comment ∧
          findIn? (["// Reads.".toList, "function get($a)".toList] ++ ["\x7b".toList]) "get".toList
            10 = some kept ∧
          kept.line = method.line ∧ kept.comment = method.comment ∧
          kept.declaration ≠ method.declaration := by
  have undefined :
      ∀ line ∈ ["function put()".toList, "// Cached.".toList], ¬Defines "get".toList line := by
    decide +kernel
  have found :
      findIn? ["// Reads.".toList, "function get($a)".toList] "get".toList 10 =
        some ⟨1, 9, "Reads.".toList, "function get($a)".toList⟩ := by
    decide +kernel
  obtain ⟨inFront, isBehind⟩ := findIn?_local ["function put()".toList, "// Cached.".toList]
    ["// Reads.".toList, "function get($a)".toList] ["\x7b".toList] "get".toList 10
  obtain ⟨moved, foundMoved, line_eq, -, declaration_eq⟩ := (inFront undefined).2 _ found
  obtain ⟨kept, foundKept, keptLine_eq, -, comment_eq⟩ := isBehind _ found
  refine ⟨undefined, _, moved, kept, found, foundMoved, line_eq, declaration_eq, ?_, foundKept,
    keptLine_eq, comment_eq, ?_⟩
  · rw [findIn?_append_of_undefined undefined found, Option.some.injEq] at foundMoved
    rw [← foundMoved]
    decide +kernel
  · rw [findIn?_append_of_found found, Option.some.injEq] at foundKept
    rw [← foundKept]
    decide +kernel

end Method
end ModelNav
