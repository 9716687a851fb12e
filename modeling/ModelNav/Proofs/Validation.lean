import ModelNav.Validation

/-!
# What passes a check

A check either gives the value it was asked for or lists faults.  Here each way of putting checks
together is told by the values that pass it: a record passes when every one of its fields does.
-/

namespace ModelNav

namespace Validated

variable {α β : Type}

theorem map_eq_valid_iff
    {function : α → β}
    {checked : Validated α}
    {value : β} :
    function <$> checked = .valid value ↔
      ∃ given, checked = .valid given ∧ function given = value := by
  change Validated.map function checked = _ ↔ _
  cases checked <;> simp [Validated.map]

theorem seq_eq_valid_iff
    {function : Validated (α → β)}
    {argument : Validated α}
    {value : β} :
    function <*> argument = .valid value ↔
      ∃ apply given, function = .valid apply ∧ argument = .valid given ∧ apply given = value := by
  change Validated.seq function argument = _ ↔ _
  cases function <;> cases argument <;> simp [Validated.seq]

@[simp]
theorem under_eq_valid_iff
    {key : Validation.Key}
    {checked : Validated α}
    {value : α} :
    checked.under key = .valid value ↔ checked = .valid value := by
  cases checked <;> simp [Validated.under]

theorem andThen_eq_valid_iff
    {checked : Validated α}
    {check : α → Validated β}
    {value : β} :
    checked.andThen check = .valid value ↔
      ∃ given, checked = .valid given ∧ check given = .valid value := by
  cases checked <;> simp [Validated.andThen]

theorem all_eq_valid_iff
    {checks : List (Validated α)}
    {values : List α} :
    Validated.all checks = .valid values ↔ checks = values.map .valid := by
  induction checks generalizing values with
  | nil => cases values <;> simp [Validated.all]
  | cons first rest inductionHypothesis =>
      change (List.cons <$> first) <*> Validated.all rest = _ ↔ _
      rw [seq_eq_valid_iff]
      constructor
      · rintro ⟨apply, others, firstPasses, restPasses, rfl⟩
        obtain ⟨value, rfl, rfl⟩ := map_eq_valid_iff.mp firstPasses
        rw [inductionHypothesis.mp restPasses, List.map_cons]
      · intro same
        cases values with
        | nil => simp at same
        | cons value others =>
            obtain ⟨rfl, restSame⟩ := List.cons.inj same
            exact ⟨_, others, rfl, inductionHypothesis.mpr restSame, rfl⟩

end Validated

namespace Json

/-- The member of an object is left out, or null. -/
def Lacks (json : Json) (name : String) : Prop :=
  json.member? name = none ∨ json.member? name = some .null

/-- The member of an object that need not be given, as the value it stands for. -/
def GivesOptional {α : Type} (json : Json) (name : String) (stands : α → Json) :
    Option α → Prop
  | none => json.Lacks name
  | some value => json.member? name = some (stands value)

end Json

namespace Validation

variable {α : Type} {record json : Json} {name : String} {check : Json → Validated α} {value : α}

theorem string_eq_valid_iff
    {text : Text} :
    string json = .valid text ↔ json = .str text := by
  cases json <;> simp [string, Validated.fault]

/-- A natural number is a whole number that is not negative. -/
theorem natural_eq_valid_iff
    {number : Nat} :
    natural json = .valid number ↔ integer json = .valid (number : Int) := by
  have natural_eq : natural json = Int.toNat <$> integerFrom 0 json := rfl
  rw [natural_eq, Validated.map_eq_valid_iff]
  constructor
  · rintro ⟨whole, passes, rfl⟩
    obtain ⟨given, isWhole, required⟩ := Validated.andThen_eq_valid_iff.mp passes
    unfold require at required
    split at required
    · rename_i atLeast
      obtain rfl : given = whole := by simpa using required
      rw [isWhole, Int.toNat_of_nonneg (by simpa using atLeast)]
    · cases required
  · intro isWhole
    refine ⟨number, Validated.andThen_eq_valid_iff.mpr ⟨number, isWhole, ?_⟩, Int.toNat_natCast _⟩
    simp [require]

/-- A required condition holds of every value that passes. -/
theorem require_eq_valid_iff
    {condition : Bool}
    {problem : Problem}
    {result : α} :
    require condition problem value = .valid result ↔ condition = true ∧ value = result := by
  unfold require
  split <;> simp_all [Validated.fault]

theorem nonemptyString_eq_valid_iff
    {text : Text} :
    nonemptyString json = .valid text ↔ json = .str text ∧ text ≠ [] := by
  simp only [nonemptyString, Validated.andThen_eq_valid_iff, string_eq_valid_iff,
    require_eq_valid_iff, bne_iff_ne]
  constructor
  · rintro ⟨given, isText, present, rfl⟩
    exact ⟨isText, present⟩
  · rintro ⟨isText, present⟩
    exact ⟨text, isText, present, rfl⟩

/-- A number between two bounds is a whole number that lies between them. -/
theorem integerBetween_eq_valid_iff
    {lower upper number : Int} :
    integerBetween lower upper json = .valid number ↔
      integer json = .valid number ∧ lower ≤ number ∧ number ≤ upper := by
  simp only [integerBetween, integerFrom, Validated.andThen_eq_valid_iff, require_eq_valid_iff,
    decide_eq_true_eq]
  constructor
  · rintro ⟨given, ⟨whole, isWhole, atLeast, rfl⟩, atMost, rfl⟩
    exact ⟨isWhole, atLeast, atMost⟩
  · rintro ⟨isWhole, atLeast, atMost⟩
    exact ⟨number, ⟨number, isWhole, atLeast, rfl⟩, atMost, rfl⟩

theorem map_under_string_eq_iff
    (items : List Json)
    (start : Nat)
    (texts : List Text) :
    (items.zipIdx start).map (fun placed => (string placed.1).under (.index placed.2)) =
        texts.map .valid ↔
      items = texts.map .str := by
  induction items generalizing start texts with
  | nil => simp
  | cons item items inductionHypothesis =>
      cases texts with
      | nil => simp
      | cons text texts =>
          simp only [List.zipIdx_cons, List.map_cons, List.cons.injEq,
            Validated.under_eq_valid_iff, string_eq_valid_iff, inductionHypothesis]

/-- A list of texts is an array of strings. -/
theorem list_string_eq_valid_iff
    {texts : List Text} :
    list string json = .valid texts ↔ json = .arr (texts.map .str) := by
  cases json with
  | arr items => simpa [list, Validated.all_eq_valid_iff] using map_under_string_eq_iff items 0 texts
  | _ => simp [list, Validated.fault]

theorem nonemptyList_string_eq_valid_iff
    {texts : List Text} :
    nonemptyList string json = .valid texts ↔ json = .arr (texts.map .str) ∧ texts ≠ [] := by
  simp only [nonemptyList, Validated.andThen_eq_valid_iff, list_string_eq_valid_iff,
    require_eq_valid_iff, Bool.not_eq_true', List.isEmpty_eq_false_iff]
  constructor
  · rintro ⟨given, isList, present, rfl⟩
    exact ⟨isList, present⟩
  · rintro ⟨isList, present⟩
    exact ⟨texts, isList, present, rfl⟩

theorem required_eq_valid_iff :
    required record name check = .valid value ↔
      ∃ json, record.member? name = some json ∧ check json = .valid value := by
  unfold required
  cases record.member? name <;> simp [Validated.fault]

/-- A field that may be left out or null passes when it is, or when it holds what it should. -/
theorem defaulted_optional_eq_valid_iff
    {stands : α → Json}
    (notNull : ∀ value, stands value ≠ .null)
    (check_iff : ∀ json value, check json = .valid value ↔ json = stands value)
    {given : Option α} :
    defaulted record name none (optional check) = .valid given ↔
      record.GivesOptional name stands given := by
  unfold defaulted
  cases present : record.member? name with
  | none => cases given <;> simp [Json.GivesOptional, Json.Lacks, present]
  | some json =>
      rw [Validated.under_eq_valid_iff]
      by_cases null : json = .null
      · subst null
        cases given with
        | none => simp [optional, Json.GivesOptional, Json.Lacks, present]
        | some value =>
            simp [optional, Json.GivesOptional, present, (notNull value).symm]
      · have optional_eq : optional check json = some <$> check json := by
          cases json <;> first | rfl | exact absurd rfl null
        rw [optional_eq, Validated.map_eq_valid_iff]
        cases given with
        | none => simp [Json.GivesOptional, Json.Lacks, present, null]
        | some value => simp [Json.GivesOptional, present, check_iff]

end Validation
end ModelNav
