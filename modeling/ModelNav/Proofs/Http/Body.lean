import ModelNav.Http.Service
import ModelNav.Proofs.Validation

/-!
# The bodies of lookups

A body gives a lookup, or it fails its checks, or it cannot be taken for JSON at all.  The three
exclude each other, and each decides how the body is answered.
-/

namespace ModelNav
namespace Http

/-- The lookup that a JSON value describes: an object with a position, and with a text, a path and
folders that may each be left out or null. -/
structure Lookup.IsGivenBy (json : Json) (lookup : Lookup) : Prop where
  isObject : ∃ members, json = .obj members
  text : json.GivesOptional "text" .str lookup.text
  path : json.GivesOptional "path" .str lookup.path
  line : ∃ member, json.member? "line" = some member ∧
    Validation.integer member = .valid (lookup.line : Int)
  character : ∃ member, json.member? "character" = some member ∧
    Validation.integer member = .valid (lookup.character : Int)
  folders : json.GivesOptional "workspace_folders" Json.ofTexts lookup.folders

/-- A value passes the checks of a lookup exactly when it describes one. -/
theorem Lookup.ofJson_eq_valid_iff
    {json : Json}
    {lookup : Lookup} :
    ofJson json = .valid lookup ↔ lookup.IsGivenBy json := by
  cases json with
  | obj members =>
      have optionalText : ∀ (name : String) (given : Option Text),
          Validation.defaulted (.obj members) name none (Validation.optional Validation.string) =
              .valid given ↔
            Json.GivesOptional (.obj members) name .str given := fun name given =>
        Validation.defaulted_optional_eq_valid_iff (fun _ => Json.noConfusion)
          fun _ _ => Validation.string_eq_valid_iff
      have optionalTexts : ∀ (given : Option (List Text)),
          Validation.defaulted (.obj members) "workspace_folders" none
              (Validation.optional (Validation.list Validation.string)) = .valid given ↔
            Json.GivesOptional (.obj members) "workspace_folders" Json.ofTexts given := fun given =>
        Validation.defaulted_optional_eq_valid_iff (fun _ => Json.noConfusion)
          fun _ _ => Validation.list_string_eq_valid_iff
      unfold ofJson
      simp only [Validated.seq_eq_valid_iff, Validated.map_eq_valid_iff, optionalText,
        optionalTexts, Validation.required_eq_valid_iff, Validation.natural_eq_valid_iff]
      constructor
      · rintro ⟨_, folders, ⟨_, character, ⟨_, line, ⟨_, path, ⟨text, isText, rfl⟩, isPath, rfl⟩,
          isLine, rfl⟩, isCharacter, rfl⟩, areFolders, rfl⟩
        exact ⟨⟨members, rfl⟩, isText, isPath, isLine, isCharacter, areFolders⟩
      · rintro ⟨-, isText, isPath, isLine, isCharacter, areFolders⟩
        exact ⟨_, _, ⟨_, _, ⟨_, _, ⟨_, _, ⟨_, isText, rfl⟩, isPath, rfl⟩, isLine, rfl⟩,
          isCharacter, rfl⟩, areFolders, rfl⟩
  | _ =>
      constructor
      · intro valid
        cases valid
      · rintro ⟨⟨members, impossible⟩, -⟩
        cases impossible

namespace Body

/-- The JSON value that a body holds. -/
def Holds (json : Json) : Body → Prop
  | .absent => False
  | .value given => given = json
  | .bytes content =>
    ∃ text, Json.decodeBytes? content = some text ∧
      Json.readWithin Lookup.bodyDepth text = .ok json

/-- The body gives a lookup. -/
def Gives (body : Body) (lookup : Lookup) : Prop :=
  ∃ json, body.Holds json ∧ lookup.IsGivenBy json

variable {body : Body} {json : Json} {lookup : Lookup}

/-- How the bytes of a body are read. -/
def reading (content : Bytes) : Option (Except Json.ReadFault Json) :=
  (Json.decodeBytes? content).map (Json.readWithin Lookup.bodyDepth)

theorem reading_of_decoded
    {content : Bytes}
    {text : Text}
    {result : Except Json.ReadFault Json}
    (decoded : Json.decodeBytes? content = some text)
    (read : Json.readWithin Lookup.bodyDepth text = result) :
    reading content = some result := by
  rw [reading, decoded, Option.map_some, read]

/-- Bytes that do not leave the grammar right at their start are not empty. -/
theorem exists_cons_of_reading
    {content : Bytes}
    {result : Option (Except Json.ReadFault Json)}
    (isRead : reading content = result)
    (grammatical : result ≠ some (.error (.syntaxAt 0))) :
    ∃ byte rest, content = byte :: rest := by
  cases content with
  | nil => exact absurd isRead.symm grammatical
  | cons byte rest => exact ⟨byte, rest, rfl⟩

theorem ofBody_bytes_cons (byte : UInt8) (rest : Bytes) :
    Lookup.ofBody (.bytes (byte :: rest)) =
      match reading (byte :: rest) with
      | some (.ok json) => Lookup.check json
      | some (.error (.syntaxAt offset)) =>
        .ok (.error (Lookup.refuse [⟨[.index offset], .malformedJson⟩]))
      | _ => .ok (.error .unreadableBody) := rfl

theorem ofBody_of_holds
    (holds : body.Holds json) :
    Lookup.ofBody body = Lookup.check json := by
  cases body with
  | absent => exact holds.elim
  | value given => rw [Lookup.ofBody, show given = json from holds]
  | bytes content =>
      obtain ⟨text, decoded, read⟩ := holds
      have isRead : reading content = some (.ok json) := reading_of_decoded decoded read
      obtain ⟨byte, rest, rfl⟩ := exists_cons_of_reading isRead (by simp)
      rw [ofBody_bytes_cons, isRead]

theorem ofBody_of_gives
    (gives : body.Gives lookup) :
    Lookup.ofBody body = .ok (.ok lookup) := by
  obtain ⟨json, holds, isGiven⟩ := gives
  rw [ofBody_of_holds holds, Lookup.check, Lookup.ofJson_eq_valid_iff.mpr isGiven]

/-- A body gives at most one lookup. -/
theorem Gives.unique
    {other : Lookup}
    (gives : body.Gives lookup)
    (givesOther : body.Gives other) :
    lookup = other :=
  Except.ok.inj (Except.ok.inj ((ofBody_of_gives gives).symm.trans (ofBody_of_gives givesOther)))

end Body

end Http
end ModelNav
