import Mathlib.Data.List.Basic
import ModelNav.Settings.Sources

/-!
# The variables of one setting

The entries of a textual source whose names stand for one setting can be left out without a change
to the others, as long as no value that stays refers to one of them.  Leaving them out before the
references are replaced is then the same as leaving them out afterwards.
-/

namespace ModelNav

namespace Settings
namespace Field

variable {α : Type} {field : Field} {name : Text}

/-- The name stands for the setting, whatever the case of its letters. -/
def NamedBy (field : Field) (name : Text) : Prop :=
  name.map Char.toLower = field.variableName

instance (field : Field) (name : Text) : Decidable (field.NamedBy name) :=
  inferInstanceAs (Decidable (name.map Char.toLower = field.variableName))

/-- The entries whose names do not stand for the setting. -/
def others (field : Field) (entries : List (Text × α)) : List (Text × α) :=
  entries.filter fun entry => ¬field.NamedBy entry.1

/-- Two settings have different variables. -/
theorem variableName_injective : Function.Injective variableName := by
  have found (field : Field) :
      all.find? (fun known => known.variableName == field.variableName) = some field := by
    cases field <;> decide
  intro first second same
  have first_found := found first
  rw [same, found second, Option.some.injEq] at first_found
  exact first_found.symm

theorem others_cons_of_namedBy
    (named : field.NamedBy name)
    (value : α)
    (entries : List (Text × α)) :
    field.others ((name, value) :: entries) = field.others entries := by
  simp [others, named]

theorem others_cons_of_not_namedBy
    (foreign : ¬field.NamedBy name)
    (value : α)
    (entries : List (Text × α)) :
    field.others ((name, value) :: entries) = (name, value) :: field.others entries := by
  simp [others, foreign]

theorem lookup_others
    (foreign : ¬field.NamedBy name)
    (entries : List (Text × α)) :
    (field.others entries).lookup name = entries.lookup name := by
  induction entries with
  | nil => rfl
  | cons entry entries inductionHypothesis =>
      obtain ⟨known, value⟩ := entry
      by_cases named : field.NamedBy known
      · have distinct : name ≠ known := fun same => foreign (same ▸ named)
        rw [others_cons_of_namedBy named, inductionHypothesis, List.lookup_cons,
          beq_false_of_ne distinct]
      · rw [others_cons_of_not_namedBy named, List.lookup_cons, List.lookup_cons,
          inductionHypothesis]

/-- Putting a value at a name of the setting changes no other entry. -/
theorem others_put_of_namedBy
    (named : field.NamedBy name)
    (value : α)
    (entries : Dictionary Text α) :
    field.others (Dictionary.put entries name value) = field.others entries := by
  induction entries with
  | nil => simp [others, named]
  | cons entry entries inductionHypothesis =>
      obtain ⟨known, old⟩ := entry
      rw [Dictionary.put]
      by_cases same : known = name
      · subst same
        rw [if_pos (beq_self_eq_true known), others_cons_of_namedBy named,
          others_cons_of_namedBy named]
      · rw [if_neg (by simpa using same)]
        by_cases namedToo : field.NamedBy known
        · rw [others_cons_of_namedBy namedToo, others_cons_of_namedBy namedToo,
            inductionHypothesis]
        · rw [others_cons_of_not_namedBy namedToo, others_cons_of_not_namedBy namedToo,
            inductionHypothesis]

/-- Putting a value at another name does not depend on the entries of the setting. -/
theorem others_put_of_not_namedBy
    (foreign : ¬field.NamedBy name)
    (value : α)
    (entries : Dictionary Text α) :
    field.others (Dictionary.put entries name value) =
      Dictionary.put (field.others entries) name value := by
  induction entries with
  | nil => simp [others, foreign]
  | cons entry entries inductionHypothesis =>
      obtain ⟨known, old⟩ := entry
      rw [Dictionary.put]
      by_cases same : known = name
      · subst same
        rw [if_pos (beq_self_eq_true known), others_cons_of_not_namedBy foreign,
          others_cons_of_not_namedBy foreign, Dictionary.put, if_pos (beq_self_eq_true known)]
      · have differs : ¬(known == name) = true := by simpa using same
        rw [if_neg differs]
        by_cases named : field.NamedBy known
        · rw [others_cons_of_namedBy named, others_cons_of_namedBy named, inductionHypothesis]
        · rw [others_cons_of_not_namedBy named, others_cons_of_not_namedBy named,
            Dictionary.put, if_neg differs, inductionHypothesis]

end Field

/-- The entries of one setting say nothing about another. -/
theorem lastValue?_others
    {α : Type}
    {changed other : Field}
    (distinct : other ≠ changed)
    (entries : Dictionary Text α) :
    lastValue? (changed.others entries) other = lastValue? entries other := by
  rw [lastValue?, lastValue?, Field.others, ← List.filter_reverse, List.find?_filter]
  congr 2
  funext entry
  by_cases named : entry.1.map Char.toLower = other.variableName
  · have foreign : ¬changed.NamedBy entry.1 :=
      fun namedToo => distinct (Field.variableName_injective (named.symm.trans namedToo))
    simp [named, foreign]
  · simp [named]

end Settings

namespace EnvFile

open Settings (Field)

/-- A value refers to a variable: one of its references has the name of the variable.  What stands
behind a reference is read from the end of the reference on. -/
inductive Refers (name : Text) : Text → Prop
  | here {rest default after : Text}
      (read : reference? rest = some (name, default, after)) :
      Refers name ('$' :: rest)
  | behind {rest other default after : Text}
      (read : reference? rest = some (other, default, after))
      (later : Refers name after) :
      Refers name ('$' :: rest)
  | beyondMark {rest : Text}
      (unread : reference? rest = none)
      (later : Refers name rest) :
      Refers name ('$' :: rest)
  | beyond {first : Char} {rest : Text}
      (noMark : first ≠ '$')
      (later : Refers name rest) :
      Refers name (first :: rest)

/-- Only the variables that a value refers to matter for it. -/
theorem interpolate_congr
    {value? other? : Text → Option Text}
    {fuel : Nat}
    {text : Text}
    (agree : ∀ name, Refers name text → value? name = other? name) :
    interpolate value? fuel text = interpolate other? fuel text := by
  fun_induction interpolate value? fuel text with
  | case1 text => rw [interpolate]
  | case2 fuel positive => rw [interpolate.eq_2 _ _ positive]
  | case3 fuel rest name default after read inductionHypothesis =>
      have same := inductionHypothesis fun other refers => agree other (.behind read refers)
      simp only [interpolate, read, agree name (.here read), same]
  | case4 fuel rest unread inductionHypothesis =>
      have same := inductionHypothesis fun other refers => agree other (.beyondMark unread refers)
      simp only [interpolate, unread, same]
  | case5 fuel first rest noMark inductionHypothesis =>
      have same := inductionHypothesis fun other refers => agree other (.beyond noMark refers)
      rw [interpolate, same]
      exact noMark

/-- One binding of an environment file, added to those above it. -/
def addBinding
    (environment : Environment)
    (resolved : Dictionary Text (Option Text))
    (binding : Binding) :
    Dictionary Text (Option Text) :=
  let value? (reference : Text) : Option Text :=
    match resolved.lookup reference with
    | some bound => some (bound.getD [])
    | none => environment.lookup reference
  Dictionary.put resolved binding.1
    (binding.2.map fun text => interpolate value? text.length text)

theorem resolve_eq_foldl
    (environment : Environment)
    (bindings : List Binding) :
    resolve environment bindings = bindings.foldl (addBinding environment) [] := rfl

section Others

variable {field : Field} {environment : Environment} {resolved : Dictionary Text (Option Text)}

/-- A binding of the setting leaves the other entries as they are. -/
theorem others_addBinding_of_namedBy
    {binding : Binding}
    (named : field.NamedBy binding.1) :
    field.others (addBinding environment resolved binding) = field.others resolved :=
  Field.others_put_of_namedBy named _ _

/-- A binding that does not refer to the setting does not need its entries. -/
theorem others_addBinding_of_not_namedBy
    {name : Text}
    {value : Option Text}
    (foreign : ¬field.NamedBy name)
    (unreferred : ∀ text ∈ value, ∀ reference, Refers reference text → ¬field.NamedBy reference) :
    field.others (addBinding environment resolved (name, value)) =
      addBinding (field.others environment) (field.others resolved) (name, value) := by
  rw [addBinding, addBinding, Field.others_put_of_not_namedBy foreign]
  congr 1
  cases value with
  | none => rfl
  | some text =>
      rw [Option.map_some, Option.map_some, Option.some.injEq]
      apply interpolate_congr
      intro reference refers
      have apart := unreferred text rfl reference refers
      rw [Field.lookup_others apart, Field.lookup_others apart]

/-- Leaving out the entries of a setting that no other value refers to can be done before or after
the references are replaced. -/
theorem others_resolve
    {bindings : List Binding}
    (unreferred : ∀ name text, (name, some text) ∈ field.others bindings →
      ∀ reference, Refers reference text → ¬field.NamedBy reference) :
    field.others (resolve environment bindings) =
      resolve (field.others environment) (field.others bindings) := by
  -- The entries that were resolved so far are related by the same omission.
  have step (resolved : Dictionary Text (Option Text)) :
      field.others (bindings.foldl (addBinding environment) resolved) =
        (field.others bindings).foldl (addBinding (field.others environment))
          (field.others resolved) := by
    induction bindings generalizing resolved with
    | nil => rfl
    | cons binding bindings inductionHypothesis =>
        obtain ⟨name, value⟩ := binding
        by_cases named : field.NamedBy name
        · rw [Field.others_cons_of_namedBy named] at unreferred ⊢
          rw [List.foldl_cons, inductionHypothesis unreferred, others_addBinding_of_namedBy named]
        · rw [Field.others_cons_of_not_namedBy named] at unreferred ⊢
          have later : ∀ name text, (name, some text) ∈ field.others bindings →
              ∀ reference, Refers reference text → ¬field.NamedBy reference :=
            fun name text present => unreferred name text (List.mem_cons_of_mem _ present)
          have own : ∀ text ∈ value, ∀ reference, Refers reference text →
              ¬field.NamedBy reference := by
            rintro text rfl
            exact unreferred name text List.mem_cons_self
          rw [List.foldl_cons, List.foldl_cons, inductionHypothesis later,
            others_addBinding_of_not_namedBy named own]
  exact step []

end Others

end EnvFile
end ModelNav
