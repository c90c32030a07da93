import Schemata.Config.Outline
import Schemata.Field.Forcing

/-!
# Maps of fields

The fields of a type are declared by a set: keyed declarations, or a function that produces them as
a record or a list. Reading the set gives the entries of the fields, one for each declaration and in
their order; no two may have one name. Each entry then gets a slot, in which a deferred field is
forced when it is first asked for and its outcome kept for good, a violation included.

A slot changes when it is forced, so looking at a map gives the map as it is afterwards.

## Main definitions

* `Schemata.FieldSet`: declared fields, with `Schemata.FieldSet.read`.
* `Schemata.Slot`: the place of one field, with `Schemata.Slot.force`.
* `Schemata.FieldMap`: the slots by name, with `field` and `forceAll`.
-/

namespace Schemata

variable {W : Type}

/-- The declared fields of a type. -/
inductive FieldSet where
  | declared (declarations : List (FieldKey × Config))
  /-- The host produces the declarations. -/
  | deferred (producer : Handle)

namespace FieldSet

/-- No fields. -/
def empty : FieldSet := declared []

/-- The outline of a set. What the host would produce is not asked. -/
def outline : FieldSet → Outline
  | declared ds =>
    .apply "Entries" [.list (ds.map fun (key, value) => .apply "" [key.outline, value.outline])]
  | deferred _ => .word "Thunk(..)"

/-- The declarations of a set. What the host produces must be a record, whose keys name the fields,
or a list. -/
def declarations (host : Host W) (typeName : String) :
    FieldSet → Attempt W Violation (List (FieldKey × Config))
  | declared ds => return ds
  | deferred producer => do
    match ← Attempt.ofRun (Run.fieldSetOf host producer) with
    | .record entries => return FieldKey.ofEntries entries
    | .list items => return FieldKey.ofList items
    | other => throw (.fieldSetNotIterable typeName other.render)

/-- Adds the entries of the declarations to those already read, up to the first declaration that
makes none or takes a name that is taken. -/
def readAfter (typeName : String) :
    Entries FieldEntry → List (FieldKey × Config) → Attempt W Violation (Entries FieldEntry)
  | entries, [] => return entries
  | entries, (key, value) :: rest => do
    let entry ← FieldEntry.declare typeName key value
    Attempt.require (!entries.contains entry.name) (.duplicateFieldDefinition typeName entry.name)
    readAfter typeName (entries.insert entry.name entry) rest

/-- The entries of the fields of a set, by their names and in the order of declaration. -/
def read (host : Host W) (typeName : String) (set : FieldSet) :
    Attempt W Violation (Entries FieldEntry) := do
  let entries ← readAfter typeName [] (← set.declarations host typeName)
  Attempt.ofRun (Run.record (.fieldMapBuilt typeName entries.length))
  return entries

end FieldSet

/-- The place of one field in a map. -/
inductive Slot where
  | defined (field : Field)
  /-- A deferred field, with the outcome of forcing it once it has been forced. -/
  | deferred (field : DeferredField) (forced : Option (Except Violation Field))

namespace Slot

/-- The slot of an entry. -/
def ofEntry : FieldEntry → Slot
  | .defined field => defined field
  | .deferred field => deferred field none

/-- The name under which the field was declared. -/
def name : Slot → String
  | defined field => field.name
  | deferred field _ => field.name

/-- Asking for the field calls nothing. -/
def isForced : Slot → Bool
  | defined _ => true
  | deferred _ forced => forced.isSome

/-- The field of a slot, forced if it has not been, and the slot that keeps the outcome. -/
def force (host : Host W) : Slot → Run W (Except Violation Field × Slot)
  | defined field => return (.ok field, defined field)
  | deferred field (some outcome) => return (outcome, deferred field (some outcome))
  | deferred field none => do
    let outcome ← (field.force host).run
    return (outcome, deferred field (some outcome))

end Slot

/-- The fields of a type, in slots under their names. -/
structure FieldMap where
  slots : Entries Slot

namespace FieldMap

/-- The map in which nothing has been forced. -/
def ofEntries (entries : Entries FieldEntry) : FieldMap :=
  ⟨entries.map fun (name, entry) => (name, .ofEntry entry)⟩

/-- The names of the fields. -/
def names (m : FieldMap) : List String :=
  m.slots.keys

/-- The slot of a name. -/
def slot? (m : FieldMap) (name : String) : Option Slot :=
  m.slots.get? name

/-- The field of a name, forced if it has not been; none if no field has the name. -/
def field (host : Host W) (name : String) (m : FieldMap) :
    Run W (Except Violation (Option Field) × FieldMap) :=
  match m.slot? name with
  | none => return (.ok none, m)
  | some slot => do
    let (outcome, slot) ← slot.force host
    return (outcome.map some, ⟨m.slots.insert name slot⟩)

/-- Forces slots in order, and gives their outcomes. -/
def forceSlots (host : Host W) :
    Entries Slot → Run W (List (Except Violation Field) × Entries Slot)
  | [] => return ([], [])
  | (name, slot) :: rest => do
    let (outcome, slot) ← slot.force host
    let (outcomes, rest) ← forceSlots host rest
    return (outcome :: outcomes, (name, slot) :: rest)

/-- Forces every slot, and gives the outcomes in the order of declaration. -/
def forceAll (host : Host W) (m : FieldMap) :
    Run W (List (Except Violation Field) × FieldMap) := do
  let (outcomes, slots) ← forceSlots host m.slots
  return (outcomes, ⟨slots⟩)

/-- The fields among the outcomes of forcing. -/
def forcedFields (outcomes : List (Except Violation Field)) : List Field :=
  outcomes.filterMap fun
    | .ok field => some field
    | .error _ => none

/-- The violations among the outcomes of forcing. -/
def forcedViolations (outcomes : List (Except Violation Field)) : List Violation :=
  outcomes.filterMap fun
    | .ok _ => none
    | .error violation => some violation

end FieldMap

end Schemata
