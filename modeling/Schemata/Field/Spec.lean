import Schemata.Argument.Expansion

/-!
# The content of a field from its descriptor

A descriptor gives the name of a field, its type, its arguments, how it is resolved and what it
costs. An entry of the wrong kind counts as absent here; whether the declaration is sound is checked
later, on the record that the field keeps. Two things alone are refused at once: arguments that
cannot be read, and a field with both ways of being resolved.

## Main definitions

* `Schemata.FieldSpec.ofRecord`: the content of the field that a descriptor describes.
-/

namespace Schemata.FieldSpec

/-- How the field of a descriptor is resolved. The entry for each way counts only if it is a
function of the kind that way needs, and only one of them may count. -/
def resolutionOf (parent name : String) (r : Record) : Except Violation Resolution :=
  match r.getCallable? Key.resolve .resolver, r.getCallable? Key.map .mapper with
  | some _, some _ => .error (.conflictingFieldResolution parent name)
  | some resolver, none => .ok (.perItem resolver)
  | none, some mapper => .ok (.batched mapper)
  | none, none => .ok .standard

/-- The content of the field that a descriptor describes, on the type named `parent`. Arguments are
read before anything else can fail. -/
def ofRecord (parent : String) (r : Record) : Except Violation FieldSpec := do
  let name := (r.getString? Key.name).getD ""
  let arguments ← Argument.expandOption (.field parent name) (Entries.get? r Key.args)
  let resolution ← resolutionOf parent name r
  return {
    name
    arguments
    typeRef := r.getTypeRef? Key.type
    resolution
    estimator := r.getCallable? Key.complexity .estimator
    description := r.getString? Key.description
    deprecationReason := r.getString? Key.deprecationReason
    source := r }

end Schemata.FieldSpec
