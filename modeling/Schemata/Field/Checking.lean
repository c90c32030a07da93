import Schemata.Argument.Checking
import Schemata.Field.Declaration

/-!
# Checking fields

The type of a field is resolved when it is first needed, against the types known then, and a type
once found is kept for good; a failure is not. A field is well formed if its name may be declared,
its record does not use the flag that reasons for deprecation have replaced, its type resolves to an
output type, the entries of its record that must be functions are such functions or absent, and its
arguments are well formed.

## Main definitions

* `Schemata.Field.resolveType`: the type of a field.
* `Schemata.Field.check`: the check of a field, up to its first violation.
-/

namespace Schemata

namespace CallableRole

/-- The entry of a descriptor that the role is about. -/
def key : CallableRole → String
  | resolver => Key.resolve
  | mapper => Key.map
  | estimator => Key.complexity

/-- The kind of function that the role needs. -/
def kind : CallableRole → CallableKind
  | resolver => .resolver
  | mapper => .mapper
  | estimator => .estimator

end CallableRole

namespace Field

variable {W : Type}

/-- Resolves a reference for the field with the given identity: as remembered, or else anew, and
then remembered. -/
def resolveRef (host : Host W) (types : TypeLookup) (f : Field) (ref : TypeRef) :
    Attempt W ResolutionError ResolvedType := do
  match ← Attempt.ofRun (Run.remembered? ⟨f.id, ref⟩) with
  | some type => return type
  | none =>
    let type ← ref.resolve host types
    Attempt.ofRun (Run.record (.typeResolved f.name type.text))
    Attempt.ofRun (Run.remember ⟨f.id, ref⟩ type)
    return type

/-- The type of a field. -/
def resolveType (host : Host W) (types : TypeLookup) (f : Field) :
    Attempt W ResolutionError ResolvedType :=
  match f.typeRef with
  | some ref => f.resolveRef host types ref
  | none => throw .missingType

/-- The entry of a role, if the descriptor has one, must be a function of the kind it needs. -/
def checkCallable (typeName : String) (f : Field) (role : CallableRole) :
    Except Violation Unit :=
  match Entries.get? f.source role.key with
  | none => .ok ()
  | some value =>
    if (value.asCallableOf? role.kind).isSome then .ok ()
    else .error (.invalidFieldCallable typeName f.name role value.render)

/-- Checks a field as one of the type named `typeName`, which need not be the type that the field
was made for. A refused type is shown as the descriptor gives it. -/
def check (host : Host W) (types : TypeLookup) (typeName : String) (f : Field) :
    Attempt W Violation Unit := do
  Attempt.mapError (.invalidFieldName typeName f.name) (Attempt.ofExcept (Name.validate f.name))
  Attempt.require (!Entries.contains f.source Key.isDeprecated)
    (.legacyIsDeprecatedFlag typeName f.name)
  let type ← Attempt.mapError (.unresolvableFieldType typeName f.name) (f.resolveType host types)
  Attempt.require type.isOutput
    (.invalidOutputFieldType typeName f.name (Config.renderOption (Entries.get? f.source Key.type)))
  Attempt.ofExcept (f.checkCallable typeName .resolver)
  Attempt.ofExcept (f.checkCallable typeName .mapper)
  Attempt.ofExcept (f.checkCallable typeName .estimator)
  Argument.checkAll host types (.field typeName f.name) f.arguments

/-- The cost of selecting a field whose children cost so much: as the field's own function has it,
or else one more than the children, up to the greatest cost there is. -/
def complexity (host : Host W) (f : Field) (children : UInt64) (arguments : ArgumentValues) :
    Run W UInt64 :=
  match f.estimator with
  | some h => Run.complexity host h children arguments
  | none => return if children == 0xFFFFFFFFFFFFFFFF then children else children + 1

end Field

end Schemata
