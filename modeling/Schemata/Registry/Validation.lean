import Schemata.Field.Checking
import Schemata.Registry

/-!
# Validating a registry

Every type of a registry is checked against the registry itself, and all violations are collected in
the order of the types. Of an object or interface the fields are read and each of them forced; then
each field that there is gives at most its first violation. A union gives one violation for each
member that is no registered object, an input object one for each faulty field. Scalars and enums
give none.

Reading and forcing change the types, so validation gives the registry as it is afterwards.

## Main definitions

* `Schemata.Composite.validate`, `Schemata.UnionType.validate`, `Schemata.InputObject.validate`: the
  violations of one type.
* `Schemata.Registry.validate`: the violations of all types.
-/

namespace Schemata

variable {W : Type}

/-- The violation that a check ends with, if it ends with one. -/
def Attempt.violation? {ε : Type} (attempt : Attempt W ε Unit) : Run W (Option ε) := do
  match ← attempt.run with
  | .ok () => return none
  | .error violation => return some violation

/-- The violations of checks that are made one after the other. -/
def Attempt.violations {ε α : Type} (check : α → Attempt W ε Unit) :
    List α → Run W (List ε)
  | [] => return []
  | a :: rest => do
    let first ← (check a).violation?
    let others ← violations check rest
    return first.toList ++ others

namespace Composite

/-- Forces all fields of a map, and checks those that there are. -/
def validateFields (host : Host W) (types : TypeLookup) (typeName : String) (m : FieldMap) :
    Run W (List Violation × FieldMap) := do
  let (outcomes, m) ← m.forceAll host
  let fields := FieldMap.forcedFields outcomes
  let faults ← Attempt.violations (Field.check host types typeName) fields
  return (FieldMap.forcedViolations outcomes ++ faults, m)

/-- The violations of an object or interface: the one that its fields cannot be read for, or else
those of deferred fields that cannot be forced, followed by those of the fields. -/
def validate (host : Host W) (types : TypeLookup) (c : Composite) :
    Run W (List Violation × Composite) := do
  let (outcome, c) ← c.withFields host (validateFields host types c.name)
  match outcome with
  | .ok violations => return (violations, c)
  | .error violation => return ([violation], c)

end Composite

/-- The violation of one member of a union: it must be a registered object. -/
def UnionType.memberViolation? (types : TypeLookup) (unionName member : String) :
    Option Violation :=
  match types member with
  | none => some (.undefinedUnionMemberType unionName member)
  | some head =>
    if head.kind = .object then none
    else some (.invalidUnionMemberType unionName member head.kind)

/-- The violations of a union. -/
def UnionType.validate (types : TypeLookup) (u : UnionType) : List Violation :=
  u.members.filterMap (memberViolation? types u.name)

/-- The violations of an input object, whose fields are checked as arguments of it. -/
def InputObject.validate (host : Host W) (types : TypeLookup) (t : InputObject) :
    Run W (List Violation) :=
  Attempt.violations (Argument.check host types (.inputObject t.name)) t.fields.items

/-- The violations of a type. -/
def TypeDef.validate (host : Host W) (types : TypeLookup) :
    TypeDef → Run W (List Violation × TypeDef)
  | .object c => do
    let (violations, c) ← c.validate host types
    return (violations, .object c)
  | .interface c => do
    let (violations, c) ← c.validate host types
    return (violations, .interface c)
  | .inputObject t => do
    return (← t.validate host types, .inputObject t)
  | .union u => return (u.validate types, .union u)
  | t => return ([], t)

namespace Registry

/-- The violations of types that are listed under their names. -/
def validateTypes (host : Host W) (types : TypeLookup) :
    Entries TypeDef → Run W (List Violation × Entries TypeDef)
  | [] => return ([], [])
  | (name, t) :: rest => do
    let (violations, t) ← t.validate host types
    let (others, rest) ← validateTypes host types rest
    return (violations ++ others, (name, t) :: rest)

/-- The violations of all types of a registry, in the order of the types. -/
def validate (host : Host W) (r : Registry) : Run W (List Violation × Registry) := do
  let (violations, types) ← validateTypes host r.lookup r.types
  return (violations, ⟨types⟩)

end Registry

end Schemata
