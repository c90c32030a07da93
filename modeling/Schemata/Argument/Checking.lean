import Schemata.TypeRef.Resolve
import Schemata.Violation

/-!
# Checking arguments

An argument is well formed if its name may be declared, its type resolves to an input type, and it
is not deprecated while callers have to give it. The arguments of one owner must have distinct
names.

## Main definitions

* `Schemata.Argument.check`: the check of one argument, up to its first violation.
* `Schemata.Argument.checkAll`: the check of the arguments of one owner.
-/

namespace Schemata.Argument

variable {W : Type}

/-- Callers have to give the argument: its type does not admit `null`, and it has no default. -/
def isRequired (a : Argument) (type : ResolvedType) : Bool :=
  type.isNonNull && a.defaultValue.isNone

/-- The type of the argument. -/
def resolveType (host : Host W) (types : TypeLookup) (a : Argument) :
    Attempt W ResolutionError ResolvedType :=
  TypeRef.resolveOption host types a.typeRef

/-- Checks an argument of the given owner: its name, its type, that the type is an input type, and
that it is not both required and deprecated. -/
def check (host : Host W) (types : TypeLookup) (owner : ArgumentOwner) (a : Argument) :
    Attempt W Violation Unit := do
  Attempt.mapError (.invalidArgumentName a.name owner) (Attempt.ofExcept (Name.validate a.name))
  let type ← Attempt.mapError (.unresolvableArgumentType a.name owner) (a.resolveType host types)
  Attempt.require type.isInput (.invalidArgumentType a.name owner type.text)
  Attempt.require (!(a.isRequired type && a.isDeprecated))
    (.deprecatedRequiredArgument a.name owner)

/-- Checks arguments in order, where the names in `seen` are taken. A name that is taken is found
before anything else is looked at. -/
def checkAfter (host : Host W) (types : TypeLookup) (owner : ArgumentOwner) :
    (seen : List String) → List Argument → Attempt W Violation Unit
  | _, [] => pure ()
  | seen, a :: rest => do
    Attempt.require (!seen.contains a.name) (.duplicateArgumentName a.name owner)
    a.check host types owner
    checkAfter host types owner (a.name :: seen) rest

/-- Checks all arguments of an owner, up to the first violation. -/
def checkAll (host : Host W) (types : TypeLookup) (owner : ArgumentOwner)
    (arguments : List Argument) : Attempt W Violation Unit :=
  checkAfter host types owner [] arguments

end Schemata.Argument
