import Schemata.Directive.Set

/-!
# Schemas

A builder collects types and directives, each of which is refused at once if its name is. Building a
schema completes the directives with the builtin ones, validates all types and then all directives,
and reports every violation that it finds; there is a schema only if it finds none.

## Main definitions

* `Schemata.Builder`: types and directives that are to make a schema, with `addType`,
  `addDirective` and `build`.
* `Schemata.Schema`: types and directives that have passed validation.
* `Schemata.BuildError`: why there is no schema.
-/

namespace Schemata

/-- Why a builder refuses an element, or makes no schema. -/
inductive BuildError where
  /-- All violations that validation found. -/
  | invalid (violations : List Violation)
  /-- The violation for which an element was refused. -/
  | refused (violation : Violation)
  deriving DecidableEq, Repr

namespace BuildError

/-- The failure in words. Violations that were found together are shown by their outlines. -/
def message : BuildError → String
  | invalid violations =>
    "Encountered errors while validating the schema's types: " ++
      (Outline.list (violations.map Violation.outline)).render
  | refused violation => violation.message

/-- The word that tags the failure. -/
def tag : BuildError → String
  | invalid _ => "TypeValidationErrors"
  | refused _ => "Violation"

end BuildError

/-- Types and directives that have passed validation together. -/
structure Schema where
  directives : DirectiveSet
  types : Registry

/-- Types and directives that are to make a schema. -/
structure Builder where
  directives : DirectiveSet
  types : Registry

namespace Builder

variable {W : Type}

/-- The builder that knows the builtin scalars alone. -/
def initial : Builder :=
  { directives := .empty, types := .initial }

/-- Adds a type. -/
def addType (b : Builder) (t : TypeDef) : Attempt W BuildError Builder :=
  Attempt.mapError .refused do
    return { b with types := ← b.types.add t }

/-- Adds a directive. -/
def addDirective (b : Builder) (e : DirectiveEntry) : Attempt W BuildError Builder :=
  Attempt.mapError .refused do
    return { b with directives := ← b.directives.add e }

/-- Validates everything that was added, the directives completed with the builtin ones: first the
types, then the directives. -/
def validate (host : Host W) (b : Builder) : Run W (List Violation × Schema) := do
  let directives := b.directives.complete
  let (faults, types) ← b.types.validate host
  let directiveFaults ← directives.validate host types.lookup
  return (faults ++ directiveFaults, { directives, types })

/-- Makes the schema, or reports all violations. -/
def build (host : Host W) (b : Builder) : Attempt W BuildError Schema := do
  let (violations, schema) ← Attempt.ofRun (b.validate host)
  if violations.isEmpty then
    Attempt.ofRun (Run.record
      (.schemaBuilt schema.types.types.length schema.directives.entries.length))
    return schema
  else
    Attempt.ofRun (Run.record (.validationFailed violations.length))
    throw (.invalid violations)

end Builder

end Schemata
