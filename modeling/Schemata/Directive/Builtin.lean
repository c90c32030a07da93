import Schemata.Directive

/-!
# The builtin directives

Every schema has `@include`, `@skip` and `@deprecated`, unless it declares a directive of one of
these names itself.

## Main definitions

* `Schemata.BuiltinDirective`: the builtin directives, with their names and definitions.
-/

namespace Schemata

/-- The directives that every schema has. -/
inductive BuiltinDirective where
  | deprecation
  | inclusion
  | skipping
  deriving DecidableEq, Repr

namespace BuiltinDirective

/-- All of them, in the order in which they complete a set. -/
def all : List BuiltinDirective :=
  [inclusion, skipping, deprecation]

/-- The name of a builtin directive. -/
def name : BuiltinDirective → String
  | deprecation => "deprecated"
  | inclusion => "include"
  | skipping => "skip"

/-- The builtin directive of a name. -/
def ofName? (name : String) : Option BuiltinDirective :=
  all.find? (·.name == name)

/-- The reason for a deprecation that gives none. -/
def defaultReason : String := "No longer supported"

/-- The condition under which a part of a document counts. -/
def conditionArgument (description : String) : Argument :=
  { Argument.ofType "if" (.nonNull (.named "Boolean")) with description := some description }

/-- The parts of a document that a condition may be put on. -/
def conditionLocations : List Location :=
  [.field, .fragmentSpread, .inlineFragment]

/-- A directive that puts a condition on a part of a document. -/
def conditional (name description condition : String) : Directive :=
  { name
    description := some description
    arguments := [conditionArgument condition]
    locations := conditionLocations
    isRepeatable := false
    source := [] }

/-- What the reason of a deprecation is for. -/
def reasonDescription : String :=
  "Explains why this element was deprecated, usually also including a suggestion for how to " ++
    "access supported similar data. Formatted using the Markdown syntax, as specified by " ++
    "[CommonMark](https://commonmark.org/)."

/-- The reason of a deprecation. -/
def reasonArgument : Argument :=
  { Argument.ofType "reason" (.named "String") with
    defaultValue := some (.string defaultReason)
    description := some reasonDescription }

/-- The definition of a builtin directive. -/
def definition : BuiltinDirective → Directive
  | inclusion => conditional inclusion.name
    "Directs the executor to include this field or fragment only when the `if` argument is true."
    "Included when true."
  | skipping => conditional skipping.name
    "Directs the executor to skip this field or fragment when the `if` argument is true."
    "Skipped when true."
  | deprecation =>
    { name := deprecation.name
      description := some "Marks an element of a GraphQL schema as no longer supported."
      arguments := [reasonArgument]
      locations := [.fieldDefinition, .enumValue]
      isRepeatable := false
      source := [] }

end BuiltinDirective

/-- The name is that of a builtin directive. A declared directive may have such a name too. -/
def Directive.isSpecified (d : Directive) : Bool :=
  (BuiltinDirective.ofName? d.name).isSome

end Schemata
