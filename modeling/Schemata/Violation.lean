import Schemata.Name
import Schemata.TypeRef

/-!
# Violations

What can be wrong with the declaration of a schema. A violation names the elements it concerns, and
carries the text of the value that was refused or the reason behind it.

## Main definitions

* `Schemata.ArgumentOwner`: the element that an argument belongs to.
* `Schemata.Violation`: the violations, with `message` and `outline`.
-/

namespace Schemata

/-- The element that an argument belongs to. The fields of an input object are arguments of it. -/
inductive ArgumentOwner where
  | directive (name : String)
  | field (typeName fieldName : String)
  | inputObject (typeName : String)
  deriving DecidableEq, Repr

namespace ArgumentOwner

/-- The owner as messages name it. -/
def text : ArgumentOwner → String
  | directive name => "@" ++ name
  | field typeName fieldName => typeName ++ "." ++ fieldName
  | inputObject typeName => typeName

/-- An argument of the owner as messages name it. -/
def path (owner : ArgumentOwner) (argument : String) : String :=
  match owner with
  | directive name => "@" ++ name ++ "(" ++ argument ++ ":)"
  | field typeName fieldName => typeName ++ "." ++ fieldName ++ "(" ++ argument ++ ":)"
  | inputObject typeName => typeName ++ "." ++ argument

/-- The outline of an owner. -/
def outline : ArgumentOwner → Outline
  | directive name => .record "Directive" [("directive_name", .text name)]
  | field typeName fieldName =>
    .record "Field" [("field_name", .text fieldName), ("type_name", .text typeName)]
  | inputObject typeName => .record "InputObject" [("type_name", .text typeName)]

end ArgumentOwner

/-- The entries of a field that must be functions. -/
inductive CallableRole where
  | resolver
  | mapper
  | estimator
  deriving DecidableEq, Repr

namespace CallableRole

/-- The role in words. -/
def name : CallableRole → String
  | resolver => "resolver"
  | mapper => "mapper"
  | estimator => "complexity estimator"

end CallableRole

/-- What is wrong with a declaration. Where a violation has a `rendered` text, it is the refused
value as messages show it. -/
inductive Violation where
  | conflictingFieldResolution (typeName fieldName : String)
  | deprecatedRequiredArgument (argument : String) (owner : ArgumentOwner)
  | duplicateArgumentName (argument : String) (owner : ArgumentOwner)
  | duplicateDirectiveDefinition (directive : String)
  | duplicateFieldDefinition (typeName fieldName : String)
  | duplicateTypeDefinition (typeName : String)
  | deferredFieldRequiresName (typeName : String) (position : Nat)
  | deferredFieldDepthExceeded (typeName fieldName : String) (limit : Nat)
  | emptyDirectiveLocations (directive : String)
  | fieldSetNotIterable (typeName rendered : String)
  | invalidArgumentDeclaration (key : String) (owner : ArgumentOwner) (rendered : String)
  | invalidArgumentDefaultValue (argument : String) (owner : ArgumentOwner) (rendered : String)
  | invalidArgumentName (argument : String) (owner : ArgumentOwner) (reason : NameError)
  | invalidArgumentsConfig (owner : ArgumentOwner) (rendered : String)
  | invalidArgumentType (argument : String) (owner : ArgumentOwner) (renderedType : String)
  | invalidDirectiveLocations (directive rendered : String)
  | invalidDirectiveName (directive : String) (reason : NameError)
  | invalidFieldArgs (typeName fieldName rendered : String)
  | invalidFieldCallable (typeName fieldName : String) (role : CallableRole) (rendered : String)
  | invalidFieldDeclaration (typeName key rendered : String)
  | invalidFieldName (typeName fieldName : String) (reason : NameError)
  | invalidOutputFieldType (typeName fieldName renderedType : String)
  | invalidTypeName (typeName : String) (reason : NameError)
  | invalidUnionMemberType (unionName memberName : String) (memberKind : TypeKind)
  | legacyIsDeprecatedFlag (typeName fieldName : String)
  | missingDirectiveName (rendered : String)
  | missingDirectiveLocations (directive : String)
  | missingFieldName (typeName : String) (position : Nat)
  | undefinedUnionMemberType (unionName memberName : String)
  | unresolvableArgumentType (argument : String) (owner : ArgumentOwner) (reason : ResolutionError)
  | unresolvableFieldType (typeName fieldName : String) (reason : ResolutionError)
  | unknownDirectiveLocation (directive rendered : String)
  deriving DecidableEq, Repr

namespace Violation

/-- A field of a type as messages name it. -/
def fieldPath (typeName fieldName : String) : String :=
  typeName ++ "." ++ fieldName

/-- The violation in words. -/
def message : Violation → String
  | conflictingFieldResolution t f =>
    "Resolution behavior for the `" ++ fieldPath t f ++ "` field is ambiguous: a field may " ++
      "provide a `resolve` function or a `map` function, but not both"
  | deprecatedRequiredArgument a owner =>
    "The `" ++ owner.path a ++ "` argument is required but is also deprecated. Required " ++
      "arguments cannot be deprecated."
  | duplicateArgumentName a owner =>
    "The `" ++ owner.path a ++ "` argument is defined more than once"
  | duplicateDirectiveDefinition d => "Multiple directives named `@" ++ d ++ "` were defined"
  | duplicateFieldDefinition t f =>
    "The `" ++ t ++ "` type defines the `" ++ f ++ "` field more than once"
  | duplicateTypeDefinition t => "Multiple GraphQL types named `" ++ t ++ "` were defined"
  | deferredFieldRequiresName t position =>
    "The `" ++ t ++ "` field at position " ++ toString position ++ " is declared with a " ++
      "function, but functions are only accepted for fields keyed by name"
  | deferredFieldDepthExceeded t f limit =>
    "The deferred `" ++ fieldPath t f ++ "` field was still producing deferred fields after " ++
      toString limit ++ " levels of nesting"
  | emptyDirectiveLocations d =>
    "The `@" ++ d ++ "` directive must declare at least one location"
  | fieldSetNotIterable t rendered =>
    "`" ++ t ++ "` fields must be a map of field names to field declarations, or a function " ++
      "which returns such a map, but got: " ++ rendered
  | invalidArgumentDeclaration key owner rendered =>
    "Invalid argument declaration `" ++ key ++ "` for `" ++ owner.text ++ "`: expected an " ++
      "argument descriptor, an `Argument`, or a type, but got: " ++ rendered
  | invalidArgumentDefaultValue a owner rendered =>
    "The default value of the `" ++ owner.path a ++ "` argument must be plain data, but got: " ++
      rendered
  | invalidArgumentName a owner reason => owner.path a ++ ": " ++ reason.message
  | invalidArgumentsConfig owner rendered =>
    "The `" ++ owner.text ++ "` arguments must be a list of argument descriptors or a map of " ++
      "argument names to descriptors, but got: " ++ rendered
  | invalidArgumentType a owner renderedType =>
    "The `" ++ owner.path a ++ "` argument type must be Input Type but got: " ++ renderedType
  | invalidDirectiveLocations d rendered =>
    "The locations of the `@" ++ d ++ "` directive must be a list, but got: " ++ rendered
  | invalidDirectiveName d reason => "@" ++ d ++ ": " ++ reason.message
  | invalidFieldArgs t f rendered =>
    "The `" ++ fieldPath t f ++ "` field must declare its arguments as a list or a map, but " ++
      "got: " ++ rendered
  | invalidFieldCallable t f role rendered =>
    "`" ++ fieldPath t f ++ "` field " ++ role.name ++ " must be a function if provided, but " ++
      "got: " ++ rendered
  | invalidFieldDeclaration t key rendered =>
    "The `" ++ fieldPath t key ++ "` field config must be a field descriptor, a field " ++
      "definition, a function, or a type, but got: " ++ rendered
  | invalidFieldName t f reason => fieldPath t f ++ ": " ++ reason.message
  | invalidOutputFieldType t f renderedType =>
    "`" ++ fieldPath t f ++ "` field type must be Output Type but got: " ++ renderedType
  | invalidTypeName t reason => t ++ ": " ++ reason.message
  | invalidUnionMemberType u m kind =>
    "Invalid union member type: The `" ++ u ++ "` type defines one of its members as `" ++ m ++
      "`, but this type is a " ++ kind.name ++ " type and union members can only be object types."
  | legacyIsDeprecatedFlag t f =>
    "`" ++ fieldPath t f ++ "` should provide \"deprecationReason\" instead of \"isDeprecated\"."
  | missingDirectiveName rendered =>
    "Directive must be named, but got a `name` of: " ++ rendered
  | missingDirectiveLocations d => "Must provide locations for the `@" ++ d ++ "` directive"
  | missingFieldName t position =>
    "The `" ++ t ++ "` field at position " ++ toString position ++ " must provide a `name` key, " ++
      "since it is not keyed by name"
  | undefinedUnionMemberType u m =>
    "The `" ++ u ++ "` union type includes `" ++ m ++ "` as a member, but there is no type " ++
      "defined with that name"
  | unresolvableArgumentType a owner reason =>
    "The `" ++ owner.path a ++ "` argument's type could not be resolved: " ++ reason.message
  | unresolvableFieldType t f reason =>
    "The `" ++ fieldPath t f ++ "` field's type could not be resolved: " ++ reason.message
  | unknownDirectiveLocation d rendered =>
    "The `@" ++ d ++ "` directive declares an unknown location: " ++ rendered

/-- The outline of a number. -/
def number (n : Nat) : Outline :=
  .word (toString n)

/-- The violation as a tagged record. -/
def outline : Violation → Outline
  | conflictingFieldResolution t f =>
    .record "ConflictingFieldResolution" [("field_name", .text f), ("type_name", .text t)]
  | deprecatedRequiredArgument a owner =>
    .record "DeprecatedRequiredArgument" [("argument_name", .text a), ("owner", owner.outline)]
  | duplicateArgumentName a owner =>
    .record "DuplicateArgumentName" [("argument_name", .text a), ("owner", owner.outline)]
  | duplicateDirectiveDefinition d =>
    .record "DuplicateDirectiveDefinition" [("directive_name", .text d)]
  | duplicateFieldDefinition t f =>
    .record "DuplicateFieldDefinition" [("field_name", .text f), ("type_name", .text t)]
  | duplicateTypeDefinition t => .record "DuplicateTypeDefinition" [("type_name", .text t)]
  | deferredFieldRequiresName t position =>
    .record "DeferredFieldRequiresName" [("position", number position), ("type_name", .text t)]
  | deferredFieldDepthExceeded t f limit =>
    .record "DeferredFieldDepthExceeded"
      [("field_name", .text f), ("max_depth", number limit), ("type_name", .text t)]
  | emptyDirectiveLocations d => .record "EmptyDirectiveLocations" [("directive_name", .text d)]
  | fieldSetNotIterable t rendered =>
    .record "FieldSetNotIterable" [("rendered", .text rendered), ("type_name", .text t)]
  | invalidArgumentDeclaration key owner rendered =>
    .record "InvalidArgumentDeclaration"
      [("key", .text key), ("owner", owner.outline), ("rendered", .text rendered)]
  | invalidArgumentDefaultValue a owner rendered =>
    .record "InvalidArgumentDefaultValue"
      [("argument_name", .text a), ("owner", owner.outline), ("rendered", .text rendered)]
  | invalidArgumentName a owner reason =>
    .record "InvalidArgumentName"
      [("argument_name", .text a), ("owner", owner.outline), ("source", reason.outline)]
  | invalidArgumentsConfig owner rendered =>
    .record "InvalidArgumentsConfig" [("owner", owner.outline), ("rendered", .text rendered)]
  | invalidArgumentType a owner renderedType =>
    .record "InvalidArgumentType"
      [("argument_name", .text a), ("owner", owner.outline), ("rendered_type", .text renderedType)]
  | invalidDirectiveLocations d rendered =>
    .record "InvalidDirectiveLocations" [("directive_name", .text d), ("rendered", .text rendered)]
  | invalidDirectiveName d reason =>
    .record "InvalidDirectiveName" [("directive_name", .text d), ("source", reason.outline)]
  | invalidFieldArgs t f rendered =>
    .record "InvalidFieldArgs"
      [("field_name", .text f), ("rendered", .text rendered), ("type_name", .text t)]
  | invalidFieldCallable t f role rendered =>
    .record "InvalidFieldCallable"
      [("field_name", .text f), ("rendered", .text rendered), ("role", .text role.name),
       ("type_name", .text t)]
  | invalidFieldDeclaration t key rendered =>
    .record "InvalidFieldDeclaration"
      [("key", .text key), ("rendered", .text rendered), ("type_name", .text t)]
  | invalidFieldName t f reason =>
    .record "InvalidFieldName"
      [("field_name", .text f), ("type_name", .text t), ("source", reason.outline)]
  | invalidOutputFieldType t f renderedType =>
    .record "InvalidOutputFieldType"
      [("field_name", .text f), ("rendered_type", .text renderedType), ("type_name", .text t)]
  | invalidTypeName t reason =>
    .record "InvalidTypeName" [("type_name", .text t), ("source", reason.outline)]
  | invalidUnionMemberType u m kind =>
    .record "InvalidUnionMemberType"
      [("member_kind", .word kind.tag), ("member_type_name", .text m), ("union_type_name", .text u)]
  | legacyIsDeprecatedFlag t f =>
    .record "LegacyIsDeprecatedFlag" [("field_name", .text f), ("type_name", .text t)]
  | missingDirectiveName rendered =>
    .record "MissingDirectiveName" [("rendered", .text rendered)]
  | missingDirectiveLocations d =>
    .record "MissingDirectiveLocations" [("directive_name", .text d)]
  | missingFieldName t position =>
    .record "MissingFieldName" [("position", number position), ("type_name", .text t)]
  | undefinedUnionMemberType u m =>
    .record "UndefinedUnionMemberType"
      [("undefined_type_name", .text m), ("union_type_name", .text u)]
  | unresolvableArgumentType a owner reason =>
    .record "UnresolvableArgumentType"
      [("argument_name", .text a), ("owner", owner.outline), ("source", reason.outline)]
  | unresolvableFieldType t f reason =>
    .record "UnresolvableFieldType"
      [("field_name", .text f), ("type_name", .text t), ("source", reason.outline)]
  | unknownDirectiveLocation d rendered =>
    .record "UnknownDirectiveLocation" [("directive_name", .text d), ("rendered", .text rendered)]

/-- The word that tags the violation. -/
def tag (v : Violation) : String :=
  v.outline.head

end Violation

end Schemata
