import Schemata.Handle
import Schemata.Text.Outline
import Schemata.TypeKind

/-!
# References to types

The type of a field or an argument is given by a reference: the name of a type, a type that is
already there, either of them wrapped as a list or as non-null, or a deferred reference that the
host produces when it is needed. Resolving a reference removes all deferral and leaves the wrapping
around the kind and the name of a type.

## Main definitions

* `Schemata.TypeRef`: references.
* `Schemata.ResolvedType`: what a reference resolves to.
* `Schemata.ResolutionError`: why a reference does not resolve.
-/

namespace Schemata

/-- A reference to a type. -/
inductive TypeRef where
  /-- A reference that the host produces. -/
  | deferred (producer : Handle)
  /-- A type that is already there; it need not be registered. -/
  | ready (head : TypeHead)
  | list (inner : TypeRef)
  | named (name : String)
  | nonNull (inner : TypeRef)
  deriving DecidableEq, Repr, Inhabited

namespace TypeRef

/-- The reference in the notation of schemas. What a deferred reference will be is not asked. -/
def text : TypeRef → String
  | deferred _ => "<deferred type>"
  | ready head => head.name
  | list inner => "[" ++ inner.text ++ "]"
  | named name => name
  | nonNull inner => inner.text ++ "!"

/-- The outline of a reference. -/
def outline (ref : TypeRef) : Outline :=
  .apply "TypeRef" [.word ref.text]

end TypeRef

/-- A type without deferral: lists and non-nulls around a kind and a name. -/
inductive ResolvedType where
  | list (inner : ResolvedType)
  | named (head : TypeHead)
  | nonNull (inner : ResolvedType)
  deriving DecidableEq, Repr

namespace ResolvedType

/-- The kind and the name inside all wrapping. -/
def innermost : ResolvedType → TypeHead
  | list inner => inner.innermost
  | named head => head
  | nonNull inner => inner.innermost

/-- The type may be given as input. -/
def isInput (type : ResolvedType) : Bool :=
  type.innermost.kind.isInput

/-- The type may be returned. -/
def isOutput (type : ResolvedType) : Bool :=
  type.innermost.kind.isOutput

/-- The outermost layer is a non-null. -/
def isNonNull : ResolvedType → Bool
  | nonNull _ => true
  | _ => false

/-- The outermost layer admits `null`. -/
def isNullable (type : ResolvedType) : Bool :=
  !type.isNonNull

/-- The type in the notation of schemas. -/
def text : ResolvedType → String
  | list inner => "[" ++ inner.text ++ "]"
  | named head => head.name
  | nonNull inner => inner.text ++ "!"

end ResolvedType

/-- Why a reference does not resolve. -/
inductive ResolutionError where
  /-- Deferred references went on producing deferred references. -/
  | deferredTypeDepthExceeded (limit : Nat)
  /-- There is no reference at all. -/
  | missingType
  /-- A non-null directly around a non-null, shown as a whole. -/
  | nestedNonNull (rendered : String)
  /-- No type of that name is known. -/
  | undefinedTypeName (name : String)
  deriving DecidableEq, Repr

namespace ResolutionError

/-- The reason in words. -/
def message : ResolutionError → String
  | deferredTypeDepthExceeded limit =>
    "Deferred type references were nested more than " ++ toString limit ++ " levels deep"
  | missingType => "No type was provided"
  | nestedNonNull rendered =>
    "Non-null types cannot wrap other non-null types: `" ++ rendered ++ "`"
  | undefinedTypeName name => "There is no type defined with the name `" ++ name ++ "`"

/-- The reason as a tagged record. -/
def outline : ResolutionError → Outline
  | deferredTypeDepthExceeded limit =>
    .record "DeferredTypeDepthExceeded" [("max_depth", .word (toString limit))]
  | missingType => .record "MissingType" []
  | nestedNonNull rendered => .record "NestedNonNull" [("rendered_type", .text rendered)]
  | undefinedTypeName name => .record "UndefinedTypeName" [("type_name", .text name)]

end ResolutionError

end Schemata
