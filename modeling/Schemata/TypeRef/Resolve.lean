import Schemata.Store

/-!
# Resolving references to types

A reference is resolved from the outside in. Each deferred reference met on the way is asked for
once, and what it produces is resolved in its place; after 32 of them resolution gives up, whatever
else is wrong. The innermost type is then looked up, and on the way back a non-null around a
non-null is refused.

## Main definitions

* `Schemata.TypeLookup`: the types a reference is resolved against.
* `Schemata.TypeRef.resolve`: what a reference resolves to.
-/

namespace Schemata

/-- The types known by name. -/
abbrev TypeLookup := String → Option TypeHead

namespace TypeRef

variable {W : Type}

/-- How many deferred references may follow one another. -/
def maxDeferrals : Nat := 32

/-- A non-null around a type that is not one itself. -/
def wrapNonNull (inner : ResolvedType) : Except ResolutionError ResolvedType :=
  if inner.isNonNull then .error (.nestedNonNull (inner.text ++ "!")) else .ok (.nonNull inner)

/-- The type of a name. -/
def lookUp (types : TypeLookup) (name : String) : Except ResolutionError ResolvedType :=
  match types name with
  | some head => .ok (.named head)
  | none => .error (.undefinedTypeName name)

/-- Resolves a reference, leaving every deferred reference in it to `onDeferred`. -/
def resolveWith (types : TypeLookup)
    (onDeferred : Handle → Attempt W ResolutionError ResolvedType) :
    TypeRef → Attempt W ResolutionError ResolvedType
  | deferred producer => onDeferred producer
  | ready head => return .named head
  | list inner => do return .list (← resolveWith types onDeferred inner)
  | named name => Attempt.ofExcept (lookUp types name)
  | nonNull inner => do Attempt.ofExcept (wrapNonNull (← resolveWith types onDeferred inner))

/-- Resolves a reference in which at most so many deferred references follow one another. -/
def resolveWithin (host : Host W) (types : TypeLookup) :
    Nat → TypeRef → Attempt W ResolutionError ResolvedType
  | 0 => resolveWith types fun _ => throw (.deferredTypeDepthExceeded maxDeferrals)
  | deferrals + 1 => resolveWith types fun producer => do
    resolveWithin host types deferrals (← Attempt.ofRun (Run.typeOf host producer))

/-- Resolves a reference against the known types. -/
def resolve (host : Host W) (types : TypeLookup) (ref : TypeRef) :
    Attempt W ResolutionError ResolvedType :=
  resolveWithin host types maxDeferrals ref

/-- Resolves a reference that may be missing. -/
def resolveOption (host : Host W) (types : TypeLookup) (ref : Option TypeRef) :
    Attempt W ResolutionError ResolvedType :=
  match ref with
  | some ref => ref.resolve host types
  | none => throw .missingType

end TypeRef

end Schemata
