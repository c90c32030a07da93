import Schemata.TypeDef
import Schemata.TypeRef.Resolve

/-!
# The registry of types

References are resolved against a registry of types by name. It starts out with the builtin scalars
and grows by one type at a time; a name is never taken twice and never given up.

## Main definitions

* `Schemata.Registry`: types by name, with `Schemata.Registry.initial` and `add`.
* `Schemata.Registry.lookup`: the registry as references see it.
* `Schemata.TypeName`: the name of a type kept in place of the type, followed by `deref`.
* `Schemata.Registry.access`: work on an object or interface of the registry.
-/

namespace Schemata

/-- The types that are known, by name and in the order in which they were added. -/
structure Registry where
  types : Entries TypeDef

/-- A name under which a type was looked for in vain. -/
structure DanglingName where
  name : String
  deriving DecidableEq, Repr

/-- The failure in words. -/
def DanglingName.message (d : DanglingName) : String :=
  "No definition named `" ++ d.name ++ "` could be found"

/-- What came of work on an object or interface. -/
inductive Access (α : Type) where
  /-- The registry has no type of that name. -/
  | noType
  /-- The type has no fields. -/
  | noFields
  | done (result : α)

namespace Registry

variable {W : Type}

/-- The registry of the builtin scalars. -/
def initial : Registry :=
  ⟨BuiltinScalar.all.map fun b => (b.name, .builtin b)⟩

/-- The type of a name. -/
def get? (r : Registry) (name : String) : Option TypeDef :=
  r.types.get? name

/-- Whether a name is taken. -/
def contains (r : Registry) (name : String) : Bool :=
  r.types.contains name

/-- The names, in the order in which they were taken. -/
def names (r : Registry) : List String :=
  r.types.keys

/-- The registry as references see it: the kind and the name of each type. -/
def lookup (r : Registry) : TypeLookup :=
  fun name => (r.get? name).map TypeDef.head

/-- The registry with one more type, under its own name. The name must be one that may be declared,
and must not be taken. -/
def insert (r : Registry) (t : TypeDef) : Except Violation Registry :=
  match Name.validate t.name with
  | .error reason => .error (.invalidTypeName t.name reason)
  | .ok () =>
    if r.contains t.name then .error (.duplicateTypeDefinition t.name)
    else .ok ⟨r.types.insert t.name t⟩

/-- Adds a type to the registry, and puts that into the journal. -/
def add (r : Registry) (t : TypeDef) : Attempt W Violation Registry := do
  let grown ← Attempt.ofExcept (r.insert t)
  Attempt.ofRun (Run.record (.typeRegistered t.name))
  return grown

/-- Works on the object or interface of a name; the registry keeps it as it is afterwards. -/
def access {α : Type} (r : Registry) (name : String) (f : Composite → Run W (α × Composite)) :
    Run W (Access α × Registry) :=
  match r.get? name with
  | none => return (.noType, r)
  | some t =>
    match t.asComposite? with
    | none => return (.noFields, r)
    | some c => do
      let (a, c) ← f c
      return (.done a, ⟨r.types.insert name (t.withComposite c)⟩)

end Registry

/-- The name of a type, kept in place of the type. -/
structure TypeName where
  name : String
  deriving DecidableEq, Repr

namespace TypeName

/-- The type that a registry has under the name. -/
def deref (n : TypeName) (r : Registry) : Except DanglingName TypeDef :=
  match r.get? n.name with
  | some t => .ok t
  | none => .error ⟨n.name⟩

/-- The outline of a name that stands for a type. -/
def outline (n : TypeName) : Outline :=
  .apply "NamedRef" [.text n.name]

end TypeName

/-- The type inside all wrapping, as a registry has it. -/
def ResolvedType.deref (type : ResolvedType) (r : Registry) : Except DanglingName TypeDef :=
  (TypeName.mk type.innermost.name).deref r

/-- The members of a union that a registry has, in the order of the union. -/
def UnionType.memberTypes (u : UnionType) (r : Registry) : List TypeDef :=
  u.members.filterMap r.get?

end Schemata
