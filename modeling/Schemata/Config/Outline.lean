import Schemata.Config
import Schemata.Decimal.Shortest

/-!
# Outlines of configuration values

The outline of a value shows all of its plain data, ready fields and arguments with everything that
was declared of them, and of a function only its kind. The parts of a record stand in the order of
their names.

## Main definitions

* `Schemata.Value.outline`, `Schemata.Config.outline`: the outlines of values.
* `Schemata.Argument.outline`, `Schemata.FieldSpecOf.outline`: the outlines of declared things.
-/

namespace Schemata

/-- A truth value as a word. -/
def Outline.bool (b : Bool) : Outline :=
  .word (if b then "true" else "false")

/-- An integer as a word. -/
def Outline.int (n : Int64) : Outline :=
  .word (toString n.toInt)

/-- A float as a word. -/
def Outline.float (x : Float) : Outline :=
  .word (Decimal.floatText x)

namespace Value

mutual

/-- The outline of a plain value. -/
def outline : Value → Outline
  | null => .word "Null"
  | bool b => .apply "Bool" [.bool b]
  | int n => .apply "Int" [.int n]
  | float x => .apply "Float" [.float x]
  | string s => .apply "String" [.text s]
  | list items => .apply "List" [.list (outlineItems items)]
  | object entries => .apply "Object" [.table (outlineEntries entries)]

/-- The outlines of items. -/
def outlineItems : List Value → List Outline
  | [] => []
  | v :: vs => v.outline :: outlineItems vs

/-- The outlines of entries. -/
def outlineEntries : List (String × Value) → List (String × Outline)
  | [] => []
  | (name, v) :: vs => (name, v.outline) :: outlineEntries vs

end

end Value

/-- The outline of an argument. -/
def Argument.outline (a : Argument) : Outline :=
  .record "Argument"
    [("default_value", .option (a.defaultValue.map Value.outline)),
     ("deprecation_reason", .optionalText a.deprecationReason),
     ("description", .optionalText a.description),
     ("name", .text a.name),
     ("type_ref", .option (a.typeRef.map TypeRef.outline))]

/-- The outline of a function of a kind. What it computes is not shown. -/
def CallableKind.outline : CallableKind → Outline
  | estimator => .word "ComplexityEstimator(..)"
  | producer => .word "FieldProducer(..)"
  | mapper => .word "FieldMapper(..)"
  | resolver => .word "FieldResolver(..)"

/-- The outline of a function under the word for its kind. -/
def Callable.outline (c : Callable) : Outline :=
  match c.kind with
  | .estimator => .apply "Complexity" [c.kind.outline]
  | .producer => .apply "FieldProducer" [c.kind.outline]
  | .mapper => .apply "Mapper" [c.kind.outline]
  | .resolver => .apply "Resolver" [c.kind.outline]

/-- The outline of a resolution. -/
def Resolution.outline : Resolution → Outline
  | standard => .word "Default"
  | batched _ => .apply "Batched" [CallableKind.mapper.outline]
  | perItem _ => .apply "PerItem" [CallableKind.resolver.outline]

/-- The outline of the content of a field, from the outlines of the entries of its record. A content
is what was declared, so the place for the type that its reference leads to is always empty. -/
def FieldSpecOf.outline {C : Type} (f : FieldSpecOf C) (source : List (String × Outline)) :
    Outline :=
  .record "FieldDefinition"
    [("arguments", .list (f.arguments.map Argument.outline)),
     ("complexity", .option (f.estimator.map fun _ => CallableKind.estimator.outline)),
     ("deprecation_reason", .optionalText f.deprecationReason),
     ("description", .optionalText f.description),
     ("name", .text f.name),
     ("resolution", f.resolution.outline),
     ("resolved_type", .apply "OnceLock" [.word "<uninit>"]),
     ("source", .apply "Descriptor" [.table source]),
     ("type_ref", .option (f.typeRef.map TypeRef.outline))]

namespace Config

mutual

/-- The outline of a configuration value. -/
def outline : Config → Outline
  | argument a => .apply "Argument" [a.outline]
  | bool b => .apply "Boolean" [.bool b]
  | callable c => .apply "Callable" [c.outline]
  | field ⟨spec, _⟩ => .apply "Field" [outlineSpec spec]
  | float x => .apply "Float" [.float x]
  | int n => .apply "Int" [.int n]
  | list items => .apply "List" [.list (outlineItems items)]
  | null => .word "Null"
  | record entries => .apply "Map" [.apply "Descriptor" [.table (outlineEntries entries)]]
  | string s => .apply "String" [.text s]
  | type ref => .apply "Type" [ref.outline]

/-- The outline of the content of a field. -/
def outlineSpec : FieldSpec → Outline
  | f@⟨_, _, _, _, _, _, _, source⟩ => f.outline (outlineEntries source)

/-- The outlines of items. -/
def outlineItems : List Config → List Outline
  | [] => []
  | c :: cs => c.outline :: outlineItems cs

/-- The outlines of entries. -/
def outlineEntries : List (String × Config) → List (String × Outline)
  | [] => []
  | (name, c) :: cs => (name, c.outline) :: outlineEntries cs

end

end Config

end Schemata
