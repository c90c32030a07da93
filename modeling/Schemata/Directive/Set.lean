import Schemata.Directive.Builtin
import Schemata.Registry.Validation

/-!
# Sets of directives

A set has one directive for each name. A builtin directive in a set gives way to a directive of its
name that is added; any other directive stays for good. A set can be completed with the builtin
directives whose names are free.

Whether a directive is builtin is part of its entry: a directive that is declared with the content
of a builtin one is not builtin.

## Main definitions

* `Schemata.DirectiveEntry`: a builtin or a declared directive.
* `Schemata.DirectiveSet`: sets, with `add`, `complete` and `validate`.
-/

namespace Schemata

/-- A directive of a set: a builtin one, or one that was declared. -/
inductive DirectiveEntry where
  | builtin (directive : BuiltinDirective)
  | declared (directive : Directive)

namespace DirectiveEntry

/-- The directive of an entry. -/
def definition : DirectiveEntry → Directive
  | builtin b => b.definition
  | declared d => d

/-- The name of the directive of an entry. -/
def name (e : DirectiveEntry) : String :=
  e.definition.name

/-- The directive is a builtin one. -/
def isBuiltin : DirectiveEntry → Bool
  | builtin _ => true
  | declared _ => false

end DirectiveEntry

/-- Directives by name, in the order in which their names were taken. -/
structure DirectiveSet where
  entries : Entries DirectiveEntry

namespace DirectiveSet

variable {W : Type}

/-- The set without directives. -/
def empty : DirectiveSet := ⟨[]⟩

/-- The directive of a name. -/
def get? (s : DirectiveSet) (name : String) : Option DirectiveEntry :=
  s.entries.get? name

/-- Whether a name is taken. -/
def contains (s : DirectiveSet) (name : String) : Bool :=
  s.entries.contains name

/-- The names, in the order in which they were taken. -/
def names (s : DirectiveSet) : List String :=
  s.entries.keys

/-- The set with one more directive. Its name must be one that may be declared, and must be free or
held by a builtin directive, whose place the new one then takes. -/
def insert (s : DirectiveSet) (e : DirectiveEntry) : Except Violation DirectiveSet :=
  match Name.validate e.name with
  | .error reason => .error (.invalidDirectiveName e.name reason)
  | .ok () =>
    match s.get? e.name with
    | some (.declared _) => .error (.duplicateDirectiveDefinition e.name)
    | some (.builtin _) | none => .ok ⟨s.entries.insert e.name e⟩

/-- Adds a directive to the set; that a builtin directive gives way is put into the journal. -/
def add (s : DirectiveSet) (e : DirectiveEntry) : Attempt W Violation DirectiveSet := do
  let grown ← Attempt.ofExcept (s.insert e)
  if s.contains e.name then
    Attempt.ofRun (Run.record (.builtinReplaced e.name))
  return grown

/-- The set with a builtin directive under its name, unless the name is taken. -/
def completeWith (s : DirectiveSet) (b : BuiltinDirective) : DirectiveSet :=
  if s.contains b.name then s else ⟨s.entries.insert b.name (.builtin b)⟩

/-- The set completed with the builtin directives whose names are free. -/
def complete (s : DirectiveSet) : DirectiveSet :=
  BuiltinDirective.all.foldl completeWith s

/-- The violations of the directives of a set, at most one for each. -/
def validate (host : Host W) (types : TypeLookup) (s : DirectiveSet) : Run W (List Violation) :=
  Attempt.violations (fun e => e.definition.check host types) s.entries.items

end DirectiveSet

end Schemata
