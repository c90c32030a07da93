import Schemata.Host

/-!
# What happens while a schema is made

Making a schema calls functions of the host, gives identities to fields, and remembers the types
that fields resolved to. All this is kept in a store, beside a journal of what happened, from the
first event to the last.

A remembered type is found under the identity of the field together with the reference it came
from, so what one reference resolved to never answers for another.

## Main definitions

* `Schemata.Event`: what a journal records, and the line that it writes to the log.
* `Schemata.Store`: the world of the host, the journal, and the remembered types.
* `Schemata.Run`, `Schemata.Attempt`: computations on a store, without and with failure. A failure
  undoes nothing.
-/

namespace Schemata

/-- A call of a function of the host. -/
inductive Call where
  | typeOf (handle : Handle)
  | fieldOf (handle : Handle)
  | fieldSetOf (handle : Handle)
  | resolve (handle : Handle)
  | map (handle : Handle)
  | complexity (handle : Handle)
  deriving DecidableEq, Repr

namespace Call

/-- The handle of the function called. -/
def handle : Call → Handle
  | typeOf h | fieldOf h | fieldSetOf h | resolve h | map h | complexity h => h

end Call

/-- What a journal records. -/
inductive Event where
  | called (call : Call)
  | typeRegistered (name : String)
  | fieldMapBuilt (typeName : String) (fields : Nat)
  | fieldForced (typeName fieldName : String)
  | typeResolved (fieldName type : String)
  | builtinReplaced (directive : String)
  | validationFailed (violations : Nat)
  | schemaBuilt (types directives : Nat)
  deriving DecidableEq, Repr

namespace Event

/-- The line an event writes to the log: its level and what happened. Calls write none. -/
def logLine? : Event → Option String
  | called _ => none
  | typeRegistered name => some ("TRACE Registered the `" ++ name ++ "` type.")
  | fieldMapBuilt typeName fields =>
    some ("DEBUG Built the field map of `" ++ typeName ++ "` with " ++ toString fields ++
      " field(s).")
  | fieldForced typeName fieldName =>
    some ("TRACE Forcing the deferred `" ++ typeName ++ "." ++ fieldName ++ "` field.")
  | typeResolved fieldName type =>
    some ("TRACE Resolved the type of the `" ++ fieldName ++ "` field as `" ++ type ++ "`.")
  | builtinReplaced directive =>
    some ("DEBUG The `@" ++ directive ++
      "` directive replaces the builtin directive of the same name.")
  | validationFailed violations =>
    some ("DEBUG Schema validation failed with " ++ toString violations ++ " violation(s).")
  | schemaBuilt types directives =>
    some ("DEBUG Built a schema with " ++ toString types ++ " type(s) and " ++
      toString directives ++ " directive(s).")

end Event

/-- Where a resolved type is remembered: the identity of a field, and the reference it came from. -/
structure Cell where
  field : Nat
  ref : TypeRef
  deriving DecidableEq, Repr

/-- The state of a run. -/
structure Store (W : Type) where
  world : W
  journal : Array Event
  /-- The identity of the next field made. -/
  nextId : Nat
  /-- The remembered types. -/
  resolved : List (Cell × ResolvedType)

/-- A computation on a store. -/
abbrev Run (W : Type) := StateM (Store W)

/-- A computation on a store that may fail. What it did before it failed stays done. -/
abbrev Attempt (W ε : Type) := ExceptT ε (Run W)

namespace Store

variable {W : Type}

/-- A store in which nothing has happened. -/
def start (world : W) : Store W :=
  { world, journal := #[], nextId := 0, resolved := [] }

/-- The store with one more event in its journal. -/
def record (s : Store W) (e : Event) : Store W :=
  { s with journal := s.journal.push e }

/-- The type remembered in a cell. -/
def resolved? (s : Store W) (cell : Cell) : Option ResolvedType :=
  s.resolved.lookup cell

/-- The store that remembers a type in a cell. -/
def remember (s : Store W) (cell : Cell) (type : ResolvedType) : Store W :=
  { s with resolved := (cell, type) :: s.resolved }

end Store

namespace Run

variable {W : Type}

/-- Puts an event into the journal. -/
def record (e : Event) : Run W Unit :=
  modify (·.record e)

/-- Calls a function of the host, and puts the call into the journal. -/
def call {α : Type} (c : Call) (answer : W → α × W) : Run W α := fun s =>
  let (a, world) := answer s.world
  (a, { s.record (.called c) with world })

/-- Asks for the reference behind a deferred reference. -/
def typeOf (host : Host W) (h : Handle) : Run W TypeRef :=
  call (.typeOf h) (host.typeOf h)

/-- Asks for the declaration behind a deferred field. -/
def fieldOf (host : Host W) (h : Handle) : Run W Config :=
  call (.fieldOf h) (host.fieldOf h)

/-- Asks for the declarations behind a deferred set of fields. -/
def fieldSetOf (host : Host W) (h : Handle) : Run W Config :=
  call (.fieldSetOf h) (host.fieldSetOf h)

/-- Has a field resolved for one parent. -/
def resolve (host : Host W) (h : Handle) (parent : Value) (arguments : ArgumentValues) :
    Run W Value :=
  call (.resolve h) (host.resolve h parent arguments)

/-- Has a field resolved for several parents. -/
def map (host : Host W) (h : Handle) (parents : List Value) (arguments : ArgumentValues) :
    Run W (List Value) :=
  call (.map h) (host.map h parents arguments)

/-- Has the cost of a field estimated, whose children cost so much. -/
def complexity (host : Host W) (h : Handle) (children : UInt64) (arguments : ArgumentValues) :
    Run W UInt64 :=
  call (.complexity h) (host.complexity h children arguments)

/-- An identity that no field made in this run has. -/
def freshId : Run W Nat := fun s =>
  (s.nextId, { s with nextId := s.nextId + 1 })

/-- The type remembered in a cell. -/
def remembered? (cell : Cell) : Run W (Option ResolvedType) := fun s =>
  (s.resolved? cell, s)

/-- Remembers a type in a cell. -/
def remember (cell : Cell) (type : ResolvedType) : Run W Unit :=
  modify (·.remember cell type)

/-- Makes a field of the given content. -/
def makeField (spec : FieldSpec) : Run W Field := do
  return { spec with id := ← freshId }

end Run

namespace Attempt

variable {W ε ε' α : Type}

/-- An outcome that is known without touching the store. -/
def ofExcept (outcome : Except ε α) : Attempt W ε α :=
  ExceptT.mk (pure outcome)

/-- A computation that does not fail. -/
def ofRun (run : Run W α) : Attempt W ε α :=
  ExceptT.lift run

/-- Fails with `reason` unless the condition holds. -/
def require (condition : Bool) (reason : ε) : Attempt W ε Unit :=
  ofExcept (if condition then .ok () else .error reason)

/-- Gives failures another reason. -/
def mapError (f : ε → ε') (attempt : Attempt W ε α) : Attempt W ε' α :=
  ExceptT.adapt f attempt

end Attempt

end Schemata
