/-!
# Handles of host functions

Parts of a schema may be given as functions of the host program: a type or a field that does not
exist yet, or the resolver of a field. A schema never looks inside such a function. It keeps a
handle, passes it on, and asks the host to call it; two copies of a handle stand for one function.

## Main definitions

* `Schemata.Handle`: what stands for a function of the host.
* `Schemata.Callable`: a handle together with the kind of function it stands for.
-/

namespace Schemata

/-- Stands for a function of the host. -/
structure Handle where
  index : Nat
  deriving DecidableEq, Repr, Inhabited

/-- The kinds of functions that a configuration may carry. -/
inductive CallableKind where
  /-- Estimates the cost of selecting a field. -/
  | estimator
  /-- Produces the declaration of a field. -/
  | producer
  /-- Resolves a field for many parents at once. -/
  | mapper
  /-- Resolves a field for one parent. -/
  | resolver
  deriving DecidableEq, Repr

namespace CallableKind

/-- The kind in words. -/
def name : CallableKind → String
  | estimator => "complexity estimator"
  | producer => "field producer"
  | mapper => "mapper"
  | resolver => "resolver"

end CallableKind

/-- A function of the host, of a known kind. -/
structure Callable where
  kind : CallableKind
  handle : Handle
  deriving DecidableEq, Repr

end Schemata
