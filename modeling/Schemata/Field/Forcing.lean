import Schemata.Field.Declaration

/-!
# Forcing deferred fields

A deferred field becomes a field by asking the host for its declaration, which is read exactly as if
it had been declared under the name of the field from the start. It may be deferred again; after 32
times forcing gives up.

## Main definitions

* `Schemata.DeferredField.force`: the field that a deferred field becomes.
* `Schemata.Declaration.force`: the field that a declaration makes.
-/

namespace Schemata

variable {W : Type}

namespace DeferredField

/-- How often a field may be deferred. -/
def maxDeferrals : Nat := 32

/-- Forces a field that may be deferred so many times more. -/
def forceWithin (host : Host W) : Nat → DeferredField → Attempt W Violation Field
  | 0, d => throw (.deferredFieldDepthExceeded d.parent d.name maxDeferrals)
  | deferrals + 1, d => do
    Attempt.ofRun (Run.record (.fieldForced d.parent d.name))
    let value ← Attempt.ofRun (Run.fieldOf host d.producer)
    match ← FieldEntry.declare d.parent (.name d.name) value with
    | .defined field => return field
    | .deferred next => forceWithin host deferrals next

/-- The field that a deferred field becomes. Nothing is remembered: each time the host is asked
anew. -/
def force (host : Host W) (d : DeferredField) : Attempt W Violation Field :=
  forceWithin host maxDeferrals d

end DeferredField

/-- The field of an entry, forced if it is deferred. -/
def FieldEntry.force (host : Host W) : FieldEntry → Attempt W Violation Field
  | .defined field => return field
  | .deferred d => d.force host

/-- The field that a declaration makes on the type named `typeName`, forced if it is deferred. -/
def Declaration.force (host : Host W) (typeName : String) (d : Declaration) :
    Attempt W Violation Field := do
  (← d.toEntry typeName).force host

end Schemata
