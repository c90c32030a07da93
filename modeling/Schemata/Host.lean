import Schemata.Config

/-!
# The host of a schema

The functions behind handles belong to the host program. What such a function answers may depend on
anything the host has done before, so every call goes from one state of the host's world to the
next. The library knows nothing else of that world; in particular a function of the host cannot
reach the schema it is called from.

## Main definitions

* `Schemata.Host`: what the functions behind the handles answer.
-/

namespace Schemata

/-- What the functions behind the handles answer, and what calling them makes of the host's world.
Each kind of use of a handle has its own answers, so that every handle answers every call. -/
structure Host (W : Type) where
  /-- The reference behind a deferred reference. -/
  typeOf : Handle → W → TypeRef × W
  /-- The declaration behind a deferred field. -/
  fieldOf : Handle → W → Config × W
  /-- The declarations behind a deferred set of fields. -/
  fieldSetOf : Handle → W → Config × W
  /-- The value of a field for one parent. -/
  resolve : Handle → Value → ArgumentValues → W → Value × W
  /-- The values of a field for all parents at once. -/
  map : Handle → List Value → ArgumentValues → W → List Value × W
  /-- The cost of a field with children of the given cost. -/
  complexity : Handle → UInt64 → ArgumentValues → W → UInt64 × W

end Schemata
