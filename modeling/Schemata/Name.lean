import Schemata.Text.Outline

/-!
# Names of schema elements

A name is a letter or an underscore followed by letters, digits and underscores, all from the
ASCII range. Two leading underscores are reserved for introspection, so a name that a schema
declares must not begin with them.

The grammar is decided on the bytes of the text: a byte of a character beyond ASCII is never a
byte of a name.

## Main definitions

* `Schemata.Name.isGrammatical`: the grammar of names.
* `Schemata.Name.isReserved`: the prefix kept for introspection.
* `Schemata.Name.validate`: the names a schema may declare, with the reason for refusing others.
-/

namespace Schemata

/-- Why a text is refused as the name of a schema element. -/
inductive NameError where
  /-- The text does not follow the grammar of names. -/
  | ungrammatical (name : String)
  /-- The text begins with the reserved prefix, whatever follows. -/
  | reserved (name : String)
  deriving DecidableEq, Repr

namespace NameError

/-- The reason in words. -/
def message : NameError → String
  | ungrammatical name =>
    "Names must match /^[_a-zA-Z][_a-zA-Z0-9]*$/ but \"" ++ name ++ "\" does not."
  | reserved name =>
    "Name \"" ++ name ++
      "\" must not begin with \"__\", which is reserved by GraphQL introspection."

/-- The reason as a tagged record. -/
def outline : NameError → Outline
  | ungrammatical name => .record "InvalidSyntax" [("name", .text name)]
  | reserved name => .record "ReservedDunderPrefix" [("name", .text name)]

end NameError

namespace Name

/-- An underscore or an ASCII letter. -/
def isStartByte (b : UInt8) : Bool :=
  b == 0x5F || (0x41 ≤ b && b ≤ 0x5A) || (0x61 ≤ b && b ≤ 0x7A)

/-- A byte that may begin a name, or an ASCII digit. -/
def isContinueByte (b : UInt8) : Bool :=
  isStartByte b || (0x30 ≤ b && b ≤ 0x39)

/-- The grammar of names, read off the bytes of the text. -/
def isGrammatical (name : String) : Bool :=
  match name.toUTF8.data.toList with
  | [] => false
  | b :: rest => isStartByte b && rest.all isContinueByte

/-- The text begins with two underscores. -/
def isReserved (name : String) : Bool :=
  match name.toList with
  | '_' :: '_' :: _ => true
  | _ => false

/-- Accepts a grammatical name without the reserved prefix. The prefix is looked at first. -/
def validate (name : String) : Except NameError Unit :=
  if isReserved name then .error (.reserved name)
  else if isGrammatical name then .ok ()
  else .error (.ungrammatical name)

end Name

end Schemata
