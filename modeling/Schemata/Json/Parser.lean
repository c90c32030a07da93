import Schemata.Decimal.Scaled
import Schemata.Json

/-!
# Reading JSON text

The grammar of JSON with three limits: arrays and objects nest at most 127 deep, every number must
fit into a finite double, and an escape must not leave half of a surrogate pair.

A reader takes the front of the text and gives what it read together with the rest. Nesting is the
measure of the recursion: the reader of a document at one depth reads the parts of an array with the
reader of the depth below.

## Main definitions

* `Schemata.Json.Parser.text`, `Schemata.Json.Parser.number`, `Schemata.Json.Parser.document`: the
  readers.
* `Schemata.Json.parse?`: the document a whole text stands for.
-/

namespace Schemata.Json.Parser

/-- A blank, a tab or the end of a line. -/
def isSpace (c : Char) : Bool :=
  c == ' ' || c == '\t' || c == '\n' || c == '\r'

/-- The text from its first visible character on. -/
def skipSpace (cs : List Char) : List Char :=
  cs.dropWhile isSpace

/-- The value of a hexadecimal digit, in either case. -/
def hexDigit? (c : Char) : Option Nat :=
  if '0' ≤ c ∧ c ≤ '9' then some (c.toNat - '0'.toNat)
  else if 'a' ≤ c ∧ c ≤ 'f' then some (c.toNat - 'a'.toNat + 10)
  else if 'A' ≤ c ∧ c ≤ 'F' then some (c.toNat - 'A'.toNat + 10)
  else none

/-- The number four hexadecimal digits stand for. -/
def unit? (a b c d : Char) : Option Nat := do
  let high := (← hexDigit? a) * 16 + (← hexDigit? b)
  let low := (← hexDigit? c) * 16 + (← hexDigit? d)
  return high * 256 + low

/-- The first half of a surrogate pair. -/
def isHighSurrogate (n : Nat) : Bool := 0xD800 ≤ n && n < 0xDC00

/-- The second half of a surrogate pair. -/
def isLowSurrogate (n : Nat) : Bool := 0xDC00 ≤ n && n < 0xE000

/-- The character that a pair of surrogates stands for. -/
def joinSurrogates (high low : Nat) : Char :=
  Char.ofNat (0x10000 + (high - 0xD800) * 0x400 + (low - 0xDC00))

/-- The character an escape of one letter stands for. -/
def shortEscape? : Char → Option Char
  | '"' => some '"'
  | '\\' => some '\\'
  | '/' => some '/'
  | 'b' => some '\x08'
  | 'f' => some '\x0c'
  | 'n' => some '\n'
  | 'r' => some '\r'
  | 't' => some '\t'
  | _ => none

/-- Puts a character in front of what was read. -/
def prepend (c : Char) (reading : Option (List Char × List Char)) :
    Option (List Char × List Char) :=
  reading.map fun (cs, rest) => (c :: cs, rest)

/-- A text from behind its opening quote up to and including its closing quote. A control character
must be escaped. -/
def text : List Char → Option (List Char × List Char)
  | [] => none
  | '"' :: rest => some ([], rest)
  | '\\' :: 'u' :: a :: b :: c :: d :: '\\' :: 'u' :: a' :: b' :: c' :: d' :: rest =>
    match unit? a b c d with
    | none => none
    | some n =>
      if isHighSurrogate n then
        match unit? a' b' c' d' with
        | some low =>
          if isLowSurrogate low then prepend (joinSurrogates n low) (text rest) else none
        | none => none
      else if isLowSurrogate n then none
      else prepend (Char.ofNat n) (text ('\\' :: 'u' :: a' :: b' :: c' :: d' :: rest))
  | '\\' :: 'u' :: a :: b :: c :: d :: rest =>
    match unit? a b c d with
    | none => none
    | some n =>
      if isHighSurrogate n || isLowSurrogate n then none else prepend (Char.ofNat n) (text rest)
  | '\\' :: c :: rest =>
    match shortEscape? c with
    | none => none
    | some e => prepend e (text rest)
  | c :: rest => if c.toNat < 0x20 then none else prepend c (text rest)

/-- The whole part of a number: a zero alone, or digits that do not start with one. -/
def whole (cs : List Char) : Option (List Char × List Char) :=
  match cs.takeWhile Char.isDigit with
  | [] => none
  | '0' :: _ :: _ => none
  | digits => some (digits, cs.dropWhile Char.isDigit)

/-- The digits behind the point, at least one; none without a point. -/
def fraction : List Char → Option (List Char × List Char)
  | '.' :: cs =>
    match cs.takeWhile Char.isDigit with
    | [] => none
    | digits => some (digits, cs.dropWhile Char.isDigit)
  | cs => some ([], cs)

/-- The digits of an exponent, at least one. -/
def exponentDigits (negative : Bool) (cs : List Char) : Option (Option Int × List Char) :=
  match cs.takeWhile Char.isDigit with
  | [] => none
  | digits =>
    let n : Int := Decimal.digitsValue 0 digits
    some (some (if negative then -n else n), cs.dropWhile Char.isDigit)

/-- The exponent with its sign, if there is one. -/
def exponent : List Char → Option (Option Int × List Char)
  | [] => some (none, [])
  | c :: cs =>
    if c == 'e' || c == 'E' then
      match cs with
      | '-' :: cs => exponentDigits true cs
      | '+' :: cs => exponentDigits false cs
      | cs => exponentDigits false cs
    else some (none, c :: cs)

/-- A number without its sign. One written with digits alone is an integer where the range of
integers allows it; negative zero is a float. -/
def number (negative : Bool) (cs : List Char) : Option (Json × List Char) := do
  let (digits, cs) ← whole cs
  let (decimals, cs) ← fraction cs
  let (power, cs) ← exponent cs
  let n := Decimal.digitsValue 0 digits
  if decimals.isEmpty && power.isNone then
    if negative && n != 0 && Int64.minValue.toInt ≤ -n then return (.integer (Int64.ofInt (-n)), cs)
    if !negative && n ≤ Int64.maxValue.toInt then return (.integer (Int64.ofInt n), cs)
  let x ← (Decimal.Scaled.ofDigits digits decimals (power.getD 0)).toFloat?
  return (.float (if negative then -x else x), cs)

/-- The parts of an array up to and including its closing bracket, at most `bound` of them. -/
def items (part : List Char → Option (Json × List Char)) :
    Nat → List Char → Option (List Json × List Char)
  | 0, _ => none
  | bound + 1, cs => do
    let (item, cs) ← part cs
    match skipSpace cs with
    | ']' :: cs => return ([item], cs)
    | ',' :: cs =>
      let (rest, cs) ← items part bound cs
      return (item :: rest, cs)
    | _ => none

/-- The members of an object up to and including its closing brace, at most `bound` of them. -/
def members (part : List Char → Option (Json × List Char)) :
    Nat → List Char → Option (List (String × Json) × List Char)
  | 0, _ => none
  | bound + 1, cs => do
    let '"' :: cs := skipSpace cs | none
    let (name, cs) ← text cs
    let ':' :: cs := skipSpace cs | none
    let (item, cs) ← part cs
    let member := (String.ofList name, item)
    match skipSpace cs with
    | '\x7d' :: cs => return ([member], cs)
    | ',' :: cs =>
      let (rest, cs) ← members part bound cs
      return (member :: rest, cs)
    | _ => none

/-- A document that is neither an array nor an object. -/
def plain : List Char → Option (Json × List Char)
  | 'n' :: 'u' :: 'l' :: 'l' :: cs => some (.null, cs)
  | 't' :: 'r' :: 'u' :: 'e' :: cs => some (.bool true, cs)
  | 'f' :: 'a' :: 'l' :: 's' :: 'e' :: cs => some (.bool false, cs)
  | '"' :: cs => (text cs).map fun (s, cs) => (.string (String.ofList s), cs)
  | '-' :: cs => number true cs
  | cs => number false cs

/-- A document, with at most `depth` arrays and objects one inside the other. -/
def document : Nat → List Char → Option (Json × List Char)
  | 0, cs =>
    match skipSpace cs with
    | '[' :: _ | '\x7b' :: _ => none
    | cs => plain cs
  | depth + 1, cs =>
    match skipSpace cs with
    | '[' :: cs =>
      match skipSpace cs with
      | ']' :: cs => some (.array [], cs)
      | cs => (items (document depth) cs.length cs).map fun (parts, cs) => (.array parts, cs)
    | '\x7b' :: cs =>
      match skipSpace cs with
      | '\x7d' :: cs => some (.object [], cs)
      | cs => (members (document depth) cs.length cs).map fun (parts, cs) => (.object parts, cs)
    | cs => plain cs

end Parser

/-- How many arrays and objects may stand one inside the other. -/
def maxNesting : Nat := 127

/-- The document the text stands for; nothing may follow it but space. -/
def parse? (s : String) : Option Json := do
  let (document, rest) ← Parser.document maxNesting s.toList
  if (Parser.skipSpace rest).isEmpty then some document else none

end Schemata.Json
