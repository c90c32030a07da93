import Schemata.Text.Unprintable

/-!
# Quoted text

Text between double quotes, on one line and free of invisible characters: the quote and the
backslash are escaped, the usual controls have letters, and any other unprintable character is
spelt by its code in hexadecimal.

## Main definitions

* `Schemata.Text.escape`: the spelling of one character.
* `Schemata.Text.quote`: the quoted text.
-/

namespace Schemata.Text

/-- The spelling of a character by its code, in lower case and without leading zeros. -/
def spellCode (c : Char) : String :=
  "\\u\x7b" ++ String.ofList (Nat.toDigits 16 c.toNat) ++ "\x7d"

/-- The spelling of a character inside quotes. An apostrophe needs none. -/
def escape (c : Char) : String :=
  match c with
  | '\x00' => "\\0"
  | '\t' => "\\t"
  | '\n' => "\\n"
  | '\r' => "\\r"
  | '"' => "\\\""
  | '\\' => "\\\\"
  | c => if isUnprintable c then spellCode c else c.toString

/-- The text in double quotes. -/
def quote (s : String) : String :=
  "\"" ++ String.join (s.toList.map escape) ++ "\""

end Schemata.Text
