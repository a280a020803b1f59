import ContractBridge.Text.Printable

/-!
# Quoted characters and hexadecimal numbers

A character inside an error text stands between single quotes.  The characters that would be
misread there are escaped, and one that does not print is written by its code point.
-/

namespace ContractBridge.Text

def hex (n : Nat) : String :=
  String.ofList (Nat.toDigits 16 n)

def hexByte (n : Nat) : String :=
  if n < 16 then "0" ++ hex n else hex n

def escape (c : Char) : String :=
  match c with
  | '\x00' => "\\0"
  | '\t' => "\\t"
  | '\r' => "\\r"
  | '\n' => "\\n"
  | '\'' => "\\'"
  | '\\' => "\\\\"
  | _ => if isPrintable c then c.toString else "\\u\x7b" ++ hex c.toNat ++ "\x7d"

def quoted (c : Char) : String :=
  "'" ++ escape c ++ "'"

end ContractBridge.Text
