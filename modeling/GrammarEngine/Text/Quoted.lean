/-!
# Quoted text

Text and characters between quotes. A backslash marks the quote itself, the backslash and the
control characters; all other characters stand as they are.
-/

namespace GrammarEngine.Text

/-- A control character: below the space, or from U+007F up to U+009F. -/
def isControl (c : Char) : Bool := c.toNat < 0x20 || (0x7F ≤ c.toNat && c.toNat < 0xA0)

/-- One character as it stands between quotes `quote`. -/
def escape (quote c : Char) : String :=
  match c with
  | '\\' => "\\\\"
  | '\n' => "\\n"
  | '\r' => "\\r"
  | '\t' => "\\t"
  | '\x00' => "\\0"
  | _ =>
    if c == quote then "\\" ++ c.toString
    else if isControl c then
      "\\u\x7b" ++ String.ofList (Nat.toDigits 16 c.toNat) ++ "\x7d"
    else c.toString

/-- The text between double quotes. -/
def quoted (s : String) : String := "\"" ++ String.join (s.toList.map (escape '"')) ++ "\""

/-- The character between single quotes. -/
def quotedChar (c : Char) : String := "'" ++ escape '\'' c ++ "'"

end GrammarEngine.Text
