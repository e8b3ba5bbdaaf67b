import MediaMux.Text.GraphemeExtend

/-!
# Quoted text

Text between double quotes, on one line and with every character visible: quotes, backslashes and
the usual control characters have a short escape, and any other character that has no glyph or is
drawn onto its neighbour is written as its code point.
-/

namespace MediaMux.Text.Quoted

/-- The lower-case hexadecimal digits of `n`, without leading zeros. -/
def hexadecimal (n : Nat) : String := String.ofList (Nat.toDigits 16 n)

def escape (c : Char) : String :=
  match c with
  | '"' => "\\\""
  | '\\' => "\\\\"
  | '\n' => "\\n"
  | '\r' => "\\r"
  | '\t' => "\\t"
  | '\x00' => "\\0"
  | _ =>
    if isCombining c || isUnprintable c then
      "\\u\x7b" ++ hexadecimal c.toNat ++ "\x7d"
    else c.toString

/-- `text` between quotes. -/
def encode (text : String) : String :=
  "\"" ++ String.join (text.toList.map escape) ++ "\""

end MediaMux.Text.Quoted
