/-!
# Integer fields

A number is written on at least `width` characters. Missing characters are blanks on one side, or
zeros between the sign and the digits.
-/

namespace MediaMux.Text

/-- Where a field puts the characters that its number does not fill. -/
inductive Fill
  | blanksBefore
  | blanksAfter
  | zeros
deriving DecidableEq

structure Field where
  width : Nat := 0
  fill : Fill := .blanksBefore
  plusSign : Bool := false

namespace Field

def repeated (count : Nat) (c : Char) : String := String.ofList (List.replicate count c)

/-- The sign that comes before the digits of `n`. -/
def sign (f : Field) (n : Int) : String :=
  if n < 0 then "-" else if f.plusSign then "+" else ""

/-- The text of `n`, at least `width` characters long. -/
def render (f : Field) (n : Int) : String :=
  let sign := f.sign n
  let digits := toString n.natAbs
  let missing := f.width - (sign.length + digits.length)
  match f.fill with
  | .blanksBefore => repeated missing ' ' ++ sign ++ digits
  | .blanksAfter => sign ++ digits ++ repeated missing ' '
  | .zeros => sign ++ repeated missing '0' ++ digits

end Field

end MediaMux.Text
