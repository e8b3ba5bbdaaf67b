/-!
# Outlines of structured values

An outline is the shape of a value as it is shown to a reader: names, fields, entries. `inline`
writes it on one line and `indented` with one part to a line, each part followed by a comma.
-/

namespace MediaMux.Text

/-- The shape of a value. A record that shows only some of its fields is `partialRecord`. -/
inductive Outline
  | atom (text : String)
  | applied (name : String) (arguments : List Outline)
  | record (name : String) (fields : List (String × Outline))
  | partialRecord (name : String) (fields : List (String × Outline))
  | table (entries : List (Outline × Outline))

namespace Outline

def option : Option Outline → Outline
  | none => .atom "None"
  | some o => .applied "Some" [o]

def bool (b : Bool) : Outline := .atom (if b then "true" else "false")

mutual

/-- The outline on one line. -/
def inline : Outline → String
  | .atom text => text
  | .applied name arguments => name ++ "(" ++ ", ".intercalate (inlineAll arguments) ++ ")"
  | .record name fields =>
    name ++ " \x7b " ++ ", ".intercalate (inlineFields fields) ++ " \x7d"
  | .partialRecord name fields =>
    name ++ " \x7b " ++ ", ".intercalate (inlineFields fields ++ [".."]) ++ " \x7d"
  | .table entries => "\x7b" ++ ", ".intercalate (inlineEntries entries) ++ "\x7d"

def inlineAll : List Outline → List String
  | [] => []
  | o :: rest => inline o :: inlineAll rest

def inlineFields : List (String × Outline) → List String
  | [] => []
  | (name, o) :: rest => (name ++ ": " ++ inline o) :: inlineFields rest

def inlineEntries : List (Outline × Outline) → List String
  | [] => []
  | (key, o) :: rest => (inline key ++ ": " ++ inline o) :: inlineEntries rest

end

/-- `lines` with `text` put before the first. -/
def before (text : String) : List String → List String
  | [] => [text]
  | line :: rest => (text ++ line) :: rest

/-- `lines` with `text` put after the last. -/
def after (text : String) : List String → List String
  | [] => [text]
  | [line] => [line ++ text]
  | line :: rest => line :: after text rest

/-- The lines of a part inside another: set in by four blanks and ended by a comma. -/
def nested (lines : List String) : List String := (after "," lines).map ("    " ++ ·)

mutual

/-- The lines of the outline. -/
def lines : Outline → List String
  | .atom text => [text]
  | .applied name arguments => [name ++ "("] ++ linesAll arguments ++ [")"]
  | .record name fields => [name ++ " \x7b"] ++ linesFields fields ++ ["\x7d"]
  | .partialRecord name fields => [name ++ " \x7b"] ++ linesFields fields ++ ["    ..", "\x7d"]
  | .table entries => ["\x7b"] ++ linesEntries entries ++ ["\x7d"]

def linesAll : List Outline → List String
  | [] => []
  | o :: rest => nested (lines o) ++ linesAll rest

def linesFields : List (String × Outline) → List String
  | [] => []
  | (name, o) :: rest => nested (before (name ++ ": ") (lines o)) ++ linesFields rest

def linesEntries : List (Outline × Outline) → List String
  | [] => []
  | (key, o) :: rest =>
    nested (match lines o with
      | [] => after ": " (lines key)
      | first :: more => after (": " ++ first) (lines key) ++ more) ++ linesEntries rest

end

/-- The outline with one part to a line. -/
def indented (o : Outline) : String := "\n".intercalate (lines o)

end Outline

end MediaMux.Text
