/-
Values with named parts, as they are shown to a reader of the log.

* **`Text.record`** — a name, and the parts behind it in braces: `Point { x: 1, y: 2 }`.
-/
namespace LoadGenerator.Text

/-- A name and the parts behind it, each under a name of its own. -/
def record (name : String) (fields : List (String × String)) : String :=
  name ++ " \x7b " ++ ", ".intercalate (fields.map fun f => f.1 ++ ": " ++ f.2) ++ " \x7d"

end LoadGenerator.Text
