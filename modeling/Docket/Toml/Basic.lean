import Docket.Wire.Basic
/-!
Values of TOML, the format of configuration files.
-/

namespace Docket

inductive Toml where
  | text (value : String)
  | integer (value : Int)
  /-- A number with a fraction or a power of ten, an infinity or no number, as it is written. -/
  | real (literal : String)
  | bool (value : Bool)
  | dateTime (literal : String)
  | array (items : List Toml)
  | table (members : List (String × Toml))

namespace Toml

instance : Inhabited Toml := ⟨.table []⟩

def isEmpty : Toml → Bool
  | .array [] | .table [] => true
  | _ => false

/-- A date shows itself as a record of one member, which no record of a configuration has. -/
def dateMember : String := "date-time"

instance : Wire.Format Toml where
  view
    | .text value => .text value
    | .integer value => .integer value
    | .real _ => .real
    | .bool value => .bool value
    | .dateTime literal => .record [(dateMember, .text literal)]
    | .array items => .sequence items
    | .table members => .record members
  isEmptyPayload := isEmpty
  allowsSurplus := true

end Toml

end Docket
