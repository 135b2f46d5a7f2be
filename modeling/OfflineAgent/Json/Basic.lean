import OfflineAgent.Decimal.Binary64
import OfflineAgent.Text.Quoted

/-!
JSON values. Members of an object keep their written order, repeats included; a reader of an object
decides what a repeat means.
-/

namespace OfflineAgent.Json

/-- A number written without point and exponent is an integer if it fits 64 bits, signed or not.
Every other one is the nearest binary number. -/
inductive Number where
  | integer (value : Int)
  | binary (value : Binary64)
deriving DecidableEq, Repr

inductive Value where
  | null
  | bool (value : Bool)
  | number (value : Number)
  | string (value : String)
  | array (items : List Value)
  | object (members : List (String × Value))
deriving Repr, Inhabited

namespace Value

def member? (name : String) : Value → Option Value
  | .object members => (members.reverse.find? (·.1 = name)).map (·.2)
  | _ => none

def nat (n : Nat) : Value :=
  .number (.integer n)

def int (i : Int) : Value :=
  .number (.integer i)

def strings (list : List String) : Value :=
  .array (list.map .string)

def ofOption {α : Type} (f : α → Value) : Option α → Value
  | some a => f a
  | none => .null

/-- What a value is, as a message about a wrong type says it. -/
def kind : Value → String
  | .null => "null"
  | .bool b => if b then "boolean `true`" else "boolean `false`"
  | .number (.integer i) => "integer `" ++ toString i ++ "`"
  | .number (.binary b) => "floating point `" ++ b.text ++ "`"
  | .string s => "string " ++ Quoted.quote s
  | .array _ => "sequence"
  | .object _ => "map"

end Value

end OfflineAgent.Json
