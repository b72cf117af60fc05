/-!
# Values

What an instruction yields. Integers have no bounds, but one with too many digits is not shown.
-/

namespace CoinConsole

/-- The values a game object answers with. -/
inductive Value
  | null
  | integer (value : Int)
  | boolean (value : Bool)
deriving DecidableEq

/-- Why a value is not shown. -/
inductive ShowError
  | tooManyDigits
deriving DecidableEq

/-- The wording of the error. -/
def ShowError.message : ShowError → String
  | tooManyDigits =>
    "Exceeds the limit (4300 digits) for integer string conversion; " ++
      "use sys.set_int_max_str_digits() to increase the limit"

/-- The most digits an integer may have to be shown. -/
def maxShownDigits : Nat := 4300

/-- The decimal digits of an integer, with a minus sign in front of a negative one. -/
def showInteger (n : Int) : Except ShowError String :=
  if n.natAbs < Nat.pow 10 maxShownDigits then .ok (toString n) else .error .tooManyDigits

namespace Value

/-- The name of the type of a value. -/
def typeName : Value → String
  | null => "Null"
  | integer _ => "Int"
  | boolean _ => "Bool"

/-- The text of a value. -/
def text : Value → Except ShowError String
  | null => .ok "Null"
  | integer n => showInteger n
  | boolean true => .ok "true"
  | boolean false => .ok "false"

end Value

end CoinConsole
