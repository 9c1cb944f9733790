/-
  ApiPlaybook.ResponseCode
  ────────────────────────
  **RESPONSE CODES.**

  An expected response is an exact status such as `200` or a category such as
  `2xx`.  A code is kept trimmed and in lower case and matches a status by its
  decimal text or by the text of its category.
-/
import ApiPlaybook.Text.Blank

namespace ApiPlaybook

/-- The category of a status, from its hundreds: `2xx` for 204. -/
def statusCategory (status : Nat) : String := decimal (status / 100) ++ "xx"

/-- A code without blanks at its ends, in lower case. -/
def normalCode (s : String) : String := lowerAscii (trimBlanks s)

/-- A status or category. -/
structure ResponseCode where
  text : String
deriving DecidableEq, Inhabited

namespace ResponseCode

/-- The code that a text denotes. -/
def ofText (s : String) : ResponseCode := ⟨normalCode s⟩

/-- The code of one status. -/
def ofStatus (status : Nat) : ResponseCode := ⟨decimal status⟩

/-- Whether a normal text is a status from 100 to 599 or a category from `1xx`
to `5xx`. -/
def isStatusOrCategory (code : String) : Bool :=
  match code.toList with
  | [a, b, c] =>
    '1' ≤ a && a ≤ '5' && ((b == 'x' && c == 'x') || (b.isDigit && c.isDigit))
  | _ => false

/-- Whether the code is a status from 100 to 599 or a category from `1xx` to `5xx`. -/
def isWellFormed (c : ResponseCode) : Bool := isStatusOrCategory c.text

/-- Whether the code admits a status. -/
def admits (c : ResponseCode) (status : Nat) : Bool :=
  c.text == decimal status || c.text == statusCategory status

end ResponseCode

end ApiPlaybook
