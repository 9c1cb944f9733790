/-
  ApiPlaybook.Text.Base64
  ───────────────────────
  **BYTES IN SIXTY-FOUR LETTERS.**

  Three bytes are written as four letters; one or two bytes at the end are
  filled up with equals signs.
-/

namespace ApiPlaybook

/-- The letter of a value below 64. -/
def base64Letter (n : Nat) : Char :=
  if n < 26 then Char.ofNat (65 + n)
  else if n < 52 then Char.ofNat (71 + n)
  else if n < 62 then Char.ofNat (n - 4)
  else if n = 62 then '+'
  else '/'

/-- The written form of bytes. -/
def base64 : List Nat → List Char
  | a :: b :: c :: rest =>
    base64Letter (a / 4) :: base64Letter (a % 4 * 16 + b / 16) ::
      base64Letter (b % 16 * 4 + c / 64) :: base64Letter (c % 64) :: base64 rest
  | [a, b] =>
    [base64Letter (a / 4), base64Letter (a % 4 * 16 + b / 16), base64Letter (b % 16 * 4), '=']
  | [a] => [base64Letter (a / 4), base64Letter (a % 4 * 16), '=', '=']
  | [] => []

end ApiPlaybook
