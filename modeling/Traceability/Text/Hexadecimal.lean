/-!
Contract: characters that are written by their code.

Owns: hexadecimal digits, and the characters that numbers stand for.
Does not own: how many digits a notation asks for.
-/

namespace Traceability.Text

def hexDigit? (c : Char) : Option Nat :=
  if c.isDigit then some (c.toNat - '0'.toNat)
  else if 'a' ≤ c ∧ c ≤ 'f' then some (c.toNat - 'a'.toNat + 10)
  else if 'A' ≤ c ∧ c ≤ 'F' then some (c.toNat - 'A'.toNat + 10)
  else none

/-- The number that hexadecimal digits write. -/
def hexNumber? (digits : List Char) : Option Nat :=
  digits.foldlM (fun number c => (hexDigit? c).map fun digit => 16 * number + digit) 0

/-- The character with a code point, surrogates having none. -/
def charOfCode? (code : Nat) : Option Char :=
  if code.isValidChar then some (Char.ofNat code) else none

/-- The character whose code the first `length` characters write. -/
def charOfHex? (length : Nat) (text : List Char) : Option Char :=
  let digits := text.take length
  if digits.length < length then none else (hexNumber? digits).bind charOfCode?

end Traceability.Text
