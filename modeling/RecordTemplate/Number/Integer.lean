/-
  RecordTemplate.Number.Integer

  Numbers cut to integers, toward zero.  Infinities and what is not a number have no integer.
-/

import RecordTemplate.Number.Decimal

namespace RecordTemplate.Number

/-- A double precision number without its fraction. -/
def Binary64.toInteger : Binary64 → Except Failure Int
  | .nan => .error (.nanToInteger "float NaN")
  | .infinite _ => .error (.infinityToInteger "float infinity")
  | .finite negative m e => .ok (Binary64.truncate negative m e)

/-- A decimal without its fraction. -/
def Decimal.toInteger : Decimal → Except Failure Int
  | .nan .. => .error (.nanToInteger "NaN")
  | .infinite _ => .error (.infinityToInteger "Infinity")
  | .finite negative c e =>
    .ok (Binary64.signed negative (c * Nat.pow 10 e.toNat / Nat.pow 10 (-e).toNat))

end RecordTemplate.Number
