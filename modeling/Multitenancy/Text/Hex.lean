/-!
# Hexadecimal Digits

Two digits stand for a byte, in percent escapes and in byte dumps. Output is
lower-case; both cases are read.

## Main definitions

* `Hex.digit?`: The value of a digit.
* `Hex.ofBytes`: Bytes written as lower-case digits.
* `Hex.toBytes?`: The bytes that digits stand for.
-/

namespace Multitenancy

namespace Hex

/-- The value of a hexadecimal digit of either case. -/
def digit? (c : Char) : Option Nat :=
  if '0' ≤ c && c ≤ '9' then some (c.toNat - '0'.toNat)
  else if 'a' ≤ c && c ≤ 'f' then some (c.toNat - 'a'.toNat + 10)
  else if 'A' ≤ c && c ≤ 'F' then some (c.toNat - 'A'.toNat + 10)
  else none

/-- The lower-case digit for a value below sixteen. -/
def digitChar (n : Nat) : Char :=
  if n < 10 then Char.ofNat ('0'.toNat + n) else Char.ofNat ('a'.toNat + n - 10)

/-- The value of a row of digits. -/
def value? : List Char → Option Nat
  | [] => none
  | cs => cs.foldlM (fun n c => (digit? c).map (n * 16 + ·)) 0

/-- The digits of a number, without leading zeros. -/
def ofNat (n : Nat) : String :=
  String.ofList (Nat.toDigits 16 n)

/-- Bytes written as two digits each. -/
def ofBytes (bs : List UInt8) : String :=
  String.ofList (bs.flatMap fun b => [digitChar (b.toNat / 16), digitChar (b.toNat % 16)])

/-- Read two digits a byte. -/
def toBytes? : List Char → Option (List UInt8)
  | [] => some []
  | a :: b :: rest => do
    let high ← digit? a
    let low ← digit? b
    let bytes ← toBytes? rest
    return (high * 16 + low).toUInt8 :: bytes
  | [_] => none

end Hex

end Multitenancy
