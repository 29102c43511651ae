/-!
# Bytes and Characters

Bodies of requests and responses are bytes. They are read as UTF-8 either
strictly, where one bad byte makes the whole unreadable, or leniently, where
each maximal run of bytes that begins a character but does not finish it is
replaced by U+FFFD.

A character takes one lead byte, which fixes the number of continuation bytes
and the range of the first of them: the narrower ranges after E0, ED, F0 and
F4 exclude overlong forms, surrogates and numbers beyond U+10FFFF.

## Main definitions

* `encode`: The bytes of a text.
* `decode?`: The strict reading.
* `decodeLossy`: The lenient reading.
-/

namespace Multitenancy

namespace Utf8

/-- The bytes of one character. -/
def encodeChar (c : Char) : List UInt8 :=
  let n := c.toNat
  if n < 0x80 then [n.toUInt8]
  else if n < 0x800 then [(0xC0 + n / 0x40).toUInt8, (0x80 + n % 0x40).toUInt8]
  else if n < 0x10000 then
    [(0xE0 + n / 0x1000).toUInt8, (0x80 + n / 0x40 % 0x40).toUInt8, (0x80 + n % 0x40).toUInt8]
  else
    [(0xF0 + n / 0x40000).toUInt8, (0x80 + n / 0x1000 % 0x40).toUInt8,
      (0x80 + n / 0x40 % 0x40).toUInt8, (0x80 + n % 0x40).toUInt8]

/-- The bytes of a text. -/
def encodeChars (cs : List Char) : List UInt8 :=
  cs.flatMap encodeChar

/-- The bytes of a string. -/
def encode (s : String) : List UInt8 :=
  encodeChars s.toList

/-- A lead byte: the value it contributes, the number of bytes that follow,
    and the range of the first of them. -/
structure Lead where
  value : Nat
  following : Nat
  low : Nat := 0x80
  high : Nat := 0xBF

/-- Which bytes may begin a character. -/
def lead? (b : UInt8) : Option Lead :=
  let n := b.toNat
  if n < 0x80 then some { value := n, following := 0 }
  else if n < 0xC2 then none
  else if n < 0xE0 then some { value := n - 0xC0, following := 1 }
  else if n == 0xE0 then some { value := 0, following := 2, low := 0xA0 }
  else if n == 0xED then some { value := 0xD, following := 2, high := 0x9F }
  else if n < 0xF0 then some { value := n - 0xE0, following := 2 }
  else if n == 0xF0 then some { value := 0, following := 3, low := 0x90 }
  else if n < 0xF4 then some { value := n - 0xF0, following := 3 }
  else if n == 0xF4 then some { value := 4, following := 3, high := 0x8F }
  else none

/-- A character under construction. -/
structure Pending where
  value : Nat
  left : Nat
  low : Nat
  high : Nat

/-- Read on, with the characters and the faults found so far kept apart: a
    fault is `none`. A byte that does not continue the pending character ends
    it as a fault and is looked at again as a lead byte. -/
def pieces : Option Pending → List UInt8 → List (Option Char)
  | none, [] => []
  | some _, [] => [none]
  | pending, b :: bs =>
    let fresh (faults : List (Option Char)) : List (Option Char) :=
      match lead? b with
      | none => faults ++ none :: pieces none bs
      | some l =>
        if l.following == 0 then faults ++ some (Char.ofNat l.value) :: pieces none bs
        else faults ++
          pieces (some { value := l.value, left := l.following, low := l.low, high := l.high }) bs
    match pending with
    | none => fresh []
    | some p =>
      if p.low ≤ b.toNat && b.toNat ≤ p.high then
        let value := p.value * 0x40 + (b.toNat - 0x80)
        if p.left ≤ 1 then some (Char.ofNat value) :: pieces none bs
        else pieces (some { value, left := p.left - 1, low := 0x80, high := 0xBF }) bs
      else fresh [none]

/-- The strict reading, which fails on any fault. -/
def decodeChars? (bs : List UInt8) : Option (List Char) :=
  (pieces none bs).mapM id

/-- The strict reading as a string. -/
def decode? (bs : List UInt8) : Option String :=
  (decodeChars? bs).map String.ofList

/-- Where the strict reading fails: the place of the first byte of the fault,
    and how many bytes it has, or `none` when the text ends within a
    character. `start` is the place of the pending character. -/
def firstFault (start here : Nat) : Option Pending → List UInt8 → Option (Nat × Option Nat)
  | none, [] => none
  | some _, [] => some (start, none)
  | none, b :: bs =>
    match lead? b with
    | none => some (here, some 1)
    | some l =>
      if l.following == 0 then firstFault (here + 1) (here + 1) none bs
      else firstFault here (here + 1)
        (some { value := l.value, left := l.following, low := l.low, high := l.high }) bs
  | some p, b :: bs =>
    if p.low ≤ b.toNat && b.toNat ≤ p.high then
      if p.left ≤ 1 then firstFault (here + 1) (here + 1) none bs
      else firstFault start (here + 1)
        (some { value := 0, left := p.left - 1, low := 0x80, high := 0xBF }) bs
    else some (start, some (here - start))

/-- The wording of a failed strict reading. -/
def faultText (bs : List UInt8) : String :=
  match firstFault 0 0 none bs with
  | some (place, some n) =>
    "invalid utf-8 sequence of " ++ toString n ++ " bytes from index " ++ toString place
  | some (place, none) => "incomplete utf-8 byte sequence from index " ++ toString place
  | none => ""

/-- The lenient reading, with U+FFFD for each fault. -/
def decodeLossy (bs : List UInt8) : String :=
  String.ofList ((pieces none bs).map fun c => c.getD (Char.ofNat 0xFFFD))

end Utf8

end Multitenancy
