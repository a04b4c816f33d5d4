/-
# Elements of binary certificates

A certificate is made of elements: a tag, the length of the content, and the content, which may be
made of elements again. A length is written as short as it can be.

* `Der.elements?` : the elements that make up some bytes.
-/

namespace TenantFleet.Der

/-- A tag with the content behind it. -/
abbrev Element := UInt8 × List UInt8

/-- The tags that certificates are made of. -/
def integerTag : UInt8 := 0x02

/-- The tag of a sequence of bits. -/
def bitsTag : UInt8 := 0x03

/-- The tag of a sequence of bytes. -/
def bytesTag : UInt8 := 0x04

/-- The tag of a truth value. -/
def booleanTag : UInt8 := 0x01

/-- The tag of a name in the tree of registered names. -/
def identifierTag : UInt8 := 0x06

/-- The tag of a list of elements. -/
def sequenceTag : UInt8 := 0x30

/-- The tag of an element with a number of its own. -/
def numbered (n : UInt8) : UInt8 := 0xA0 + n

/-- The longest content. -/
def maxLength : Nat := 65534

/-- The length at the head of some bytes, and what follows: one byte below 128, or the number of
bytes behind it that write the length. -/
def length? : List UInt8 → Option (Nat × List UInt8)
  | [] => none
  | b :: rest =>
    if b < 0x80 then some (b.toNat, rest)
    else
      let count := b.toNat - 0x80
      let digits := rest.take count
      let n := digits.foldl (fun n d => n * 256 + d.toNat) 0
      let least := if count = 1 then 0x80 else Nat.pow 256 (count - 1)
      if 1 ≤ count ∧ count ≤ 4 ∧ digits.length = count ∧ least ≤ n then some (n, rest.drop count)
      else none

/-- The element at the head of some bytes, and what follows. -/
def element? : List UInt8 → Option (Element × List UInt8)
  | [] => none
  | tag :: rest => do
    let (n, rest) ← length? rest
    if tag &&& 0x1F = 0x1F ∨ maxLength < n ∨ rest.length < n then none
    else return ((tag, rest.take n), rest.drop n)

/-- At most `limit` elements that make up some bytes. -/
def elementsWithin? : (limit : Nat) → List UInt8 → Option (List Element)
  | _, [] => some []
  | 0, _ => none
  | limit + 1, bs => do
    let (x, rest) ← element? bs
    return x :: (← elementsWithin? limit rest)

/-- The elements that make up some bytes. -/
def elements? (bs : List UInt8) : Option (List Element) := elementsWithin? bs.length bs

end TenantFleet.Der
