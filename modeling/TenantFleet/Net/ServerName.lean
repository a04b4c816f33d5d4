/-
# Names of servers

A server is named by a domain name or by an address. A domain name is made of labels with points
between them, of which one may follow the last; the last label is no number.

* `ServerName.valid` : whether a text names a server.
-/
import TenantFleet.Net.SocketAddress

namespace TenantFleet.ServerName

/-- The longest label. -/
def maxLabel : Nat := 63

/-- The longest name. -/
def maxName : Nat := 253

/-- Whether a text is a label: letters, digits, low lines, and hyphens that stand neither first nor
last. -/
def isLabel (label : String) : Bool :=
  let cs := label.toList
  !cs.isEmpty && cs.length ≤ maxLabel &&
    cs.all (fun c => c.isAlphanum || c = '_' || c = '-') &&
    cs.head? ≠ some '-' && cs.getLast? ≠ some '-'

/-- Whether a text is a domain name. -/
def isDomain (s : String) : Bool :=
  let labels := s.splitOn "."
  let labels := if labels.getLast? = some "" then labels.dropLast else labels
  s.utf8ByteSize ≤ maxName && labels.all isLabel &&
    labels.getLast?.any fun last => !last.toList.all Char.isDigit

/-- Whether a text is an address of four bytes or of eight groups. -/
def isAddress (s : String) : Bool :=
  let whole {α : Type} (r : Option (α × List Char)) : Bool := r.any (·.2.isEmpty)
  whole (SocketAddress.bytes? s.toList) || whole (SocketAddress.address? s.toList)

/-- Whether a text names a server. -/
def valid (s : String) : Bool := isDomain s || isAddress s

end TenantFleet.ServerName
