/-
# The machine that the program runs on

What the program finds on its machine: files, and the time of day.
-/
import TenantFleet.Text.Utf8
import TenantFleet.Time.Timestamp

namespace TenantFleet

/-- The machine that the program runs on. -/
structure Host where
  /-- The bytes of the file at a path, if there is one that can be read. -/
  file? : String → Option (List UInt8)
  /-- The time of day. -/
  now : Timestamp
  deriving Inhabited

/-- The text of the file at a path. -/
def Host.text? (h : Host) (path : String) : Option String :=
  (h.file? path).bind fun bytes => (Utf8.decode bytes).toOption

end TenantFleet
