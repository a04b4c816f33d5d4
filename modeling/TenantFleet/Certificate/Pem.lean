/-
# Certificates in text files

Binary data is put into text files in base 64, between a line that tells its kind and a line that
closes it. Around such sections anything may stand.

* `Pem.sections?` : the sections of a file.
-/
import TenantFleet.Text.Base64
import TenantFleet.Text.Blank
import TenantFleet.Text.Utf8

namespace TenantFleet.Pem

/-! ## Marks -/

/-- What stands before a mark and after it. The characters of the mark have to follow each other;
one that does not fit is not tried as the first one again. -/
def splitAt? (mark : List UInt8) :
    (todo seen : List UInt8) → List UInt8 → Option (List UInt8 × List UInt8)
  | [], seen, rest => some ((seen.drop mark.length).reverse, rest)
  | _ :: _, _, [] => none
  | t :: todo, seen, b :: rest =>
    if b = t then splitAt? mark todo (b :: seen) rest else splitAt? mark mark (b :: seen) rest

/-- What stands before the first place of a mark and after it. -/
def split? (mark : String) (bs : List UInt8) : Option (List UInt8 × List UInt8) :=
  let mark := mark.toUTF8.toList
  splitAt? mark mark [] bs

/-- The bytes without the blanks at their head. -/
def skipBlanks (bs : List UInt8) : List UInt8 :=
  bs.dropWhile fun b => b = 0x20 || b = 0x0A || b = 0x0D || b = 0x09

/-! ## Sections -/

/-- A section of a file: its kind, the kind that its last line tells, and what stands between. -/
structure Frame where
  /-- The kind. -/
  kind : List UInt8
  /-- What stands in it. -/
  body : List UInt8
  /-- The kind that its last line tells. -/
  closing : List UInt8
  deriving DecidableEq, Inhabited

/-- The first section of a file, and what follows it. -/
def frame? (bs : List UInt8) : Option (Frame × List UInt8) := do
  let (_, bs) ← split? "-----BEGIN " bs
  let (kind, bs) ← split? "-----" bs
  let (body, bs) ← split? "-----END " (skipBlanks bs)
  let (closing, bs) ← split? "-----" bs
  return (⟨kind, body, closing⟩, skipBlanks bs)

/-- The sections of a file of at most `limit` sections. -/
def frames : (limit : Nat) → List UInt8 → List Frame
  | 0, _ => []
  | limit + 1, bs =>
    match frame? bs with
    | some (f, rest) => f :: frames limit rest
    | none => []

/-! ## Content -/

/-- The headers and the data of a section, with an empty line between them. -/
def headed (body : List UInt8) : List UInt8 × List UInt8 :=
  ((split? "\n\n" body).orElse fun _ => split? "\r\n\r\n" body).getD ([], body)

/-- The lines of a text; the last one may be closed or not. -/
def linesOf (s : String) : List String :=
  let ls := s.splitOn "\n"
  if ls.getLast? = some "" then ls.dropLast else ls

/-- The text of bytes. -/
def text? (bs : List UInt8) : Option String := (Utf8.decode bs).toOption

/-- A line without the blanks at its end. -/
def trimmed (line : String) : List Char :=
  (line.toList.reverse.dropWhile Text.isBlank).reverse

/-- The kind and the data of a section. Each header has a colon, and both lines tell the same
kind. -/
def content? (f : Frame) : Option (String × List UInt8) := do
  let kind ← text? f.kind
  let closing ← text? f.closing
  if kind.isEmpty ∨ kind ≠ closing then none
  else
    let (headers, data) := headed f.body
    let data ← text? data
    let headers ← text? headers
    let bytes ← Base64.decodeChars ((linesOf data).flatMap trimmed)
    if (linesOf headers).all (·.contains ':') then return (kind, bytes) else none

/-- The kinds and the data of the sections of a file. -/
def sections? (bs : List UInt8) : Option (List (String × List UInt8)) :=
  (frames bs.length bs).mapM content?

/-- The kind of certificates. -/
def certificate : String := "CERTIFICATE"

/-- The certificates of a file. -/
def certificates? (bs : List UInt8) : Option (List (List UInt8)) := do
  return ((← sections? bs).filter fun s => s.1 = certificate).map Prod.snd

end TenantFleet.Pem
