/-
# Certificates that others are checked with

A certificate names its issuer, its subject and the key of the subject, and is signed. One that
others are checked with has to be well formed: its parts have to be there, and it must not ask for a
check that is not known.

* `Certificate.isRoot` : whether some bytes are such a certificate.
-/
import TenantFleet.Certificate.Der

namespace TenantFleet.Certificate

open Der

/-! ## Extensions -/

/-- The last parts of the names of the extensions that are known, which begin alike. -/
def knownExtensions : List UInt8 := [15, 17, 19, 30, 31, 37]

/-- The last part of the name of an extension that could be known. -/
def extension? : List UInt8 → Option UInt8
  | [0x55, 0x1D, n] => if n ∈ knownExtensions then some n else none
  | _ => none

/-- Whether the content of a known extension has its form: the usage of the key is kept as it is,
and the others are lists. -/
def validExtension (n : UInt8) (content : List UInt8) : Bool :=
  n = 15 || (elements? content).any fun es => es.map Prod.fst = [sequenceTag]

/-- The name of an extension, whether it has to be known, and its content. -/
def readExtension? (e : Element) : Option (List UInt8 × Bool × List UInt8) :=
  if e.1 = sequenceTag then
    match elements? e.2 with
    | some [(tag, name), (tag', content)] =>
      if tag = identifierTag ∧ tag' = bytesTag then some (name, false, content) else none
    | some [(tag, name), (flag, critical), (tag', content)] =>
      if tag = identifierTag ∧ flag = booleanTag ∧ (critical = [0x00] ∨ critical = [0xFF]) ∧
        tag' = bytesTag then
        some (name, critical = [0xFF], content)
      else none
    | _ => none
  else none

/-- Whether extensions are in order: each one is known or need not be, and none comes twice. -/
def validExtensions (es : List Element) : Bool :=
  match es.mapM readExtension? with
  | none => false
  | some xs =>
    let known := xs.filterMap fun x => (extension? x.1).map (·, x.2.2)
    known.all (fun k => validExtension k.1 k.2) &&
      knownExtensions.all (fun n => known.countP (fun k => k.1 = n) ≤ 1) &&
      xs.all fun x => !x.2.1 || (extension? x.1).isSome

/-! ## Certificates -/

/-- Whether what stands behind the key of a certificate is in order: nothing, or extensions. -/
def validTail : List Element → Bool
  | [] => true
  | [(tag, content)] =>
    tag = numbered 3 &&
      match elements? content with
      | some [(tag, list)] => tag = sequenceTag && (elements? list).any validExtensions
      | _ => false
  | _ => false

/-- Whether the signed part of a certificate is in order; the way to sign is given once more in it.
An old certificate has no version and no extensions. -/
def validBody (algorithm : List UInt8) (es : List Element) : Bool :=
  match es with
  | (tag, version) :: (tag', _) :: (s₁, signature) :: (s₂, _) :: (s₃, _) :: (s₄, _) ::
    (s₅, _) :: rest =>
    tag = numbered 0 && elements? version = some [(integerTag, [2])] && tag' = integerTag &&
      [s₁, s₂, s₃, s₄, s₅].all (· = sequenceTag) && signature = algorithm && validTail rest
  | _ => es.map Prod.fst = [integerTag, sequenceTag, sequenceTag, sequenceTag, sequenceTag,
    sequenceTag]

/-- Whether some bytes are a certificate that others can be checked with. -/
def isRoot (der : List UInt8) : Bool :=
  match elements? der with
  | some [(tag, content)] =>
    tag = sequenceTag &&
      match elements? content with
      | some [(s₁, body), (s₂, algorithm), (tag, signature)] =>
        s₁ = sequenceTag && s₂ = sequenceTag && tag = bitsTag && signature.head? = some 0 &&
          (elements? body).any (validBody algorithm)
      | _ => false
  | _ => false

end TenantFleet.Certificate
