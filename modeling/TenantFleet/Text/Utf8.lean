/-
# Bytes as UTF-8 text

A byte sequence is text when it is a sequence of well formed encodings. Otherwise the reader reports
the index of the first byte that starts none, and how many bytes were read before the fault showed;
bytes that only stop too early are reported as incomplete.
-/

namespace TenantFleet

/-- Why a byte sequence is no text. -/
inductive Utf8Error
  | invalid (length : Nat) (index : Nat)
  | incomplete (index : Nat)
  deriving DecidableEq, Inhabited

/-- The wording of a failed reading. -/
def Utf8Error.message : Utf8Error → String
  | .invalid length index => s!"invalid utf-8 sequence of {length} bytes from index {index}"
  | .incomplete index => s!"incomplete utf-8 byte sequence from index {index}"

namespace Utf8

/-- How many bytes follow a first byte, and the range of the second byte. -/
def following? (b : UInt8) : Option (Nat × UInt8 × UInt8) :=
  if 0xC2 ≤ b ∧ b ≤ 0xDF then some (1, 0x80, 0xBF)
  else if b = 0xE0 then some (2, 0xA0, 0xBF)
  else if 0xE1 ≤ b ∧ b ≤ 0xEC then some (2, 0x80, 0xBF)
  else if b = 0xED then some (2, 0x80, 0x9F)
  else if 0xEE ≤ b ∧ b ≤ 0xEF then some (2, 0x80, 0xBF)
  else if b = 0xF0 then some (3, 0x90, 0xBF)
  else if 0xF1 ≤ b ∧ b ≤ 0xF3 then some (3, 0x80, 0xBF)
  else if b = 0xF4 then some (3, 0x80, 0x8F)
  else none

/-- The bits of a byte that belong to a code point. -/
def continuation (b : UInt8) : Nat := b.toNat % 64

/-- The character at the head of a byte sequence, and the number of its bytes. -/
def head (index : Nat) : List UInt8 → Except Utf8Error (Char × Nat)
  | [] => .error (.incomplete index)
  | b :: rest =>
    if b < 0x80 then .ok (Char.ofNat b.toNat, 1)
    else
      match following? b with
      | none => .error (.invalid 1 index)
      | some (count, lo, hi) =>
        match rest with
        | [] => .error (.incomplete index)
        | c :: rest =>
          if c < lo ∨ hi < c then .error (.invalid 1 index)
          else if count = 1 then
            .ok (Char.ofNat (b.toNat % 32 * 64 + continuation c), 2)
          else
            match rest with
            | [] => .error (.incomplete index)
            | d :: rest =>
              if d < 0x80 ∨ 0xBF < d then .error (.invalid 2 index)
              else if count = 2 then
                .ok (Char.ofNat ((b.toNat % 16 * 64 + continuation c) * 64 + continuation d), 3)
              else
                match rest with
                | [] => .error (.incomplete index)
                | e :: _ =>
                  if e < 0x80 ∨ 0xBF < e then .error (.invalid 3 index)
                  else
                    .ok
                      (Char.ofNat (((b.toNat % 8 * 64 + continuation c) * 64 + continuation d) * 64
                      + continuation e), 4)

/-- The characters of a byte sequence whose first byte has the given index. -/
def decodeFrom (index : Nat) : Nat → List UInt8 → Except Utf8Error (List Char)
  | _, [] => .ok []
  | 0, _ :: _ => .error (.incomplete index)
  | fuel + 1, bytes => do
    let (c, n) ← head index bytes
    let rest ← decodeFrom (index + n) fuel (bytes.drop n)
    return c :: rest

/-- The text of a byte sequence. -/
def decode (bytes : List UInt8) : Except Utf8Error String :=
  (decodeFrom 0 bytes.length bytes).map String.ofList

end Utf8

end TenantFleet
