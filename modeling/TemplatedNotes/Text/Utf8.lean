/-
  TemplatedNotes/Text/Utf8.lean
  =============================
  **Texts and bytes.**

  A surrogate has no UTF-8 form, so `Utf8.encode?` is partial.  `Utf8.decode` refuses at the first
  byte that rules a text out and says where and why: a byte that starts no character, a byte that
  does not continue the character begun, or an end inside a character; the fault names the bytes
  of the character begun so far.
-/
import TemplatedNotes.Text.CodePoint

namespace TemplatedNotes.Utf8

/-- Why a sequence of bytes is no UTF-8. -/
inductive Reason where
  | start
  | continuation
  | truncated
deriving DecidableEq, Repr

/-- The bytes from `position` on that are no UTF-8. -/
structure Fault where
  position : Nat
  bytes : List UInt8
  reason : Reason
deriving DecidableEq, Repr

/-- A character begun: the tail bytes it still owes, the bounds on the next one, the value read
    so far and the bytes read so far, last first. -/
structure Pending where
  owed : Nat
  low : Nat
  high : Nat
  value : Nat
  bytes : List UInt8

def encodeValue (n : Nat) : List UInt8 :=
  if n < 0x80 then [n.toUInt8]
  else if n < 0x800 then [(0xc0 + n / 0x40).toUInt8, (0x80 + n % 0x40).toUInt8]
  else if n < 0x10000 then
    [(0xe0 + n / 0x1000).toUInt8, (0x80 + n / 0x40 % 0x40).toUInt8, (0x80 + n % 0x40).toUInt8]
  else
    [(0xf0 + n / 0x40000).toUInt8, (0x80 + n / 0x1000 % 0x40).toUInt8,
      (0x80 + n / 0x40 % 0x40).toUInt8, (0x80 + n % 0x40).toUInt8]

/-- The bytes of a text, if it holds no surrogate. -/
def encode? : Text → Option (List UInt8)
  | [] => some []
  | .scalar c :: rest => (encode? rest).map (encodeValue c.toNat ++ ·)
  | .surrogate _ :: _ => none

/-- The character that a first byte begins. -/
def begin? (b : UInt8) : Option Pending :=
  let n := b.toNat
  if n < 0x80 then some ⟨0, 0, 0, n, [b]⟩
  else if n < 0xc2 then none
  else if n < 0xe0 then some ⟨1, 0x80, 0xbf, n - 0xc0, [b]⟩
  else if n < 0xf0 then
    some ⟨2, if n = 0xe0 then 0xa0 else 0x80, if n = 0xed then 0x9f else 0xbf, n - 0xe0, [b]⟩
  else if n < 0xf5 then
    some ⟨3, if n = 0xf0 then 0x90 else 0x80, if n = 0xf4 then 0x8f else 0xbf, n - 0xf0, [b]⟩
  else none

/-- The text of the bytes from a position on, inside the character begun if there is one. -/
def decodeFrom (position : Nat) : Option Pending → List UInt8 → Except Fault Text
  | none, [] => .ok []
  | some p, [] => .error ⟨position - p.bytes.length, p.bytes.reverse, .truncated⟩
  | none, b :: rest =>
    match begin? b with
    | none => .error ⟨position, [b], .start⟩
    | some p =>
      if p.owed = 0 then (decodeFrom (position + 1) none rest).map (CodePoint.ofNat p.value :: ·)
      else decodeFrom (position + 1) (some p) rest
  | some p, b :: rest =>
    if p.low ≤ b.toNat ∧ b.toNat ≤ p.high then
      let value := p.value * 0x40 + (b.toNat - 0x80)
      if p.owed = 1 then (decodeFrom (position + 1) none rest).map (CodePoint.ofNat value :: ·)
      else decodeFrom (position + 1) (some ⟨p.owed - 1, 0x80, 0xbf, value, b :: p.bytes⟩) rest
    else .error ⟨position - p.bytes.length, p.bytes.reverse, .continuation⟩

/-- The text of a sequence of bytes. -/
def decode (bytes : List UInt8) : Except Fault Text := decodeFrom 0 none bytes

end TemplatedNotes.Utf8
