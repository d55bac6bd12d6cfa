/-
  TemplatedNotes/Number/Binary64.lean
  ===================================
  **Double-precision numbers in exact arithmetic.**

  A finite number is a sign, a mantissa below 2^53 and a power of two; every operation takes the
  exact rational result and rounds it once, to the nearest number and halfway to the even mantissa
  (`Binary64.round`).  Nothing here uses machine floating point, so all of it computes in proofs.

  `Binary64.shortest` finds the fewest decimal digits that round back to a number, the nearest of
  those, and `Binary64.text` writes them: positional from 0.0001 up to sixteen digits before the
  point, with an exponent of at least two digits elsewhere.
-/
import TemplatedNotes.Number.Integer

namespace TemplatedNotes

/-- A double-precision number; `finite negative m e` is `±m · 2^e`. -/
inductive Binary64 where
  | finite (negative : Bool) (mantissa : Nat) (exponent : Int)
  | infinite (negative : Bool)
  | nan
deriving DecidableEq, Repr

namespace Binary64

def minExponent : Int := -1074

def maxExponent : Int := 971

/-- The least mantissa of 53 binary digits. -/
def mantissaStart : Nat := 4503599627370496

/-- The first number of 54 binary digits. -/
def mantissaEnd : Nat := 9007199254740992

def zero (negative : Bool) : Binary64 := .finite negative 0 minExponent

/-- The quotient of two numbers to the nearest whole number, halfway to the even one. -/
def roundQuotient (num den : Nat) : Nat :=
  let q := num / den
  let r := num % den
  if den < 2 * r ∨ (2 * r = den ∧ q % 2 = 1) then q + 1 else q

/-- The quotient `num / (den · 2^e)` as a quotient of natural numbers. -/
def scale (num den : Nat) (e : Int) : Nat × Nat :=
  if e < 0 then (num * Nat.pow 2 e.natAbs, den) else (num, den * Nat.pow 2 e.natAbs)

/-- The greatest `k` with `2^k ≤ num / den`, for positive numbers. -/
def floorLog2 (num den : Nat) : Int :=
  let k : Int := (num.log2 : Int) - (den.log2 : Int)
  let (n, d) := scale num den k
  if n < d then k - 1 else k

/-- The number nearest to a quotient. -/
def round (negative : Bool) (num den : Nat) : Binary64 :=
  if num = 0 ∨ den = 0 then zero negative
  else
    let e := max (floorLog2 num den - 52) minExponent
    let (n, d) := scale num den e
    let m := roundQuotient n d
    let (m, e) := if m = mantissaEnd then (mantissaStart, e + 1) else (m, e)
    if maxExponent < e then .infinite negative else .finite negative m e

/-- The number nearest to `±digits · 10^exponent`. -/
def ofDecimal (negative : Bool) (digits : Nat) (exponent : Int) : Binary64 :=
  let size : Int := (Nat.toDigits 10 digits).length
  if digits = 0 then zero negative
  else if 310 < size + exponent then .infinite negative
  else if size + exponent < -330 then zero negative
  else if exponent < 0 then round negative digits (Nat.pow 10 exponent.natAbs)
  else round negative (digits * Nat.pow 10 exponent.natAbs) 1

/-- The number nearest to a whole number, if that number is not past the greatest one. -/
def ofInt? (n : Int) : Option Binary64 :=
  match round (n < 0) n.natAbs 1 with
  | .finite s m e => some (.finite s m e)
  | _ => none

def neg : Binary64 → Binary64
  | .finite s m e => .finite (!s) m e
  | .infinite s => .infinite (!s)
  | .nan => .nan

def isNegative : Binary64 → Bool
  | .finite s _ _ => s
  | .infinite s => s
  | .nan => false

def isZero : Binary64 → Bool
  | .finite _ m _ => m == 0
  | _ => false

/-- A mantissa with a sign at a lower exponent. -/
def signedAt (s : Bool) (m : Nat) (e low : Int) : Int :=
  let n : Int := m * Nat.pow 2 (e - low).natAbs
  if s then -n else n

def add : Binary64 → Binary64 → Binary64
  | .nan, _ => .nan
  | _, .nan => .nan
  | .infinite s, .infinite t => if s = t then .infinite s else .nan
  | .infinite s, .finite .. => .infinite s
  | .finite .., .infinite t => .infinite t
  | .finite s m e, .finite t n f =>
    let low := min e f
    let sum := signedAt s m e low + signedAt t n f low
    if sum = 0 then zero (s && t)
    else if low < 0 then round (sum < 0) sum.natAbs (Nat.pow 2 low.natAbs)
    else round (sum < 0) (sum.natAbs * Nat.pow 2 low.natAbs) 1

def mul : Binary64 → Binary64 → Binary64
  | .nan, _ => .nan
  | _, .nan => .nan
  | .infinite s, y => if y.isZero then .nan else .infinite (s != y.isNegative)
  | .finite s m _, .infinite t => if m = 0 then .nan else .infinite (s != t)
  | .finite s m e, .finite t n f =>
    let low := e + f
    if low < 0 then round (s != t) (m * n) (Nat.pow 2 low.natAbs)
    else round (s != t) (m * n * Nat.pow 2 low.natAbs) 1

/-- Equality of numbers: not a number differs from itself, and the two zeros are equal. -/
def same : Binary64 → Binary64 → Bool
  | .finite s m e, .finite t n f => (m == 0 && n == 0) || (s == t && m == n && e == f)
  | .infinite s, .infinite t => s == t
  | _, _ => false

def sameInt (x : Binary64) (n : Int) : Bool :=
  match x with
  | .finite s m e =>
    if e < 0 then
      m % Nat.pow 2 e.natAbs == 0 && signedAt s (m / Nat.pow 2 e.natAbs) 0 0 == n
    else signedAt s m e 0 == n
  | _ => false

/-! ### Shortest decimal text -/

/-- Whether `a · 10^p < b · 2^q`. -/
def decimalLess (a : Nat) (p : Int) (b : Nat) (q : Int) : Bool :=
  let tens := Nat.pow 10 p.natAbs
  let twos := Nat.pow 2 q.natAbs
  let left := a * (if p < 0 then 1 else tens) * (if q < 0 then twos else 1)
  let right := b * (if q < 0 then 1 else twos) * (if p < 0 then tens else 1)
  left < right

/-- Whether `b · 2^q < a · 10^p`. -/
def binaryLess (b : Nat) (q : Int) (a : Nat) (p : Int) : Bool :=
  let tens := Nat.pow 10 p.natAbs
  let twos := Nat.pow 2 q.natAbs
  let left := b * (if q < 0 then 1 else twos) * (if p < 0 then tens else 1)
  let right := a * (if p < 0 then 1 else tens) * (if q < 0 then twos else 1)
  left < right

/-- Whether the decimal `c · 10^p` rounds to `m · 2^e`: it lies between the midpoints to the
    neighbours, ends included for an even mantissa. -/
def roundsTo (m : Nat) (e : Int) (c : Nat) (p : Int) : Bool :=
  let low := if m = mantissaStart ∧ e ≠ minExponent then 4 * m - 1 else 4 * m - 2
  let high := 4 * m + 2
  if m % 2 = 0 then
    !decimalLess c p low (e - 2) && !binaryLess high (e - 2) c p
  else
    binaryLess low (e - 2) c p && decimalLess c p high (e - 2)

/-- The greatest whole number `c` with `c · 10^p ≤ m · 2^e`. -/
def floorOnGrid (m : Nat) (e p : Int) : Nat :=
  let twos := Nat.pow 2 e.natAbs
  let tens := Nat.pow 10 p.natAbs
  let num := m * (if e < 0 then 1 else twos) * (if p < 0 then tens else 1)
  let den := (if e < 0 then twos else 1) * (if p < 0 then 1 else tens)
  num / den

/-- The place of the decimal point: the `k` with `10^(k-1) ≤ m · 2^e < 10^k`. -/
def pointPlace (m : Nat) (e : Int) : Int :=
  ((Nat.toDigits 10 (floorOnGrid m e (-400))).length : Int) - 400

/-- The neighbour of `m · 2^e` on the grid of the multiples of `10^p` that rounds to it, the
    nearer one of two. -/
def onGrid? (m : Nat) (e p : Int) : Option Nat :=
  let c := floorOnGrid m e p
  match roundsTo m e c p, roundsTo m e (c + 1) p with
  | true, false => some c
  | false, true => some (c + 1)
  | false, false => none
  | true, true =>
    let middle := 2 * c + 1
    if binaryLess (2 * m) e middle p then some c
    else if decimalLess middle p (2 * m) e then some (c + 1)
    else if c % 2 = 0 then some c else some (c + 1)

/-- The digits and the exponent of the first grid with a decimal that rounds to `m · 2^e`, of the
    grids with `digits`, `digits + 1`, … significant digits. -/
def shortestFrom (m : Nat) (e place : Int) : Nat → Nat → Nat × Int
  | _, 0 => (floorOnGrid m e (place - 17), place - 17)
  | digits, tries + 1 =>
    match onGrid? m e (place - digits) with
    | some c => (c, place - digits)
    | none => shortestFrom m e place (digits + 1) tries

/-- The shortest decimal `c · 10^p` that rounds to `m · 2^e`. -/
def shortest (m : Nat) (e : Int) : Nat × Int := shortestFrom m e (pointPlace m e) 1 17

/-- Digits without the zeros at their end. -/
def significant (digits : List Char) : List Char :=
  (digits.reverse.dropWhile (· = '0')).reverse

/-- The digits of a decimal `c · 10^p` and the place of its point, counted from their start. -/
def decimalDigits (c : Nat) (p : Int) : List Char × Int :=
  let digits := Nat.toDigits 10 c
  (significant digits, (digits.length : Int) + p)

/-- Digits with a decimal point at a place, zeros filled in on either side. -/
def positional (digits : List Char) (place : Int) : List Char :=
  if place ≤ 0 then '0' :: '.' :: List.replicate place.natAbs '0' ++ digits
  else
    let n := place.toNat
    if digits.length ≤ n then digits ++ List.replicate (n - digits.length) '0' ++ ['.', '0']
    else digits.take n ++ '.' :: digits.drop n

/-- Digits with the point after the first one and an exponent. -/
def scientific (digits : List Char) (place : Int) : List Char :=
  let exponent := place - 1
  let size := Nat.toDigits 10 exponent.natAbs
  let mark := (if exponent < 0 then '-' else '+') :: List.replicate (2 - size.length) '0' ++ size
  let fraction := digits.drop 1
  digits.take 1 ++ (if fraction.isEmpty then [] else '.' :: fraction) ++ 'e' :: mark

def text : Binary64 → Text
  | .nan => Text.of "nan"
  | .infinite s => Text.of (if s then "-inf" else "inf")
  | .finite s m e =>
    let body :=
      if m = 0 then ['0', '.', '0']
      else
        let (c, p) := shortest m e
        let (digits, place) := decimalDigits c p
        if place ≤ -4 ∨ 16 < place then scientific digits place else positional digits place
    ((if s then ['-'] else []) ++ body).map .scalar

end Binary64

end TemplatedNotes
