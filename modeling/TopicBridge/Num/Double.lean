/-!
# Double-precision values

A **double** is a value of the IEEE 754 binary64 format: a finite value `± m · 2^q` with
a significand `m < 2⁵³` and an exponent `q ≥ -1074` (zero has `m = 0`), an infinity, or
NaN. Doubles are only ever *made* by rounding an exact fraction to the nearest double –
ties go to the even significand, and a value too large for the format becomes an
infinity – so reading decimal text, multiplying and dividing are all one function,
`TopicBridge.Num.Double.ofRatio`, and need no floating-point hardware.

The integer a double converts to is its truncation toward zero; a conversion to a signed
64-bit integer that does not fit – NaN, an infinity or a value out of range – gives the
least 64-bit integer, as the processors the service runs on do.

* `TopicBridge.Num.Double.ofRatio`, `TopicBridge.Num.Double.ofDecimal`;
* `TopicBridge.Num.Double.mul`, `TopicBridge.Num.Double.div`;
* `TopicBridge.Num.Double.trunc?`, `TopicBridge.Num.Double.toInt64`.
-/

namespace TopicBridge.Num

/-- A binary64 value. -/
inductive Double where
  /-- `± m · 2^q`; zero when `m = 0`. -/
  | finite (neg : Bool) (m : Nat) (q : Int)
  /-- An infinity. -/
  | inf (neg : Bool)
  /-- Not a number. -/
  | nan
  deriving Repr, DecidableEq, Inhabited

namespace Double

/-- The least exponent: that of the subnormal values. -/
def minExp : Int := -1074

/-- The greatest exponent of a finite value. -/
def maxExp : Int := 971

/-- The quotient `n / d` rounded to the nearest integer, ties to the even one. -/
def roundHalfEven (n d : Nat) : Nat :=
  let q := n / d
  let r := n % d
  if 2 * r > d || (2 * r == d && q % 2 == 1) then q + 1 else q

/-- Whether `n / d ≥ 2^e`, for an exponent of either sign. -/
def ratioAtLeast (n d : Nat) (e : Int) : Bool :=
  if e ≥ 0 then n ≥ d * Nat.pow 2 e.toNat else n * Nat.pow 2 (-e).toNat ≥ d

/-- The fraction `n / d · 2^-q` rounded to an integer. -/
def scaledRound (n d : Nat) (q : Int) : Nat :=
  if q ≥ 0 then roundHalfEven n (d * Nat.pow 2 q.toNat) else roundHalfEven (n * Nat.pow 2 (-q).toNat) d

/-- The double nearest to `± n / d`, for `d > 0`. -/
def ofRatio (neg : Bool) (n d : Nat) : Double :=
  if n = 0 ∨ d = 0 then .finite neg 0 minExp
  else
    -- the exponent that puts the significand in [2⁵², 2⁵³)
    let q0 : Int := (n.log2 : Int) - d.log2 - 52
    let q1 := if ratioAtLeast n d (q0 + 52) then q0 else q0 - 1
    let q := max q1 minExp
    let m := scaledRound n d q
    let (m, q) := if m = Nat.pow 2 53 then (Nat.pow 2 52, q + 1) else (m, q)
    if q > maxExp then .inf neg else .finite neg m q

/-- The number of decimal digits of a positive number. -/
def digitCount (n : Nat) : Nat := (Nat.toDigits 10 n).length

/-- The double nearest to `± digits · 10^e`. A value that surely overflows or underflows
is settled without computing its powers of ten. -/
def ofDecimal (neg : Bool) (digits : Nat) (e : Int) : Double :=
  if digits = 0 then .finite neg 0 minExp
  else if e + digitCount digits > 310 then .inf neg
  else if e + digitCount digits < -330 then .finite neg 0 minExp
  else if e ≥ 0 then ofRatio neg (digits * Nat.pow 10 e.toNat) 1
  else ofRatio neg digits (Nat.pow 10 (-e).toNat)

/-- The double of a natural number. -/
def ofNat (n : Nat) : Double := ofRatio false n 1

/-- A finite double as an exact fraction `num / den` with its sign. -/
def ratio (neg : Bool) (m : Nat) (q : Int) : Bool × Nat × Nat :=
  if q ≥ 0 then (neg, m * Nat.pow 2 q.toNat, 1) else (neg, m, Nat.pow 2 (-q).toNat)

/-- The product of two doubles, rounded. -/
def mul : Double → Double → Double
  | .finite n1 m1 q1, .finite n2 m2 q2 =>
    let (_, a, b) := ratio n1 m1 q1
    let (_, c, d) := ratio n2 m2 q2
    ofRatio (n1 != n2) (a * c) (b * d)
  | .nan, _ | _, .nan => .nan
  | .inf n1, .finite n2 m _ | .finite n2 m _, .inf n1 => if m = 0 then .nan else .inf (n1 != n2)
  | .inf n1, .inf n2 => .inf (n1 != n2)

/-- The quotient of two doubles, rounded. -/
def div : Double → Double → Double
  | .finite n1 m1 q1, .finite n2 m2 q2 =>
    if m2 = 0 then (if m1 = 0 then .nan else .inf (n1 != n2))
    else
      let (_, a, b) := ratio n1 m1 q1
      let (_, c, d) := ratio n2 m2 q2
      ofRatio (n1 != n2) (a * d) (b * c)
  | .nan, _ | _, .nan => .nan
  | .inf n1, .finite n2 _ _ => .inf (n1 != n2)
  | .finite n1 _ _, .inf n2 => .finite (n1 != n2) 0 minExp
  | .inf _, .inf _ => .nan

/-- Whether a double is zero of either sign. -/
def isZero : Double → Bool
  | .finite _ m _ => m == 0
  | _ => false

/-- The integer a finite double truncates to, toward zero. -/
def trunc? : Double → Option Int
  | .finite neg m q =>
    let t : Nat := if q ≥ 0 then m * Nat.pow 2 q.toNat else m / Nat.pow 2 (-q).toNat
    some (if neg then -(t : Int) else t)
  | _ => none

/-- The signed 64-bit integer a double converts to: its truncation when that fits, and
the least 64-bit integer otherwise. -/
def toInt64 (x : Double) : Int :=
  match x.trunc? with
  | some t => if -9223372036854775808 ≤ t ∧ t < 9223372036854775808 then t
    else -9223372036854775808
  | none => -9223372036854775808

theorem ofRatio_zero (neg : Bool) (d : Nat) : ofRatio neg 0 d = .finite neg 0 minExp := by
  simp [ofRatio]

theorem isZero_ofRatio_zero (neg : Bool) (d : Nat) : (ofRatio neg 0 d).isZero = true := by
  simp [ofRatio, isZero]

end Double

end TopicBridge.Num
