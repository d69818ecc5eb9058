import TopicBridge.Num.Double
/-!
# The shortest decimal of a double

A finite double stands for every real number that rounds to it: the interval around it
that reaches halfway to each neighbour, ends included when the significand is even. Its
**shortest decimal** is the decimal with the fewest significant digits inside that
interval; at that length the two decimals on either side of the value are the only
candidates, and when both lie inside, the nearer one is taken (a tie goes to the even
last digit).

Two layouts are written from it:
* **positional**: all digits with a decimal point where needed (`0.001`, `1e21` becomes
  `1000000000000000000000`);
* **general**: positional when the decimal exponent lies in `[-4, 6)`, and otherwise
  one digit, the rest after a point and an exponent `e±dd` of at least two digits
  (`1e+06`, `1.5e-07`).

Non-finite values are written `NaN`, `+Inf` and `-Inf` in both.

* `TopicBridge.Num.Double.shortest`, `TopicBridge.Num.Double.positional`,
  `TopicBridge.Num.Double.general`.
-/

namespace TopicBridge.Num

namespace Double

/-- Digits `d₁ … dₙ` and a point position `p`: the value `0.d₁…dₙ · 10^p`. No trailing
zero digit; zero has no digits. -/
structure Decimal where
  /-- The significant digits. -/
  digits : List Nat
  /-- Where the decimal point stands. -/
  point : Int
  deriving Repr, DecidableEq

/-- The position `E` with `10^(E-1) ≤ v / den < 10^E`, for `v > 0`; the search stops after
`fuel` steps below one. -/
def pointOf (v den : Nat) : Nat → Int
  | 0 => 0
  | k + 1 =>
    if v ≥ den then digitCount (v / den)
    else
      -- count the zeros after the point
      let rec zeros (i : Nat) : Nat → Int
        | 0 => -(i : Int)
        | f + 1 => if v * Nat.pow 10 (i + 1) ≥ den then -(i : Int) else zeros (i + 1) f
      zeros 0 (k + 1)

/-- The digits of a natural number without its trailing zeros, and how many were cut. -/
def stripZeros (c : Nat) : List Nat × Nat :=
  let ds := (Nat.toDigits 10 c).map fun ch => ch.toNat - '0'.toNat
  let kept := (ds.reverse.dropWhile (· == 0)).reverse
  (kept, ds.length - kept.length)

/-- Whether `c · 10^p`, scaled by `den`, lies between the bounds `lo` and `hi`, both
scaled by `den` too. -/
def within (c : Nat) (p : Int) (lo hi den : Nat) (inclusive : Bool) : Bool :=
  let (x, l, h) :=
    if p ≥ 0 then (c * den * Nat.pow 10 p.toNat, lo, hi)
    else (c * den, lo * Nat.pow 10 (-p).toNat, hi * Nat.pow 10 (-p).toNat)
  (if inclusive then l ≤ x else l < x) && (if inclusive then x ≤ h else x < h)

/-- The shortest decimal of `m · 2^q` for `m > 0`, given as the scaled value `v`, the
bounds `lo` and `hi` and the scale `den`, trying `len` digits and up. -/
def shortestFrom (v lo hi den : Nat) (inclusive : Bool) (e : Int) : Nat → Nat → Decimal
  | _, 0 => ⟨[], 0⟩
  | len, fuel + 1 =>
    let p := e - len
    -- the decimals of `len` digits just below and just above the value
    let (below, exact) :=
      if p ≥ 0 then (v / (den * Nat.pow 10 p.toNat), v % (den * Nat.pow 10 p.toNat) == 0)
      else (v * Nat.pow 10 (-p).toNat / den, v * Nat.pow 10 (-p).toNat % den == 0)
    let finish (c : Nat) : Decimal :=
      let (ds, cut) := stripZeros c
      ⟨ds, p + (ds.length + cut : Nat)⟩
    if exact then finish below
    else
      let downOk := within below p lo hi den inclusive
      let upOk := within (below + 1) p lo hi den inclusive
      if downOk && upOk then
        -- the nearer of the two; a tie goes to the even one
        let (dBelow, dAbove) :=
          if p ≥ 0 then (v - below * den * Nat.pow 10 p.toNat, (below + 1) * den * Nat.pow 10 p.toNat - v)
          else (v * Nat.pow 10 (-p).toNat - below * den, (below + 1) * den - v * Nat.pow 10 (-p).toNat)
        if dBelow < dAbove || (dBelow == dAbove && below % 2 == 0) then finish below
        else finish (below + 1)
      else if downOk then finish below
      else if upOk then finish (below + 1)
      else shortestFrom v lo hi den inclusive e (len + 1) fuel

/-- The shortest decimal of a finite double's magnitude `m · 2^q`. -/
def shortestOf (m : Nat) (q : Int) : Decimal :=
  if m = 0 then ⟨[], 0⟩
  else
    -- scale everything by 2^t so that the bounds are whole numbers
    let t : Nat := if q < 2 then (2 - q).toNat else 0
    let sh (k : Int) : Nat := Nat.pow 2 (q + t + k).toNat
    let v := m * sh 0
    let hi := (2 * m + 1) * Nat.pow 2 (q + t - 1).toNat
    let lo :=
      if m > Nat.pow 2 52 ∨ q = minExp ∨ m < Nat.pow 2 52 then (2 * m - 1) * Nat.pow 2 (q + t - 1).toNat
      else (4 * m - 1) * Nat.pow 2 (q + t - 2).toNat
    let den := Nat.pow 2 t
    let e := pointOf v den 400
    shortestFrom v lo hi den (m % 2 == 0) e 1 20

/-- The shortest decimal of a finite double; none for NaN and the infinities. -/
def shortest : Double → Option (Bool × Decimal)
  | .finite neg m q => some (neg, shortestOf m q)
  | _ => none

/-- The text of a digit. -/
def digitChar (d : Nat) : Char := Char.ofNat ('0'.toNat + d)

/-- The text of a non-finite double. -/
def specialText : Double → String
  | .nan => "NaN"
  | .inf true => "-Inf"
  | _ => "+Inf"

/-- The digits of a decimal written positionally, without sign. -/
def positionalDigits (d : Decimal) : String :=
  let nd := d.digits.length
  let whole : List Char :=
    if d.point > 0 then
      let p := d.point.toNat
      (d.digits.take p).map digitChar ++ List.replicate (p - min nd p) '0'
    else ['0']
  let places : Nat := if (nd : Int) - d.point > 0 then ((nd : Int) - d.point).toNat else 0
  let frac : List Char :=
    (List.range places).map fun (i : Nat) =>
      let j : Int := d.point + (i : Int)
      if 0 ≤ j ∧ j < nd then digitChar (d.digits.getD j.toNat 0) else '0'
  String.ofList (whole ++ (if places > 0 then '.' :: frac else []))

/-- The digits of a decimal with an exponent, without sign. -/
def exponentDigits (d : Decimal) : String :=
  let first := digitChar (d.digits.headD 0)
  let rest := d.digits.drop 1
  let mant := first :: (if rest.isEmpty then [] else '.' :: rest.map digitChar)
  let x : Int := if d.digits.isEmpty then 0 else d.point - 1
  let sign := if x < 0 then '-' else '+'
  let a := x.natAbs
  let ds := Nat.toDigits 10 a
  let ds := if ds.length < 2 then '0' :: ds else ds
  String.ofList (mant ++ 'e' :: sign :: ds)

/-- A double written positionally with its shortest decimal. -/
def positional (x : Double) : String :=
  match x.shortest with
  | some (neg, d) => (if neg then "-" else "") ++ positionalDigits d
  | none => specialText x

/-- A double in the general layout: positional for decimal exponents in `[-4, 6)`,
otherwise with an exponent. -/
def general (x : Double) : String :=
  match x.shortest with
  | some (neg, d) =>
    let x : Int := d.point - 1
    (if neg then "-" else "") ++
      (if !d.digits.isEmpty && (x < -4 || x ≥ 6) then exponentDigits d else positionalDigits d)
  | none => specialText x

end Double

end TopicBridge.Num
