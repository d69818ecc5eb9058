import TopicBridge.Tls.Der

/-!
# NIST prime curves

The curves `y² = x³ - 3x + b` over the integers modulo a prime `p`, with a base point of
prime order `n`: P-224, P-256, P-384 and P-521. Points are affine pairs, and the point at
infinity is `none`.

A public key on a curve is the uncompressed encoding `04 ‖ x ‖ y` of a point on it, with
both coordinates below `p`. The public key of a private scalar `k` is `k · G`; matching a
certificate against a private key compares that point with the certificate's.

* `TopicBridge.Tls.Curve.onCurve`, `TopicBridge.Tls.Curve.mul`, `TopicBridge.Tls.Curve.publicOf`.
-/

namespace TopicBridge.Tls

/-- A short Weierstrass curve with `a = -3`. -/
structure Curve where
  /-- The curve's name. -/
  name : String
  /-- The encoded object identifier naming it. -/
  oid : List UInt8
  /-- The field prime. -/
  p : Nat
  /-- The constant term. -/
  b : Nat
  /-- The base point. -/
  gx : Nat
  /-- The base point. -/
  gy : Nat
  /-- The order of the base point. -/
  n : Nat
  /-- The bytes of one coordinate. -/
  size : Nat
  deriving Repr, DecidableEq, Inhabited

/-- P-224. -/
def p224 : Curve :=
  { name := "P-224", oid := [0x2b, 0x81, 0x04, 0x00, 0x21]
    p := 0xffffffffffffffffffffffffffffffff000000000000000000000001
    b := 0xb4050a850c04b3abf54132565044b0b7d7bfd8ba270b39432355ffb4
    gx := 0xb70e0cbd6bb4bf7f321390b94a03c1d356c21122343280d6115c1d21
    gy := 0xbd376388b5f723fb4c22dfe6cd4375a05a07476444d5819985007e34
    n := 0xffffffffffffffffffffffffffff16a2e0b8f03e13dd29455c5c2a3d
    size := 28 }

/-- P-256. -/
def p256 : Curve :=
  { name := "P-256", oid := [0x2a, 0x86, 0x48, 0xce, 0x3d, 0x03, 0x01, 0x07]
    p := 0xffffffff00000001000000000000000000000000ffffffffffffffffffffffff
    b := 0x5ac635d8aa3a93e7b3ebbd55769886bc651d06b0cc53b0f63bce3c3e27d2604b
    gx := 0x6b17d1f2e12c4247f8bce6e563a440f277037d812deb33a0f4a13945d898c296
    gy := 0x4fe342e2fe1a7f9b8ee7eb4a7c0f9e162bce33576b315ececbb6406837bf51f5
    n := 0xffffffff00000000ffffffffffffffffbce6faada7179e84f3b9cac2fc632551
    size := 32 }

/-- P-384. -/
def p384 : Curve :=
  { name := "P-384", oid := [0x2b, 0x81, 0x04, 0x00, 0x22]
    p := 0xfffffffffffffffffffffffffffffffffffffffffffffffffffffffffffffffeffffffff0000000000000000ffffffff
    b := 0xb3312fa7e23ee7e4988e056be3f82d19181d9c6efe8141120314088f5013875ac656398d8a2ed19d2a85c8edd3ec2aef
    gx := 0xaa87ca22be8b05378eb1c71ef320ad746e1d3b628ba79b9859f741e082542a385502f25dbf55296c3a545e3872760ab7
    gy := 0x3617de4a96262c6f5d9e98bf9292dc29f8f41dbd289a147ce9da3113b5f0b8c00a60b1ce1d7e819d7a431d7c90ea0e5f
    n := 0xffffffffffffffffffffffffffffffffffffffffffffffffc7634d81f4372ddf581a0db248b0a77aecec196accc52973
    size := 48 }

/-- P-521. -/
def p521 : Curve :=
  { name := "P-521", oid := [0x2b, 0x81, 0x04, 0x00, 0x23]
    p := 0x1ffffffffffffffffffffffffffffffffffffffffffffffffffffffffffffffffffffffffffffffffffffffffffffffffffffffffffffffffffffffffffffffffff
    b := 0x51953eb9618e1c9a1f929a21a0b68540eea2da725b99b315f3b8b489918ef109e156193951ec7e937b1652c0bd3bb1bf073573df883d2c34f1ef451fd46b503f00
    gx := 0xc6858e06b70404e9cd9e3ecb662395b4429c648139053fb521f828af606b4d3dbaa14b5e77efe75928fe1dc127a2ffa8de3348b3c1856a429bf97e7e31c2e5bd66
    gy := 0x11839296a789a3bc0045c8a5fb42c7d1bd998f54449579b446817afbd17273e662c97ee72995ef42640c550b9013fad0761353c7086a272c24088be94769fd16650
    n := 0x1fffffffffffffffffffffffffffffffffffffffffffffffffffffffffffffffffa51868783bf2f966b7fcc0148f709a5d03bb5c9b8899c47aebb6fb71e91386409
    size := 66 }

/-- The curves known by name. -/
def namedCurves : List Curve := [p224, p256, p384, p521]

/-- The curve an encoded object identifier names. -/
def curveOfOid (oid : List UInt8) : Option Curve := namedCurves.find? (·.oid == oid)

/-- `b ^ e` modulo `m`, by repeated squaring. -/
def powMod (b e m : Nat) : Nat :=
  if h : e = 0 then 1 % m
  else
    let r := powMod (b * b % m) (e / 2) m
    if e % 2 = 1 then r * b % m else r
termination_by e
decreasing_by omega

namespace Curve

/-- A point: an affine pair, or the point at infinity. -/
abbrev Point := Option (Nat × Nat)

/-- The inverse modulo the prime, by Fermat. -/
def inv (c : Curve) (x : Nat) : Nat := powMod x (c.p - 2) c.p

/-- Whether a pair lies on the curve. -/
def onCurve (c : Curve) (x y : Nat) : Bool :=
  x < c.p && y < c.p && (y * y) % c.p == (x * x * x + (c.p - 3) * x + c.b) % c.p

/-- The sum of two points. -/
def add (c : Curve) : Point → Point → Point
  | none, q => q
  | p, none => p
  | some (x1, y1), some (x2, y2) =>
    let p := c.p
    if x1 == x2 then
      if (y1 + y2) % p == 0 then none
      else
        let l := (3 * x1 * x1 + (p - 3)) % p * c.inv (2 * y1 % p) % p
        let x3 := (l * l + 2 * (p - x1)) % p
        some (x3, (l * ((x1 + p - x3) % p) + (p - y1)) % p)
    else
      let l := (y2 + p - y1) % p * c.inv ((x2 + p - x1) % p) % p
      let x3 := (l * l + (p - x1) + (p - x2)) % p
      some (x3, (l * ((x1 + p - x3) % p) + (p - y1)) % p)

/-- `k` times a point, by doubling and adding. -/
def mul (c : Curve) (k : Nat) (pt : Point) : Point :=
  if h : k = 0 then none
  else
    let r := c.mul (k / 2) (c.add pt pt)
    if k % 2 = 1 then c.add r pt else r
termination_by k
decreasing_by omega

/-- The public point of a private scalar. -/
def publicOf (c : Curve) (k : Nat) : Point := c.mul k (some (c.gx, c.gy))

/-- The point of an uncompressed encoding, when it lies on the curve. -/
def decodePoint (c : Curve) (bs : List UInt8) : Option (Nat × Nat) :=
  match bs with
  | 4 :: rest =>
    if rest.length != 2 * c.size then none
    else
      let x := beValue (rest.take c.size)
      let y := beValue (rest.drop c.size)
      if c.onCurve x y then some (x, y) else none
  | _ => none

end Curve

end TopicBridge.Tls
