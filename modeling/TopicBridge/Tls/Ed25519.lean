import TopicBridge.Tls.Sha512
import TopicBridge.Tls.Curve

/-!
# Ed25519 public keys

The twisted Edwards curve `-x² + y² = 1 + d·x²·y²` modulo `2²⁵⁵ - 19`. Its addition law
is complete, so points are affine pairs with `(0, 1)` as the neutral point.

The public key of a 32-byte seed is derived as the signature scheme prescribes: hash the
seed with SHA-512, take the first half as a little-endian number with its lowest three bits
and its top bit cleared and bit 254 set, multiply the base point by it, and encode the
result as `y` in 32 little-endian bytes with the lowest bit of `x` in the top bit.

* `TopicBridge.Tls.ed25519Public`.
-/

namespace TopicBridge.Tls

/-- The field prime `2²⁵⁵ - 19`. -/
def edPrime : Nat := Nat.pow 2 255 - 19

/-- The curve constant `d = -121665 / 121666`. -/
def edD : Nat := 37095705934669439343138083508754565189542113879843219016388785533085940283555

/-- The base point. -/
def edBase : Nat × Nat :=
  (15112221349535400772501151409588531511454012693041857206046113283949847762202,
   46316835694926478169428394003475163141307993866256225615783033603165251855960)

/-- The inverse modulo the prime. -/
def edInv (x : Nat) : Nat := powMod x (edPrime - 2) edPrime

/-- The sum of two points. -/
def edAdd (a b : Nat × Nat) : Nat × Nat :=
  let p := edPrime
  let (x1, y1) := a
  let (x2, y2) := b
  let t := edD * (x1 * x2 % p) % p * (y1 * y2 % p) % p
  ((x1 * y2 + y1 * x2) % p * edInv ((1 + t) % p) % p,
   (y1 * y2 + x1 * x2) % p * edInv ((1 + p - t) % p) % p)

/-- `k` times a point. -/
def edMul (k : Nat) (pt : Nat × Nat) : Nat × Nat :=
  if h : k = 0 then (0, 1)
  else
    let r := edMul (k / 2) (edAdd pt pt)
    if k % 2 = 1 then edAdd r pt else r
termination_by k
decreasing_by omega

/-- The number of little-endian bytes. -/
def leValue (bs : List UInt8) : Nat := bs.foldr (fun b acc => acc * 256 + b.toNat) 0

/-- A number in `n` little-endian bytes. -/
def leBytes (x n : Nat) : List UInt8 := (List.range n).map fun k => (x / Nat.pow 2 (8 * k) % 256).toUInt8

/-- The public key of a seed. -/
def ed25519Public (seed : List UInt8) : List UInt8 :=
  let h := (sha512 seed).take 32
  let a := leValue h
  let a := a - a % 8
  let a := a % Nat.pow 2 254 + Nat.pow 2 254
  let (x, y) := edMul a edBase
  leBytes (y + (x % 2) * Nat.pow 2 255) 32

end TopicBridge.Tls
