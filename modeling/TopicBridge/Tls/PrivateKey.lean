import TopicBridge.Tls.Layout
import TopicBridge.Tls.Curve
import TopicBridge.Tls.Ed25519

/-!
# Private keys

A private key comes in one of three DER forms, each a layout (`TopicBridge.Tls.Layout`):
* **PKCS #1**, an RSA key: version, modulus, public and private exponents, the two primes,
  optionally the CRT exponents and coefficient and further primes;
* **SEC 1**, an elliptic-curve key: version 1, the scalar, optionally the curve and the
  public point;
* **PKCS #8**, a key of any algorithm wrapped with the algorithm's identifier: RSA (PKCS #1
  inside), elliptic curve (SEC 1 inside, the curve given by the wrapping if it names one),
  Ed25519 or X25519 (a 32-byte seed inside).

Bytes of one form read as another are refused with a hint at the right reader.

An RSA key must be consistent: a public exponent that is odd, at least 2 and below `2³¹`,
an odd modulus that is the product of the primes, primes of the same length and not too
close, CRT values that agree with the primes (computed when absent), and a private
exponent of more than half the modulus's bits. An elliptic-curve scalar must be non-zero
and below the curve's order, on a named curve.

Reading a key for TLS (`TopicBridge.Tls.parsePrivateKey`) tries PKCS #1, then PKCS #8, then
SEC 1. An X25519 key cannot be used; when no form reads, the PKCS #8 reason is given.

* `TopicBridge.Tls.parsePkcs1Key`, `TopicBridge.Tls.parsePkcs8Key`,
  `TopicBridge.Tls.parseSec1Key`, `TopicBridge.Tls.parsePrivateKey`.
-/

namespace TopicBridge.Tls

/-- A private key, with what is needed to compare it with a public key. -/
inductive PrivateKey where
  /-- An RSA key and its modulus. -/
  | rsa (n : Nat)
  /-- An elliptic-curve key and its public point. -/
  | ec (point : Curve.Point)
  /-- An Ed25519 key and its public key. -/
  | ed25519 (publicKey : List UInt8)
  /-- An X25519 key. -/
  | x25519
  deriving Repr, Inhabited

/-! ### The layouts -/

/-- A further prime of an RSA key: the prime, its exponent and its coefficient. -/
def rsaPrimeLayout : Layout :=
  .record "pkcs1AdditionalRSAPrime" [(.bigInteger, false, none), (.bigInteger, false, none),
    (.bigInteger, false, none)]

/-- A PKCS #1 RSA private key. -/
def pkcs1Layout : Layout :=
  .record "pkcs1PrivateKey" [(.word, false, none), (.bigInteger, false, none), (.word, false, none),
    (.bigInteger, false, none), (.bigInteger, false, none), (.bigInteger, false, none),
    (.bigInteger, true, none), (.bigInteger, true, none), (.bigInteger, true, none),
    (.listOf rsaPrimeLayout, true, none)]

/-- A SEC 1 elliptic-curve private key. -/
def sec1Layout : Layout :=
  .record "ecPrivateKey" [(.word, false, none), (.octets, false, none), (.oid, true, some 0),
    (.bits, true, some 1)]

/-- An algorithm identifier: the algorithm and its parameters. -/
def algorithmLayout : Layout :=
  .record "AlgorithmIdentifier" [(.oid, false, none), (.anything, true, none)]

/-- A PKCS #8 private key. -/
def pkcs8Layout : Layout :=
  .record "pkcs8" [(.word, false, none), (algorithmLayout, false, none), (.octets, false, none)]

/-- Whether bytes read as a layout. -/
def fitsLayout (l : Layout) (der : List UInt8) : Bool :=
  match readLayout l der with
  | .ok _ => true
  | .error _ => false

/-- The refusal of bytes that are a key of another form. -/
def formatHint (reader : String) : String :=
  "x509: failed to parse private key (use " ++ reader ++ " instead for this key format)"

/-- The integer at a position of a reading. -/
def Reading.intAt (r : Reading) (i : Nat) : Option Int := (r.contentAt i).bind integerValue

/-- The dotted text of an object identifier's content. -/
def oidText (c : List UInt8) : String :=
  let (parts, _) := c.foldl (fun (acc : List Nat × Nat) b =>
    let v := acc.2 * 128 + b.toNat % 128
    if b < 0x80 then (acc.1 ++ [v], 0) else (acc.1, v)) ([], 0)
  let parts := match parts with
    | v :: rest => (if v < 80 then [v / 40, v % 40] else [2, v - 80]) ++ rest
    | [] => []
  ".".intercalate (parts.map toString)

/-! ### RSA -/

/-- The number of bits of a natural number. -/
def bitLength (n : Nat) : Nat := if n = 0 then 0 else n.log2 + 1

/-- Checks the public half of an RSA key. -/
def checkRsaPublic (n : Nat) (e : Int) : Except String Unit := do
  if n % 2 == 0 then throw "crypto/rsa: public modulus is even"
  if e < 2 then throw "crypto/rsa: public exponent too small or negative"
  if e % 2 == 0 then throw "crypto/rsa: public exponent is even"
  if e > 2147483647 then throw "crypto/rsa: public exponent too large"

/-- Checks a two-prime RSA key against its CRT exponents `dp`, `dq` and coefficient
`qinv`. -/
def checkRsaPrimes (n : Nat) (e : Int) (d p q dp dq qinv : Nat) : Except String Unit := do
  checkRsaPublic n e
  let e := e.toNat
  if bitLength p != bitLength q then throw "crypto/rsa: p and q have different lengths"
  if p ≥ n || q ≥ n then throw "crypto/rsa: invalid prime"
  if p * q % n != 0 then throw "crypto/rsa: p * q != n"
  if p ≤ 2 then throw "crypto/rsa: invalid prime"
  if dp ≥ p - 1 || e * dp % (p - 1) != 1 then throw "crypto/rsa: invalid CRT exponent"
  if q ≤ 2 then throw "crypto/rsa: invalid prime"
  if dq ≥ q - 1 || e * dq % (q - 1) != 1 then throw "crypto/rsa: invalid CRT exponent"
  if q % p * qinv % p != 1 then throw "crypto/rsa: invalid CRT coefficient"
  if p == q then throw "crypto/rsa: p == q"
  let gap := if p > q then p - q else q - p
  if (bitLength gap : Int) ≤ ((bitLength n / 2 : Nat) : Int) - 100 then
    throw "crypto/rsa: |p - q| too small"
  if bitLength d ≤ bitLength n / 2 then throw "crypto/rsa: d too small"

/-- The RSA key a PKCS #1 reading holds, once checked. -/
def rsaKeyOf (r : Reading) : Except String PrivateKey := do
  let get (i : Nat) : Int := (r.intAt i).getD 0
  let (version, n, e, d, p, q) := (get 0, get 1, get 2, get 3, get 4, get 5)
  let more : List Int := match r.part 9 with
    | some (.node items) => items.map fun it => ((it.getD (.node [])).intAt 0).getD 0
    | _ => []
  if version > 1 then throw "x509: unsupported private key version"
  if n ≤ 0 || d ≤ 0 || p ≤ 0 || q ≤ 0 then throw "x509: private key contains zero or negative value"
  if more.any (· ≤ 0) then throw "x509: private key contains zero or negative prime"
  let (n, d, p, q) := (n.toNat, d.toNat, p.toNat, q.toNat)
  if !more.isEmpty then
    checkRsaPublic n e
    if d ≥ n then throw "input overflows the modulus"
    if (p :: q :: more.map Int.toNat).foldl (· * ·) 1 != n then throw "crypto/rsa: invalid modulus"
    return .rsa n
  if n ≤ 1 || p ≤ 1 || q ≤ 1 then throw "modulus must be > 1"
  if d ≥ n then throw "input overflows the modulus"
  match r.intAt 6, r.intAt 7, r.intAt 8 with
  | some dp, some dq, some qinv =>
    if qinv.natAbs ≥ p then throw "input overflows the modulus"
    checkRsaPrimes n e d p q dp.natAbs dq.natAbs qinv.natAbs
  | _, _, _ =>
    if p ≤ 2 || q ≤ 2 then throw "modulus must be > 1"
    if p % 2 == 0 then throw "crypto/rsa: p is even"
    checkRsaPrimes n e d p q (d % (p - 1)) (d % (q - 1)) (powMod (q % p) (p - 2) p)
  return .rsa n

/-! ### The three forms -/

/-- Reads a SEC 1 elliptic-curve key; a curve named by a wrapping wins over the key's own. -/
def parseSec1Key (named : Option (List UInt8)) (der : List UInt8) : Except String PrivateKey :=
  match readLayout sec1Layout der with
  | .error e =>
    if fitsLayout pkcs8Layout der then .error (formatHint "ParsePKCS8PrivateKey")
    else if fitsLayout pkcs1Layout der then .error (formatHint "ParsePKCS1PrivateKey")
    else .error ("x509: failed to parse EC private key: " ++ e)
  | .ok (r, _) => do
    let version := (r.intAt 0).getD 0
    if version != 1 then throw ("x509: unknown EC private key version " ++ toString version)
    let key := (r.contentAt 1).getD []
    let own : Option (List UInt8) := match r.part 2 with
      | some (.leaf c) => some c
      | _ => none
    let curve ← match (named.orElse fun _ => own).bind curveOfOid with
      | some c => pure c
      | none => throw "x509: unknown elliptic curve"
    let k := beValue key
    if k ≥ curve.n then throw "x509: invalid elliptic curve private key value"
    if (key.take (key.length - curve.size)).any (· != 0) then throw "x509: invalid private key length"
    if k == 0 then throw "crypto/ecdsa: invalid private key"
    return .ec (curve.publicOf k)

/-- Reads a PKCS #1 RSA key. -/
def parsePkcs1Key (der : List UInt8) : Except String PrivateKey :=
  match readLayout pkcs1Layout der with
  | .error e =>
    if fitsLayout sec1Layout der then .error (formatHint "ParseECPrivateKey")
    else if fitsLayout pkcs8Layout der then .error (formatHint "ParsePKCS8PrivateKey")
    else .error e
  | .ok (r, rest) =>
    if !rest.isEmpty then .error (syntaxError "trailing data") else rsaKeyOf r

/-- Reads the 32-byte seed of an Ed25519 or X25519 key: an octet string. -/
def readSeed (inner : List UInt8) : Except String (List UInt8) :=
  match readLayout .octets inner with
  | .ok (.leaf c, _) => .ok c
  | .ok _ => .ok []
  | .error e => .error e

/-- Reads a PKCS #8 key. -/
def parsePkcs8Key (der : List UInt8) : Except String PrivateKey :=
  match readLayout pkcs8Layout der with
  | .error e =>
    if fitsLayout sec1Layout der then .error (formatHint "ParseECPrivateKey")
    else if fitsLayout pkcs1Layout der then .error (formatHint "ParsePKCS1PrivateKey")
    else .error e
  | .ok (r, _) => do
    let alg := (r.part 1).getD (.node [])
    let oid := (alg.contentAt 0).getD []
    let params := alg.contentAt 1
    let inner := (r.contentAt 2).getD []
    if oid == oidRsa then
      match parsePkcs1Key inner with
      | .ok k => return k
      | .error m => throw ("x509: failed to parse RSA private key embedded in PKCS#8: " ++ m)
    else if oid == oidEcPublicKey then
      let named : Option (List UInt8) := params.bind fun p =>
        match readLayout .oid p with
        | .ok (.leaf c, _) => some c
        | _ => none
      match parseSec1Key named inner with
      | .ok k => return k
      | .error m => throw ("x509: failed to parse EC private key embedded in PKCS#8: " ++ m)
    else if oid == oidEd25519 then
      if params.isSome then throw "x509: invalid Ed25519 private key parameters"
      let seed ← match readSeed inner with
        | .ok s => pure s
        | .error m => throw ("x509: invalid Ed25519 private key: " ++ m)
      if seed.length != 32 then throw ("x509: invalid Ed25519 private key length: " ++ toString seed.length)
      return .ed25519 (ed25519Public seed)
    else if oid == oidX25519 then
      if params.isSome then throw "x509: invalid X25519 private key parameters"
      let seed ← match readSeed inner with
        | .ok s => pure s
        | .error m => throw ("x509: invalid X25519 private key: " ++ m)
      if seed.length != 32 then throw "crypto/ecdh: invalid private key size"
      return .x25519
    else throw ("x509: PKCS#8 wrapping contained private key with unknown algorithm: " ++ oidText oid)

/-- Reads a private key for TLS: PKCS #1, then PKCS #8, then SEC 1. -/
def parsePrivateKey (der : List UInt8) : Except String PrivateKey :=
  match parsePkcs1Key der with
  | .ok k => .ok k
  | .error _ =>
    match parsePkcs8Key der with
    | .ok .x25519 => .error "tls: found unknown private key type in PKCS#8 wrapping"
    | .ok k => .ok k
    | .error wrapped =>
      match parseSec1Key none der with
      | .ok k => .ok k
      | .error _ => .error ("tls: failed to parse private key: " ++ wrapped)

example : oidText oidRsa = "1.2.840.113549.1.1.1" := by decide

end TopicBridge.Tls
