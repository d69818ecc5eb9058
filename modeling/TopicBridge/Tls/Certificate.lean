import TopicBridge.Tls.Pem
import TopicBridge.Tls.PrivateKey

/-!
# Certificates and key pairs

Reading an X.509 certificate checks its layout – the signed part with version, serial
number, signature algorithm (the same as the outer one), issuer and subject names, validity
times, the subject's public key, and extensions – and keeps the raw bytes and the public
key. The public key is an RSA modulus and exponent, a point on a named prime curve, an
Ed25519 key, or a key of another algorithm.

The serial number must not be negative. A private key is read as
`TopicBridge.Tls.parsePrivateKey` says; the public half of an elliptic-curve key is
recomputed from its scalar, and that of an Ed25519 key from its seed.

A **key pair** is a certificate chain and a private key, both from PEM: the first
`CERTIFICATE` block is read, the first block whose type ends in `PRIVATE KEY` is the key,
and the key must belong to the certificate's public key.

A **certificate pool** takes every `CERTIFICATE` block without headers that reads as a
certificate; identical certificates count once.

* `TopicBridge.Tls.parseCertificate`, `TopicBridge.Tls.loadKeyPair`,
  `TopicBridge.Tls.poolCertificates`.
-/

namespace TopicBridge.Tls

/-- The value of an option, or a failure with a text. -/
def need {α : Type} (o : Option α) (msg : String) : Except String α :=
  match o with
  | some a => .ok a
  | none => .error msg

/-- A public key. -/
inductive PublicKey where
  /-- An RSA modulus and exponent. -/
  | rsa (n : Nat) (e : Nat)
  /-- A point on a named curve. -/
  | ec (curve : Curve) (x y : Nat)
  /-- An Ed25519 key. -/
  | ed25519 (key : List UInt8)
  /-- A key of an algorithm no pair can be checked against. -/
  | other
  deriving Repr, Inhabited

/-- A certificate as far as it is used here. -/
structure Certificate where
  /-- The whole encoding. -/
  raw : List UInt8
  /-- The subject's public key. -/
  publicKey : PublicKey
  deriving Repr, Inhabited

/-! ### Certificate fields -/

/-- Reads an algorithm identifier's content: its object identifier and its parameters. -/
def parseAlgorithm (body : List UInt8) : Except String (List UInt8 × Option Element) := do
  let (oid, rest) ← need (readTagged tagOid body) "x509: malformed OID"
  if !validOid oid.body then throw "x509: malformed OID"
  if rest.isEmpty then return (oid.body, none)
  let (params, _) ← need (readElement rest) "x509: malformed parameters"
  return (oid.body, some params)

/-- Whether a byte may stand in a printable string. -/
def printableByte (b : UInt8) : Bool :=
  let c := Char.ofNat b.toNat
  c.isAlphanum || " \x27()+,-./:=?*&".contains c

/-- Checks a directory string value. -/
def checkText (tag : Tag) (v : List UInt8) : Except String Unit :=
  if tag == 0x14 then .ok ()
  else if tag == 0x13 then
    if v.all printableByte then .ok () else .error "invalid PrintableString"
  else if tag == 0x0c then
    if Text.isValidUtf8List v then .ok () else .error "invalid UTF-8 string"
  else if tag == 0x1e then
    if v.length % 2 == 0 then .ok () else .error "invalid BMPString"
  else if tag == 0x16 then
    if v.all (· < 0x80) then .ok () else .error "invalid IA5String"
  else if tag == 0x12 then
    if v.all fun b => (0x30 ≤ b && b ≤ 0x39) || b == 0x20 then .ok () else .error "invalid NumericString"
  else .error ("unsupported string type: " ++ toString tag.toNat)

/-- Checks one attribute of a name. -/
def checkAttribute (a : Element) : Except String Unit := do
  if a.tag != tagSequence then throw "x509: invalid RDNSequence: invalid attribute"
  let (oid, rest) ← need (readTagged tagOid a.body) "x509: invalid RDNSequence: invalid attribute type"
  if !validOid oid.body then throw "x509: invalid RDNSequence: invalid attribute type"
  let (v, _) ← need (readElement rest) "x509: invalid RDNSequence: failed to read attribute value"
  match checkText v.tag v.body with
  | .ok () => pure ()
  | .error e => throw ("x509: invalid RDNSequence: invalid attribute value: " ++ e)

/-- Checks a distinguished name's content. -/
def checkName (content : List UInt8) : Except String Unit := do
  let sets ← need (elements content) "x509: invalid RDNSequence"
  for s in sets do
    if s.tag != tagSet then throw "x509: invalid RDNSequence"
    let atvs ← need (elements s.body) "x509: invalid RDNSequence: invalid attribute"
    for a in atvs do checkAttribute a

/-- Whether some bytes are all decimal digits. -/
def allDigitBytes (bs : List UInt8) : Bool := bs.all fun b => 0x30 ≤ b && b ≤ 0x39

/-- The number some decimal digit bytes spell. -/
def digitValue (bs : List UInt8) : Nat := bs.foldl (fun a b => a * 10 + (b.toNat - 0x30)) 0

/-- Whether a zone suffix is `Z` or a sign with four digits of a valid offset. -/
def validZone (z : List UInt8) : Bool :=
  z == [0x5a] ||
    (z.length == 5 && (z.head? == some 0x2b || z.head? == some 0x2d) && allDigitBytes (z.drop 1) &&
      digitValue ((z.drop 1).take 2) < 24 && digitValue (z.drop 3) < 60)

/-- The days of a month. -/
def daysIn (year month : Nat) : Nat :=
  if month == 2 then
    if (year % 4 == 0 && year % 100 != 0) || year % 400 == 0 then 29 else 28
  else if month == 4 || month == 6 || month == 9 || month == 11 then 30 else 31

/-- Whether a date and a time of day are valid. -/
def validStamp (year : Nat) (rest : List UInt8) : Bool :=
  let month := digitValue (rest.take 2)
  let day := digitValue ((rest.drop 2).take 2)
  let hour := digitValue ((rest.drop 4).take 2)
  let minute := digitValue ((rest.drop 6).take 2)
  let second := digitValue ((rest.drop 8).take 2)
  1 ≤ month && month ≤ 12 && 1 ≤ day && day ≤ daysIn year month && hour < 24 && minute < 60 &&
    second < 60

/-- Whether a UTC time is `YYMMDDHHMMSS` and a zone. -/
def validUtcTime (bs : List UInt8) : Bool :=
  bs.length ≥ 13 && allDigitBytes (bs.take 12) && validZone (bs.drop 12) &&
    (let yy := digitValue (bs.take 2)
     validStamp (if yy < 50 then 2000 + yy else 1900 + yy) (bs.drop 2))

/-- Whether a generalized time is `YYYYMMDDHHMMSS`, an optional fraction without trailing
zeros, and a zone. -/
def validGeneralizedTime (bs : List UInt8) : Bool :=
  bs.length ≥ 15 && allDigitBytes (bs.take 14) &&
    validStamp (digitValue (bs.take 4)) (bs.drop 4) &&
    (let rest := bs.drop 14
     if rest.head? == some 0x2e then
       let frac := (rest.drop 1).takeWhile fun b => 0x30 ≤ b && b ≤ 0x39
       !frac.isEmpty && frac.getLast? != some 0x30 && validZone ((rest.drop 1).drop frac.length)
     else validZone rest)

/-- Reads one validity time. -/
def readTime (bs : List UInt8) : Except String (List UInt8) := do
  match readElement bs with
  | some (e, rest) =>
    if e.tag == tagUtcTime then
      if validUtcTime e.body then pure rest else throw "x509: malformed UTCTime"
    else if e.tag == tagGeneralizedTime then
      if validGeneralizedTime e.body then pure rest else throw "x509: malformed GeneralizedTime"
    else throw "x509: unsupported time format"
  | none => throw "x509: unsupported time format"

/-- Reads one extension's content: its identifier. -/
def parseExtension (body : List UInt8) : Except String (List UInt8) := do
  let (oid, rest) ← need (readTagged tagOid body) "x509: malformed extension OID field"
  if !validOid oid.body then throw "x509: malformed extension OID field"
  let rest ← match readElement rest with
    | some (e, after) =>
      if e.tag == tagBoolean then
        if e.body == [0] || e.body == [0xff] then pure after
        else throw "x509: malformed extension critical field"
      else pure rest
    | none => pure rest
  let _ ← need (readTagged tagOctetString rest) "x509: malformed extension value field"
  return oid.body

/-- Checks the extensions' content: well-formed and no identifier twice. -/
def checkExtensions (content : List UInt8) : Except String Unit := do
  let outer ← need (readTagged tagSequence content) "x509: malformed extensions"
  let exts ← need (elements outer.1.body) "x509: malformed extension"
  let ids ← exts.mapM fun e => do
    if e.tag != tagSequence then throw "x509: malformed extension"
    parseExtension e.body
  if ids.length != ids.eraseDups.length then throw "x509: certificate contains duplicate extensions"

/-- Reads the subject public key from its algorithm and key bytes. -/
def parsePublicKey (oid : List UInt8) (params : Option Element) (key : List UInt8) :
    Except String PublicKey := do
  if oid == oidRsa then
    if params.map (·.whole) != some [0x05, 0x00] then throw "x509: RSA key missing NULL parameters"
    let (sq, _) ← need (readTagged tagSequence key) "x509: invalid RSA public key"
    let (n, rest) ← need (readTagged tagInteger sq.body) "x509: invalid RSA modulus"
    let n ← need (integerValue n.body) "x509: invalid RSA modulus"
    let (e, _) ← need (readTagged tagInteger rest) "x509: invalid RSA public exponent"
    let e ← need (integerValue e.body) "x509: invalid RSA public exponent"
    if n ≤ 0 then throw "x509: RSA modulus is not a positive number"
    if e ≤ 0 then throw "x509: RSA public exponent is not a positive number"
    return .rsa n.toNat e.toNat
  else if oid == oidEcPublicKey then
    let curveOid ← match params with
      | some p => if p.tag == tagOid && validOid p.body then pure p.body else throw "x509: invalid ECDSA parameters"
      | none => throw "x509: invalid ECDSA parameters"
    let curve ← need (curveOfOid curveOid) "x509: unsupported elliptic curve"
    let (x, y) ← need (curve.decodePoint key) "x509: failed to unmarshal elliptic curve point"
    return .ec curve x y
  else if oid == oidEd25519 then
    if params.isSome then throw "x509: Ed25519 key encoded with illegal parameters"
    if key.length != 32 then throw "x509: wrong Ed25519 public key size"
    return .ed25519 key
  else return .other

/-- Reads the signed part of a certificate, given the outer signature algorithm. -/
def parseSigned (tbs : List UInt8) (outerAlgorithm : List UInt8) : Except String PublicKey := do
  let (version, rest) ← match readElement tbs with
    | some (e, after) =>
      if e.tag == tagContext 0 then do
        let (v, _) ← need (readTagged tagInteger e.body) "x509: malformed version"
        let v ← need (integerValue v.body) "x509: malformed version"
        pure (v, after)
      else pure (0, tbs)
    | none => pure (0, tbs)
  if version < 0 then throw "x509: malformed version"
  if version + 1 > 3 then throw "x509: invalid version"
  let (serial, rest) ← need (readTagged tagInteger rest) "x509: malformed serial number"
  let serial ← need (integerValue serial.body) "x509: malformed serial number"
  if serial < 0 then throw "x509: negative serial number"
  let (sigAlg, rest) ← need (readTagged tagSequence rest) "x509: malformed signature algorithm identifier"
  if sigAlg.body != outerAlgorithm then
    throw "x509: inner and outer signature algorithm identifiers don\x27t match"
  let _ ← parseAlgorithm sigAlg.body
  let (issuer, rest) ← need (readTagged tagSequence rest) "x509: malformed issuer"
  checkName issuer.body
  let (validity, rest) ← need (readTagged tagSequence rest) "x509: malformed validity"
  let afterStart ← readTime validity.body
  let _ ← readTime afterStart
  let (subject, rest) ← need (readTagged tagSequence rest) "x509: malformed issuer"
  checkName subject.body
  let (spki, rest) ← need (readTagged tagSequence rest) "x509: malformed spki"
  let (keyAlg, keyRest) ← need (readTagged tagSequence spki.body) "x509: malformed public key algorithm identifier"
  let (oid, params) ← parseAlgorithm keyAlg.body
  let (bits, _) ← need (readTagged tagBitString keyRest) "x509: malformed subjectPublicKey"
  let (_, key) ← need (bitStringBytes bits.body) "x509: malformed subjectPublicKey"
  let pk ← parsePublicKey oid params key
  if version + 1 == 3 then
    let rest := match readElement rest with
      | some (e, after) => if e.tag == 0x81 then after else rest
      | none => rest
    let rest := match readElement rest with
      | some (e, after) => if e.tag == 0x82 then after else rest
      | none => rest
    match readElement rest with
    | some (e, _) => if e.tag == tagContext 3 then checkExtensions e.body else pure ()
    | none => pure ()
  return pk

/-- Reads a certificate from its DER bytes. -/
def parseCertificate (der : List UInt8) : Except String Certificate := do
  let (outer, trailing) ← need (readTagged tagSequence der) "x509: malformed certificate"
  let (tbs, rest) ← need (readTagged tagSequence outer.body) "x509: malformed tbs certificate"
  let (alg, rest) ← need (readTagged tagSequence rest) "x509: malformed algorithm identifier"
  let pk ← parseSigned tbs.body alg.body
  let (sig, _) ← need (readTagged tagBitString rest) "x509: malformed signature"
  let _ ← need (bitStringBytes sig.body) "x509: malformed signature"
  if !trailing.isEmpty then throw "x509: trailing data"
  return ⟨outer.whole, pk⟩

/-! ### Key pairs and pools -/

/-- The text of a list of block types, as `[A B]`. -/
def typesText (ts : List String) : String := "[" ++ " ".intercalate ts ++ "]"

/-- Whether a block type names a private key. -/
def isKeyType (t : String) : Bool := t == "PRIVATE KEY" || t.endsWith " PRIVATE KEY"

/-- The first key block, or why there is none. -/
def findKeyBlock (blocks : List PemBlock) : Except String PemBlock :=
  match blocks.find? (isKeyType ·.type) with
  | some b => .ok b
  | none =>
    let skipped := blocks.map (·.type)
    if skipped.isEmpty then .error "tls: failed to find any PEM data in key input"
    else if skipped == ["CERTIFICATE"] then
      .error "tls: found a certificate rather than a key in the PEM for the private key"
    else .error ("tls: failed to find PEM block with type ending in \"PRIVATE KEY\" in key input after skipping PEM blocks of the following types: " ++ typesText skipped)

/-- Checks that a private key belongs to a public key. -/
def checkPair (pub : PublicKey) (priv : PrivateKey) : Except String Unit :=
  let mismatch : Except String Unit := .error "tls: private key does not match public key"
  let wrongType : Except String Unit := .error "tls: private key type does not match public key type"
  match pub, priv with
  | .rsa n _, .rsa m => if n == m then .ok () else mismatch
  | .rsa _ _, _ => wrongType
  | .ec _ x y, .ec pt => if pt == some (x, y) then .ok () else mismatch
  | .ec _ _ _, _ => wrongType
  | .ed25519 k, .ed25519 k' => if k == k' then .ok () else mismatch
  | .ed25519 _, _ => wrongType
  | .other, _ => .error "tls: unknown public key algorithm"

/-- Reads a key pair from PEM: the number of certificates in the chain. -/
def loadKeyPair (certPem keyPem : ByteArray) : Except String Nat := do
  let blocks := pemBlocks certPem
  let certs := blocks.filter (·.type == "CERTIFICATE")
  if certs.isEmpty then
    let skipped := blocks.map (·.type)
    if skipped.isEmpty then throw "tls: failed to find any PEM data in certificate input"
    if skipped.length == 1 && skipped.all (·.endsWith "PRIVATE KEY") then
      throw "tls: failed to find certificate PEM data in certificate input, but did find a private key; PEM inputs may have been switched"
    throw ("tls: failed to find \"CERTIFICATE\" PEM block in certificate input after skipping PEM blocks of the following types: " ++ typesText skipped)
  let keyBlock ← findKeyBlock (pemBlocks keyPem)
  let first ← need certs.head? "tls: failed to find any PEM data in certificate input"
  let cert ← parseCertificate first.bytes.toList
  let priv ← parsePrivateKey keyBlock.bytes.toList
  checkPair cert.publicKey priv
  return certs.length

/-- The distinct certificates a PEM text adds to a pool. -/
def poolCertificates (pem : ByteArray) : List (List UInt8) :=
  ((pemBlocks pem).filterMap fun b =>
    if b.type == "CERTIFICATE" && b.headers.isEmpty then
      (parseCertificate b.bytes.toList).toOption.map (·.raw)
    else none).eraseDups

end TopicBridge.Tls
