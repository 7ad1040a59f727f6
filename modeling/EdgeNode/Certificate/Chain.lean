import EdgeNode.Calendar
import EdgeNode.Crypto.Curves
import EdgeNode.Encoding.Der
import EdgeNode.Encoding.Pem
import EdgeNode.Error
/-!
# The local certificates

A throw-away authority and one certificate that it signs, for connections to the embedded broker
over the loopback interface.  Both are valid for ten years.
-/

namespace EdgeNode

/-- A fresh authority with its leaf, armoured. -/
structure CertificateChain where
  /-- The authority's certificate. -/
  ca : String
  /-- The leaf certificate. -/
  cert : String
  /-- The key of the leaf certificate. -/
  key : String
deriving DecidableEq, Repr

namespace CertificateChain

open Encoding

/-- The organization named in every local certificate. -/
def organization : String := "Choria.IO"

/-- The country named in every local certificate. -/
def country : String := "MT"

/-- How long local certificates are valid, in seconds. -/
def lifetime : Nat := 10 * 365 * 86400

/-- A key pair: its secret, and its public part as it stands in certificates. -/
structure KeyPair where
  /-- The secret number. -/
  secret : Nat
  /-- The uncompressed public point. -/
  point : Bytes

/-- Makes a key pair. -/
def KeyPair.generate (e : Entropy) : KeyPair × Entropy :=
  let (bytes, e) := e.draw
  let secret := Crypto.P256.scalarOf bytes
  ({ secret, point := Crypto.P256.publicKey secret }, e)

/-- The algorithm of the public keys. -/
def keyAlgorithm : Bytes :=
  Der.sequence [Der.object [1, 2, 840, 10045, 2, 1], Der.object [1, 2, 840, 10045, 3, 1, 7]]

/-- The algorithm of the signatures. -/
def signatureAlgorithm : Bytes :=
  Der.sequence [Der.object [1, 2, 840, 10045, 4, 3, 2]]

/-- The secret key, armoured. -/
def KeyPair.armoured (k : KeyPair) : String :=
  let inner := Der.sequence
    [Der.integer 1, Der.octets (Bytes.ofNatBig 32 k.secret), Der.element 0xA1 (Der.bits k.point)]
  Pem.encode "PRIVATE KEY" (Der.sequence [Der.integer 0, keyAlgorithm, Der.octets inner])

/-- One attribute of a name. -/
def nameEntry (object : List Nat) (value : Bytes) : Bytes :=
  Der.set [Der.sequence [Der.object object, value]]

/-- The name with a common name. -/
def distinguishedName (commonName : String) : Bytes :=
  Der.sequence
    [nameEntry [2, 5, 4, 3] (Der.utf8 commonName),
     nameEntry [2, 5, 4, 10] (Der.utf8 organization),
     nameEntry [2, 5, 4, 6] (Der.printable country)]

/-- A time; the year has two digits up to 2049. -/
def time (seconds : Int) : Bytes :=
  let t := Calendar.DateTime.ofSeconds seconds
  let rest := Calendar.padded 2 t.month ++ Calendar.padded 2 t.day ++ Calendar.padded 2 t.hour
    ++ Calendar.padded 2 t.minute ++ Calendar.padded 2 t.second ++ "Z"
  if t.year < 2050 then
    Der.element Der.tagShortTime (Bytes.ofText (Calendar.padded 2 (t.year.toNat % 100) ++ rest))
  else Der.element Der.tagLongTime (Bytes.ofText (Calendar.padded 4 t.year.toNat ++ rest))

/-- An extension. -/
def extension (object : List Nat) (critical : Bool) (value : Bytes) : Bytes :=
  Der.sequence
    (Der.object object :: (if critical then [Der.element Der.tagBoolean [0xFF]] else [])
      ++ [Der.octets value])

/-- What the key may be used for. -/
def usage (bits : UInt8) (unused : UInt8) : Bytes :=
  extension [2, 5, 29, 15] true (Der.element Der.tagBits [unused, bits])

/-- Permits clients and servers. -/
def extendedUsage : Bytes :=
  extension [2, 5, 29, 37] false
    (Der.sequence
      [Der.object [1, 3, 6, 1, 5, 5, 7, 3, 2], Der.object [1, 3, 6, 1, 5, 5, 7, 3, 1]])

/-- The host names that a leaf is for. -/
def hostNames (identity : String) : List String :=
  if identity = "localhost" then ["localhost"] else ["localhost", identity]

/-- The names and addresses that a leaf is for. -/
def altNames (identity : String) : Bytes :=
  extension [2, 5, 29, 17] false
    (Der.sequence
      ((hostNames identity).map (fun n => Der.element 0x82 (Bytes.ofText n))
        ++ [Der.element 0x87 [127, 0, 0, 1],
            Der.element 0x87 [0, 0, 0, 0, 0, 0, 0, 0, 0, 0, 0, 0, 0, 0, 0, 1]]))

/-- Signs what a certificate says. -/
def issue (e : Entropy) (issuerName subjectName : Bytes) (signer subject : KeyPair)
    (start : Int) (extensions : List Bytes) : Bytes × Entropy :=
  let (serial, e) := e.draw
  let (fresh, e) := e.draw
  let body := Der.sequence
    [Der.element 0xA0 (Der.integer 2),
     Der.integer (Bytes.toNatBig (serial.take 16)),
     signatureAlgorithm,
     issuerName,
     Der.sequence [time start, time (start + lifetime)],
     subjectName,
     Der.sequence [keyAlgorithm, Der.bits subject.point],
     Der.element 0xA3 (Der.sequence extensions)]
  let (r, s) := Crypto.P256.sign signer.secret (Crypto.P256.scalarOf fresh) body
  (Der.sequence
    [body, signatureAlgorithm, Der.bits (Der.sequence [Der.integer r, Der.integer s])], e)

/-- The first host name that is not plain ASCII. -/
def badName? (identity : String) : Option String :=
  (hostNames identity).find? fun n => n.toList.any fun c => c.toNat ≥ 128

/-- Makes the certificates for an identity at an instant in seconds since 1970. -/
def generate (e : Entropy) (start : Int) (identity : String) :
    Except KeyError CertificateChain × Entropy :=
  let (caKey, e) := KeyPair.generate e
  let (leafKey, e) := KeyPair.generate e
  match badName? identity with
  | some name =>
    (.error (.certificateGeneration
      ("invalid DNS name '" ++ name ++ "': Invalid IA5String: '" ++ name ++ "'")), e)
  | none =>
    let caName := distinguishedName (identity ++ " CA")
    let (ca, e) := issue e caName caName caKey caKey start
      [usage 0x84 2, extendedUsage,
       extension [2, 5, 29, 19] true (Der.sequence [Der.element Der.tagBoolean [0xFF]])]
    let (leaf, e) := issue e caName (distinguishedName identity) caKey leafKey start
      [altNames identity, usage 0xA0 5, extendedUsage]
    (.ok
      { ca := Pem.encode "CERTIFICATE" ca
        cert := Pem.encode "CERTIFICATE" leaf
        key := leafKey.armoured }, e)

end CertificateChain

end EdgeNode
