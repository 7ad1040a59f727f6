import EdgeNode.Certificate.Extensions
import EdgeNode.Certificate.Name
import EdgeNode.Certificate.Time
import EdgeNode.Encoding.Pem
import EdgeNode.Error
import EdgeNode.Json.Value
/-!
# What a certificate says

Names, validity and whether it is an authority's, read from the binary form.  Bytes behind the
certificate are ignored; an extension that cannot be read counts as absent.
-/

namespace EdgeNode

/-- What a certificate says. -/
structure CertificateInfo where
  /-- When it becomes valid, in seconds since 1970. -/
  notBefore : Int
  /-- When it expires, in seconds since 1970. -/
  notAfter : Int
  /-- The first common name of its subject. -/
  commonName : String
  /-- The name of its issuer. -/
  issuer : String
  /-- The name of its subject. -/
  subject : String
  /-- The host names it is for. -/
  dnsNames : List String
  /-- The addresses it is for. -/
  addresses : List String
  /-- Whether it may sign others. -/
  isAuthority : Bool
deriving DecidableEq, Repr

namespace CertificateInfo

open Encoding

/-- How long the certificate is valid, in seconds. -/
def lifetime (c : CertificateInfo) : Int :=
  c.notAfter - c.notBefore

/-- What the certificate says, without the instants of its validity, as a document. -/
def toJson (c : CertificateInfo) : Json :=
  .ofMembers
    [("common_name", c.commonName),
     ("issuer", c.issuer),
     ("subject", c.subject),
     ("dns_names", .texts c.dnsNames),
     ("ip_addresses", .texts c.addresses),
     ("is_ca", c.isAuthority),
     ("lifetime_secs", .int c.lifetime)]

/-! ### Reading -/

/-- Passes an algorithm: an object identifier, and one element if more follows. -/
def passAlgorithm (b : Bytes) : Option Bytes :=
  match Der.takeTag Der.tagSequence b with
  | none => none
  | some (content, rest) =>
    match Der.takeObject content with
    | none => none
    | some (_, parameters) =>
      if parameters.isEmpty || (Der.take parameters).isSome then some rest else none

/-- Passes the version if it is there.  Its number does not matter. -/
def passVersion (b : Bytes) : Option Bytes :=
  if b.isEmpty then some []
  else
    match Der.take b with
    | none => none
    | some (e, rest) =>
      if e.number ≠ 0 then some b
      else if e.header.tagClass ≠ .context then none
      else (Der.takeNat e.content).map fun _ => rest

/-- Passes the bits with a number that tell one holder of a name from another, if they are there. -/
def passUnique (number : Nat) (b : Bytes) : Option Bytes :=
  if b.isEmpty then some []
  else
    match Der.take b with
    | none => none
    | some (e, rest) =>
      if e.number ≠ number then some b
      else if e.header.tagClass ≠ .context ∨ e.content.isEmpty then none
      else some rest

/-- Reads when a certificate is valid. -/
def takeValidity (b : Bytes) : Option (Int × Int × Bytes) := do
  let (content, rest) ← Der.takeTag Der.tagSequence b
  let (first, content) ← CertificateTime.take content
  let (last, _) ← CertificateTime.take content
  return (first, last, rest)

/-- Passes a public key. -/
def passKey (b : Bytes) : Option Bytes := do
  let (content, rest) ← Der.takeTag Der.tagSequence b
  let content ← passAlgorithm content
  let _ ← Der.passBits content
  return rest

/-- Reads the signed part. -/
def readBody (b : Bytes) : Option CertificateInfo := do
  let b ← passVersion b
  let b ← Der.passLoose Der.tagInteger b
  let b ← passAlgorithm b
  let (issuer, b) ← DistinguishedName.take b
  let (notBefore, notAfter, b) ← takeValidity b
  let (subject, b) ← DistinguishedName.take b
  let b ← passKey b
  let b ← passUnique 1 b
  let b ← passUnique 2 b
  let extensions ← Extension.readAll b
  let alt := (Extension.only? [2, 5, 29, 17] extensions).bind AltName.readAll
  return {
    notBefore, notAfter
    commonName := subject.commonName
    issuer := issuer.text
    subject := subject.text
    dnsNames := (alt.getD []).filterMap AltName.dns?
    addresses := (alt.getD []).filterMap AltName.address?
    isAuthority :=
      ((Extension.only? [2, 5, 29, 19] extensions).bind Extension.readAuthority).getD false }

/-- Reads a certificate from its binary form. -/
def read? (b : Bytes) : Option CertificateInfo := do
  let (content, _) ← Der.takeTag Der.tagSequence b
  let (body, rest) ← Der.takeTag Der.tagSequence content
  let info ← readBody body
  let rest ← passAlgorithm rest
  let _ ← Der.passBits rest
  return info

/-- Reads a certificate from its binary form. -/
def ofBytes (b : Bytes) : Except KeyError CertificateInfo :=
  match read? b with
  | some info => .ok info
  | none => .error (.parse "failed to parse certificate")

/-- The binary form of an armoured text. -/
def parsePem (text : String) : Except KeyError Bytes :=
  match Pem.decode text with
  | .ok b => .ok b
  | .error e => .error (.parse ("failed to parse PEM: " ++ e.message))

/-- Reads an armoured certificate. -/
def ofText (text : String) : Except KeyError CertificateInfo :=
  match parsePem text with
  | .ok b => ofBytes b
  | .error e => .error e

end CertificateInfo

end EdgeNode
