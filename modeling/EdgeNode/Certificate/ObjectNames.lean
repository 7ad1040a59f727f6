import EdgeNode.Encoding.Der
/-!
# Names of objects

The attributes of a name are shown by short names.  The usual attributes have abbreviations; other
registered objects, whatever they stand for, go by the names below.
-/

namespace EdgeNode.ObjectNames

open Encoding

/-- The abbreviations of the usual attributes. -/
def abbreviations : List (List Nat × String) :=
  [([2, 5, 4, 3], "CN"), ([2, 5, 4, 6], "C"), ([2, 5, 4, 7], "L"), ([2, 5, 4, 8], "ST"),
   ([2, 5, 4, 10], "O"), ([2, 5, 4, 11], "OU"),
   ([0, 9, 2342, 19200300, 100, 1, 25], "DC"), ([1, 2, 840, 113549, 1, 9, 1], "Email")]

/-- Names of attributes in a directory. -/
def attributes : List (List Nat × String) :=
  [([0, 9, 2342, 19200300, 100, 1, 1], "uid"), ([2, 5, 4], "x509"), ([2, 5, 4, 0], "objectClass"),
   ([2, 5, 4, 1], "aliasedEntryName"), ([2, 5, 4, 2], "knowledgeInformation"),
   ([2, 5, 4, 4], "surname"), ([2, 5, 4, 5], "serialNumber"), ([2, 5, 4, 9], "streetAddress"),
   ([2, 5, 4, 12], "title"), ([2, 5, 4, 13], "description"), ([2, 5, 4, 14], "searchGuide"),
   ([2, 5, 4, 15], "businessCategory"), ([2, 5, 4, 16], "postalAddress"),
   ([2, 5, 4, 17], "postalCode"), ([2, 5, 4, 41], "name"), ([2, 5, 4, 42], "givenName"),
   ([2, 5, 4, 43], "initials"), ([2, 5, 4, 44], "generationQualifier"),
   ([2, 5, 4, 45], "uniqueIdentifier"), ([2, 5, 4, 46], "dnQualifier"),
   ([1, 3, 6, 1, 4, 1, 311, 60, 2, 1, 1], "msJurisdictionLocality"),
   ([1, 3, 6, 1, 4, 1, 311, 60, 2, 1, 2], "msJurisdictionStateOrProvince"),
   ([1, 3, 6, 1, 4, 1, 311, 60, 2, 1, 3], "msJurisdictionCountry")]

/-- Names of extensions of certificates. -/
def extensions : List (List Nat × String) :=
  [([2, 5, 29, 1], "authorityKeyIdentifier"), ([2, 5, 29, 2], "keyAttributes"),
   ([2, 5, 29, 3], "certificatePolicies"), ([2, 5, 29, 4], "keyUsage"),
   ([2, 5, 29, 5], "policyMapping"), ([2, 5, 29, 6], "subtreesConstraint"),
   ([2, 5, 29, 7], "subjectAltName"), ([2, 5, 29, 8], "issuerAltName"),
   ([2, 5, 29, 14], "subjectKeyIdentifier"), ([2, 5, 29, 15], "keyUsage"),
   ([2, 5, 29, 16], "privateKeyUsagePeriod"), ([2, 5, 29, 17], "subjectAltName"),
   ([2, 5, 29, 18], "issuerAltName"), ([2, 5, 29, 19], "basicConstraints"),
   ([2, 5, 29, 20], "crlNumber"), ([2, 5, 29, 21], "reasonCode"),
   ([2, 5, 29, 23], "holdInstructionCode"), ([2, 5, 29, 24], "invalidityDate"),
   ([2, 5, 29, 27], "deltaCRLIndicator"), ([2, 5, 29, 28], "issuerDistributionPoint"),
   ([2, 5, 29, 29], "issuer"), ([2, 5, 29, 30], "nameConstraints"),
   ([2, 5, 29, 31], "crlDistributionPoints"), ([2, 5, 29, 32], "certificatePolicies"),
   ([2, 5, 29, 33], "policyMappings"), ([2, 5, 29, 35], "authorityKeyIdentifier"),
   ([2, 5, 29, 36], "policyConstraints"), ([2, 5, 29, 37], "extendedKeyUsage"),
   ([2, 5, 29, 46], "freshestCRL"), ([2, 5, 29, 54], "inhibitantAnyPolicy"),
   ([1, 3, 6, 1, 5, 5, 7, 1, 1], "authorityInfoAccess"),
   ([1, 3, 6, 1, 5, 5, 7, 1, 11], "subjectInfoAccess"),
   ([1, 3, 6, 1, 5, 5, 7, 48, 1], "ocsp"), ([1, 3, 6, 1, 5, 5, 7, 48, 2], "caIssuers"),
   ([1, 3, 6, 1, 5, 5, 7, 48, 3], "timestamping"), ([1, 3, 6, 1, 5, 5, 7, 48, 4], "dvcs"),
   ([1, 3, 6, 1, 5, 5, 7, 48, 5], "caRepository"), ([1, 3, 6, 1, 5, 5, 7, 48, 6], "http-certs"),
   ([1, 3, 6, 1, 5, 5, 7, 48, 7], "http-crls"), ([1, 3, 6, 1, 5, 5, 7, 48, 10], "rpkiManifest"),
   ([1, 3, 6, 1, 5, 5, 7, 48, 11], "signedObject"), ([1, 3, 6, 1, 5, 5, 7, 48, 13], "rpkiNotify"),
   ([1, 3, 6, 1, 5, 5, 7, 48, 14], "stirTNList"),
   ([1, 3, 6, 1, 4, 1, 11129, 2, 4, 2], "ctSCTList"),
   ([2, 16, 840, 1, 113730, 1, 1], "nsCertType"), ([2, 16, 840, 1, 113730, 1, 2], "nsBaseURL"),
   ([2, 16, 840, 1, 113730, 1, 3], "nsRevocationURL"),
   ([2, 16, 840, 1, 113730, 1, 4], "nsCARevocationURL"),
   ([2, 16, 840, 1, 113730, 1, 5], "nsCACRLURL"), ([2, 16, 840, 1, 113730, 1, 6], "nsCACertURL"),
   ([2, 16, 840, 1, 113730, 1, 7], "nsRenewalURL"),
   ([2, 16, 840, 1, 113730, 1, 8], "nsCAPolicyURL"),
   ([2, 16, 840, 1, 113730, 1, 9], "nsHomepageURL"),
   ([2, 16, 840, 1, 113730, 1, 10], "nsEntityLogo"),
   ([2, 16, 840, 1, 113730, 1, 11], "nsUserPicture"),
   ([2, 16, 840, 1, 113730, 1, 12], "nsSSLServerName"),
   ([2, 16, 840, 1, 113730, 1, 13], "nsComment")]

/-- Names of keys, signatures, digests and ciphers. -/
def algorithms : List (List Nat × String) :=
  [([1, 2, 643, 2, 2, 3], "id-GostR3411-94-with-GostR3410-2001"),
   ([1, 2, 643, 2, 2, 19], "gostR3410-2001"),
   ([1, 2, 643, 7, 1, 1, 1, 1], "gost3410-2012-256"),
   ([1, 2, 643, 7, 1, 1, 1, 2], "gost3410-2012-512"),
   ([1, 2, 643, 7, 1, 1, 3, 2], "id-tc26-signwithdigest-gost3410-12-256"),
   ([1, 2, 643, 7, 1, 1, 3, 3], "id-tc26-signwithdigest-gost3410-12-512"),
   ([1, 2, 840, 10040, 4, 1], "dsa"), ([1, 2, 840, 10045, 2, 1], "id-ecPublicKey"),
   ([1, 2, 840, 10045, 3, 1, 7], "prime256v1"), ([1, 2, 840, 10045, 4, 3, 1], "ecdsa-with-SHA224"),
   ([1, 2, 840, 10045, 4, 3, 2], "ecdsa-with-SHA256"),
   ([1, 2, 840, 10045, 4, 3, 3], "ecdsa-with-SHA384"),
   ([1, 2, 840, 10045, 4, 3, 4], "ecdsa-with-SHA512"),
   ([1, 3, 14, 3, 2, 25], "md5WithRSASignature"), ([1, 3, 14, 3, 2, 26], "id-SHA1"),
   ([1, 3, 14, 3, 2, 29], "sha1WithRSAEncryption"),
   ([1, 3, 36, 3, 3, 1, 2], "rsaSignatureWithripemd160"),
   ([1, 3, 101, 112], "ed25519"), ([1, 3, 101, 113], "ed448"),
   ([1, 3, 132, 0, 34], "secp384r1"), ([1, 3, 132, 0, 35], "secp521r1"),
   ([1, 3, 133, 16, 840, 63, 0, 2], "dhSinglePass-stdDH-sha1kdf-scheme"),
   ([2, 16, 840, 1, 101, 3, 4, 1, 42], "aes-256-cbc"), ([2, 16, 840, 1, 101, 3, 4, 2, 1], "sha256"),
   ([2, 16, 840, 1, 101, 3, 4, 2, 2], "sha384"), ([2, 16, 840, 1, 101, 3, 4, 2, 3], "sha512")]

/-- Names of the parts of signed and encrypted messages. -/
def messages : List (List Nat × String) :=
  [([1, 2, 840, 113549, 1, 1], "pkcs-1"), ([1, 2, 840, 113549, 1, 1, 1], "rsaEncryption"),
   ([1, 2, 840, 113549, 1, 1, 2], "md2WithRSAEncryption"),
   ([1, 2, 840, 113549, 1, 1, 3], "md4WithRSAEncryption"),
   ([1, 2, 840, 113549, 1, 1, 4], "md5WithRSAEncryption"),
   ([1, 2, 840, 113549, 1, 1, 5], "sha1WithRSAEncryption"),
   ([1, 2, 840, 113549, 1, 1, 10], "rsassa-pss"),
   ([1, 2, 840, 113549, 1, 1, 11], "sha256WithRSAEncryption"),
   ([1, 2, 840, 113549, 1, 1, 12], "sha384WithRSAEncryption"),
   ([1, 2, 840, 113549, 1, 1, 13], "sha512WithRSAEncryption"),
   ([1, 2, 840, 113549, 1, 1, 14], "sha224WithRSAEncryption"),
   ([1, 2, 840, 113549, 1, 7, 1], "pkcs7-data"), ([1, 2, 840, 113549, 1, 7, 2], "pkcs7-signedData"),
   ([1, 2, 840, 113549, 1, 7, 3], "pkcs7-envelopedData"),
   ([1, 2, 840, 113549, 1, 7, 4], "pkcs7-signedAndEnvelopedData"),
   ([1, 2, 840, 113549, 1, 7, 5], "pkcs7-digestedData"),
   ([1, 2, 840, 113549, 1, 7, 6], "pkcs7-encryptedData"),
   ([1, 2, 840, 113549, 1, 9, 2], "unstructuredName"),
   ([1, 2, 840, 113549, 1, 9, 3], "contentType"), ([1, 2, 840, 113549, 1, 9, 4], "id-messageDigest"),
   ([1, 2, 840, 113549, 1, 9, 5], "signing-time"),
   ([1, 2, 840, 113549, 1, 9, 7], "challengePassword"),
   ([1, 2, 840, 113549, 1, 9, 14], "extensionRequest"),
   ([1, 2, 840, 113549, 1, 9, 15], "smimeCapabilities"),
   ([1, 2, 840, 113549, 1, 9, 20], "friendlyName"), ([1, 2, 840, 113549, 1, 12], "pkcs-12"),
   ([1, 2, 840, 113549, 1, 12, 1], "pkcs-12PbeIds"),
   ([1, 2, 840, 113549, 1, 12, 1, 1], "pbeWithSHAAnd128BitRC4"),
   ([1, 2, 840, 113549, 1, 12, 1, 2], "pbeWithSHAAnd40BitRC4"),
   ([1, 2, 840, 113549, 1, 12, 1, 3], "pbeWithSHAAnd3-KeyTripleDES-CBC"),
   ([1, 2, 840, 113549, 1, 12, 1, 4], "pbeWithSHAAnd2-KeyTripleDES-CBC"),
   ([1, 2, 840, 113549, 1, 12, 1, 5], "pbeWithSHAAnd128BitRC2-CBC"),
   ([1, 2, 840, 113549, 1, 12, 1, 6], "pbeWithSHAAnd40BitRC2-CBC")]

/-- All names. -/
def registered : List (List Nat × String) :=
  abbreviations ++ attributes ++ extensions ++ algorithms ++ messages

/-- The short name of the object with an identifier. -/
def ofObject? (object : Bytes) : Option String :=
  (registered.find? fun e => Der.objectBytes e.1 == object).map Prod.snd

/-- How the object with an identifier is shown. -/
def label (object : Bytes) : String :=
  (ofObject? object).getD ("OID(" ++ Der.objectText object ++ ")")

end EdgeNode.ObjectNames
