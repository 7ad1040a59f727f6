import EdgeNode.Certificate.Chain
import EdgeNode.Encoding.Hex
import EdgeNode.Files
import EdgeNode.Nkey
import EdgeNode.Broker.Config
import EdgeNode.Text.Blank
/-!
# Key files

The durable signing seed and the seed of the broker user are made once and kept; the local
certificates are made afresh whenever a broker is set up.  Private files are for their owner only.
-/

namespace EdgeNode

/-- The permission bits of certificates. -/
def publicFileMode : Nat := 0o644

/-- The permission bits of keys and seeds. -/
def privateFileMode : Nat := 0o600

namespace Files

/-- Writes a file with exact permission bits. -/
def writeKeyFile (f : Files) (path : String) (content : Bytes) (mode : Nat) :
    Except KeyError Files :=
  match f.writeWithMode path content mode with
  | .ok f => .ok f
  | .error e => .error (.io path e)

/-- The content of a text file, trimmed. -/
def readTrimmed (f : Files) (path : String) : Except KeyError String :=
  match f.readText path with
  | .ok s => .ok (Text.trimmed s)
  | .error e => .error (.io path e)

/-! ### The signing seed -/

/-- The bytes of a signing seed. -/
def readSeed (f : Files) (path : String) : Except KeyError Bytes :=
  match f.readTrimmed path with
  | .error e => .error e
  | .ok text =>
    match Encoding.Hex.decode text with
    | .error e => .error (.parse ("seed is not valid hex: " ++ e.message))
    | .ok bytes =>
      if bytes.length = 32 then .ok bytes
      else .error (.parse ("seed must be 32 bytes, got " ++ toString bytes.length))

/-- The public key of a signing seed, in hexadecimal digits. -/
def signingPublicKey (f : Files) (path : String) : Except KeyError String :=
  (f.readSeed path).map fun seed => Encoding.Hex.encode (Crypto.Ed25519.publicKey seed)

/-- The public key of a signing seed that is made if nothing is there. -/
def ensureSigningSeed (f : Files) (e : Entropy) (path : String) :
    Except Error String × Files × Entropy :=
  if f.has path then ((f.signingPublicKey path).mapError KeyError.toError, f, e)
  else
    let (bytes, e) := e.draw
    let seed := bytes.take 32
    match f.writeKeyFile path (Bytes.ofText (Encoding.Hex.encode seed)) privateFileMode with
    | .ok f => (.ok (Encoding.Hex.encode (Crypto.Ed25519.publicKey seed)), f, e)
    | .error err => (.error err.toError, f, e)

/-! ### The user seed -/

/-- The text of a user seed. -/
def readUserSeed (f : Files) (path : String) : Except KeyError String :=
  f.readTrimmed path

/-- The public key of a user seed. -/
def userPublicKey (f : Files) (path : String) : Except KeyError String :=
  match f.readUserSeed path with
  | .error e => .error e
  | .ok text =>
    match Nkey.Seed.read text with
    | .ok seed => .ok seed.publicKey
    | .error e => .error (.parse ("invalid nkey seed: " ++ e.message))

/-- The public key of a user seed that is made if nothing is there. -/
def ensureUserSeed (f : Files) (e : Entropy) (path : String) :
    Except Error String × Files × Entropy :=
  if f.has path then ((f.userPublicKey path).mapError KeyError.toError, f, e)
  else
    let (bytes, e) := e.draw
    let seed : Nkey.Seed := { kind := Nkey.userKind, bytes := bytes.take 32 }
    match f.writeKeyFile path (Bytes.ofText seed.write) privateFileMode with
    | .ok f => (.ok seed.publicKey, f, e)
    | .error err => (.error err.toError, f, e)

/-! ### The local certificates -/

/-- Writes the local certificates into a directory. -/
def writeChain (f : Files) (dir : String) (c : CertificateChain) :
    Except KeyError TlsPaths × Files :=
  let paths := TlsPaths.inDirectory dir
  match f.writeKeyFile paths.ca (Bytes.ofText c.ca) publicFileMode with
  | .error e => (.error e, f)
  | .ok f =>
    match f.writeKeyFile paths.cert (Bytes.ofText c.cert) publicFileMode with
    | .error e => (.error e, f)
    | .ok f =>
      match f.writeKeyFile paths.key (Bytes.ofText c.key) privateFileMode with
      | .error e => (.error e, f)
      | .ok f => (.ok paths, f)

/-- Makes the local certificates for an identity and writes them into a directory. -/
def ensureChain (f : Files) (e : Entropy) (now : Nat) (identity dir : String) :
    Except Error TlsPaths × Files × Entropy :=
  match f.createDirectories dir with
  | (f, .error err) => (.error (.io dir err), f, e)
  | (f, .ok ()) =>
    match CertificateChain.generate e (now / 1000000000 : Nat) identity with
    | (.error err, e) => (.error err.toError, f, e)
    | (.ok chain, e) =>
      match f.writeChain dir chain with
      | (.error err, f) => (.error err.toError, f, e)
      | (.ok paths, f) => (.ok paths, f, e)

end Files

/-- The credentials file of a broker user: its token and its seed. -/
def formatCredentials (token seed : String) : String :=
  "-----BEGIN NATS USER JWT-----\n" ++ Text.trimmed token
    ++ "\n------END NATS USER JWT------\n\n"
    ++ "************************* IMPORTANT *************************\n"
    ++ "NKEY Seed printed below can be used to sign and prove identity.\n"
    ++ "NKEYs are sensitive and should be treated as secrets.\n\n"
    ++ "-----BEGIN USER NKEY SEED-----\n" ++ Text.trimmed seed
    ++ "\n------END USER NKEY SEED------\n\n"
    ++ "*************************************************************\n"

/-- The settings of a node's broker, with fresh local certificates. -/
def BrokerConfig.prepare (f : Files) (e : Entropy) (now : Nat) (identity configurationDirectory
    storageDirectory : String) : Except Error BrokerConfig × Files × Entropy :=
  match f.ensureChain e now identity configurationDirectory with
  | (.error err, f, e) => (.error err, f, e)
  | (.ok tls, f, e) => (.ok { identity, tls, storageDirectory }, f, e)

end EdgeNode
