import EdgeNode.Crypto.Curves
import EdgeNode.Encoding.Base32
/-!
# User keys of the message broker

A key is written in Base32: bytes that tell its kind, the key, and a check of sixteen bits.  A seed
carries the kind of the key pair it makes.  The polynomial of the check is
`x ^ 16 + x ^ 12 + x ^ 5 + 1` and its register starts at zero.
-/

namespace EdgeNode

/-! ### The check -/

namespace Encoding.Crc16

/-- Shifts the register left by one place. -/
def shift (r : Nat) : Nat :=
  let r2 := r * 2 % 65536
  if r ≥ 32768 then r2 ^^^ 0x1021 else r2

/-- The register after one more byte. -/
def feed (r : Nat) (b : UInt8) : Nat :=
  (List.range 8).foldl (fun r _ => shift r) (r ^^^ (b.toNat * 256))

/-- The check of some bytes. -/
def compute (b : Bytes) : Nat :=
  b.foldl feed 0

example : compute (Bytes.ofText "123456789") = 0x31C3 := by decide +kernel

end Encoding.Crc16

/-! ### Seeds and keys -/

namespace Nkey

/-- Why a text is no seed. -/
inductive Error where
  /-- It has another length than a seed, in bytes. -/
  | badLength (length : Nat)
  /-- It is not Base32. -/
  | codec (e : Encoding.Base32.Error)
  /-- The check does not fit. -/
  | checksum
  /-- It is another kind of key. -/
  | badKind (first : Char)
deriving DecidableEq, Repr

/-- The wording of an error. -/
def Error.message : Error → String
  | .badLength n => "Invalid key length: Bad seed length: " ++ toString n
  | .codec (.invalidSymbol i) =>
    "Codec failure: Data encoding failure: invalid symbol at " ++ toString i
  | .codec (.trailingBits i) =>
    "Codec failure: Data encoding failure: non-zero trailing bits at " ++ toString i
  | .checksum => "Checksum match failure: Checksum mismatch"
  | .badKind c => "Invalid byte prefix: Incorrect byte prefix: " ++ c.toString

/-- The number of symbols of a seed. -/
def seedLength : Nat := 58

/-- The kind of a seed. -/
def seedKind : Nat := 18 * 8

/-- The kind of an operator's key. -/
def operatorKind : Nat := 14 * 8

/-- The kind of a user's key. -/
def userKind : Nat := 20 * 8

/-- The kinds of key pairs. -/
def kinds : List Nat :=
  [0, 2 * 8, 12 * 8, 13 * 8, operatorKind, userKind, 21 * 8, 23 * 8]

/-- A seed: the kind of its key pair and the bytes the pair is made from. -/
structure Seed where
  /-- The kind of the key pair. -/
  kind : Nat
  /-- What the key pair is made from. -/
  bytes : Bytes
deriving DecidableEq, Repr

/-- Bytes with their check behind them, in Base32. -/
def armour (b : Bytes) : String :=
  Encoding.Base32.encode (b ++ Bytes.ofNatLittle 2 (Encoding.Crc16.compute b))

/-- Reads a seed; a kind that no key pair has counts as an operator's. -/
def Seed.read (text : String) : Except Error Seed :=
  let symbols := Bytes.ofText text
  if symbols.length ≠ seedLength then .error (.badLength symbols.length)
  else
    match Encoding.Base32.decode symbols with
    | .error e => .error (.codec e)
    | .ok raw =>
      let body := raw.take (raw.length - 2)
      let check := Bytes.toNatLittle (raw.drop (raw.length - 2))
      if Encoding.Crc16.compute body ≠ check then .error .checksum
      else
        match body with
        | a :: b :: bytes =>
          if a.toNat / 8 * 8 ≠ seedKind then .error (.badKind (text.toList.headD ' '))
          else
            let kind := a.toNat % 8 * 32 + b.toNat / 8
            .ok { kind := if kinds.contains kind then kind else operatorKind, bytes }
        | _ => .error .checksum

/-- The text of a seed. -/
def Seed.write (s : Seed) : String :=
  armour (UInt8.ofNat (seedKind + s.kind / 32) :: UInt8.ofNat (s.kind % 32 * 8) :: s.bytes)

/-- The public key of the seed's key pair. -/
def Seed.publicKey (s : Seed) : String :=
  armour (UInt8.ofNat s.kind :: Crypto.Ed25519.publicKey s.bytes)

end Nkey

end EdgeNode
