import EdgeNode.Encoding.Base64
import EdgeNode.Json.Reader
import EdgeNode.Text.Blank
/-!
# Claims of tokens

A token is a header, a payload and a signature between dots.  The extension claims of its payload
are read without checking the signature; a token that is malformed in any way has none.
-/

namespace EdgeNode.Token

open Json (Read)

/-! ### Readers of single members -/

/-- Reads a text behind blanks. -/
def text (b : Bytes) : Read String :=
  match Json.skipSpace b with
  | 34 :: rest => Json.text rest
  | rest => Json.fail rest

/-- Reads a text or `null`. -/
def text? (b : Bytes) : Read Unit :=
  match Json.skipSpace b with
  | 110 :: rest => Json.literal [117, 108, 108] rest
  | rest => (text rest).map fun _ => ()

/-- Reads a value, its members as they were written, and keeps it if it fits. -/
def fitting (fits : Json → Bool) (b : Bytes) : Read Unit :=
  (Json.written (Json.maxDepth - 1) b).bind fun j rest =>
    if fits j then Json.done () rest else Json.fail rest

/-- Whether a value is a list of texts. -/
def isTexts : Json → Bool
  | .arr l => l.all fun j => j.text?.isSome
  | _ => false

/-- Whether a value is a text. -/
def isText (j : Json) : Bool :=
  j.text?.isSome

/-- Whether a value is `null` or fits. -/
def orNull (fits : Json → Bool) (j : Json) : Bool :=
  j.isNull || fits j

/-- The signature algorithms of tokens. -/
def algorithms : List String :=
  ["HS256", "HS384", "HS512", "ES256", "ES384", "RS256", "RS384", "RS512", "PS256", "PS384",
   "PS512", "EdDSA"]

/-- Whether a value names one of some things, as a text or as the only key of an object in which
nothing is said about it. -/
def isChoice (saysNothing : Json → Bool) (names : List String) : Json → Bool
  | .str s => names.contains s
  | .obj [(key, j)] => names.contains key && saysNothing j
  | _ => false

/-- The algorithms of keys. -/
def keyAlgorithms : List String :=
  algorithms ++ ["RSA1_5", "RSA-OAEP", "RSA-OAEP-256"]

/-- The curves of keys. -/
def curves : List String :=
  ["P-256", "P-384", "P-521", "Ed25519"]

/-- Whether a value is `null` or an object without members. -/
def isVoid : Json → Bool
  | .null => true
  | .obj [] => true
  | _ => false

/-- The values of the members with a key. -/
def valuesAt (members : List (String × Json)) (key : String) : List Json :=
  (members.filter fun m => m.1 == key).map Prod.snd

/-- Whether a member stands there once and fits. -/
def hasOne (fits : Json → Bool) (members : List (String × Json)) (key : String) : Bool :=
  match valuesAt members key with
  | [j] => fits j
  | _ => false

/-- Whether a member is absent, or stands there once and is `null` or fits. -/
def hasAtMostOne (fits : Json → Bool) (members : List (String × Json)) (key : String) : Bool :=
  match valuesAt members key with
  | [] => true
  | [j] => orNull fits j
  | _ => false

/-- Whether the members are those that any key may have. -/
def isAnyKey (members : List (String × Json)) : Bool :=
  ["use", "kid", "x5u", "x5t", "x5t#S256"].all (hasAtMostOne isText members)
    && ["key_ops", "x5c"].all (hasAtMostOne isTexts members)
    && hasAtMostOne (isChoice isVoid keyAlgorithms) members "alg"

/-- Whether the members hold a key of one of the four kinds. -/
def isKindOfKey (members : List (String × Json)) : Bool :=
  let text := hasOne isText members
  let kind (name : String) := hasOne (isChoice Json.isNull [name]) members "kty"
  let curve := hasOne (isChoice Json.isNull curves) members "crv"
  (kind "EC" && curve && text "x" && text "y") || (kind "RSA" && text "n" && text "e")
    || (kind "oct" && text "k") || (kind "OKP" && curve && text "x")

/-- Whether a value is a public key. -/
def isKey : Json → Bool
  | .obj members => isAnyKey members && isKindOfKey members
  | _ => false

/-! ### The header -/

/-- The members of a header, in the order in which a list gives them. -/
def headerKeys : List String :=
  ["typ", "alg", "cty", "jku", "jwk", "kid", "x5u", "x5c", "x5t", "x5t#S256"]

/-- Whether a value may stand at a member of a header. -/
def fitsHeader (key : String) : Json → Bool :=
  if key = "alg" then isChoice Json.isNull algorithms
  else if key = "jwk" then orNull isKey
  else if key = "x5c" then orNull isTexts
  else orNull isText

/-- Reads the members of a header: none twice, unknown ones passed over, the algorithm needed. -/
def headerMembers : Nat → Bool → List String → Bytes → Read Unit
  | 0, _, _, b => Json.fail b
  | fuel + 1, first, seen, b =>
    (Json.nextKey first b).bind fun next rest =>
      match next with
      | none =>
        (Json.endObject rest).bind fun _ rest =>
          if seen.contains "alg" then Json.done () rest else Json.fail rest
      | some () =>
        (Json.text rest).bind fun key rest =>
          (Json.colon rest).bind fun _ rest =>
            if headerKeys.contains key then
              if seen.contains key then Json.fail rest
              else
                (fitting (fitsHeader key) rest).bind fun _ rest =>
                  headerMembers fuel false (key :: seen) rest
            else (Json.skip rest).bind fun _ rest => headerMembers fuel false seen rest

/-- Reads the members of a header from a list. -/
def headerItems (first : Bool) : List String → Bytes → Read Unit
  | [], b => Json.endList b
  | key :: keys, b =>
    (Json.nextItem first b).bind fun next rest =>
      match next with
      | none => Json.fail rest
      | some () =>
        (fitting (fitsHeader key) rest).bind fun _ rest => headerItems false keys rest

/-- Whether some bytes are a header. -/
def isHeader (b : Bytes) : Bool :=
  (Json.complete (match Json.skipSpace b with
    | 123 :: rest => headerMembers (rest.length + 1) true [] rest
    | 91 :: rest => headerItems true headerKeys rest
    | rest => Json.fail rest)).isSome

/-! ### The payload -/

/-- Reads the members of a payload for its extensions, which must be an object and stand there once
at most. -/
def payloadMembers : Nat → Bool → Option (List (String × Json)) → Bytes →
    Read (List (String × Json))
  | 0, _, _, b => Json.fail b
  | fuel + 1, first, found, b =>
    (Json.nextKey first b).bind fun next rest =>
      match next with
      | none => (Json.endObject rest).map fun _ => found.getD []
      | some () =>
        (Json.text rest).bind fun key rest =>
          (Json.colon rest).bind fun _ rest =>
            if key = "extensions" then
              if found.isSome then Json.fail rest
              else
                (Json.value (Json.maxDepth - 1) rest).bind fun j rest =>
                  match j with
                  | .obj ms => payloadMembers fuel false (some ms) rest
                  | _ => Json.fail rest
            else (Json.skip rest).bind fun _ rest => payloadMembers fuel false found rest

/-- The extensions of a payload. -/
def extensions? (b : Bytes) : Option (List (String × Json)) :=
  Json.complete (match Json.skipSpace b with
    | 123 :: rest => payloadMembers (rest.length + 1) true none rest
    | rest => Json.fail rest)

/-- What is left behind a subject.  A value of the wrong kind is passed over, but a list or an
object is not even begun. -/
def afterSubject (b : Bytes) : Bytes :=
  match Json.skipSpace b with
  | 34 :: rest => (Json.text rest).rest
  | 110 :: rest => (Json.literal [117, 108, 108] rest).rest
  | 116 :: rest => (Json.literal [114, 117, 101] rest).rest
  | 102 :: rest => (Json.literal [97, 108, 115, 101] rest).rest
  | 91 :: rest => 91 :: rest
  | 123 :: rest => 123 :: rest
  | rest => (Json.number rest).rest

/-- What is left behind a time.  A list or an object is begun, and ended if it is empty. -/
def afterTime (b : Bytes) : Bytes :=
  match Json.skipSpace b with
  | 91 :: rest => (Json.endList rest).rest
  | 123 :: rest => (Json.endObject rest).rest
  | rest => (Json.value (Json.maxDepth - 1) rest).rest

/-- What is left behind an issuer or an audience, whatever it is. -/
def afterAny (b : Bytes) : Bytes :=
  (Json.value (Json.maxDepth - 1) b).rest

/-- The registered members, each with what it leaves behind. -/
def registered (key : String) : Option (Bytes → Bytes) :=
  match key with
  | "exp" => some afterTime
  | "nbf" => some afterTime
  | "sub" => some afterSubject
  | "iss" => some afterAny
  | "aud" => some afterAny
  | _ => none

/-- Reads the members of a payload for its registered ones, none of which may stand there twice.
Their values do not matter as long as reading can go on behind them. -/
def registeredMembers : Nat → Bool → List String → Bytes → Read Unit
  | 0, _, _, b => Json.fail b
  | fuel + 1, first, seen, b =>
    (Json.nextKey first b).bind fun next rest =>
      match next with
      | none => Json.endObject rest
      | some () =>
        (Json.text rest).bind fun key rest =>
          (Json.colon rest).bind fun _ rest =>
            match registered key with
            | some after =>
              if seen.contains key then Json.fail rest
              else registeredMembers fuel false (key :: seen) (after rest)
            | none => (Json.skip rest).bind fun _ rest => registeredMembers fuel false seen rest

/-- Whether the registered members of a payload can be read. -/
def registeredOk (b : Bytes) : Bool :=
  (Json.complete (match Json.skipSpace b with
    | 123 :: rest => registeredMembers (rest.length + 1) true [] rest
    | rest => Json.fail rest)).isSome

/-! ### The token -/

/-- Cuts a text at its last dot. -/
def cutLast (cs : List Char) : Option (List Char × List Char) :=
  match cs.reverse.span (· != '.') with
  | (after, _ :: before) => some (before.reverse, after.reverse)
  | (_, []) => none

/-- The bytes of a part of a token. -/
def decodePart (cs : List Char) : Option Bytes :=
  (Encoding.Base64.urlSafe.decode (Bytes.ofText (String.ofList cs))).toOption

/-- The extension claims of a token, if it is well formed. -/
def read? (token : String) : Option (List (String × Json)) := do
  let (message, _) ← cutLast (Text.trim token.toList)
  let (header, payload) ← cutLast message
  let header ← decodePart header
  if !isHeader header then none
  else do
    let payload ← decodePart payload
    let found ← extensions? payload
    if registeredOk payload then some found else none

/-- The extension claims of a token; none if it is malformed. -/
def extensionClaims (token : String) : List (String × Json) :=
  (read? token).getD []

end EdgeNode.Token
