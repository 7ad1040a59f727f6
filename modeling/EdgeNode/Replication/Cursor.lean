import EdgeNode.Calendar
import EdgeNode.Json.Printer
import EdgeNode.Json.Reader
/-!
# Cursors

A durable job records in a small document which message it copied last.  A document that cannot be
read stands for a job that has copied nothing.
-/

namespace EdgeNode.Cursor

/-- The document for a message number, written at an instant. -/
def encode (sequence now : Nat) : Bytes :=
  Bytes.ofText ("\x7b\"sequence\":" ++ toString sequence ++ ",\"updated\":"
    ++ Json.quote (Calendar.timestamp now) ++ "\x7d")

/-- The fields of a document read so far. -/
structure Fields where
  /-- The message number. -/
  sequence : Option Nat := none
  /-- Whether the time was read. -/
  updated : Bool := false

/-- Reads a message number. -/
def readSequence (b : Bytes) : Json.Read Nat :=
  (Json.value Json.maxDepth b).bind fun j rest =>
    match j with
    | .int n => if n ≥ 0 then Json.done n.toNat rest else Json.fail rest
    | _ => Json.fail rest

/-- Reads a time or `null`. -/
def readUpdated (b : Bytes) : Json.Read Unit :=
  (Json.value Json.maxDepth b).bind fun j rest =>
    match j with
    | .null => Json.done () rest
    | .str s => if Calendar.isTimestamp s then Json.done () rest else Json.fail rest
    | _ => Json.fail rest

/-- Reads the members of a document; members of other names are passed over. -/
def readMembers : Nat → Bool → Fields → Bytes → Json.Read Nat
  | 0, _, _, b => Json.fail b
  | fuel + 1, first, fields, b =>
    (Json.nextKey first b).bind fun next rest =>
      match next with
      | none =>
        (Json.endObject rest).bind fun _ rest =>
          match fields.sequence with
          | some n => Json.done n rest
          | none => Json.fail rest
      | some () =>
        (Json.text rest).bind fun key rest =>
          (Json.colon rest).bind fun _ rest =>
            if key = "sequence" then
              if fields.sequence.isSome then Json.fail rest
              else
                (readSequence rest).bind fun n rest =>
                  readMembers fuel false { fields with sequence := some n } rest
            else if key = "updated" then
              if fields.updated then Json.fail rest
              else
                (readUpdated rest).bind fun _ rest =>
                  readMembers fuel false { fields with updated := true } rest
            else
              (Json.skip rest).bind fun _ rest => readMembers fuel false fields rest

/-- Reads the number and the time as a list of two. -/
def readPair (b : Bytes) : Json.Read Nat :=
  (Json.nextItem true b).bind fun next rest =>
    match next with
    | none => Json.fail rest
    | some () =>
      (readSequence rest).bind fun n rest =>
        (Json.nextItem false rest).bind fun next rest =>
          match next with
          | none => Json.fail rest
          | some () =>
            (readUpdated rest).bind fun _ rest =>
              (Json.endList rest).bind fun _ rest => Json.done n rest

/-- The message number in a document, zero if there is none. -/
def decode (b : Bytes) : Nat :=
  let r := match Json.skipSpace b with
    | 123 :: rest => readMembers (rest.length + 1) true {} rest
    | 91 :: rest => readPair rest
    | rest => Json.fail rest
  (Json.complete r).getD 0

end EdgeNode.Cursor
