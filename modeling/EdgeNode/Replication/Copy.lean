import EdgeNode.Framework
import EdgeNode.Replication.Cursor
import EdgeNode.Replication.Topology
/-!
# Copying a stream

A job opens its source and its target, waiting for either to be there, and then copies batch after
batch.  A durable job starts behind its cursor and records every message it copied; an ephemeral
job starts from the beginning.  It looks for cancellation between attempts to open a stream, behind
each batch and while it is idle.
-/

namespace EdgeNode

/-- A job with what it needs to run. -/
structure Copying where
  /-- The job. -/
  job : ReplicationJob
  /-- The topology it belongs to. -/
  topology : ReplicationTopology
  /-- The pace at which streams are opened. -/
  retry : RetryConfig := {}
  /-- The pause before an idle source is asked again. -/
  poll : Duration := .ofMillis 250
  /-- The framework that finds the brokers. -/
  framework : Framework := .network

namespace Copying

/-- The most messages fetched at once. -/
def batchSize : Nat := 100

/-- Where a run stands. -/
inductive Stage where
  /-- Finding the broker of the source. -/
  | findingSource
  /-- Opening the source. -/
  | openingSource (stage : Retry.Stage)
  /-- Finding the broker of the target. -/
  | findingTarget
  /-- Opening the target. -/
  | openingTarget (stage : Retry.Stage)
  /-- About to read the cursor. -/
  | loading
  /-- About to fetch what lies behind a message. -/
  | fetching (cursor : Nat)
  /-- Copying a batch; `cursor` is the message copied last. -/
  | copying (cursor : Nat) (batch : List StoredMessage)
  /-- About to record the message copied last. -/
  | saving (cursor : Nat) (batch : List StoredMessage)
  /-- Idle up to an instant. -/
  | idle (cursor : Nat) (wake : Nat)
deriving DecidableEq, Repr

/-- What a step of a run comes to. -/
abbrev Turn := Progress Stage (Outcome Error Unit)

variable (r : Copying)

/-- The name under which the source is connected. -/
def sourceName : String :=
  r.topology.name ++ "_" ++ r.job.name ++ "_source"

/-- The name under which the target is connected. -/
def targetName : String :=
  r.topology.name ++ "_" ++ r.job.name ++ "_target"

/-- The end of a run: to be cancelled is to end well. -/
def finish : Outcome Error Unit → Turn
  | .error (.cancelled _) => .done (.ok ())
  | other => .done other

/-- Finds a broker. -/
def find (url name : String) (opening : Retry.Stage → Stage) : Turn :=
  match r.framework.connector url name with
  | .error e => finish (.error e)
  | .ok () => .next (opening (.start r.retry))

/-- Looks for the stream that is to be opened. -/
def look (url stream : String) (h : Host) : Outcome Error Unit × Host :=
  match h.withStore url fun s => s.streamInfo h.wallClock stream with
  | (.ok _, h) => (.ok (), h)
  | (.error e, h) => (.error (.topology stream e.message), h)
  | (.crash, h) => (.crash, h)

/-- A step of opening a stream. -/
def openStream (h : Host) (t : StopToken) (url name stream : String)
    (opening : Retry.Stage → Stage) (opened : Stage) (stage : Retry.Stage) : Turn × Host :=
  let attempt (_ : Nat) := look url stream
  match Retry.step r.retry h.jitter h.uptime (h.isCancelled t) attempt h stage with
  | (turn, h) =>
    match turn.progress name with
    | .next stage => (.next (opening stage), h)
    | .wait wake => (.wait wake, h)
    | .done (.ok _) => (.next opened, h)
    | .done (.error e) => (finish (.error e.toError), h)
    | .done .crash => (.done .crash, h)

/-- The message that a run starts behind. -/
def loadCursor (f : Files) (path : String) : Nat :=
  match f.read path with
  | .ok content => Cursor.decode content
  | .error _ => 0

/-- Records a message number. -/
def saveCursor (f : Files) (now : Nat) (path : String) (sequence : Nat) :
    Except Error Unit × Files :=
  match f.createParent path with
  | (.error e, f) => (.error e, f)
  | (.ok (), f) =>
    match f.write path (Cursor.encode sequence now) with
    | .ok f => (.ok (), f)
    | .error e => (.error (.io path e), f)

/-- What a refused fetch or publication means. -/
def refused (e : StoreError) : Turn :=
  finish (.error (.replicationJob r.job.name e.message))

/-- Publishes a message on the target. -/
def publish (h : Host) (m : StoredMessage) : Outcome StoreError Nat × Host :=
  h.withStore r.job.targetUrl fun s =>
    s.publish h.wallClock (r.job.targetSubject m.subject) m.payload

/-- A step of a run. -/
def step (h : Host) (t : StopToken) : Stage → Turn × Host
  | .findingSource => (r.find r.job.sourceUrl r.sourceName .openingSource, h)
  | .openingSource stage =>
    r.openStream h t r.job.sourceUrl r.sourceName r.job.sourceStream .openingSource .findingTarget
      stage
  | .findingTarget => (r.find r.job.targetUrl r.targetName .openingTarget, h)
  | .openingTarget stage =>
    r.openStream h t r.job.targetUrl r.targetName r.job.targetStream .openingTarget .loading stage
  | .loading =>
    if r.job.ephemeral then (.next (.fetching 0), h)
    else (.next (.fetching (loadCursor h.files (r.topology.cursorPath r.job))), h)
  | .fetching cursor =>
    match h.withStore r.job.sourceUrl fun s =>
        s.fetch h.wallClock r.job.sourceStream cursor batchSize with
    | (.ok [], h) => (.next (.idle cursor (h.timer r.poll)), h)
    | (.ok batch, h) => (.next (.copying cursor batch), h)
    | (.error e, h) => (r.refused e, h)
    | (.crash, h) => (.done .crash, h)
  | .copying cursor [] =>
    if h.isCancelled t then (.done (.ok ()), h) else (.next (.fetching cursor), h)
  | .copying _ (m :: rest) =>
    match r.publish h m with
    | (.ok _, h) =>
      if r.job.ephemeral then (.next (.copying m.sequence rest), h)
      else (.next (.saving m.sequence rest), h)
    | (.error e, h) => (r.refused e, h)
    | (.crash, h) => (.done .crash, h)
  | .saving cursor rest =>
    match saveCursor h.files h.wallClock (r.topology.cursorPath r.job) cursor with
    | (.ok (), files) => (.next (.copying cursor rest), { h with files })
    | (.error e, files) => (finish (.error e), { h with files })
  | .idle cursor wake =>
    match h.pause t wake with
    | .cut => (.done (.ok ()), h)
    | .over => (.next (.fetching cursor), h)
    | .lasting => (.wait (some wake), h)

end Copying

end EdgeNode
