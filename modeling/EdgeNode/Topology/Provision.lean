import EdgeNode.Progress
import EdgeNode.Topology.Link
/-!
# Making the resources

A pass connects and ensures the resources in order; it ends with the first failure.  Provisioning
makes passes, each from the beginning, until one succeeds or the retries are used up.  Other work
may come between any two requests of a pass.
-/

namespace EdgeNode

/-- What was done for the resources, by name. -/
abbrev EnsuredList := List (String × Ensured)

/-- Where a pass over the resources stands. -/
inductive Pass where
  /-- About to connect. -/
  | connecting
  /-- About to look up the first resource that is left. -/
  | looking (finished : EnsuredList) (left : List Resource)
  /-- About to create a resource that was not found. -/
  | creating (finished : EnsuredList) (r : Resource) (left : List Resource)
deriving DecidableEq, Repr

namespace Pass

variable {σ : Type}

/-- A step of a pass. -/
def step (link : StoreLink σ) (spec : TopologySpec) (world : σ) :
    Pass → Progress Pass (Outcome Error EnsuredList) × σ
  | .connecting =>
    match link.connect setupConnection world with
    | (.ok (), world) => (.next (.looking [] spec.resources), world)
    | (.error e, world) => (.done (.error e), world)
  | .looking finished [] => (.done (.ok finished), world)
  | .looking finished (r :: left) =>
    match link.lookup r world with
    | (answer, world) =>
      match r.afterLookup answer with
      | .ok (some e) => (.next (.looking (finished ++ [(r.name, e)]) left), world)
      | .ok none => (.next (.creating finished r left), world)
      | .error e => (.done (.error e), world)
      | .crash => (.done .crash, world)
  | .creating finished r left =>
    match link.create r world with
    | (answer, world) =>
      match r.afterCreate answer with
      | .ok e => (.next (.looking (finished ++ [(r.name, e)]) left), world)
      | .error e => (.done (.error e), world)

/-- The number of steps that a pass can still take. -/
def stepsLeft (spec : TopologySpec) : Pass → Nat
  | .connecting => 2 * spec.resources.length + 2
  | .looking _ left => 2 * left.length + 1
  | .creating _ _ left => 2 * left.length + 2

/-- A pass that nothing comes between, given the number of steps it can take. -/
def runUpTo (link : StoreLink σ) (spec : TopologySpec) :
    Nat → σ → Pass → Outcome Error EnsuredList × σ
  | 0, world, _ => (.crash, world)
  | fuel + 1, world, pass =>
    match step link spec world pass with
    | (.done result, world) => (result, world)
    | (.next pass, world) => runUpTo link spec fuel world pass
    | (.wait _, world) => (.crash, world)

/-- A pass that nothing comes between. -/
def run (link : StoreLink σ) (spec : TopologySpec) (world : σ) (pass : Pass) :
    Outcome Error EnsuredList × σ :=
  runUpTo link spec (pass.stepsLeft spec) world pass

end Pass

/-- Ensures one resource of a connected store. -/
def ensureResource {σ : Type} (link : StoreLink σ) (r : Resource) (world : σ) :
    Outcome Error Ensured × σ :=
  match Pass.run link ⟨[r]⟩ world (.looking [] [r]) with
  | (.ok ((_, e) :: _), world) => (.ok e, world)
  | (.ok [], world) => (.crash, world)
  | (.error e, world) => (.error e, world)
  | (.crash, world) => (.crash, world)

/-- What provisioning did. -/
structure ProvisionReport where
  /-- The number of passes. -/
  attempts : Nat
  /-- What the last pass did. -/
  outcomes : EnsuredList
deriving DecidableEq, Repr

/-- Where provisioning stands. -/
inductive Provisioning where
  /-- Between passes. -/
  | between (stage : Retry.Stage)
  /-- In a pass with a number; `delay` is the pause after its failure. -/
  | during (attempt : Nat) (delay : Duration) (pass : Pass)
deriving DecidableEq, Repr

namespace Provisioning

/-- The stage in which provisioning begins. -/
def start (c : RetryConfig) : Provisioning :=
  .between (.start c)

/-- The progress that follows a turn between passes. -/
def settle (turn : Retry.Turn Error EnsuredList) :
    Progress Provisioning (Outcome (RetryError Error) ProvisionReport) :=
  ((turn.progress setupConnection).inside .between).map
    (Outcome.map fun (attempts, outcomes) => { attempts, outcomes })

/-- A step of provisioning. -/
def step {σ : Type} (link : StoreLink σ) (spec : TopologySpec) (c : RetryConfig) (jitter : Float)
    (now : Nat) (isCancelled : Bool) (world : σ) :
    Provisioning → Progress Provisioning (Outcome (RetryError Error) ProvisionReport) × σ
  | .between (.ready attempts delay) =>
    if isCancelled then (settle (.cancelled attempts), world)
    else (.next (.during (attempts + 1) delay .connecting), world)
  | .between (.pausing attempts delay wake) =>
    (settle (Retry.afterPause c now isCancelled attempts delay wake), world)
  | .during attempt delay pass =>
    match pass.step link spec world with
    | (.next pass, world) => (.next (.during attempt delay pass), world)
    | (.wait wake, world) => (.wait wake, world)
    | (.done result, world) =>
      (settle (Retry.afterAttempt c jitter now attempt delay result), world)

end Provisioning

end EdgeNode
