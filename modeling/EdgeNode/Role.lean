import EdgeNode.Config
/-!
# Roles

A site's leader runs the broker and replication; every other node is a follower.
-/

namespace EdgeNode

/-- What a node does for its site. -/
inductive Role where
  /-- Runs the broker, its streams and replication beside the agent server. -/
  | leader
  /-- Runs the agent server only. -/
  | follower
deriving DecidableEq, Repr

namespace Role

/-- The name of a role. -/
def name : Role → String
  | .leader => "leader"
  | .follower => "follower"

/-- The role an option value stands for; only `leader` itself makes a leader. -/
def ofOption (value : Option String) : Role :=
  if value = some "leader" then .leader else .follower

/-- The role that a configuration gives; without one a node follows. -/
def ofConfig : Option Config → Role
  | some c => ofOption (some (c.option Config.roleOption "follower"))
  | none => .follower

/-- Whether this is the leader. -/
def isLeader (r : Role) : Bool :=
  r == .leader

end Role

end EdgeNode
