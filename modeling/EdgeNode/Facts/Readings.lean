import EdgeNode.Json.Value
/-!
# Readings of the machine

What a machine tells about itself, and the sections of the facts that are made of it.
-/

namespace EdgeNode

/-- A processor. -/
structure Processor where
  /-- Its name. -/
  name : String
  /-- Its maker. -/
  vendor : String
  /-- Its model. -/
  model : String
  /-- Its frequency in megahertz. -/
  megahertz : Nat
deriving DecidableEq, Repr

/-- A mounted disk. -/
structure Disk where
  /-- The device. -/
  device : String
  /-- Where it is mounted. -/
  mountPoint : String
  /-- Its file system. -/
  fileSystem : String
  /-- Whether it can be taken out. -/
  removable : Bool
  /-- Its size in bytes. -/
  total : Nat
  /-- The bytes that are left on it. -/
  free : Nat
deriving DecidableEq, Repr

/-- A network interface. -/
structure NetworkInterface where
  /-- Its name. -/
  name : String
  /-- Its hardware address. -/
  address : String
  /-- The bytes it received. -/
  received : Nat
  /-- The bytes it sent. -/
  sent : Nat
deriving DecidableEq, Repr

/-- What a machine tells about itself. -/
structure Readings where
  /-- All memory, in bytes. -/
  memoryTotal : Nat := 0
  /-- The memory that can be given out. -/
  memoryAvailable : Nat := 0
  /-- The memory in use. -/
  memoryUsed : Nat := 0
  /-- The memory that nothing uses. -/
  memoryFree : Nat := 0
  /-- All swap space, in bytes. -/
  swapTotal : Nat := 0
  /-- The swap space in use. -/
  swapUsed : Nat := 0
  /-- The swap space that nothing uses. -/
  swapFree : Nat := 0
  /-- The processors. -/
  processors : List Processor := []
  /-- The disks. -/
  disks : List Disk := []
  /-- The network interfaces. -/
  interfaces : List NetworkInterface := []
  /-- The host name. -/
  hostName : Option String := none
  /-- The name of the operating system. -/
  system : Option String := none
  /-- Its version. -/
  systemVersion : Option String := none
  /-- Its name and version in full. -/
  longSystemVersion : Option String := none
  /-- The version of its kernel. -/
  kernelVersion : Option String := none
  /-- The seconds since it started. -/
  uptime : Nat := 0
  /-- When it started, in seconds since 1970. -/
  bootTime : Nat := 0
  /-- The load over one, five and fifteen minutes. -/
  load : Float × Float × Float := (0, 0, 0)

namespace Readings

/-- The memory section. -/
def memory (r : Readings) : Json :=
  .ofMembers [("virtual", .ofMembers
    [("total", r.memoryTotal), ("available", r.memoryAvailable), ("used", r.memoryUsed),
     ("free", r.memoryFree)])]

/-- The swap section. -/
def swap (r : Readings) : Json :=
  .ofMembers [("memory", .ofMembers
    [("total", r.swapTotal), ("used", r.swapUsed), ("free", r.swapFree)])]

/-- The processor section. -/
def cpu (r : Readings) : Json :=
  .ofMembers [("info", .ofList (fun p : Processor => .ofMembers
    [("name", p.name), ("vendor_id", p.vendor), ("model_name", p.model), ("mhz", p.megahertz)])
    r.processors)]

/-- The disk section. -/
def disk (r : Readings) : Json :=
  .ofMembers
    [("partitions", .ofList (fun d : Disk => .ofMembers
      [("device", d.device), ("mountpoint", d.mountPoint), ("fstype", d.fileSystem),
       ("removable", d.removable)]) r.disks),
     ("usage", .ofList (fun d : Disk => .ofMembers
      [("path", d.mountPoint), ("total", d.total), ("free", d.free), ("used", d.total - d.free)])
      r.disks)]

/-- The host section. -/
def host (r : Readings) : Json :=
  .ofMembers [("info", .ofMembers
    [("hostname", .ofOption .str r.hostName),
     ("os", .ofOption .str r.system),
     ("os_version", .ofOption .str r.systemVersion),
     ("long_os_version", .ofOption .str r.longSystemVersion),
     ("kernel_version", .ofOption .str r.kernelVersion),
     ("uptime", r.uptime),
     ("boot_time", r.bootTime),
     ("load", .ofMembers
      [("one", .float r.load.1), ("five", .float r.load.2.1), ("fifteen", .float r.load.2.2)])])]

/-- The network section. -/
def network (r : Readings) : Json :=
  .ofMembers [("interfaces", .ofList (fun i : NetworkInterface => .ofMembers
    [("name", i.name), ("hardwareaddr", i.address), ("bytes_received", i.received),
     ("bytes_sent", i.sent)]) r.interfaces)]

end Readings

end EdgeNode
