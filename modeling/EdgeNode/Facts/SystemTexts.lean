import EdgeNode.Bytes
import EdgeNode.Facts.Readings
import EdgeNode.Json.Reader
import EdgeNode.Keyed
import EdgeNode.Text.Blank
import EdgeNode.Text.Split
/-!
# Readings from system texts

A Linux system shows its state in small text files.  The readings of a machine are made of the
texts of `systemTextPaths`; what is missing from them is zero, empty or absent.  They do not tell
how full the disks are.
-/

namespace EdgeNode.Readings

/-! ### Lines with labels -/

/-- The words of a line. -/
def words (line : String) : List String :=
  (Text.split ' ' (line.toList.map fun c => if Text.isBlank c then ' ' else c)).filterMap
    fun w => if w.isEmpty then none else some (String.ofList w)

/-- The label of a line and the value behind it. -/
def labelled (sep : Char) (line : List Char) : String × String :=
  (String.ofList (Text.trim (line.takeWhile (· != sep))),
    String.ofList (Text.trim ((line.dropWhile (· != sep)).drop 1)))

/-- The value of the first line with a label. -/
def valueOf (sep : Char) (label : String) (lines : List (List Char)) : Option String :=
  ((lines.map (labelled sep)).find? fun e => e.1 == label).map Prod.snd

/-- The number that starts a text, zero if none does. -/
def leadingNat (s : String) : Nat :=
  ((String.ofList (s.toList.takeWhile Char.isDigit)).toNat?).getD 0

/-- The text without the quotes around it. -/
def unquoted (s : String) : String :=
  String.ofList (s.toList.filter (· != '"'))

example : labelled ':' "cpu MHz\t\t: 2596.138".toList = ("cpu MHz", "2596.138") := by decide
example : words "  526  5 0" = ["526", "5", "0"] := by decide

/-! ### The texts -/

/-- Where the name of the machine is read. -/
def hostNamePath : String := "/proc/sys/kernel/hostname"

/-- Where the network interfaces are listed. -/
def devicesPath : String := "/proc/net/dev"

/-- Where the hardware address of an interface is read. -/
def addressPath (device : String) : String :=
  "/sys/class/net/" ++ device ++ "/address"

/-- A line of the list of interfaces: the name, and the counters behind it. -/
def deviceLine (line : List Char) : Option (String × List String) :=
  if line.contains ':' then
    let (name, counters) := labelled ':' line
    some (name, words counters)
  else none

/-- The names of the interfaces in a list of them. -/
def deviceNames (devices : String) : List String :=
  (Text.lines devices).filterMap fun line => (deviceLine line).map Prod.fst

/-- The files that are read, on a system with a list of network interfaces. -/
def systemTextPaths (devices : String) : List String :=
  ["/proc/meminfo", "/proc/cpuinfo", "/proc/loadavg", "/proc/uptime", "/proc/stat",
   "/proc/sys/kernel/osrelease", "/etc/os-release", hostNamePath, devicesPath]
    ++ (deviceNames devices).map addressPath

/-- The processor that some lines describe. -/
def processorOf (lines : List (List Char)) : Option Processor :=
  (valueOf ':' "processor" lines).map fun number =>
    { name := "cpu" ++ number
      vendor := (valueOf ':' "vendor_id" lines).getD ""
      model := (valueOf ':' "model name" lines).getD ""
      megahertz := leadingNat ((valueOf ':' "cpu MHz" lines).getD "") }

/-- The processors; an empty line comes before each but the first. -/
def processorsOf (text : String) : List Processor :=
  ((Text.lines text).splitBy fun _ next => !next.isEmpty).filterMap processorOf

/-- The interface with a name, counters and an address. -/
def interfaceOf (address name : String) (counters : List String) : NetworkInterface where
  name
  address
  received := leadingNat (counters.getD 0 "")
  sent := leadingNat (counters.getD 8 "")

/-- A load average. -/
def loadOf (words : List String) (i : Nat) : Float :=
  ((Json.parse (Bytes.ofText (words.getD i ""))).bind Json.float?).getD 0

/-- The readings that texts tell, given by the paths of their files. -/
def ofTexts (texts : Keyed String) : Readings :=
  let text (path : String) : String := (texts.get? path).getD ""
  let known (path : String) : Option String := (texts.get? path).map Text.trimmed
  let memory := Text.lines (text "/proc/meminfo")
  let kilobytes (label : String) : Nat :=
    leadingNat ((valueOf ':' label memory).getD "") * 1024
  let release := Text.lines (text "/etc/os-release")
  let system := (valueOf '=' "NAME" release).map unquoted
  let systemVersion := (valueOf '=' "VERSION_ID" release).map unquoted
  let load := words (text "/proc/loadavg")
  let total := kilobytes "MemTotal"
  let available := kilobytes "MemAvailable"
  let swapTotal := kilobytes "SwapTotal"
  let swapFree := kilobytes "SwapFree"
  { memoryTotal := total
    memoryAvailable := available
    memoryUsed := total - available
    memoryFree := kilobytes "MemFree"
    swapTotal
    swapUsed := swapTotal - swapFree
    swapFree
    processors := processorsOf (text "/proc/cpuinfo")
    interfaces := (Text.lines (text devicesPath)).filterMap fun line =>
      (deviceLine line).map fun (name, counters) =>
        interfaceOf ((known (addressPath name)).getD "") name counters
    hostName := known hostNamePath
    system
    systemVersion
    longSystemVersion := some ("Linux " ++ systemVersion.getD "" ++ " " ++ system.getD "")
    kernelVersion := known "/proc/sys/kernel/osrelease"
    uptime := leadingNat (text "/proc/uptime")
    bootTime := leadingNat ((valueOf ' ' "btime" (Text.lines (text "/proc/stat"))).getD "")
    load := (loadOf load 0, loadOf load 1, loadOf load 2) }

end EdgeNode.Readings
