/-!
# Errors

What can go wrong while a node starts and runs, with the wording of each.  `Error` is what the
node's operations answer; the other types belong to one area each and convert to it.
-/

namespace EdgeNode

/-- Why the operating system refused a file operation. -/
inductive FileError where
  /-- The system's error number. -/
  | system (code : Nat)
  /-- A file that must hold text holds other bytes. -/
  | notText
  /-- The path holds a zero byte. -/
  | zeroByte
deriving DecidableEq, Repr

namespace FileError

/-- Nothing is at the path. -/
def notFound : FileError := .system 2

/-- The path leads through something that is no directory. -/
def notDirectory : FileError := .system 20

/-- A directory is where a file is needed. -/
def isDirectory : FileError := .system 21

/-- Something is at the path already. -/
def alreadyExists : FileError := .system 17

/-- The path is not one the operation takes. -/
def invalidArgument : FileError := .system 22

/-- The wording of a system error number. -/
def systemText : Nat → String
  | 1 => "Operation not permitted"
  | 2 => "No such file or directory"
  | 4 => "Interrupted system call"
  | 5 => "Input/output error"
  | 9 => "Bad file descriptor"
  | 11 => "Resource temporarily unavailable"
  | 12 => "Cannot allocate memory"
  | 13 => "Permission denied"
  | 16 => "Device or resource busy"
  | 17 => "File exists"
  | 18 => "Invalid cross-device link"
  | 20 => "Not a directory"
  | 21 => "Is a directory"
  | 22 => "Invalid argument"
  | 23 => "Too many open files in system"
  | 24 => "Too many open files"
  | 26 => "Text file busy"
  | 27 => "File too large"
  | 28 => "No space left on device"
  | 30 => "Read-only file system"
  | 32 => "Broken pipe"
  | 36 => "File name too long"
  | 39 => "Directory not empty"
  | 40 => "Too many levels of symbolic links"
  | 104 => "Connection reset by peer"
  | 110 => "Connection timed out"
  | 111 => "Connection refused"
  | 122 => "Disk quota exceeded"
  | n => "Unknown error " ++ toString n

/-- The wording of a refusal. -/
def message : FileError → String
  | .system code => systemText code ++ " (os error " ++ toString code ++ ")"
  | .notText => "stream did not contain valid UTF-8"
  | .zeroByte => "file name contained an unexpected NUL byte"

end FileError

/-- Why the node failed. -/
inductive Error where
  /-- The configuration is invalid or cannot be read. -/
  | config (message : String)
  /-- A key or a certificate could not be made. -/
  | cryptoGeneration (message : String)
  /-- A credential that the mode needs is absent. -/
  | missingCredential (message : String)
  /-- A broker could not be reached. -/
  | connectivity (context message : String)
  /-- A stream or bucket could not be looked up or created. -/
  | topology (resource message : String)
  /-- A replication job ended with an error. -/
  | replicationJob (job message : String)
  /-- Settings that replication needs are absent. -/
  | missingTopologyConfig (message : String)
  /-- The replication jobs do not fit together. -/
  | invalidTopology (message : String)
  /-- The broker never became ready. -/
  | ready (message : String)
  /-- Shutdown was requested during the named work. -/
  | cancelled (work : String)
  /-- A file operation failed. -/
  | io (path : String) (cause : FileError)
deriving DecidableEq, Repr

namespace Error

/-- The wording of an error. -/
def message : Error → String
  | .config m => "configuration error: " ++ m
  | .cryptoGeneration m => "crypto generation error: " ++ m
  | .missingCredential m => "missing credential: " ++ m
  | .connectivity c m => "connectivity error [" ++ c ++ "]: " ++ m
  | .topology r m => "topology error for " ++ r ++ ": " ++ m
  | .replicationJob j m => "replication job " ++ j ++ " failed: " ++ m
  | .missingTopologyConfig m => "replication topology incomplete: " ++ m
  | .invalidTopology m => "replication topology invalid: " ++ m
  | .ready m => "broker did not become ready: " ++ m
  | .cancelled w => "cancelled while " ++ w
  | .io path cause => "I/O error on " ++ path ++ ": " ++ cause.message

/-- The name of the kind of an error. -/
def kind : Error → String
  | .config _ => "Config"
  | .cryptoGeneration _ => "CryptoGeneration"
  | .missingCredential _ => "MissingCredential"
  | .connectivity .. => "Connectivity"
  | .topology .. => "Topology"
  | .replicationJob .. => "ReplicationJob"
  | .missingTopologyConfig _ => "MissingTopologyConfig"
  | .invalidTopology _ => "InvalidTopology"
  | .ready _ => "Ready"
  | .cancelled _ => "Cancelled"
  | .io .. => "Io"

/-- The error of a kind, with its texts and what the system said. -/
def ofKind? (kind text text' : String) (cause : FileError) : Option Error :=
  match kind with
  | "Config" => some (.config text)
  | "CryptoGeneration" => some (.cryptoGeneration text)
  | "MissingCredential" => some (.missingCredential text)
  | "Connectivity" => some (.connectivity text text')
  | "Topology" => some (.topology text text')
  | "ReplicationJob" => some (.replicationJob text text')
  | "MissingTopologyConfig" => some (.missingTopologyConfig text)
  | "InvalidTopology" => some (.invalidTopology text)
  | "Ready" => some (.ready text)
  | "Cancelled" => some (.cancelled text)
  | "Io" => some (.io text cause)
  | _ => none

/-- Whether trying again may help: brokers come back. -/
def isRetryable : Error → Bool
  | .connectivity .. => true
  | .topology .. => true
  | _ => false

/-- Whether the error ends a start-up. -/
def isFatal : Error → Bool
  | .config _ => true
  | .cryptoGeneration _ => true
  | .missingCredential _ => true
  | .missingTopologyConfig _ => true
  | .invalidTopology _ => true
  | .io .. => true
  | _ => false

/-- The error underneath, for a failed file operation. -/
def cause? : Error → Option FileError
  | .io _ cause => some cause
  | _ => none

end Error

/-- Why a stream store refused a request. -/
inductive StoreError where
  /-- No stream or bucket has the name. -/
  | notFound (name : String)
  /-- A stream or bucket has the name already. -/
  | alreadyExists (name : String)
  /-- No stream captures the subject. -/
  | noMatchingStream (subject : String)
  /-- The store does not answer. -/
  | unavailable (message : String)
deriving DecidableEq, Repr

/-- The wording of a refusal. -/
def StoreError.message : StoreError → String
  | .notFound name => name ++ " not found"
  | .alreadyExists name => name ++ " already exists"
  | .noMatchingStream subject => "no stream captures subject " ++ subject
  | .unavailable m => "store unavailable: " ++ m

/-- The name of the kind of a refusal. -/
def StoreError.kind : StoreError → String
  | .notFound _ => "Store.NotFound"
  | .alreadyExists _ => "Store.AlreadyExists"
  | .noMatchingStream _ => "Store.NoMatchingStream"
  | .unavailable _ => "Store.Unavailable"

/-- Why key material could not be made, read or written. -/
inductive KeyError where
  /-- A key could not be generated. -/
  | keyGeneration (message : String)
  /-- A certificate could not be issued. -/
  | certificateGeneration (message : String)
  /-- A file operation failed. -/
  | io (path : String) (cause : FileError)
  /-- Stored material is malformed. -/
  | parse (message : String)
deriving DecidableEq, Repr

namespace KeyError

/-- The wording of an error. -/
def message : KeyError → String
  | .keyGeneration m => "key generation failed: " ++ m
  | .certificateGeneration m => "certificate generation failed: " ++ m
  | .io path cause => "IO error on " ++ path ++ ": " ++ cause.message
  | .parse m => "parse error: " ++ m

/-- The name of the kind of an error. -/
def kind : KeyError → String
  | .keyGeneration _ => "Pki.KeyGenerationFailed"
  | .certificateGeneration _ => "Pki.CertificateGenerationFailed"
  | .io .. => "Pki.Io"
  | .parse _ => "Pki.ParseError"

/-- File errors stay file errors, everything else is about keys. -/
def toError : KeyError → Error
  | .io path cause => .io path cause
  | e => .cryptoGeneration e.message

end KeyError

/-- Why logging could not be set up. -/
inductive LoggingError where
  /-- The log file could not be opened. -/
  | logFile (path : String) (cause : FileError)
  /-- Logging was set up before. -/
  | alreadySetUp (message : String)
deriving DecidableEq, Repr

namespace LoggingError

/-- The wording of an error. -/
def message : LoggingError → String
  | .logFile path cause => "could not set up logging to " ++ path ++ ": " ++ cause.message
  | .alreadySetUp m => "logging already initialised: " ++ m

/-- A log file that cannot be opened is a file error. -/
def toError : LoggingError → Error
  | .logFile path cause => .io path cause
  | e => .config e.message

end LoggingError

/-- Why a retried operation was given up. -/
inductive RetryError (ε : Type) where
  /-- Cancelled before the operation succeeded. -/
  | cancelled (operation : String) (attempts : Nat)
  /-- The last permitted attempt failed. -/
  | exhausted (operation : String) (attempts : Nat) (last : ε)
deriving DecidableEq, Repr

namespace RetryError

/-- The wording of an error. -/
def message {ε : Type} (text : ε → String) : RetryError ε → String
  | .cancelled op n => op ++ " cancelled after " ++ toString n ++ " attempts"
  | .exhausted op n last => op ++ " failed after " ++ toString n ++ " attempts: " ++ text last

/-- The name of the kind of an error. -/
def kind {ε : Type} : RetryError ε → String
  | .cancelled .. => "Retry.Cancelled"
  | .exhausted .. => "Retry.Exhausted"

/-- Giving up on exhaustion reports the last failure itself. -/
def toError : RetryError Error → Error
  | .cancelled op _ => .cancelled op
  | .exhausted _ _ last => last

end RetryError

/-- The wording for a sleep that cancellation cut short. -/
def sleepInterrupted : String := "sleep interrupted by cancellation"

end EdgeNode
