import GaleraHealth.Decimal.Binary
import GaleraHealth.Json.Basic
import GaleraHealth.Yaml.Scheme

/-!
# The configuration of the disk agent

Where the agent listens, who may ask it, which disks it looks at, and the TLS identity it shows.
-/

namespace GaleraHealth

/-- The TLS identity of the agent, as PEM texts. -/
structure ServerTls where
  enabled : Bool
  certificate : String
  privateKey : String
  deriving DecidableEq, Repr

/-- Without TLS. -/
def ServerTls.off : ServerTls := ⟨false, "", ""⟩

/-- The configuration of a disk agent. -/
structure AgentConfig where
  bindAddress : String
  port : UInt16
  username : String
  password : String
  persistentDiskPath : Option String
  ephemeralDiskPath : Option String
  pidFile : Option String
  tls : ServerTls
  deriving DecidableEq, Repr

/-- What is wrong with an agent's configuration. -/
inductive AgentConfigFault where
  | unreadable
  | emptyUsername
  | incompleteTls
  deriving DecidableEq, Repr

def AgentConfigFault.message : AgentConfigFault → String
  | .unreadable => "failed to parse config"
  | .emptyUsername => "invalid config: username must not be empty"
  | .incompleteTls => "invalid config: tls is enabled but certificate or private_key is missing"

namespace AgentConfig

/-- The path of a disk; a missing or empty one is replaced. -/
def pathOr (default : String) (path : Option String) : String :=
  (path.filter fun p => !p.isEmpty).getD default

def persistent (c : AgentConfig) : String := pathOr "/var/vcap/store" c.persistentDiskPath

def ephemeral (c : AgentConfig) : String := pathOr "/var/vcap/data" c.ephemeralDiskPath

/-- The address to listen on, as text. -/
def bind (c : AgentConfig) : String := c.bindAddress ++ ":" ++ Decimal.natText c.port.toNat

/-- A user has a name, and an enabled TLS identity is complete. -/
def check (c : AgentConfig) : Except AgentConfigFault Unit :=
  if c.username.isEmpty then .error .emptyUsername
  else if c.tls.enabled && (c.tls.certificate.isEmpty || c.tls.privateKey.isEmpty) then
    .error .incompleteTls
  else .ok ()

end AgentConfig

/-! ### Written form -/

section Reading

variable {ν : Type} (f : Form ν)

def ServerTls.read? (d : ν) : Option ServerTls := do
  let fs ← f.record? ["enabled", "certificate", "private_key"] 0 d
  let enabled ← defaulted? fs "enabled" false f.bool?
  let certificate ← defaulted? fs "certificate" "" f.string?
  let privateKey ← defaulted? fs "private_key" "" f.string?
  return ⟨enabled, certificate, privateKey⟩

def AgentConfig.read? (d : ν) : Option AgentConfig := do
  let fs ← f.record? ["bind_address", "port", "username", "password", "persistent_disk_path",
    "ephemeral_disk_path", "pid_file", "tls"] 4 d
  let bindAddress ← defaulted? fs "bind_address" "0.0.0.0" f.string?
  let port ← required? fs "port" f.word16?
  let username ← required? fs "username" f.string?
  let password ← required? fs "password" f.string?
  let persistentDiskPath ← omittable? f fs "persistent_disk_path" f.string?
  let ephemeralDiskPath ← omittable? f fs "ephemeral_disk_path" f.string?
  let pidFile ← omittable? f fs "pid_file" f.string?
  let tls ← defaulted? fs "tls" ServerTls.off (ServerTls.read? f)
  return ⟨bindAddress, port, username, password, persistentDiskPath, ephemeralDiskPath, pidFile,
    tls⟩

end Reading

/-- The record of the identity that an agent shows. -/
def ServerTls.toJson (t : ServerTls) : Json :=
  .object [("enabled", .bool t.enabled), ("certificate", .string t.certificate),
    ("private_key", .string t.privateKey)]

def AgentConfig.toJson (c : AgentConfig) : Json :=
  .object [("bind_address", .string c.bindAddress), ("port", .ofNat c.port.toNat),
    ("username", .string c.username), ("password", .string c.password),
    ("persistent_disk_path", .ofOption .string c.persistentDiskPath),
    ("ephemeral_disk_path", .ofOption .string c.ephemeralDiskPath),
    ("pid_file", .ofOption .string c.pidFile), ("tls", c.tls.toJson)]

def AgentConfig.ofYaml (text : String) : Except AgentConfigFault AgentConfig :=
  match Yaml.read? AgentConfig.read? text with
  | none => .error .unreadable
  | some c => c.check.map fun _ => c

end GaleraHealth
