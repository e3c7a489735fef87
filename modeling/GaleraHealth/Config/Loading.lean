import GaleraHealth.Config.ClusterEncoding
import GaleraHealth.Config.Validation
import GaleraHealth.Yaml.Scheme

/-!
# Loading the configuration of a cluster

A configuration is read from YAML and then checked.
-/

namespace GaleraHealth

/-- Why a configuration could not be loaded. -/
inductive LoadFault where
  | unreadable
  | refused (fault : ConfigFault)

def LoadFault.message : LoadFault → String
  | .unreadable => "failed to parse config"
  | .refused f => f.message

/-- The configuration in a YAML text, before it is checked. -/
def ClusterConfig.ofYaml? (text : String) : Option ClusterConfig :=
  Yaml.read? ClusterConfig.read? text

def CheckedConfig.ofYaml (text : String) : Except LoadFault CheckedConfig :=
  match ClusterConfig.ofYaml? text with
  | none => .error .unreadable
  | some c => c.checked.mapError .refused

end GaleraHealth
