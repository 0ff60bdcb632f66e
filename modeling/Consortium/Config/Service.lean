import Consortium.Identity.NetworkId
import Consortium.Network.Error
import Consortium.Toml.Reader
import Consortium.Toml.Style

/-!
The configuration of a service, kept as a TOML text. Reading it fills in what is left out and passes
over what it does not know; a value of the wrong type is refused.
-/

namespace Consortium

inductive LogFormat where
  | human
  | json
deriving DecidableEq

namespace LogFormat

def name : LogFormat → String
  | .human => "human"
  | .json => "json"

def ofName? (text : String) : Option LogFormat :=
  [human, json].find? fun format => format.name = text

end LogFormat

structure ServiceConfig where
  /-- The directory that holds the environment of locks. -/
  dataDir : String
  /-- The size of the mapping of that environment, in bytes. -/
  lockMapSize : UInt64
  /-- The age in seconds from which on a lock is taken to be forgotten. -/
  lockMaxAge : UInt64
  logFormat : LogFormat
  logLevel : String
  /-- The network that is created unless another one is asked for. -/
  defaultNetworkId : Option NetworkId
deriving DecidableEq

namespace ServiceConfig

def standard : ServiceConfig where
  dataDir := "./bnms_data"
  lockMapSize := 67108864
  lockMaxAge := 3600
  logFormat := .human
  logLevel := "info"
  defaultNetworkId := none

instance : Inhabited ServiceConfig := ⟨standard⟩

/-! ### Reading -/

open Toml (Node Table)

def readString : Node → Option String
  | .string text => some text
  | _ => none

def readNumber : Node → Option UInt64
  | .integer value => if 0 ≤ value then some (UInt64.ofNat value.toNat) else none
  | _ => none

/-- What a log format holds that is written as a name with contents. -/
def holdsNothing : Node → Bool
  | .table _ _ [] | .closedTable [] | .array [] => true
  | _ => false

def readFormat : Node → Option LogFormat
  | .string text => LogFormat.ofName? text
  | .closedTable [(name, content)] | .table _ _ [(name, content)] =>
      if holdsNothing content then LogFormat.ofName? name else none
  | _ => none

def readOr {α : Type} (table : Table) (name : String) (missing : α) (read : Node → Option α) :
    Option α :=
  match table.get? name with
  | some node => read node
  | none => some missing

def ofTable? (table : Table) : Option ServiceConfig := do
  some {
    dataDir := ← readOr table "data_dir" standard.dataDir readString
    lockMapSize := ← readOr table "lock_map_size" standard.lockMapSize readNumber
    lockMaxAge := ← readOr table "lock_max_age_secs" standard.lockMaxAge readNumber
    logFormat := ← readOr table "log_format" standard.logFormat readFormat
    logLevel := ← readOr table "log_level" standard.logLevel readString
    defaultNetworkId :=
      ← readOr table "default_network_id" none fun node =>
        (readString node).map fun text => some ⟨text⟩ }

def ofToml (text : String) : Except NetworkError ServiceConfig :=
  match (Table.ofText? text).bind ofTable? with
  | some config => .ok config
  | none => .error (.configuration "not a valid configuration")

def ofFile : (content : Option (List UInt8)) → Except NetworkError ServiceConfig
  | none => .error (.configuration "no such file")
  | some bytes =>
      match Bytes.toString? bytes with
      | some text => ofToml text
      | none => .error (.configuration "the file is not in UTF-8")

/-! ### Writing -/

def entry (name value : String) : String := name ++ " = " ++ value ++ "\n"

def stringEntry (name text : String) : String :=
  entry name (String.ofList (Toml.writeString text.toList))

/-- The largest number that can be written. -/
def maxNumber : UInt64 := 9223372036854775807

/-- One entry a line. Numbers above `maxNumber` cannot be written. -/
def toToml (config : ServiceConfig) : Except NetworkError String :=
  if config.lockMapSize ≤ maxNumber ∧ config.lockMaxAge ≤ maxNumber then
    .ok (
      stringEntry "data_dir" config.dataDir ++
      entry "lock_map_size" (toString config.lockMapSize.toNat) ++
      entry "lock_max_age_secs" (toString config.lockMaxAge.toNat) ++
      stringEntry "log_format" config.logFormat.name ++
      stringEntry "log_level" config.logLevel ++
      match config.defaultNetworkId with
      | some id => stringEntry "default_network_id" id.text
      | none => "")
  else .error (.configuration "a number is too large to be written")

end ServiceConfig

end Consortium
