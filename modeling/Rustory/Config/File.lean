import Rustory.Cli.Record
import Rustory.Foundations.Toml

namespace Rustory.Config

open Foundations

structure FileConfig extends Rustory.FileConfig where
  dbPath : Option String
  trackers : Option (List String)
  trackerToken : Option String
  relayAddr : Option String
  swarmKeyPath : Option String
  p2pIdentityKeyPath : Option String
  relayIdentityKeyPath : Option String
  p2pWatchStartJitterSec : Option UInt64
  p2pRequestAttempts : Option UInt64
  p2pRequestTimeoutBaseSec : Option UInt64
  p2pRequestTimeoutCapSec : Option UInt64
  p2pRequestBackoffBaseMs : Option UInt64
  searchLimitDefault : Option UInt64

/-- `FileConfig::default()` -/
def FileConfig.unset : FileConfig where
  userId := none
  deviceId := none
  recordIgnoreRegex := none
  dbPath := none
  trackers := none
  trackerToken := none
  relayAddr := none
  swarmKeyPath := none
  p2pIdentityKeyPath := none
  relayIdentityKeyPath := none
  p2pWatchStartJitterSec := none
  p2pRequestAttempts := none
  p2pRequestTimeoutBaseSec := none
  p2pRequestTimeoutCapSec := none
  p2pRequestBackoffBaseMs := none
  searchLimitDefault := none

/-! `Deserialize` for a document that holds strings and arrays of strings only. A key that is no
field is passed over; a value of another type is an error. -/

section

variable (entries : List (String × Toml.Value))

def stringField (key : String) : Option (Option String) :=
  match entries.lookup key with
  | none => some none
  | some (.string text) => some (some text)
  | some (.array _) => none

def stringsField (key : String) : Option (Option (List String)) :=
  match entries.lookup key with
  | none => some none
  | some (.string _) => none
  | some (.array items) => some (some items)

def numberField (key : String) : Option (Option UInt64) :=
  match entries.lookup key with
  | none => some none
  | some _ => none

def deserialize : Option FileConfig := do
  let dbPath ← stringField entries "db_path"
  let userId ← stringField entries "user_id"
  let deviceId ← stringField entries "device_id"
  let trackers ← stringsField entries "trackers"
  let trackerToken ← stringField entries "tracker_token"
  let relayAddr ← stringField entries "relay_addr"
  let swarmKeyPath ← stringField entries "swarm_key_path"
  let p2pIdentityKeyPath ← stringField entries "p2p_identity_key_path"
  let relayIdentityKeyPath ← stringField entries "relay_identity_key_path"
  let p2pWatchStartJitterSec ← numberField entries "p2p_watch_start_jitter_sec"
  let p2pRequestAttempts ← numberField entries "p2p_request_attempts"
  let p2pRequestTimeoutBaseSec ← numberField entries "p2p_request_timeout_base_sec"
  let p2pRequestTimeoutCapSec ← numberField entries "p2p_request_timeout_cap_sec"
  let p2pRequestBackoffBaseMs ← numberField entries "p2p_request_backoff_base_ms"
  let searchLimitDefault ← numberField entries "search_limit_default"
  let recordIgnoreRegex ← stringField entries "record_ignore_regex"
  return ⟨⟨userId, deviceId, recordIgnoreRegex⟩, dbPath, trackers, trackerToken, relayAddr, swarmKeyPath,
    p2pIdentityKeyPath, relayIdentityKeyPath, p2pWatchStartJitterSec, p2pRequestAttempts,
    p2pRequestTimeoutBaseSec, p2pRequestTimeoutCapSec, p2pRequestBackoffBaseMs, searchLimitDefault⟩

end

/-- `toml::from_str` on the part of TOML that `Toml.read` covers. -/
structure ReadsToml (fromStr : String → Except String FileConfig) : Prop where
  document : ∀ text entries cfg, Toml.read text = .document entries → deserialize entries = some cfg →
    fromStr text = .ok cfg
  invalid : ∀ text, Toml.read text = .invalid → ∃ err, fromStr text = .error err

/-- What `read_to_string` made of the file. -/
inductive FileContent
  | notFound
  | failed (text : String)
  | content (text : String)

def loadFromPath (fromStr : String → Except String FileConfig) (path : String) :
    FileContent → Except Error FileConfig
  | .notFound => .ok .unset
  | .failed text => .error [.message ("read config: " ++ path), .message text]
  | .content content =>
    if (trim content).isEmpty then
      .ok .unset
    else
      match fromStr content with
      | .error text => .error [.message "parse config toml", .message text]
      | .ok cfg => .ok cfg

end Rustory.Config
