import Rustory.Config.File

namespace Rustory.Config

open Foundations

/-- The crates and the part of the standard library that rendering and loading a config rest on.
    `printsPlain` holds of a printable character that does not extend a grapheme. -/
structure InitLibs where
  printsPlain : Char → Bool
  parseMultiaddr : String → Except String Unit
  fromStr : String → Except String FileConfig

structure InitArgs where
  force : Bool
  userId : Option String
  deviceId : Option String
  trackers : List String
  relay : Option String
  trackerToken : Option String

def defaultSwarmKeyPath : String := "~/.config/rustory/swarm.key"
def defaultP2pIdentityKeyPath : String := "~/.config/rustory/identity.key"
def defaultRelayIdentityKeyPath : String := "~/.config/rustory/relay.key"

def resolveTrackers (env : String → Option String) (cli : List String) (cfg : FileConfig) : List String :=
  let rawList :=
    if cli.isEmpty then
      match envNonempty env "RUSTORY_TRACKERS" with
      | some trackers => (trackers.toList.splitOn ',').map String.ofList
      | none => cfg.trackers.getD []
    else
      cli
  (rawList.map trim).filter fun tracker => !tracker.isEmpty

/-- The values that `render_config_toml` decides on. -/
structure InitValues where
  dbPath : String
  userId : Option String
  deviceId : Option String
  trackers : List String
  relayAddr : Option String
  trackerToken : Option String
  swarmKeyPath : String
  p2pIdentityKeyPath : String
  relayIdentityKeyPath : String

def initValues (env : String → Option String) (args : InitArgs) (cfg : FileConfig) (dbPath : String) :
    InitValues where
  dbPath := dbPath
  userId := ((normalizeOptString args.userId).or (normalizeOptString cfg.userId)).or (envNonempty env "USER")
  deviceId := (((normalizeOptString args.deviceId).or (normalizeOptString cfg.deviceId)).or
    (envNonempty env "HOSTNAME")).or (envNonempty env "HOST")
  trackers := resolveTrackers env args.trackers cfg
  relayAddr := ((normalizeOptString args.relay).or (normalizeOptString cfg.relayAddr)).or
    (envNonempty env "RUSTORY_RELAY_ADDR")
  trackerToken := ((normalizeOptString args.trackerToken).or (normalizeOptString cfg.trackerToken)).or
    (envNonempty env "RUSTORY_TRACKER_TOKEN")
  swarmKeyPath := (normalizeOptString cfg.swarmKeyPath).getD defaultSwarmKeyPath
  p2pIdentityKeyPath := (normalizeOptString cfg.p2pIdentityKeyPath).getD defaultP2pIdentityKeyPath
  relayIdentityKeyPath := (normalizeOptString cfg.relayIdentityKeyPath).getD defaultRelayIdentityKeyPath

section

variable (libs : InitLibs)

/-- One character of a `str` under `Debug`. -/
def debugChar (c : Char) : List Char :=
  if c = '\x00' then ['\\', '0']
  else if c = '\t' then ['\\', 't']
  else if c = '\r' then ['\\', 'r']
  else if c = '\n' then ['\\', 'n']
  else if c = '\\' then ['\\', '\\']
  else if c = '"' then ['\\', '"']
  else if libs.printsPlain c then [c]
  else '\\' :: 'u' :: '{' :: Nat.toDigits 16 c.toNat ++ ['}']

/-- `format!("{text:?}")` -/
def debug (text : String) : String := .ofList ('"' :: text.toList.flatMap (debugChar libs) ++ ['"'])

def valueLine (key value : String) : String := key ++ " =" ++ " " ++ debug libs value ++ "\n"

/-- A commented example stands in for a value that is not set. -/
def optionLine (key : String) (value : Option String) (otherwise : String) : String :=
  match value with
  | some value => valueLine libs key value
  | none => otherwise

def trackersLines (trackers : List String) : String :=
  if trackers.isEmpty then
    "# trackers = [\"http://127.0.0.1:8850\"]\n"
  else
    "trackers" ++ " =" ++ " [\n" ++
      (trackers.map fun tracker => "  " ++ debug libs tracker ++ ",\n").foldr (· ++ ·) "" ++ "]\n"

def writeConfig (values : InitValues) : String :=
  "# rustory config.toml\n" ++
  "# generated by `rr init`\n" ++
  "\n" ++
  valueLine libs "db_path" values.dbPath ++
  optionLine libs "user_id" values.userId "# user_id = \"your-user\"\n" ++
  optionLine libs "device_id" values.deviceId "# device_id = \"your-device\"\n" ++
  "\n" ++
  trackersLines libs values.trackers ++
  optionLine libs "relay_addr" values.relayAddr
    "# relay_addr = \"/ip4/127.0.0.1/tcp/4001/p2p/<relay_peer_id>\"\n" ++
  optionLine libs "tracker_token" values.trackerToken "# tracker_token = \"secret\" # optional\n" ++
  "\n" ++
  valueLine libs "swarm_key_path" values.swarmKeyPath ++
  valueLine libs "p2p_identity_key_path" values.p2pIdentityKeyPath ++
  valueLine libs "relay_identity_key_path" values.relayIdentityKeyPath ++
  "\n" ++
  "# p2p_watch_start_jitter_sec = 10 # optional\n" ++
  "# p2p_request_attempts = 3 # optional\n" ++
  "# p2p_request_timeout_base_sec = 5 # optional\n" ++
  "# p2p_request_timeout_cap_sec = 30 # optional\n" ++
  "# p2p_request_backoff_base_ms = 200 # optional\n" ++
  "# search_limit_default = 100000 # optional\n" ++
  "# record_ignore_regex = \"(?i)(password|token|secret)\" # optional\n"

def renderConfigToml (env : String → Option String) (args : InitArgs) (cfg : FileConfig) (dbPath : String) :
    Except Error String :=
  let values := initValues env args cfg dbPath
  match values.relayAddr.map libs.parseMultiaddr with
  | some (.error text) => .error [.message "parse relay multiaddr", .message text]
  | _ => .ok (writeConfig libs values)

end

end Rustory.Config
