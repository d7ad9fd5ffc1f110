import Rustory.Config.Render

namespace Rustory.Config

open Foundations Toml

/-- Control characters are not printable; TOML is read as its grammar says. -/
structure InitLibs.Documented (libs : InitLibs) : Prop where
  controls : ∀ c, libs.printsPlain c = true → 0x20 ≤ c.toNat ∧ c.toNat ≠ 0x7F
  toml : ReadsToml libs.fromStr

/-- A character that `Debug` writes as itself or as an escape that TOML has too: neither `\0` nor
    `\u{..}`. -/
def Survives (libs : InitLibs) (c : Char) : Prop :=
  c ∈ ['\t', '\r', '\n', '\\', '"'] ∨ libs.printsPlain c = true

instance (libs : InitLibs) (c : Char) : Decidable (Survives libs c) := inferInstanceAs (Decidable (_ ∨ _))

def TextSurvives (libs : InitLibs) (text : String) : Prop := Fits (Survives libs) text

/-- The strings that a rendered config holds. -/
def InitValues.strings (values : InitValues) : List String :=
  [values.dbPath] ++ values.userId.toList ++ values.deviceId.toList ++ values.trackers ++
    values.relayAddr.toList ++ values.trackerToken.toList ++
    [values.swarmKeyPath, values.p2pIdentityKeyPath, values.relayIdentityKeyPath]

/-- An empty list of trackers is not written. -/
def trackersField (trackers : List String) : Option (List String) :=
  if trackers.isEmpty then none else some trackers

/-- The config that holds these strings and nothing else. -/
def InitValues.config (values : InitValues) : FileConfig :=
  { FileConfig.unset with
    dbPath := some values.dbPath
    userId := values.userId
    deviceId := values.deviceId
    trackers := trackersField values.trackers
    relayAddr := values.relayAddr
    trackerToken := values.trackerToken
    swarmKeyPath := some values.swarmKeyPath
    p2pIdentityKeyPath := some values.p2pIdentityKeyPath
    relayIdentityKeyPath := some values.relayIdentityKeyPath }

section

variable {libs : InitLibs} {values : InitValues}

/-! The text, line by line. -/

theorem debugChar_encoder (documented : libs.Documented) : Encoder (debugChar libs) (Survives libs) := by
  constructor
  · intro c survives
    unfold debugChar
    split_ifs with nul tab carriage feed backslash mark plain
    · subst nul
      rcases survives with listed | plain
      · simp at listed
      · exact absurd (documented.controls _ plain).1 (by decide)
    · exact .escaped (by rw [tab]; rfl)
    · exact .escaped (by rw [carriage]; rfl)
    · exact .escaped (by rw [feed]; rfl)
    · exact .escaped (by rw [backslash]; rfl)
    · exact .escaped (by rw [mark]; rfl)
    · obtain ⟨least, noDelete⟩ := documented.controls c plain
      apply Encodes.unescaped
      simp [isBasicUnescaped, least, noDelete, mark, backslash]
    · rcases survives with listed | plain'
      · simp [tab, carriage, feed, backslash, mark] at listed
      · exact absurd plain' plain
  · intro c lost
    unfold debugChar
    split_ifs with nul tab carriage feed backslash mark plain
    · exact .escape rfl (by decide) (by decide)
    · exact absurd (Or.inl (by simp [tab])) lost
    · exact absurd (Or.inl (by simp [carriage])) lost
    · exact absurd (Or.inl (by simp [feed])) lost
    · exact absurd (Or.inl (by simp [backslash])) lost
    · exact absurd (Or.inl (by simp [mark])) lost
    · exact absurd (Or.inr plain) lost
    · exact .code rfl

def entry (key : String) (value : Option Value) : List (String × Value) := value.toList.map fun value => (key, value)

def InitValues.entries (values : InitValues) : List (String × Value) :=
  entry "db_path" (some (.string values.dbPath)) ++ entry "user_id" (values.userId.map .string) ++
    entry "device_id" (values.deviceId.map .string) ++
    entry "trackers" ((trackersField values.trackers).map .array) ++
    entry "relay_addr" (values.relayAddr.map .string) ++
    entry "tracker_token" (values.trackerToken.map .string) ++
    entry "swarm_key_path" (some (.string values.swarmKeyPath)) ++
    entry "p2p_identity_key_path" (some (.string values.p2pIdentityKeyPath)) ++
    entry "relay_identity_key_path" (some (.string values.relayIdentityKeyPath))

theorem valueLine_writes (documented : libs.Documented) {key : String} (bare : BareKey key) (value : String) :
    Writes (valueLine libs key value) (TextSurvives libs value) (entry key (some (.string value))) :=
  Writes.pair (debugChar_encoder documented) bare value

theorem optionLine_writes (documented : libs.Documented) {key otherwise : String} (bare : BareKey key)
    (is : isComment otherwise = true) (value : Option String) :
    Writes (optionLine libs key value otherwise) (∀ text ∈ value.toList, TextSurvives libs text)
      (entry key (value.map .string)) := by
  cases value with
  | none =>
    apply (Writes.comment is).congr _ rfl
    simp
  | some text =>
    apply (valueLine_writes documented bare text).congr _ rfl
    simp

theorem trackersLines_writes (documented : libs.Documented) (trackers : List String) :
    Writes (trackersLines libs trackers) (∀ text ∈ trackers, TextSurvives libs text)
      (entry "trackers" ((trackersField trackers).map .array)) := by
  cases trackers with
  | nil =>
    have skipped : Writes "# trackers = [\"http://127.0.0.1:8850\"]\n" True [] :=
      .comment (by decide +kernel)
    exact skipped.congr (by simp) rfl
  | cons tracker rest => exact Writes.strings (debugChar_encoder documented) (by decide +kernel) (tracker :: rest)

theorem writeConfig_writes (documented : libs.Documented) (values : InitValues) :
    Writes (writeConfig libs values) (∀ text ∈ values.strings, TextSurvives libs text) values.entries := by
  have title := @Writes.comment "# rustory config.toml\n" (by decide +kernel)
  have generated := @Writes.comment "# generated by `rr init`\n" (by decide +kernel)
  have dbPath := @valueLine_writes libs documented "db_path" (by decide +kernel) values.dbPath
  have userId := @optionLine_writes libs documented "user_id" "# user_id = \"your-user\"\n" (by decide +kernel)
    (by decide +kernel) values.userId
  have deviceId := @optionLine_writes libs documented "device_id" "# device_id = \"your-device\"\n" (by decide +kernel)
    (by decide +kernel) values.deviceId
  have blank := @Writes.nothing "\n" fun _ => rfl
  have trackers := trackersLines_writes documented values.trackers
  have relayAddr := @optionLine_writes libs documented "relay_addr"
    "# relay_addr = \"/ip4/127.0.0.1/tcp/4001/p2p/<relay_peer_id>\"\n" (by decide +kernel) (by decide +kernel)
    values.relayAddr
  have trackerToken := @optionLine_writes libs documented "tracker_token"
    "# tracker_token = \"secret\" # optional\n" (by decide +kernel) (by decide +kernel) values.trackerToken
  have swarmKey := @valueLine_writes libs documented "swarm_key_path" (by decide +kernel) values.swarmKeyPath
  have identityKey := @valueLine_writes libs documented "p2p_identity_key_path" (by decide +kernel)
    values.p2pIdentityKeyPath
  have relayKey := @valueLine_writes libs documented "relay_identity_key_path" (by decide +kernel)
    values.relayIdentityKeyPath
  have jitter := @Writes.comment "# p2p_watch_start_jitter_sec = 10 # optional\n" (by decide +kernel)
  have attempts := @Writes.comment "# p2p_request_attempts = 3 # optional\n" (by decide +kernel)
  have base := @Writes.comment "# p2p_request_timeout_base_sec = 5 # optional\n" (by decide +kernel)
  have cap := @Writes.comment "# p2p_request_timeout_cap_sec = 30 # optional\n" (by decide +kernel)
  have backoff := @Writes.comment "# p2p_request_backoff_base_ms = 200 # optional\n" (by decide +kernel)
  have limit := @Writes.comment "# search_limit_default = 100000 # optional\n" (by decide +kernel)
  have regex := @Writes.comment "# record_ignore_regex = \"(?i)(password|token|secret)\" # optional\n"
    (by decide +kernel)
  have owner := (((((title.append generated).append blank).append dbPath).append userId).append deviceId).append blank
  have network := (((owner.append trackers).append relayAddr).append trackerToken).append blank
  have keys := (((network.append swarmKey).append identityKey).append relayKey).append blank
  have examples := ((((((keys.append jitter).append attempts).append base).append cap).append backoff).append
    limit).append regex
  apply examples.congr
  · simp only [InitValues.strings, List.forall_mem_append, List.forall_mem_cons, List.not_mem_nil,
      false_implies, implies_true, and_true, true_and, and_assoc]
  · simp only [InitValues.entries, List.append_nil, List.nil_append, List.append_assoc]

/-! What is read from it. -/

theorem entry_keys (key : String) (value : Option Value) : ((entry key value).map Prod.fst).Sublist [key] := by
  cases value <;> simp [entry]

theorem entries_keys (values : InitValues) : (values.entries.map Prod.fst).Nodup := by
  have keys : (values.entries.map Prod.fst).Sublist (["db_path"] ++ ["user_id"] ++ ["device_id"] ++ ["trackers"] ++
      ["relay_addr"] ++ ["tracker_token"] ++ ["swarm_key_path"] ++ ["p2p_identity_key_path"] ++
      ["relay_identity_key_path"]) := by
    unfold InitValues.entries
    simp only [List.map_append]
    exact ((((((((entry_keys _ _).append (entry_keys _ _)).append (entry_keys _ _)).append (entry_keys _ _)).append
      (entry_keys _ _)).append (entry_keys _ _)).append (entry_keys _ _)).append (entry_keys _ _)).append
      (entry_keys _ _)
  exact keys.nodup (by decide)

theorem lookup_entry (key other : String) (value : Option Value) :
    (entry key value).lookup other = if other = key then value else none := by
  cases value with
  | none => simp [entry]
  | some value =>
    by_cases same : other = key
    · simp [entry, same]
    · simp [entry, List.lookup_cons, same, beq_false_of_ne same]

theorem stringField_of_lookup {entries : List (String × Value)} {key : String} {value : Option String}
    (found : entries.lookup key = value.map .string) : stringField entries key = some value := by
  unfold stringField
  rw [found]
  cases value <;> rfl

theorem stringsField_of_lookup {entries : List (String × Value)} {key : String} {items : Option (List String)}
    (found : entries.lookup key = items.map .array) : stringsField entries key = some items := by
  unfold stringsField
  rw [found]
  cases items <;> rfl

theorem numberField_of_lookup {entries : List (String × Value)} {key : String}
    (missing : entries.lookup key = none) : numberField entries key = some none := by
  unfold numberField
  rw [missing]

theorem lookup_entries (values : InitValues) (key : String) :
    values.entries.lookup key =
      ((((((((if key = "db_path" then some (.string values.dbPath) else none).or
        (if key = "user_id" then values.userId.map .string else none)).or
        (if key = "device_id" then values.deviceId.map .string else none)).or
        (if key = "trackers" then (trackersField values.trackers).map .array else none)).or
        (if key = "relay_addr" then values.relayAddr.map .string else none)).or
        (if key = "tracker_token" then values.trackerToken.map .string else none)).or
        (if key = "swarm_key_path" then some (.string values.swarmKeyPath) else none)).or
        (if key = "p2p_identity_key_path" then some (.string values.p2pIdentityKeyPath) else none)).or
        (if key = "relay_identity_key_path" then some (.string values.relayIdentityKeyPath) else none) := by
  simp only [InitValues.entries, List.lookup_append, lookup_entry]

theorem deserialize_entries (values : InitValues) : deserialize values.entries = some values.config := by
  have string {key : String} {value : Option String} (found : values.entries.lookup key = value.map .string) :
      stringField values.entries key = some value := stringField_of_lookup found
  have number {key : String} (missing : values.entries.lookup key = none) :
      numberField values.entries key = some none := numberField_of_lookup missing
  have trackers : stringsField values.entries "trackers" = some (trackersField values.trackers) :=
    stringsField_of_lookup (by simp [lookup_entries])
  have dbPath : stringField values.entries "db_path" = some (some values.dbPath) :=
    string (by simp [lookup_entries])
  have userId : stringField values.entries "user_id" = some values.userId :=
    string (by simp [lookup_entries])
  have deviceId : stringField values.entries "device_id" = some values.deviceId :=
    string (by simp [lookup_entries])
  have trackerToken : stringField values.entries "tracker_token" = some values.trackerToken :=
    string (by simp [lookup_entries])
  have relayAddr : stringField values.entries "relay_addr" = some values.relayAddr :=
    string (by simp [lookup_entries])
  have swarmKeyPath : stringField values.entries "swarm_key_path" = some (some values.swarmKeyPath) :=
    string (by simp [lookup_entries])
  have p2pIdentityKeyPath : stringField values.entries "p2p_identity_key_path" =
      some (some values.p2pIdentityKeyPath) := string (by simp [lookup_entries])
  have relayIdentityKeyPath : stringField values.entries "relay_identity_key_path" =
      some (some values.relayIdentityKeyPath) := string (by simp [lookup_entries])
  have recordIgnoreRegex : stringField values.entries "record_ignore_regex" = some none :=
    string (by simp [lookup_entries])
  have number : ∀ key ∈ ["p2p_watch_start_jitter_sec", "p2p_request_attempts", "p2p_request_timeout_base_sec",
      "p2p_request_timeout_cap_sec", "p2p_request_backoff_base_ms", "search_limit_default"],
      numberField values.entries key = some none := by
    intro key listed
    apply numberField_of_lookup
    simp only [List.mem_cons, List.not_mem_nil, or_false] at listed
    rcases listed with rfl | rfl | rfl | rfl | rfl | rfl <;> simp [lookup_entries]
  unfold deserialize
  rw [dbPath, userId, deviceId, trackers, trackerToken, relayAddr, swarmKeyPath, p2pIdentityKeyPath,
    relayIdentityKeyPath, number _ (by decide), number _ (by decide), number _ (by decide),
    number _ (by decide), number _ (by decide), number _ (by decide), recordIgnoreRegex]
  rfl

theorem writeConfig_visible (libs : InitLibs) (values : InitValues) :
    (trim (writeConfig libs values)).isEmpty = false := by
  have title : Visible "# rustory config.toml\n" := ⟨'#', by decide, by decide⟩
  apply Visible.trim
  unfold writeConfig
  repeat apply Visible.append
  exact title

theorem writeConfig_loaded (documented : libs.Documented) (values : InitValues) (path : String) :
    ((∀ text ∈ values.strings, TextSurvives libs text) →
      loadFromPath libs.fromStr path (.content (writeConfig libs values)) = .ok values.config) ∧
    (¬ (∀ text ∈ values.strings, TextSurvives libs text) →
      ∃ err, loadFromPath libs.fromStr path (.content (writeConfig libs values)) = .error err) := by
  obtain ⟨document, invalid⟩ := (writeConfig_writes documented values).read (entries_keys values)
  simp only [loadFromPath, writeConfig_visible, Bool.false_eq_true, if_false]
  constructor
  · intro survive
    rw [documented.toml.document _ _ _ (document survive) (deserialize_entries values)]
  · intro lost
    obtain ⟨err, failed⟩ := documented.toml.invalid _ (invalid lost)
    rw [failed]
    exact ⟨_, rfl⟩

end

/-- The rendered text is TOML, and loading it gives exactly these values. -/
structure ReadsBack (libs : InitLibs) (path text : String) (values : InitValues) : Prop where
  valid : ∃ entries, Toml.read text = .document entries
  loaded : loadFromPath libs.fromStr path (.content text) = .ok values.config

theorem writeConfig_readsBack {libs : InitLibs} (documented : libs.Documented) (values : InitValues)
    (path : String) :
    ReadsBack libs path (writeConfig libs values) values ↔ ∀ text ∈ values.strings, TextSurvives libs text := by
  obtain ⟨loads, fails⟩ := writeConfig_loaded documented values path
  constructor
  · intro ⟨_, loaded⟩
    by_contra lost
    obtain ⟨err, failed⟩ := fails lost
    rw [failed] at loaded
    cases loaded
  · intro survive
    have valid := ((writeConfig_writes documented values).read (entries_keys values)).1 survive
    exact ⟨⟨_, valid⟩, loads survive⟩

theorem renderConfigToml_noRelay {libs : InitLibs} {env : String → Option String} {args : InitArgs}
    {cfg : FileConfig} {dbPath : String} (none : (initValues env args cfg dbPath).relayAddr = none) :
    renderConfigToml libs env args cfg dbPath = .ok (writeConfig libs (initValues env args cfg dbPath)) := by
  unfold renderConfigToml
  dsimp only
  rw [none]
  rfl

theorem renderConfigToml_ok {libs : InitLibs} {env : String → Option String} {args : InitArgs} {cfg : FileConfig}
    {dbPath text : String} (rendered : renderConfigToml libs env args cfg dbPath = .ok text) :
    text = writeConfig libs (initValues env args cfg dbPath) := by
  unfold renderConfigToml at rendered
  dsimp only at rendered
  split at rendered
  · cases rendered
  · exact (Except.ok.inj rendered).symm

theorem config_reads_back_iff (libs : InitLibs) (documented : libs.Documented) (env : String → Option String)
    (args : InitArgs) (cfg : FileConfig) (dbPath text path : String)
    (rendered : renderConfigToml libs env args cfg dbPath = .ok text) :
    ReadsBack libs path text (initValues env args cfg dbPath) ↔
      ∀ written ∈ (initValues env args cfg dbPath).strings, TextSurvives libs written := by
  rw [renderConfigToml_ok rendered]
  exact writeConfig_readsBack documented _ path

/-! A config for one device. -/

/-- Only ASCII prints plainly, as is right for the strings below. -/
def asciiLibs : InitLibs where
  printsPlain c := 0x20 ≤ c.toNat && c.toNat ≤ 0x7E
  parseMultiaddr _ := .error "invalid multiaddr"
  fromStr text :=
    match Toml.read text with
    | .document entries =>
      match deserialize entries with
      | some cfg => .ok cfg
      | none => .error "invalid type"
    | _ => .error "TOML parse error"

def deviceArgs (deviceId : String) : InitArgs :=
  ⟨false, some "u1", some deviceId, ["http://127.0.0.1:8850"], none, none⟩

theorem asciiLibs_documented : asciiLibs.Documented := by
  constructor
  · intro c plain
    simp only [asciiLibs, Bool.and_eq_true, decide_eq_true_eq] at plain
    omega
  · constructor
    · intro text entries cfg document deserialized
      simp only [asciiLibs, document, deserialized]
    · intro text invalid
      simp only [asciiLibs, invalid]
      exact ⟨_, rfl⟩

theorem config_reads_back_iff_echo :
    ReadsBack asciiLibs "~/.config/rustory/config.toml"
        (writeConfig asciiLibs (initValues (fun _ => none) (deviceArgs "dev\\1") .unset "/tmp/x.db"))
        (initValues (fun _ => none) (deviceArgs "dev\\1") .unset "/tmp/x.db") ↔
      ∀ written ∈ (initValues (fun _ => none) (deviceArgs "dev\\1") .unset "/tmp/x.db").strings,
        TextSurvives asciiLibs written :=
  config_reads_back_iff asciiLibs asciiLibs_documented (fun _ => none) (deviceArgs "dev\\1") .unset "/tmp/x.db" _
    "~/.config/rustory/config.toml" (renderConfigToml_noRelay rfl)

/-- A letter with a combining accent is rendered as `\u{301}`, and the config does not load. -/
theorem accent_is_not_read_back :
    renderConfigToml asciiLibs (fun _ => none) (deviceArgs "cafe\u0301") .unset "/tmp/x.db" =
        .ok (writeConfig asciiLibs (initValues (fun _ => none) (deviceArgs "cafe\u0301") .unset "/tmp/x.db")) ∧
      ¬ ReadsBack asciiLibs "~/.config/rustory/config.toml"
        (writeConfig asciiLibs (initValues (fun _ => none) (deviceArgs "cafe\u0301") .unset "/tmp/x.db"))
        (initValues (fun _ => none) (deviceArgs "cafe\u0301") .unset "/tmp/x.db") := by
  constructor
  · exact renderConfigToml_noRelay rfl
  · rw [writeConfig_readsBack asciiLibs_documented]
    intro survive
    have device : normalizeOptString (some "cafe\u0301") = some "cafe\u0301" := by decide
    have written : "cafe\u0301" ∈
        (initValues (fun _ => none) (deviceArgs "cafe\u0301") .unset "/tmp/x.db").strings := by
      simp [InitValues.strings, initValues, deviceArgs, device]
    have accent := survive _ written '\u0301' (by decide)
    exact absurd accent (by decide)

end Rustory.Config
