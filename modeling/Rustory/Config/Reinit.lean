import Rustory.Config.ReadBack

namespace Rustory.Config

open Foundations

/-! `rr init --force` over a config file. -/

def forceOnly : InitArgs := ⟨true, none, none, [], none, none⟩

def defaultDbPath : String := "~/.rustory/history.db"

/-- `db_path` in `run`, from `--db-path`, the environment and the config. -/
def resolveDbPath (env : String → Option String) (dbPath : Option String) (cfg : FileConfig) : String :=
  (((normalizeOptString dbPath).or (envNonempty env "RUSTORY_DB_PATH")).or
    (normalizeOptString cfg.dbPath)).getD defaultDbPath

def NoRustoryVars (env : String → Option String) : Prop :=
  ∀ key, startsWith key "RUSTORY_" = true → env key = none

def reinitValues (env : String → Option String) (cfg : FileConfig) : InitValues :=
  initValues env forceOnly cfg (resolveDbPath env none cfg)

def NonBlank (text : String) : Prop := (trim text).isEmpty = false

instance (text : String) : Decidable (NonBlank text) := inferInstanceAs (Decidable (_ = _))

/-- A field that is set to something is set to the same afterwards. -/
def Keeps {α : Type} (set : α → Prop) (before after : Option α) : Prop :=
  ∀ value, before = some value → set value → after = some value

structure KeepsSettings (cfg loaded : FileConfig) : Prop where
  dbPath : Keeps NonBlank cfg.dbPath loaded.dbPath
  userId : Keeps NonBlank cfg.userId loaded.userId
  deviceId : Keeps NonBlank cfg.deviceId loaded.deviceId
  trackers : Keeps (fun trackers => ∃ tracker ∈ trackers, NonBlank tracker) cfg.trackers loaded.trackers
  trackerToken : Keeps NonBlank cfg.trackerToken loaded.trackerToken
  relayAddr : Keeps NonBlank cfg.relayAddr loaded.relayAddr
  swarmKeyPath : Keeps NonBlank cfg.swarmKeyPath loaded.swarmKeyPath
  p2pIdentityKeyPath : Keeps NonBlank cfg.p2pIdentityKeyPath loaded.p2pIdentityKeyPath
  relayIdentityKeyPath : Keeps NonBlank cfg.relayIdentityKeyPath loaded.relayIdentityKeyPath
  p2pWatchStartJitterSec : Keeps (fun _ => True) cfg.p2pWatchStartJitterSec loaded.p2pWatchStartJitterSec
  p2pRequestAttempts : Keeps (fun _ => True) cfg.p2pRequestAttempts loaded.p2pRequestAttempts
  p2pRequestTimeoutBaseSec : Keeps (fun _ => True) cfg.p2pRequestTimeoutBaseSec loaded.p2pRequestTimeoutBaseSec
  p2pRequestTimeoutCapSec : Keeps (fun _ => True) cfg.p2pRequestTimeoutCapSec loaded.p2pRequestTimeoutCapSec
  p2pRequestBackoffBaseMs : Keeps (fun _ => True) cfg.p2pRequestBackoffBaseMs loaded.p2pRequestBackoffBaseMs
  searchLimitDefault : Keeps (fun _ => True) cfg.searchLimitDefault loaded.searchLimitDefault
  recordIgnoreRegex : Keeps NonBlank cfg.recordIgnoreRegex loaded.recordIgnoreRegex

/-- Blank, or without white space around it. -/
def Trimmed (value : Option String) : Prop := ∀ text, value = some text → NonBlank text → trim text = text

/-- The config sets nothing that `render_config_toml` does not write, and what it sets is in the
    form in which it is written. -/
structure Rewritable (cfg : FileConfig) : Prop where
  trimmed : ∀ value ∈ [cfg.dbPath, cfg.userId, cfg.deviceId, cfg.trackerToken, cfg.relayAddr, cfg.swarmKeyPath,
    cfg.p2pIdentityKeyPath, cfg.relayIdentityKeyPath], Trimmed value
  trackers : ∀ trackers, cfg.trackers = some trackers → (∃ tracker ∈ trackers, NonBlank tracker) →
    ∀ tracker ∈ trackers, NonBlank tracker ∧ trim tracker = tracker
  numbers : ∀ number ∈ [cfg.p2pWatchStartJitterSec, cfg.p2pRequestAttempts, cfg.p2pRequestTimeoutBaseSec,
    cfg.p2pRequestTimeoutCapSec, cfg.p2pRequestBackoffBaseMs, cfg.searchLimitDefault], number = none
  regex : ∀ pattern, cfg.recordIgnoreRegex = some pattern → ¬ NonBlank pattern

section

variable {env : String → Option String} {cfg : FileConfig}

theorem NoRustoryVars.unset (clean : NoRustoryVars env) {key : String}
    (rustory : startsWith key "RUSTORY_" = true) : envNonempty env key = none := by
  unfold envNonempty
  rw [clean key rustory]
  rfl

theorem normalizeOptString_some {text : String} (nonBlank : NonBlank text) :
    normalizeOptString (some text) = some (trim text) := by
  unfold NonBlank at nonBlank
  simp [normalizeOptString, nonBlank]

/-- A field that is written from the config, or else from somewhere else. -/
theorem keeps_normalized {before other after : Option String}
    (written : after = (normalizeOptString before).or other) : Keeps NonBlank before after ↔ Trimmed before := by
  unfold Keeps Trimmed
  constructor
  · intro keeps text given nonBlank
    have same := keeps text given nonBlank
    rw [written, given, normalizeOptString_some nonBlank] at same
    exact Option.some.inj same
  · intro trimmed text given nonBlank
    rw [written, given, normalizeOptString_some nonBlank, trimmed text given nonBlank]
    rfl

theorem keeps_none {α : Type} {set : α → Prop} {before : Option α} :
    Keeps set before none ↔ ∀ value, before = some value → ¬ set value := by
  simp [Keeps]

theorem keeps_nothing {α : Type} {before : Option α} : Keeps (fun _ => True) before none ↔ before = none := by
  rw [keeps_none]
  cases before <;> simp

theorem cleaned_iff {trackers : List String} :
    ((trackers.map trim).filter fun tracker => !tracker.isEmpty) = trackers ↔
      ∀ tracker ∈ trackers, NonBlank tracker ∧ trim tracker = tracker := by
  constructor
  · intro same
    have all : ∀ tracker ∈ trackers.map trim, (!tracker.isEmpty) = true := by
      apply List.length_filter_eq_length_iff.mp
      rw [same, List.length_map]
    rw [List.filter_eq_self.mpr all, ← List.map_id trackers, List.map_map, List.map_inj_left] at same
    intro tracker member
    have shown := all _ (List.mem_map_of_mem member)
    rw [Bool.not_eq_true'] at shown
    exact ⟨shown, same tracker member⟩
  · intro clean
    have fixed : trackers.map trim = trackers := by
      rw [← List.map_id trackers, List.map_map, List.map_inj_left]
      exact fun tracker member => (clean tracker member).2
    rw [fixed, List.filter_eq_self]
    intro tracker member
    obtain ⟨shown, same⟩ := clean tracker member
    unfold NonBlank at shown
    rw [same] at shown
    rw [shown]
    rfl

theorem trackersField_some {trackers before : List String} (nonempty : before ≠ []) :
    trackersField trackers = some before ↔ trackers = before := by
  unfold trackersField
  cases trackers with
  | nil => simp [Ne.symm nonempty]
  | cons => simp

theorem keeps_trackers (clean : NoRustoryVars env) :
    Keeps (fun trackers => ∃ tracker ∈ trackers, NonBlank tracker) cfg.trackers
        (trackersField (resolveTrackers env [] cfg)) ↔
      ∀ trackers, cfg.trackers = some trackers → (∃ tracker ∈ trackers, NonBlank tracker) →
        ∀ tracker ∈ trackers, NonBlank tracker ∧ trim tracker = tracker := by
  have resolved : resolveTrackers env [] cfg =
      ((cfg.trackers.getD []).map trim).filter fun tracker => !tracker.isEmpty := by
    have unset := clean.unset (show startsWith "RUSTORY_TRACKERS" "RUSTORY_" = true by decide)
    simp [resolveTrackers, unset]
  unfold Keeps
  rw [resolved]
  apply forall_congr'
  intro trackers
  apply forall_congr'
  intro given
  apply forall_congr'
  intro ⟨tracker, member, _⟩
  rw [trackersField_some (List.ne_nil_of_mem member), given, Option.getD_some, cleaned_iff]

/-- What a rendered config keeps, where it can be read at all. -/
theorem keepsSettings_iff (clean : NoRustoryVars env) (cfg : FileConfig) :
    KeepsSettings cfg (reinitValues env cfg).config ↔ Rewritable cfg := by
  have dbPath : (reinitValues env cfg).config.dbPath = (normalizeOptString cfg.dbPath).or (some defaultDbPath) := by
    have unset := clean.unset (show startsWith "RUSTORY_DB_PATH" "RUSTORY_" = true by decide)
    show some (resolveDbPath env none cfg) = _
    rw [Option.or_some, resolveDbPath, unset]
    rfl
  have trackers := @keeps_trackers env cfg clean
  constructor
  · intro keeps
    constructor
    · simp only [List.forall_mem_cons]
      exact ⟨(keeps_normalized dbPath).mp keeps.dbPath, (keeps_normalized rfl).mp keeps.userId,
        (keeps_normalized (Option.or_assoc ..)).mp keeps.deviceId, (keeps_normalized rfl).mp keeps.trackerToken,
        (keeps_normalized rfl).mp keeps.relayAddr, (keeps_normalized Option.or_some.symm).mp keeps.swarmKeyPath,
        (keeps_normalized Option.or_some.symm).mp keeps.p2pIdentityKeyPath,
        (keeps_normalized Option.or_some.symm).mp keeps.relayIdentityKeyPath, by simp⟩
    · exact trackers.mp keeps.trackers
    · simp only [List.forall_mem_cons]
      exact ⟨keeps_nothing.mp keeps.p2pWatchStartJitterSec, keeps_nothing.mp keeps.p2pRequestAttempts,
        keeps_nothing.mp keeps.p2pRequestTimeoutBaseSec, keeps_nothing.mp keeps.p2pRequestTimeoutCapSec,
        keeps_nothing.mp keeps.p2pRequestBackoffBaseMs, keeps_nothing.mp keeps.searchLimitDefault, by simp⟩
    · exact keeps_none.mp keeps.recordIgnoreRegex
  · intro ⟨trimmed, listed, numbers, regex⟩
    simp only [List.forall_mem_cons] at trimmed numbers
    obtain ⟨db, user, device, token, relay, swarm, identity, relayKey, -⟩ := trimmed
    obtain ⟨jitter, attempts, base, cap, backoff, limit, -⟩ := numbers
    exact {
      dbPath := (keeps_normalized dbPath).mpr db
      userId := (keeps_normalized rfl).mpr user
      deviceId := (keeps_normalized (Option.or_assoc ..)).mpr device
      trackers := trackers.mpr listed
      trackerToken := (keeps_normalized rfl).mpr token
      relayAddr := (keeps_normalized rfl).mpr relay
      swarmKeyPath := (keeps_normalized Option.or_some.symm).mpr swarm
      p2pIdentityKeyPath := (keeps_normalized Option.or_some.symm).mpr identity
      relayIdentityKeyPath := (keeps_normalized Option.or_some.symm).mpr relayKey
      p2pWatchStartJitterSec := keeps_nothing.mpr jitter
      p2pRequestAttempts := keeps_nothing.mpr attempts
      p2pRequestTimeoutBaseSec := keeps_nothing.mpr base
      p2pRequestTimeoutCapSec := keeps_nothing.mpr cap
      p2pRequestBackoffBaseMs := keeps_nothing.mpr backoff
      searchLimitDefault := keeps_nothing.mpr limit
      recordIgnoreRegex := keeps_none.mpr regex }

/-- A config that loads is the one that was rendered. -/
theorem reinit_loads_iff {libs : InitLibs} (documented : libs.Documented) (clean : NoRustoryVars env)
    (cfg : FileConfig) (path : String) :
    (∃ loaded, loadFromPath libs.fromStr path (.content (writeConfig libs (reinitValues env cfg))) = .ok loaded ∧
        KeepsSettings cfg loaded) ↔
      Rewritable cfg ∧ ∀ written ∈ (reinitValues env cfg).strings, TextSurvives libs written := by
  obtain ⟨loads, fails⟩ := writeConfig_loaded documented (reinitValues env cfg) path
  rw [← keepsSettings_iff clean cfg]
  constructor
  · intro ⟨loaded, read, keeps⟩
    have survive : ∀ written ∈ (reinitValues env cfg).strings, TextSurvives libs written := by
      by_contra lost
      obtain ⟨err, failed⟩ := fails lost
      rw [failed] at read
      cases read
    rw [loads survive] at read
    cases read
    exact ⟨keeps, survive⟩
  · intro ⟨keeps, survive⟩
    exact ⟨_, loads survive, keeps⟩

end

theorem reinit_keeps_iff (libs : InitLibs) (documented : libs.Documented) (env : String → Option String)
    (clean : NoRustoryVars env) (cfg : FileConfig) (text path : String)
    (rendered : renderConfigToml libs env forceOnly cfg (resolveDbPath env none cfg) = .ok text) :
    (∃ loaded, loadFromPath libs.fromStr path (.content text) = .ok loaded ∧ KeepsSettings cfg loaded) ↔
      Rewritable cfg ∧ ∀ written ∈ (reinitValues env cfg).strings, TextSurvives libs written := by
  rw [renderConfigToml_ok rendered]
  exact reinit_loads_iff documented clean cfg path

/-- A config with a token that `init` writes, and a filter for secrets that it does not. -/
def filteredConfig : FileConfig :=
  { FileConfig.unset with trackerToken := some "t1", recordIgnoreRegex := some "(?i)(password|token|secret)" }

def userOnly (key : String) : Option String := if key = "USER" then some "u1" else none

theorem userOnly_clean : NoRustoryVars userOnly := by
  intro key rustory
  unfold userOnly
  apply if_neg
  rintro rfl
  cases rustory

theorem reinit_keeps_iff_echo :
    (∃ loaded, loadFromPath asciiLibs.fromStr "~/.config/rustory/config.toml"
          (.content (writeConfig asciiLibs (reinitValues userOnly filteredConfig))) = .ok loaded ∧
        KeepsSettings filteredConfig loaded) ↔
      Rewritable filteredConfig ∧
        ∀ written ∈ (reinitValues userOnly filteredConfig).strings, TextSurvives asciiLibs written :=
  reinit_keeps_iff asciiLibs asciiLibs_documented userOnly userOnly_clean filteredConfig _
    "~/.config/rustory/config.toml" (renderConfigToml_noRelay rfl)

/-- Initialising again writes the filter only as a comment, so it is lost. -/
theorem reinit_drops_filter :
    renderConfigToml asciiLibs userOnly forceOnly filteredConfig (resolveDbPath userOnly none filteredConfig) =
        .ok (writeConfig asciiLibs (reinitValues userOnly filteredConfig)) ∧
      ¬ ∃ loaded, loadFromPath asciiLibs.fromStr "~/.config/rustory/config.toml"
          (.content (writeConfig asciiLibs (reinitValues userOnly filteredConfig))) = .ok loaded ∧
        KeepsSettings filteredConfig loaded := by
  constructor
  · exact renderConfigToml_noRelay rfl
  · rw [reinit_loads_iff asciiLibs_documented userOnly_clean]
    intro ⟨⟨_, _, _, regex⟩, _⟩
    exact regex _ rfl (by decide)

end Rustory.Config
