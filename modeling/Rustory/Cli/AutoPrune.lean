import Rustory.Cli.AsyncUpload
import Rustory.Cli.RequestRetry
import Rustory.Sync.PruneRace

namespace Rustory

open Foundations LocalStore Config

/-! The settings of the auto prune. -/

/-- A number that the settings do not let be 0. -/
structure AtLeastOne where
  value : UInt64
  positive : value ≠ 0

def defaultAutoPruneDays : AtLeastOne := ⟨180, by decide⟩

def defaultAutoPruneIntervalSec : AtLeastOne := ⟨86400, by decide⟩

def defaultAutoPruneKeepRecent : UInt64 := 0

def defaultAutoPruneMarkerPath : String := "~/.config/rustory/auto-prune.last"

structure AutoPruneSettings where
  olderThanDays : AtLeastOne
  keepRecent : UInt64
  minIntervalSec : AtLeastOne
  markerPath : String

/-- `Path::join`, where an absolute path replaces the one it is joined to. -/
def joinPath (base rest : String) : String :=
  if startsWith rest "/" then
    rest
  else if base.isEmpty || base.toList.getLast? == some '/' then
    base ++ rest
  else
    base ++ "/" ++ rest

section

variable (libs : InitLibs) (env : String → Option String)

def expandHomePath (path : String) : Except Error String :=
  match stripStart "~/" path with
  | none => .ok path
  | some rest =>
    match env "HOME" with
    | none => .error (bail "HOME env var not set")
    | some home => .ok (joinPath home rest)

def parseEnvBool (value label : String) : Except Error Bool :=
  let lower := String.ofList ((trim value).toList.map Char.toLower)
  if ["1", "true", "yes", "on"].contains lower then
    .ok true
  else if ["0", "false", "no", "off"].contains lower then
    .ok false
  else
    .error (bail ("invalid " ++ label ++ "=" ++ debug libs value ++
      "; expected one of 1/0/true/false/yes/no/on/off"))

def resolveAutoPruneEnabled : Except Error Bool :=
  match envNonempty env "RUSTORY_AUTO_PRUNE" with
  | none => .ok false
  | some raw => parseEnvBool libs raw "RUSTORY_AUTO_PRUNE"

def resolveAtLeastOne (key : String) (otherwise : AtLeastOne) : Except Error AtLeastOne :=
  match envNonempty env key with
  | none => .ok otherwise
  | some raw => do
    let parsed ← parseSetting libs key raw
    if zero : parsed = 0 then
      .error (bail (key ++ " must be >= 1"))
    else
      .ok ⟨parsed, zero⟩

def resolveAutoPruneDays : Except Error AtLeastOne :=
  resolveAtLeastOne libs env "RUSTORY_AUTO_PRUNE_DAYS" defaultAutoPruneDays

def resolveAutoPruneIntervalSec : Except Error AtLeastOne :=
  resolveAtLeastOne libs env "RUSTORY_AUTO_PRUNE_INTERVAL_SEC" defaultAutoPruneIntervalSec

def resolveAutoPruneKeepRecent : Except Error UInt64 :=
  match envNonempty env "RUSTORY_AUTO_PRUNE_KEEP_RECENT" with
  | none => .ok defaultAutoPruneKeepRecent
  | some raw => parseSetting libs "RUSTORY_AUTO_PRUNE_KEEP_RECENT" raw

def resolveAutoPruneMarkerPath : String :=
  (envNonempty env "RUSTORY_AUTO_PRUNE_MARKER_PATH").getD defaultAutoPruneMarkerPath

/-- What `maybe_run_auto_prune` reads before the clock; `none` where it is not enabled. -/
def resolveAutoPrune : Except Error (Option AutoPruneSettings) := do
  let enabled ← resolveAutoPruneEnabled libs env
  if !enabled then
    return none
  let olderThanDays ← resolveAutoPruneDays libs env
  let keepRecent ← resolveAutoPruneKeepRecent libs env
  let minIntervalSec ← resolveAutoPruneIntervalSec libs env
  let markerPath ← expandHomePath env (resolveAutoPruneMarkerPath env)
  return some ⟨olderThanDays, keepRecent, minIntervalSec, markerPath⟩

end

def computePruneCutoffUnix (nowUnix : Int) (olderThanDays : UInt64) : Except Error Int :=
  if olderThanDays = 0 then
    .error (bail "--older-than-days must be >= 1")
  else if maxI64 < olderThanDays.toNat then
    .error ((bail "out of range integral type conversion attempted").context "older-than-days is too large")
  else
    -- checked_mul(86_400)
    let retentionSec : Int := olderThanDays.toNat * 86400
    if maxI64 < retentionSec then
      .error (bail "older-than-days is too large")
    else if nowUnix - retentionSec < minI64 then
      .error (bail "failed to compute prune cutoff")
    else
      .ok (nowUnix - retentionSec)

theorem computePruneCutoffUnix_ok {nowUnix cutoffUnix : Int} {olderThanDays : UInt64}
    (computed : computePruneCutoffUnix nowUnix olderThanDays = .ok cutoffUnix) :
    cutoffUnix = nowUnix - olderThanDays.toNat * 86400 := by
  simp only [computePruneCutoffUnix] at computed
  split at computed
  · cases computed
  · split at computed
    · cases computed
    · split at computed
      · cases computed
      · split at computed
        · cases computed
        · cases computed
          rfl

/-! The processes that prune: `rr record` with the auto prune on, and `rr prune`. -/

inductive Pruner
  | idle
  | resolving (env : String → Option String)
  | readingClock (settings : AutoPruneSettings)
  | readingMarker (settings : AutoPruneSettings) (nowUnix : Int)
  | deciding (settings : AutoPruneSettings) (nowUnix : Int) (lastTriggerUnix : Option Int)
  | commanded (olderThanDays keepRecent : UInt64) (dryRun : Bool)
  /-- The settings are those of an auto prune. -/
  | pruning (settings : Option AutoPruneSettings) (nowUnix : Int) (state : PruneState)
  | openingMarker (settings : AutoPruneSettings) (nowUnix : Int)
  | writingMarker (settings : AutoPruneSettings) (nowUnix : Int)
  | returned (result : Except Error Unit)

/-- What an auto prune knew when its statement that deletes, or finds nothing to delete, had run. -/
structure PruneDone where
  markerPath : String
  nowUnix : Int
  olderThanDays : AtLeastOne
  keepFloorSeq : Option Int
  pushedFloorSeq : Option Int
  sequence : Int

def PruneDone.cutoffUnix (done : PruneDone) : Int := done.nowUnix - done.olderThanDays.value.toNat * 86400

/-- The floors of a prune whose next statement is its last. -/
def PruneState.finishing (store : LocalStore) : PruneState → Option (Option Int × Option Int)
  | .floorsRead call keepFloorSeq pushedFloorSeq =>
    if store.pruneCount (pruneSelects call.cutoffUnix keepFloorSeq pushedFloorSeq) = 0 then
      some (keepFloorSeq, pushedFloorSeq)
    else
      none
  | .counted _ keepFloorSeq pushedFloorSeq _ => some (keepFloorSeq, pushedFloorSeq)
  | _ => none

/-- The database with its push sessions, the marker files by their path, the latest clock reading,
    the processes by their pid, and the auto prunes that have run. -/
structure PruneHost where
  push : PushWorld Nat
  files : String → Option String
  clock : Int
  pruners : Nat → Pruner
  done : List PruneDone

inductive PruneHostAction
  | push (action : PushAction Nat)
  | starts (pid : Nat) (pruner : Pruner)
  | step (pid : Nat)
  | dies (pid : Nat)

namespace PruneHost

def moves (host : PruneHost) (pid : Nat) (next : Pruner) : PruneHost :=
  { host with pruners := Function.update host.pruners pid next }

def withStore (host : PruneHost) (store : LocalStore) : PruneHost :=
  { host with push := { host.push with store := store } }

def writes (host : PruneHost) (path content : String) : PruneHost :=
  { host with files := Function.update host.files path (some content) }

/-- The auto prunes that have run, once this statement has. -/
def doneAfter (host : PruneHost) (settings : Option AutoPruneSettings) (nowUnix : Int) (state : PruneState) :
    List PruneDone :=
  match settings, state.finishing host.push.store with
  | some settings, some (keepFloorSeq, pushedFloorSeq) =>
    ⟨settings.markerPath, nowUnix, settings.olderThanDays, keepFloorSeq, pushedFloorSeq,
      host.push.store.entries.sequence⟩ :: host.done
  | _, _ => host.done

/-- One statement of `prune_entries_older_than`. -/
def stepPrune (host : PruneHost) (pid : Nat) (settings : Option AutoPruneSettings) (nowUnix : Int)
    (state : PruneState) : PruneHost :=
  { (host.withStore (state.step host.push.store).1).moves pid
      (.pruning settings nowUnix (state.step host.push.store).2) with
    done := host.doneAfter settings nowUnix state }

/-- The next step of a process, at the time `nowUtc`; a step that reads or writes a file or the
    database may fail. -/
def step (libs : InitLibs) (host : PruneHost) (pid : Nat) (nowUtc : OffsetDateTime) (fault : Option Error) :
    PruneHost :=
  match host.pruners pid, fault with
  | .idle, _ => host
  | .resolving env, _ =>
    match resolveAutoPrune libs env with
    | .error err => host.moves pid (.returned (.error err))
    | .ok none => host.moves pid (.returned (.ok ()))
    | .ok (some settings) => host.moves pid (.readingClock settings)
  | .readingClock settings, _ =>
    { host.moves pid (.readingMarker settings nowUtc.unixTimestamp) with clock := nowUtc.unixTimestamp }
  | .readingMarker _ _, some err => host.moves pid (.returned (.error err))
  | .readingMarker settings nowUnix, none =>
    match readRateLimitMarker settings.markerPath (host.files settings.markerPath) with
    | .error err => host.moves pid (.returned (.error err))
    | .ok lastTriggerUnix => host.moves pid (.deciding settings nowUnix lastTriggerUnix)
  | .deciding settings nowUnix lastTriggerUnix, _ =>
    if !shouldTriggerInterval nowUnix lastTriggerUnix settings.minIntervalSec.value then
      host.moves pid (.returned (.ok ()))
    else
      match computePruneCutoffUnix nowUnix settings.olderThanDays.value with
      | .error err => host.moves pid (.returned (.error err))
      | .ok cutoffUnix =>
        host.moves pid (.pruning (some settings) nowUnix (.started ⟨cutoffUnix, settings.keepRecent, false⟩))
  | .commanded olderThanDays keepRecent dryRun, _ =>
    match computePruneCutoffUnix nowUtc.unixTimestamp olderThanDays with
    | .error err => { host.moves pid (.returned (.error err)) with clock := nowUtc.unixTimestamp }
    | .ok cutoffUnix =>
      { host.moves pid (.pruning none nowUtc.unixTimestamp (.started ⟨cutoffUnix, keepRecent, dryRun⟩)) with
        clock := nowUtc.unixTimestamp }
  | .pruning none _ (.returned _), _ => host.moves pid (.returned (.ok ()))
  | .pruning (some settings) nowUnix (.returned _), _ => host.moves pid (.openingMarker settings nowUnix)
  | .pruning _ _ _, some err => host.moves pid (.returned (.error err))
  | .pruning settings nowUnix state, none => host.stepPrune pid settings nowUnix state
  | .openingMarker _ _, some err => host.moves pid (.returned (.error err))
  -- fs::write truncates the file before it writes
  | .openingMarker settings nowUnix, none =>
    (host.writes settings.markerPath "").moves pid (.writingMarker settings nowUnix)
  | .writingMarker _ _, some err => host.moves pid (.returned (.error err))
  | .writingMarker settings nowUnix, none =>
    (host.writes settings.markerPath (writeRateLimitMarker nowUnix)).moves pid (.returned (.ok ()))
  | .returned _, _ => host

end PruneHost

/-- Inserts, push sessions and any number of processes that prune take turns, step by step. Time
    does not run backwards, and a process may die at any point. -/
inductive PruneHostStep (libs : InitLibs) (deviceId : String) : PruneHost → PruneHostAction → PruneHost → Prop
  | push (host : PruneHost) (action : PushAction Nat) (after : PushWorld Nat) :
      PushStep deviceId host.push action after →
      PruneHostStep libs deviceId host (.push action) { host with push := after }
  | records (host : PruneHost) (pid : Nat) (env : String → Option String) :
      host.pruners pid = .idle →
      PruneHostStep libs deviceId host (.starts pid (.resolving env)) (host.moves pid (.resolving env))
  | prunes (host : PruneHost) (pid : Nat) (olderThanDays keepRecent : UInt64) (dryRun : Bool) :
      host.pruners pid = .idle →
      PruneHostStep libs deviceId host (.starts pid (.commanded olderThanDays keepRecent dryRun))
        (host.moves pid (.commanded olderThanDays keepRecent dryRun))
  | step (host : PruneHost) (pid : Nat) (nowUtc : OffsetDateTime) (fault : Option Error) :
      host.clock ≤ nowUtc.unixTimestamp →
      PruneHostStep libs deviceId host (.step pid) (host.step libs pid nowUtc fault)
  | dies (host : PruneHost) (pid : Nat) : PruneHostStep libs deviceId host (.dies pid) (host.moves pid .idle)

/-! What one step of a process can do. -/

namespace PruneHost

inductive Turn (libs : InitLibs) (host : PruneHost) (pid : Nat) (nowUnix : Int) : PruneHost → Prop
  | rests : Turn libs host pid nowUnix host
  | returns (result : Except Error Unit) : Turn libs host pid nowUnix (host.moves pid (.returned result))
  | refused (err : Error) :
      Turn libs host pid nowUnix { host.moves pid (.returned (.error err)) with clock := nowUnix }
  | resolved (env : String → Option String) (settings : AutoPruneSettings) :
      host.pruners pid = .resolving env → resolveAutoPrune libs env = .ok (some settings) →
      Turn libs host pid nowUnix (host.moves pid (.readingClock settings))
  | readClock (settings : AutoPruneSettings) :
      host.pruners pid = .readingClock settings →
      Turn libs host pid nowUnix { host.moves pid (.readingMarker settings nowUnix) with clock := nowUnix }
  | readMarker (settings : AutoPruneSettings) (prior : Int) (lastTriggerUnix : Option Int) :
      host.pruners pid = .readingMarker settings prior →
      readRateLimitMarker settings.markerPath (host.files settings.markerPath) = .ok lastTriggerUnix →
      Turn libs host pid nowUnix (host.moves pid (.deciding settings prior lastTriggerUnix))
  | due (settings : AutoPruneSettings) (prior : Int) (lastTriggerUnix : Option Int) (cutoffUnix : Int) :
      host.pruners pid = .deciding settings prior lastTriggerUnix →
      shouldTriggerInterval prior lastTriggerUnix settings.minIntervalSec.value = true →
      computePruneCutoffUnix prior settings.olderThanDays.value = .ok cutoffUnix →
      Turn libs host pid nowUnix
        (host.moves pid (.pruning (some settings) prior (.started ⟨cutoffUnix, settings.keepRecent, false⟩)))
  | commanded (olderThanDays keepRecent : UInt64) (dryRun : Bool) (cutoffUnix : Int) :
      host.pruners pid = .commanded olderThanDays keepRecent dryRun →
      computePruneCutoffUnix nowUnix olderThanDays = .ok cutoffUnix →
      Turn libs host pid nowUnix
        { host.moves pid (.pruning none nowUnix (.started ⟨cutoffUnix, keepRecent, dryRun⟩)) with clock := nowUnix }
  | statement (settings : Option AutoPruneSettings) (prior : Int) (state : PruneState) :
      host.pruners pid = .pruning settings prior state → (∀ stats, state ≠ .returned stats) →
      Turn libs host pid nowUnix (host.stepPrune pid settings prior state)
  | pruned (settings : AutoPruneSettings) (prior : Int) (stats : PruneStats) :
      host.pruners pid = .pruning (some settings) prior (.returned stats) →
      Turn libs host pid nowUnix (host.moves pid (.openingMarker settings prior))
  | opens (settings : AutoPruneSettings) (prior : Int) :
      host.pruners pid = .openingMarker settings prior →
      Turn libs host pid nowUnix ((host.writes settings.markerPath "").moves pid (.writingMarker settings prior))
  | writes (settings : AutoPruneSettings) (prior : Int) :
      host.pruners pid = .writingMarker settings prior →
      Turn libs host pid nowUnix
        ((host.writes settings.markerPath (writeRateLimitMarker prior)).moves pid (.returned (.ok ())))

theorem step_turn (libs : InitLibs) (host : PruneHost) (pid : Nat) (nowUtc : OffsetDateTime) (fault : Option Error) :
    Turn libs host pid nowUtc.unixTimestamp (host.step libs pid nowUtc fault) := by
  unfold step
  split
  case h_1 => exact .rests
  case h_2 env running =>
    split
    case h_1 => exact .returns _
    case h_2 => exact .returns _
    case h_3 settings found => exact .resolved env settings running found
  case h_3 settings running => exact .readClock settings running
  case h_4 => exact .returns _
  case h_5 settings prior running =>
    split
    case h_1 => exact .returns _
    case h_2 lastTriggerUnix read => exact .readMarker settings prior lastTriggerUnix running read
  case h_6 settings prior lastTriggerUnix running =>
    split
    case isTrue => exact .returns _
    case isFalse triggers =>
      rw [Bool.not_eq_true, Bool.not_eq_false'] at triggers
      split
      case h_1 => exact .returns _
      case h_2 cutoffUnix computed => exact .due settings prior lastTriggerUnix cutoffUnix running triggers computed
  case h_7 olderThanDays keepRecent dryRun running =>
    split
    case h_1 => exact .refused _
    case h_2 cutoffUnix computed => exact .commanded olderThanDays keepRecent dryRun cutoffUnix running computed
  case h_8 => exact .returns _
  case h_9 settings prior stats running => exact .pruned settings prior stats running
  case h_10 => exact .returns _
  case h_11 settings prior state command auto running =>
    apply Turn.statement settings prior state running
    rintro stats rfl
    cases settings with
    | none => exact command stats rfl rfl
    | some settings => exact auto settings stats rfl rfl
  case h_12 => exact .returns _
  case h_13 settings prior running => exact .opens settings prior running
  case h_14 => exact .returns _
  case h_15 settings prior running => exact .writes settings prior running
  case h_16 => exact .rests

end PruneHost

/-! What they delete is older than they are told to keep. -/

def PruneState.call : PruneState → Option PruneCall
  | .started call => some call
  | .keepFloorRead call _ => some call
  | .floorsRead call _ _ => some call
  | .counted call _ _ _ => some call
  | .returned _ => none

/-- The process is told to keep what is younger than `days`, and its cutoff lies that far back. -/
def Pruner.Keeps (libs : InitLibs) (days : Nat) (clock : Int) : Pruner → Prop
  | .resolving env =>
    ∀ settings, resolveAutoPrune libs env = .ok (some settings) → days ≤ settings.olderThanDays.value.toNat
  | .readingClock settings => days ≤ settings.olderThanDays.value.toNat
  | .readingMarker settings nowUnix => days ≤ settings.olderThanDays.value.toNat ∧ nowUnix ≤ clock
  | .deciding settings nowUnix _ => days ≤ settings.olderThanDays.value.toNat ∧ nowUnix ≤ clock
  | .commanded olderThanDays _ _ => days ≤ olderThanDays.toNat
  | .pruning _ _ state => ∀ call, state.call = some call → call.cutoffUnix + days * 86400 ≤ clock
  | _ => True

def PruneHostAction.Keeps (libs : InitLibs) (days : Nat) : PruneHostAction → Prop
  | .starts _ pruner => pruner.Keeps libs days 0
  | _ => True

/-- A step in which no process starts that is told to keep less than `days`. -/
def KeepingStep (libs : InitLibs) (deviceId : String) (days : Nat) (host : PruneHost) (action : PruneHostAction)
    (after : PruneHost) : Prop :=
  PruneHostStep libs deviceId host action after ∧ action.Keeps libs days

/-- Between the two, no row has gone that is younger than `days`. -/
structure PruneHost.Retains (days : Nat) (before after : PruneHost) : Prop where
  clock : before.clock ≤ after.clock
  rows : ∀ row ∈ before.push.store.entries.rows, row ∉ after.push.store.entries.rows →
    row.val.ts + days * 86400 < after.clock

section

variable {libs : InitLibs} {deviceId : String} {days : Nat} {host after : PruneHost} {pid : Nat}

theorem Pruner.Keeps.later {pruner : Pruner} {clock later : Int} (keeps : pruner.Keeps libs days clock)
    (order : clock ≤ later) : pruner.Keeps libs days later := by
  cases pruner with
  | readingMarker settings nowUnix => exact ⟨keeps.1, keeps.2.trans order⟩
  | deciding settings nowUnix lastTriggerUnix => exact ⟨keeps.1, keeps.2.trans order⟩
  | pruning settings nowUnix state => exact fun call made => (keeps call made).trans order
  | idle | resolving | readingClock | commanded | openingMarker | writingMarker | returned => exact keeps

namespace PruneHost

@[simp] theorem moves_pruner (host : PruneHost) (pid : Nat) (next : Pruner) :
    (host.moves pid next).pruners pid = next := Function.update_self _ _ _

theorem moves_others {other : Nat} (different : other ≠ pid) (next : Pruner) :
    (host.moves pid next).pruners other = host.pruners other := Function.update_of_ne different _ _

namespace Retains

theorem refl (host : PruneHost) : host.Retains days host where
  clock := le_rfl
  rows := fun _ member gone => absurd member gone

theorem trans {first second third : PruneHost} (before : first.Retains days second)
    (later : second.Retains days third) : first.Retains days third where
  clock := before.clock.trans later.clock
  rows := by
    intro row member gone
    by_cases held : row ∈ second.push.store.entries.rows
    · exact later.rows row held gone
    · exact (before.rows row member held).trans_le later.clock

theorem of_rows (clock : host.clock ≤ after.clock)
    (rows : host.push.store.entries.rows ⊆ after.push.store.entries.rows) : host.Retains days after where
  clock := clock
  rows := fun _ member gone => absurd (rows member) gone

end Retains

end PruneHost

theorem PruneState.step_call {store : LocalStore} {state : PruneState} {call : PruneCall}
    (made : (state.step store).2.call = some call) : state.call = some call := by
  cases state with
  | started call => exact made
  | keepFloorRead call keepFloorSeq => exact made
  | floorsRead call keepFloorSeq pushedFloorSeq =>
    simp only [PruneState.step] at made
    split at made
    · cases made
    · exact made
  | counted call keepFloorSeq pushedFloorSeq matched => cases made
  | returned stats => cases made

/-- A statement of a prune deletes only what its `WHERE` clause selects. -/
theorem PruneState.step_deletes {store : LocalStore} {state : PruneState} {row : IngestRow}
    (member : row ∈ store.entries.rows) (gone : row ∉ (state.step store).1.entries.rows) :
    ∃ call keepFloorSeq pushedFloorSeq, state.call = some call ∧
      state.pending = some (call.cutoffUnix, keepFloorSeq, pushedFloorSeq) ∧
      pruneSelects call.cutoffUnix keepFloorSeq pushedFloorSeq row = true := by
  cases state with
  | started call => exact absurd member gone
  | keepFloorRead call keepFloorSeq => exact absurd member gone
  | floorsRead call keepFloorSeq pushedFloorSeq =>
    simp only [PruneState.step] at gone
    split at gone
    · exact absurd member gone
    · exact absurd member gone
  | counted call keepFloorSeq pushedFloorSeq matched =>
    refine ⟨call, keepFloorSeq, pushedFloorSeq, rfl, rfl, ?_⟩
    by_contra unselected
    exact gone (mem_pruneDelete.mpr ⟨member, eq_false_of_ne_true unselected⟩)
  | returned stats => exact absurd member gone

/-- Where a process has its cutoff from. -/
theorem cutoff_keeps {nowUnix cutoffUnix clock : Int} {olderThanDays : UInt64}
    (computed : computePruneCutoffUnix nowUnix olderThanDays = .ok cutoffUnix)
    (told : days ≤ olderThanDays.toNat) (read : nowUnix ≤ clock) : cutoffUnix + days * 86400 ≤ clock := by
  rw [computePruneCutoffUnix_ok computed]
  omega

namespace PruneHost

theorem keeps_moves {clock : Int} (keeps : ∀ other, (host.pruners other).Keeps libs days clock) {next : Pruner}
    (own : next.Keeps libs days clock) (other : Nat) :
    ((host.moves pid next).pruners other).Keeps libs days clock := by
  by_cases same : other = pid
  · rw [same, moves_pruner]
    exact own
  · rw [moves_others same]
    exact keeps other

theorem Turn.retains {nowUnix : Int} (turn : Turn libs host pid nowUnix after)
    (keeps : ∀ other, (host.pruners other).Keeps libs days host.clock) (order : host.clock ≤ nowUnix) :
    host.Retains days after := by
  cases turn with
  | statement settings prior state running unfinished =>
    refine ⟨le_rfl, fun row member gone => ?_⟩
    obtain ⟨call, keepFloorSeq, pushedFloorSeq, made, -, selected⟩ := PruneState.step_deletes member gone
    have old := pruneSelects_old selected
    have own := keeps pid
    rw [running] at own
    have cutoff := own call made
    show row.val.ts + days * 86400 < host.clock
    omega
  | readClock | commanded | refused => exact .of_rows order (List.Subset.refl _)
  | rests | returns | resolved | readMarker | due | pruned | opens | writes =>
    exact .of_rows le_rfl (List.Subset.refl _)

theorem Turn.keeps {nowUnix : Int} (turn : Turn libs host pid nowUnix after)
    (keeps : ∀ other, (host.pruners other).Keeps libs days host.clock) (order : host.clock ≤ nowUnix) :
    ∀ other, (after.pruners other).Keeps libs days after.clock := by
  have own := keeps pid
  have later := fun other => (keeps other).later order
  cases turn with
  | rests => exact keeps
  | returns result =>
    apply keeps_moves keeps
    trivial
  | refused err =>
    apply keeps_moves later
    trivial
  | resolved env settings running found =>
    rw [running] at own
    apply keeps_moves keeps
    exact own settings found
  | readClock settings running =>
    rw [running] at own
    apply keeps_moves later
    exact ⟨own, le_rfl⟩
  | readMarker settings prior lastTriggerUnix running read =>
    rw [running] at own
    apply keeps_moves keeps
    exact own
  | due settings prior lastTriggerUnix cutoffUnix running triggers computed =>
    rw [running] at own
    apply keeps_moves keeps
    intro call made
    cases made
    exact cutoff_keeps computed own.1 own.2
  | commanded olderThanDays keepRecent dryRun cutoffUnix running computed =>
    rw [running] at own
    apply keeps_moves later
    intro call made
    cases made
    exact cutoff_keeps computed own le_rfl
  | statement settings prior state running unfinished =>
    rw [running] at own
    apply keeps_moves keeps
    intro call made
    exact own call (PruneState.step_call made)
  | pruned settings prior stats running | opens settings prior running | writes settings prior running =>
    apply keeps_moves keeps
    trivial

end PruneHost

theorem PushStep.keeps_rows {w next : PushWorld Nat} {action : PushAction Nat}
    (step : PushStep deviceId w action next) : w.store.entries.rows ⊆ next.store.entries.rows := by
  rcases step.store_cases with ⟨same, -⟩ | ⟨entries, -, inserted⟩ | ⟨i, peerId, seq, -, moved⟩
  · rw [same]
    exact List.Subset.refl _
  · rw [inserted]
    exact (w.store.entries.extends_insertAll (rowsOf entries)).kept
  · rw [moved]
    exact List.Subset.refl _

theorem KeepingStep.retains {action : PruneHostAction} (taken : KeepingStep libs deviceId days host action after)
    (keeps : ∀ pid, (host.pruners pid).Keeps libs days host.clock) :
    host.Retains days after ∧ ∀ pid, (after.pruners pid).Keeps libs days after.clock := by
  obtain ⟨step, told⟩ := taken
  cases step with
  | push action world pushes => exact ⟨.of_rows le_rfl pushes.keeps_rows, keeps⟩
  | records pid env idle =>
    exact ⟨.of_rows le_rfl (List.Subset.refl _), PruneHost.keeps_moves keeps told⟩
  | prunes pid olderThanDays keepRecent dryRun idle =>
    exact ⟨.of_rows le_rfl (List.Subset.refl _), PruneHost.keeps_moves keeps told⟩
  | step pid nowUtc fault order =>
    have turn := host.step_turn libs pid nowUtc fault
    exact ⟨turn.retains keeps order, turn.keeps keeps order⟩
  | dies pid => exact ⟨.of_rows le_rfl (List.Subset.refl _), PruneHost.keeps_moves keeps trivial⟩

end

/-- Whatever prunes run at once, whatever fails and whoever dies, an entry younger than all of
    them are told to keep is not deleted. -/
theorem prunes_retain {libs : InitLibs} {deviceId : String} {days : Nat} {initial host after : PruneHost}
    {past future : List PruneHostAction} (idle : ∀ pid, initial.pruners pid = .idle)
    (before : Run (KeepingStep libs deviceId days) initial past host)
    (run : Run (KeepingStep libs deviceId days) host future after) : host.Retains days after := by
  have start : ∀ pid, (initial.pruners pid).Keeps libs days initial.clock := by
    intro pid
    rw [idle pid]
    trivial
  have keep : ∀ {host : PruneHost} {action : PruneHostAction} {after : PruneHost},
      (∀ pid, (host.pruners pid).Keeps libs days host.clock) → KeepingStep libs deviceId days host action after →
      ∀ pid, (after.pruners pid).Keeps libs days after.clock := fun keeps taken => (taken.retains keeps).2
  have here := before.invariant (fun host => ∀ pid, (host.pruners pid).Keeps libs days host.clock) keep start
  exact run.relates (PruneHost.Retains days) (fun host => ∀ pid, (host.pruners pid).Keeps libs days host.clock)
    .refl .trans keep (fun keeps taken => (taken.retains keeps).1) here

def autoPruneEnv : String → Option String
  | "RUSTORY_AUTO_PRUNE" => some " On "
  | "HOME" => some "/home/dev"
  | _ => none

theorem autoPruneEnv_resolves : resolveAutoPrune asciiLibs autoPruneEnv =
    .ok (some ⟨defaultAutoPruneDays, defaultAutoPruneKeepRecent, defaultAutoPruneIntervalSec,
      "/home/dev/.config/rustory/auto-prune.last"⟩) := rfl

def idlePruneHost : PruneHost :=
  ⟨⟨opened, fun _ => opened, fun _ => none, [], []⟩, fun _ => none, 0, fun _ => .idle, []⟩

def atUnix (second : Int) : OffsetDateTime := (OffsetDateTime.fromUnixTimestamp second).getD firstEcho.ts

/-- The first of two entries is half a year old. -/
theorem prunes_retain_echo :
    ∃ host after : PruneHost, ⟨1, firstEcho.toRow⟩ ∈ host.push.store.entries.rows ∧
      ⟨1, firstEcho.toRow⟩ ∉ after.push.store.entries.rows ∧
      ⟨2, secondEcho.toRow⟩ ∈ after.push.store.entries.rows ∧ host.Retains 180 after := by
  have idle : Run (KeepingStep asciiLibs "dev1" 180) idlePruneHost [] idlePruneHost := .nil _
  have inserted := idle.snoc ⟨.push _ _ _ (.insert _ [firstEcho, secondEcho] noFaults _ _ rfl), trivial⟩
  have records := inserted.rest.snoc ⟨.records _ 7 autoPruneEnv rfl, fun settings resolved => by
    cases autoPruneEnv_resolves.symm.trans resolved
    decide⟩
  have resolved := records.snoc ⟨.step _ 7 (atUnix 15552002) none (by decide), trivial⟩
  have clock := resolved.snoc ⟨.step _ 7 (atUnix 15552002) none (by decide), trivial⟩
  have read := clock.snoc ⟨.step _ 7 (atUnix 15552002) none (by decide), trivial⟩
  have due := read.snoc ⟨.step _ 7 (atUnix 15552002) none (by decide), trivial⟩
  have kept := due.snoc ⟨.step _ 7 (atUnix 15552002) none (by decide), trivial⟩
  have floors := kept.snoc ⟨.step _ 7 (atUnix 15552002) none (by decide), trivial⟩
  have counted := floors.snoc ⟨.step _ 7 (atUnix 15552002) none (by decide), trivial⟩
  have pruned := counted.snoc ⟨.step _ 7 (atUnix 15552002) none (by decide), trivial⟩
  exact ⟨_, _, by decide, by decide +kernel, by decide +kernel, prunes_retain (fun _ => rfl) inserted pruned⟩

end Rustory
