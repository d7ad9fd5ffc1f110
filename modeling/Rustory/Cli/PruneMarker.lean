import Rustory.Cli.AutoPrune
import Rustory.Cli.Doctor

namespace Rustory

open Foundations LocalStore PruneHost Config
open UploadHost (IsReading marker_read unixTimestamp_isReading)

/-! Every process that prunes is a prune of `RaceWorld`, one step for one step. -/

def Pruner.prune : Pruner → Option PruneState
  | .pruning _ _ state => some state
  | _ => none

def PruneHost.race (host : PruneHost) : RaceWorld Nat := ⟨host.push, fun pid => (host.pruners pid).prune⟩

section

variable {libs : InitLibs} {deviceId : String} {host after : PruneHost} {pid : Nat}

theorem race_prunes {next : Pruner} {running : Option PruneState} (same : next.prune = running) :
    (fun other => ((host.moves pid next).pruners other).prune) =
      Function.update (fun other => (host.pruners other).prune) pid running := by
  funext other
  by_cases own : other = pid
  · rw [own, moves_pruner, Function.update_self, same]
  · rw [moves_others own, Function.update_of_ne own]

/-- A process that prunes nothing, or does so no longer. -/
theorem race_ends {next : Pruner} (same : next.prune = none) (push : after.push = host.push)
    (pruners : after.pruners = (host.moves pid next).pruners) :
    RaceStep deviceId host.race (.pruneEnds pid) after.race := by
  have moved : after.race =
      { host.race with prunes := Function.update host.race.prunes pid none } := by
    unfold race
    rw [push, pruners, race_prunes same]
  rw [moved]
  exact .pruneEnds host.race pid

theorem race_starts {next : Pruner} {call : PruneCall} (same : next.prune = some (.started call))
    (push : after.push = host.push) (pruners : after.pruners = (host.moves pid next).pruners)
    (idle : (host.pruners pid).prune = none) :
    RaceStep deviceId host.race (.pruneStarts pid) after.race := by
  have moved : after.race =
      { host.race with prunes := Function.update host.race.prunes pid (some (.started call)) } := by
    unfold race
    rw [push, pruners, race_prunes same]
  rw [moved]
  exact .pruneStarts host.race pid call idle

theorem race_statement {settings : Option AutoPruneSettings} {nowUnix : Int} {state : PruneState}
    (running : host.pruners pid = .pruning settings nowUnix state) :
    RaceStep deviceId host.race (.prune pid) (host.stepPrune pid settings nowUnix state).race := by
  have own : host.race.prunes pid = some state := congrArg Pruner.prune running
  have moved : (host.stepPrune pid settings nowUnix state).race =
      ⟨{ host.race.push with store := (state.step host.push.store).1 },
        Function.update host.race.prunes pid (some (state.step host.push.store).2)⟩ :=
    congrArg (RaceWorld.mk _) (race_prunes rfl)
  rw [moved]
  exact .prune host.race pid state _ _ own rfl

/-- The steps of a process, as its prune takes them. -/
def RacesAs (deviceId : String) (host after : PruneHost) : Prop :=
  after.race = host.race ∨
    ∃ action, RaceStep deviceId host.race action after.race ∧ ∀ pushed, action ≠ .push pushed

theorem PruneHost.Turn.races {nowUnix : Int} (turn : Turn libs host pid nowUnix after) :
    RacesAs deviceId host after := by
  have ends : ∀ {next : Pruner}, next.prune = none → after.push = host.push →
      after.pruners = (host.moves pid next).pruners → RacesAs deviceId host after :=
    fun same push pruners => Or.inr ⟨.pruneEnds pid, race_ends same push pruners, nofun⟩
  cases turn with
  | rests => exact Or.inl rfl
  | returns result => exact ends rfl rfl rfl
  | refused err => exact ends rfl rfl rfl
  | resolved env settings running found => exact ends rfl rfl rfl
  | readClock settings running => exact ends rfl rfl rfl
  | readMarker settings prior lastTriggerUnix running read => exact ends rfl rfl rfl
  | due settings prior lastTriggerUnix cutoffUnix running triggers computed =>
    have idle : (host.pruners pid).prune = none := by rw [running]; rfl
    exact Or.inr ⟨.pruneStarts pid, race_starts rfl rfl rfl idle, nofun⟩
  | commanded olderThanDays keepRecent dryRun cutoffUnix running computed =>
    have idle : (host.pruners pid).prune = none := by rw [running]; rfl
    exact Or.inr ⟨.pruneStarts pid, race_starts rfl rfl rfl idle, nofun⟩
  | statement settings prior state running unfinished =>
    exact Or.inr ⟨.prune pid, race_statement running, nofun⟩
  | pruned settings prior stats running => exact ends rfl rfl rfl
  | opens settings prior running => exact ends rfl rfl rfl
  | writes settings prior running => exact ends rfl rfl rfl

theorem PruneHostStep.races {action : PruneHostAction} (step : PruneHostStep libs deviceId host action after) :
    after.race = host.race ∨ ∃ raced, RaceStep deviceId host.race raced after.race ∧
      ∀ pushed, raced = .push pushed → action = .push pushed := by
  have alone : RacesAs deviceId host after → after.race = host.race ∨ ∃ raced,
      RaceStep deviceId host.race raced after.race ∧ ∀ pushed, raced = .push pushed → action = .push pushed := by
    rintro (same | ⟨raced, taken, quiet⟩)
    · exact Or.inl same
    · exact Or.inr ⟨raced, taken, fun pushed same => absurd same (quiet pushed)⟩
  cases step with
  | push action world pushes => exact Or.inr ⟨.push action, .push _ _ _ pushes, fun pushed same => by cases same; rfl⟩
  | records pid env idle => exact alone (Or.inr ⟨.pruneEnds pid, race_ends rfl rfl rfl, nofun⟩)
  | prunes pid olderThanDays keepRecent dryRun idle =>
    exact alone (Or.inr ⟨.pruneEnds pid, race_ends rfl rfl rfl, nofun⟩)
  | step pid nowUtc fault order => exact alone (host.step_turn libs pid nowUtc fault).races
  | dies pid => exact alone (Or.inr ⟨.pruneEnds pid, race_ends rfl rfl rfl, nofun⟩)

/-- A step in which the inserts and the push sessions leave alone what a prune relies on. -/
def CalmKeepingStep (libs : InitLibs) (deviceId : String) (days : Nat) (host : PruneHost) (action : PruneHostAction)
    (after : PruneHost) : Prop :=
  KeepingStep libs deviceId days host action after ∧
    ∀ pushed, action = .push pushed → Calm deviceId host.race (.push pushed)

theorem CalmKeepingStep.races {days : Nat} {action : PruneHostAction}
    (taken : CalmKeepingStep libs deviceId days host action after) :
    after.race = host.race ∨ ∃ action, CalmStep deviceId host.race action after.race := by
  obtain ⟨⟨step, -⟩, calm⟩ := taken
  rcases step.races with same | ⟨raced, stepped, pushes⟩
  · exact Or.inl same
  · refine Or.inr ⟨raced, stepped, ?_⟩
    cases raced with
    | push pushed => exact calm pushed (pushes pushed rfl)
    | pruneStarts i | prune i | pruneEnds i => trivial

theorem CalmKeepingStep.inv {days : Nat} {action : PruneHostAction}
    (taken : CalmKeepingStep libs deviceId days host action after) (inv : RaceInv deviceId host.race) : RaceInv deviceId after.race := by
  rcases taken.races with same | ⟨action, step, calm⟩
  · rw [same]
    exact inv
  · exact inv.step calm step

theorem PruneHostStep.deletes {action : PruneHostAction} (step : PruneHostStep libs deviceId host action after)
    (inv : RaceInv deviceId host.race) {row : IngestRow} (member : row ∈ host.push.store.entries.rows)
    (gone : row ∉ after.push.store.entries.rows) (own : row.val.deviceId = deviceId) {peerId : String} {seq : Int}
    (cursor : host.push.store.getLastPushedSeqOpt peerId = some seq) : row.seq ≤ seq := by
  cases step with
  | push action world pushes => exact absurd (pushes.keeps_rows member) gone
  | records | prunes | dies => exact absurd member gone
  | step pid nowUtc fault order =>
    have turn := host.step_turn libs pid nowUtc fault
    generalize host.step libs pid nowUtc fault = after at turn gone
    cases turn with
    | statement settings prior state running unfinished =>
      obtain ⟨call, keepFloorSeq, pushedFloorSeq, -, pending, selected⟩ := PruneState.step_deletes member gone
      have races : host.race.prunes pid = some state := congrArg Pruner.prune running
      exact inv.safe peerId seq cursor pid state _ _ _ races pending row member own selected
    | rests | returns | refused | resolved | readClock | readMarker | due | commanded | pruned | opens | writes =>
      exact absurd member gone

end

/-- The statements of all processes race as those of `RaceStep` do, and a process that is left alone while it
    prunes deletes only what is as old as it was told to, and what no peer with a push cursor still waits for. -/
theorem calm_prunes_delete_old_pushed {libs : InitLibs} {deviceId : String} {initial : PruneHost}
    (push : PushInitial initial.push) (idle : ∀ pid, initial.pruners pid = .idle) :
    (∀ host actions, Run (PruneHostStep libs deviceId) initial actions host →
      ∃ raced, Run (RaceStep deviceId) initial.race raced host.race) ∧
    ∀ (days : Nat) (host after : PruneHost) (actions : List PruneHostAction) (action : PruneHostAction),
      Run (CalmKeepingStep libs deviceId days) initial actions host → KeepingStep libs deviceId days host action after →
      (∃ raced, Run (CalmStep deviceId) initial.race raced host.race) ∧
      ∀ row ∈ host.push.store.entries.rows, row ∉ after.push.store.entries.rows →
        row.val.ts + days * 86400 < after.clock ∧
        (row.val.deviceId = deviceId →
          ∀ peerId seq, host.push.store.getLastPushedSeqOpt peerId = some seq → row.seq ≤ seq) := by
  constructor
  · intro host actions run
    apply run.maps PruneHost.race
    intro host action after step
    exact step.races.imp_right fun ⟨raced, taken, _⟩ => ⟨raced, taken⟩
  · intro days host after actions action run step
    refine ⟨run.maps PruneHost.race CalmKeepingStep.races, ?_⟩
    have start : (∀ pid, (initial.pruners pid).Keeps libs days initial.clock) ∧ RaceInv deviceId initial.race := by
      refine ⟨fun pid => ?_, RaceInitial.inv ⟨push, fun pid => ?_⟩⟩
      · rw [idle pid]
        trivial
      · exact congrArg Pruner.prune (idle pid)
    obtain ⟨keeps, inv⟩ := run.invariant
      (fun host => (∀ pid, (host.pruners pid).Keeps libs days host.clock) ∧ RaceInv deviceId host.race)
      (fun both taken => ⟨(taken.1.retains both.1).2, taken.inv both.2⟩) start
    intro row member gone
    exact ⟨(step.retains keeps).1.rows row member gone, fun own peerId seq cursor =>
      step.1.deletes inv member gone own cursor⟩

/-- The first of two entries is half a year old, and pushed. -/
theorem calm_prunes_delete_old_pushed_echo :
    ∃ host after : PruneHost, host.push.store.getLastPushedSeqOpt "peer-a" = some 1 ∧
      ⟨1, firstEcho.toRow⟩ ∈ host.push.store.entries.rows ∧
      ⟨1, firstEcho.toRow⟩ ∉ after.push.store.entries.rows ∧
      ∀ row ∈ host.push.store.entries.rows, row ∉ after.push.store.entries.rows →
        row.val.ts + 15552000 < after.clock ∧ (row.val.deviceId = "dev1" → row.seq ≤ 1) := by
  have idle : Run (CalmKeepingStep asciiLibs "dev1" 180) idlePruneHost [] idlePruneHost := .nil _
  have inserted := idle.snoc ⟨⟨.push _ _ _ (.insert _ [firstEcho, secondEcho] noFaults _ _ rfl), trivial⟩,
    fun _ same => by
      cases same
      exact fun _ _ _ running => by cases running⟩
  have started := inserted.snoc ⟨⟨.push _ _ _ (.start _ 3 "peer-a" 1 (.ok 0) rfl (by decide)
    (fun _ same => by cases same; rfl)), trivial⟩, fun _ same => by cases same; trivial⟩
  have read := started.snoc ⟨⟨.push _ _ _ (.read _ 3 "peer-a" _ ⟨0, 0, 1⟩ _ rfl (fun _ same => same)), trivial⟩,
    fun _ same => by cases same; trivial⟩
  have sent := read.snoc ⟨⟨.push _ _ _ (.send _ 3 "peer-a" _ ⟨0, 0, 1⟩ ⟨[firstEcho], some 1⟩ rfl), trivial⟩,
    fun _ same => by cases same; trivial⟩
  have delivered := sent.snoc ⟨⟨.push _ _ _ (.deliver _ "peer-a" [firstEcho] noFaults (by decide)), trivial⟩,
    fun _ same => by cases same; trivial⟩
  have acknowledged := delivered.snoc ⟨⟨.push _ _ _ (.pushed _ 3 "peer-a" _ ⟨0, 0, 1⟩ ⟨[firstEcho], some 1⟩
    (.ok ()) rfl (fun _ => by decide)), trivial⟩, fun _ same => by cases same; trivial⟩
  have advanced := acknowledged.snoc ⟨⟨.push _ _ _ (.setSeq _ 3 "peer-a" _ ⟨1, 1, 1⟩ rfl), trivial⟩,
    fun _ same => by
      cases same
      exact fun _ _ _ _ _ running => by cases running⟩
  have records := advanced.snoc ⟨⟨.records _ 7 autoPruneEnv rfl, fun settings resolved => by
    cases autoPruneEnv_resolves.symm.trans resolved
    decide⟩, nofun⟩
  have resolved := records.snoc ⟨⟨.step _ 7 (atUnix 15552002) none (by decide), trivial⟩, nofun⟩
  have clock := resolved.snoc ⟨⟨.step _ 7 (atUnix 15552002) none (by decide), trivial⟩, nofun⟩
  have read' := clock.snoc ⟨⟨.step _ 7 (atUnix 15552002) none (by decide), trivial⟩, nofun⟩
  have due := read'.snoc ⟨⟨.step _ 7 (atUnix 15552002) none (by decide), trivial⟩, nofun⟩
  have kept := due.snoc ⟨⟨.step _ 7 (atUnix 15552002) none (by decide), trivial⟩, nofun⟩
  have floors := kept.snoc ⟨⟨.step _ 7 (atUnix 15552002) none (by decide), trivial⟩, nofun⟩
  have counted := floors.snoc ⟨⟨.step _ 7 (atUnix 15552002) none (by decide), trivial⟩, nofun⟩
  have safe := ((@calm_prunes_delete_old_pushed asciiLibs "dev1" idlePruneHost ⟨rfl, fun _ => rfl, rfl, rfl⟩
    fun _ => rfl).2 180 _ _ _ _ counted ⟨.step _ 7 (atUnix 15552002) none (by decide), trivial⟩).2
  refine ⟨_, _, ?cursor, ?held, ?deleted, fun row member gone =>
    ⟨(safe row member gone).1, fun own => (safe row member gone).2 own "peer-a" 1 ?cursor⟩⟩
  case cursor => decide +kernel
  case held => decide +kernel
  case deleted => decide +kernel

section

variable {libs : InitLibs} {deviceId : String} {host after : PruneHost} {pid : Nat}

/-! What an auto prune that has run leaves behind. -/

theorem PruneState.step_evolves (store : LocalStore) (state : PruneState) :
    store.entries.Evolves (state.step store).1.entries := by
  cases state with
  | floorsRead call keepFloorSeq pushedFloorSeq =>
    simp only [PruneState.step]
    split
    · exact .refl _
    · exact .refl _
  | counted call keepFloorSeq pushedFloorSeq matched => exact store.pruneDelete_evolves _
  | started | keepFloorRead | returned => exact .refl _

theorem PruneState.finishes {store : LocalStore} {state : PruneState} {call : PruneCall} {stats : PruneStats}
    (made : state.call = some call) (wet : call.dryRun = false) (ends : (state.step store).2 = .returned stats) :
    ∃ floors, state.finishing store = some floors := by
  cases state with
  | started | keepFloorRead => cases ends
  | returned stats => cases made
  | floorsRead call keepFloorSeq pushedFloorSeq =>
    cases made
    simp only [PruneState.step, wet, Bool.false_or, decide_eq_true_eq] at ends
    split at ends
    · rename_i nothing
      exact ⟨_, if_pos nothing⟩
    · cases ends
  | counted call keepFloorSeq pushedFloorSeq matched => exact ⟨_, rfl⟩

theorem PruneState.finishing_sweeps {store : LocalStore} {state : PruneState} {call : PruneCall}
    {keepFloorSeq pushedFloorSeq : Option Int} (made : state.call = some call)
    (finishing : state.finishing store = some (keepFloorSeq, pushedFloorSeq)) :
    (state.step store).1.entries.sequence = store.entries.sequence ∧
      ∀ row ∈ (state.step store).1.entries.rows,
        pruneSelects call.cutoffUnix keepFloorSeq pushedFloorSeq row = false := by
  cases state with
  | started | keepFloorRead | returned => cases finishing
  | floorsRead call keepFloorSeq pushedFloorSeq =>
    cases made
    simp only [PruneState.finishing] at finishing
    split at finishing
    · rename_i nothing
      cases finishing
      have unchanged : PruneState.step store (.floorsRead call keepFloorSeq pushedFloorSeq) =
          (store, .returned ⟨store.pruneCount (pruneSelects call.cutoffUnix keepFloorSeq pushedFloorSeq), 0⟩) := by
        apply if_pos
        rw [nothing]
        exact Bool.or_true _
      rw [unchanged]
      refine ⟨rfl, fun row member => ?_⟩
      rw [pruneCount, List.length_eq_zero_iff, List.filter_eq_nil_iff] at nothing
      exact eq_false_of_ne_true (nothing row member)
    · cases finishing
  | counted call keepFloorSeq pushedFloorSeq matched =>
    cases made
    cases finishing
    exact ⟨rfl, fun row member => (mem_pruneDelete.mp member).2⟩

/-- The prune read the clock, and no row it had to delete is still there. -/
structure PruneDone.Holds (done : PruneDone) (store : LocalStore) : Prop where
  reading : IsReading done.nowUnix
  sequence : done.sequence ≤ store.entries.sequence
  rows : ∀ row ∈ store.entries.rows, row.seq ≤ done.sequence →
    pruneSelects done.cutoffUnix done.keepFloorSeq done.pushedFloorSeq row = false

theorem PruneDone.Holds.evolves {done : PruneDone} {store later : LocalStore} (holds : done.Holds store)
    (evolves : store.entries.Evolves later.entries) : done.Holds later where
  reading := holds.reading
  sequence := holds.sequence.trans evolves.sequence
  rows := by
    intro row member below
    rcases evolves.rows row member with before | above
    · exact holds.rows row before below
    · have order := holds.sequence
      omega

def PruneDone.Of (settings : AutoPruneSettings) (nowUnix : Int) (done : PruneDone) : Prop :=
  done.markerPath = settings.markerPath ∧ done.nowUnix = nowUnix ∧ done.olderThanDays = settings.olderThanDays

/-- A marker file is as it was, or it has been emptied or written for a prune that has run. -/
def MarksDone (origin : String → Option String) (finished : List PruneDone) (path : String)
    (content : Option String) : Prop :=
  content = origin path ∨ ∃ done ∈ finished, done.markerPath = path ∧
    (content = some "" ∨ content = some (writeRateLimitMarker done.nowUnix))

/-- What a marker says: that of the start, or the clock reading of a prune that has run. -/
def SaysDone (origin : String → Option String) (finished : List PruneDone) (path : String) (last : Int) : Prop :=
  readRateLimitMarker path (origin path) = .ok (some last) ∨
    ∃ done ∈ finished, done.markerPath = path ∧ done.nowUnix = last

def Pruner.Honest (origin : String → Option String) (finished : List PruneDone) : Pruner → Prop
  | .readingMarker _ nowUnix => IsReading nowUnix
  | .deciding settings nowUnix lastTriggerUnix => IsReading nowUnix ∧
    ∀ last, lastTriggerUnix = some last → SaysDone origin finished settings.markerPath last
  | .pruning (some settings) nowUnix state => IsReading nowUnix ∧
    (∀ call, state.call = some call → call.dryRun = false ∧
      call.cutoffUnix = nowUnix - settings.olderThanDays.value.toNat * 86400) ∧
    ∀ stats, state = .returned stats → ∃ done ∈ finished, done.Of settings nowUnix
  | .openingMarker settings nowUnix => ∃ done ∈ finished, done.Of settings nowUnix
  | .writingMarker settings nowUnix => ∃ done ∈ finished, done.Of settings nowUnix
  | _ => True

structure PruneHost.Honest (origin : String → Option String) (host : PruneHost) : Prop where
  done : ∀ done ∈ host.done, done.Holds host.push.store
  pruners : ∀ pid, (host.pruners pid).Honest origin host.done
  files : ∀ path, MarksDone origin host.done path (host.files path)

variable {origin : String → Option String} {finished more : List PruneDone}

theorem MarksDone.tells {path : String} {content : Option String} {last : Int}
    (marks : MarksDone origin finished path content) (holds : ∀ done ∈ finished, IsReading done.nowUnix)
    (read : readRateLimitMarker path content = .ok (some last)) : SaysDone origin finished path last := by
  rcases marks with same | ⟨done, listed, own, rfl | rfl⟩
  · exact Or.inl (same ▸ read)
  · cases read
  · rw [marker_read (holds done listed)] at read
    cases read
    exact Or.inr ⟨done, listed, own, rfl⟩

theorem MarksDone.grows {path : String} {content : Option String} (marks : MarksDone origin finished path content)
    (sub : finished ⊆ more) : MarksDone origin more path content :=
  marks.imp_right fun ⟨done, listed, own⟩ => ⟨done, sub listed, own⟩

theorem Pruner.Honest.grows {pruner : Pruner} (honest : pruner.Honest origin finished) (sub : finished ⊆ more) :
    pruner.Honest origin more := by
  have later : ∀ {settings : AutoPruneSettings} {nowUnix : Int}, (∃ done ∈ finished, done.Of settings nowUnix) →
      ∃ done ∈ more, done.Of settings nowUnix := fun ⟨done, listed, own⟩ => ⟨done, sub listed, own⟩
  cases pruner with
  | deciding settings nowUnix lastTriggerUnix =>
    refine ⟨honest.1, fun last same => ?_⟩
    exact (honest.2 last same).imp_right fun ⟨done, listed, own⟩ => ⟨done, sub listed, own⟩
  | pruning settings nowUnix state =>
    cases settings with
    | none => trivial
    | some settings => exact ⟨honest.1, honest.2.1, fun stats ends => later (honest.2.2 stats ends)⟩
  | openingMarker settings nowUnix => exact later honest
  | writingMarker settings nowUnix => exact later honest
  | idle | resolving | readingClock | readingMarker | commanded | returned => exact honest

/-! The invariant of every run. -/

namespace PruneHost

theorem Honest.moves (honest : host.Honest origin) {next : Pruner} (own : next.Honest origin host.done) :
    (host.moves pid next).Honest origin where
  done := honest.done
  pruners := by
    intro other
    by_cases same : other = pid
    · rw [same, moves_pruner]
      exact own
    · rw [moves_others same]
      exact honest.pruners other
  files := honest.files

theorem Honest.ticks (honest : host.Honest origin) (clock : Int) : { host with clock := clock }.Honest origin :=
  ⟨honest.done, honest.pruners, honest.files⟩

theorem Honest.writes (honest : host.Honest origin) {path content : String}
    (marks : MarksDone origin host.done path (some content)) : (host.writes path content).Honest origin where
  done := honest.done
  pruners := honest.pruners
  files := by
    intro other
    show MarksDone origin host.done other (Function.update host.files path (some content) other)
    by_cases same : other = path
    · rw [same, Function.update_self]
      exact marks
    · rw [Function.update_of_ne same]
      exact honest.files other

theorem Honest.evolves (honest : host.Honest origin) {push : PushWorld Nat}
    (evolves : host.push.store.entries.Evolves push.store.entries) :
    { host with push := push }.Honest origin where
  done := fun done listed => (honest.done done listed).evolves evolves
  pruners := honest.pruners
  files := honest.files

theorem Honest.advances (honest : host.Honest origin) {store : LocalStore} {next : Pruner}
    (evolves : host.push.store.entries.Evolves store.entries) (sub : host.done ⊆ more)
    (holds : ∀ done ∈ more, done ∈ host.done ∨ done.Holds store) (own : next.Honest origin more) :
    { (host.withStore store).moves pid next with done := more }.Honest origin where
  done := by
    intro done listed
    rcases holds done listed with before | now
    · exact (honest.done done before).evolves evolves
    · exact now
  pruners := by
    intro other
    show (Function.update host.pruners pid next other).Honest origin more
    by_cases same : other = pid
    · rw [same, Function.update_self]
      exact own
    · rw [Function.update_of_ne same]
      exact (honest.pruners other).grows sub
  files := fun path => (honest.files path).grows sub

theorem Honest.statement (honest : host.Honest origin) {settings : Option AutoPruneSettings} {prior : Int}
    {state : PruneState} (running : host.pruners pid = .pruning settings prior state)
    (unfinished : ∀ stats, state ≠ .returned stats) : (host.stepPrune pid settings prior state).Honest origin := by
  have evolves := PruneState.step_evolves host.push.store state
  have own := honest.pruners pid
  rw [running] at own
  cases settings with
  | none => exact honest.advances evolves (List.Subset.refl _) (fun _ listed => Or.inl listed) trivial
  | some settings =>
    obtain ⟨reading, made, -⟩ := own
    have running_call : ∃ call, state.call = some call := by
      cases state with
      | returned stats => exact absurd rfl (unfinished stats)
      | started call | keepFloorRead call | floorsRead call | counted call => exact ⟨call, rfl⟩
    obtain ⟨call, here⟩ := running_call
    obtain ⟨wet, cutoff⟩ := made call here
    have made' : ∀ later, (state.step host.push.store).2.call = some later → later.dryRun = false ∧
        later.cutoffUnix = prior - settings.olderThanDays.value.toNat * 86400 :=
      fun later same => made later (PruneState.step_call same)
    cases finishing : state.finishing host.push.store with
    | none =>
      have same : host.doneAfter (some settings) prior state = host.done := by
        simp only [doneAfter, finishing]
      have goes_on : ∀ stats, (state.step host.push.store).2 = .returned stats →
          ∃ done ∈ host.done, done.Of settings prior := by
        intro stats ends
        obtain ⟨floors, found⟩ := PruneState.finishes here wet ends
        cases finishing.symm.trans found
      have next : (Pruner.pruning (some settings) prior (state.step host.push.store).2).Honest origin host.done :=
        ⟨reading, made', goes_on⟩
      unfold stepPrune
      rw [same]
      exact honest.advances evolves (List.Subset.refl _) (fun _ listed => Or.inl listed) next
    | some floors =>
      obtain ⟨keepFloorSeq, pushedFloorSeq⟩ := floors
      obtain ⟨sequence, swept⟩ := PruneState.finishing_sweeps here finishing
      let now : PruneDone := ⟨settings.markerPath, prior, settings.olderThanDays, keepFloorSeq, pushedFloorSeq,
        host.push.store.entries.sequence⟩
      have added : host.doneAfter (some settings) prior state = now :: host.done := by
        simp only [doneAfter, finishing, now]
      have holds : now.Holds (state.step host.push.store).1 := by
        refine ⟨reading, sequence.ge, fun row member _ => ?_⟩
        have same : now.cutoffUnix = call.cutoffUnix := cutoff.symm
        rw [same]
        exact swept row member
      have next : (Pruner.pruning (some settings) prior (state.step host.push.store).2).Honest origin
          (now :: host.done) := ⟨reading, made', fun _ _ => ⟨now, List.mem_cons_self, rfl, rfl, rfl⟩⟩
      unfold stepPrune
      rw [added]
      apply honest.advances evolves (List.subset_cons_self now host.done) _ next
      intro done listed
      rcases List.mem_cons.mp listed with rfl | before
      · exact Or.inr holds
      · exact Or.inl before

theorem Turn.honest {nowUtc : OffsetDateTime} (turn : Turn libs host pid nowUtc.unixTimestamp after)
    (honest : host.Honest origin) : after.Honest origin := by
  have own := honest.pruners pid
  cases turn with
  | rests => exact honest
  | returns result =>
    apply honest.moves
    trivial
  | refused err =>
    apply Honest.ticks
    apply honest.moves
    trivial
  | resolved env settings running found =>
    apply honest.moves
    trivial
  | readClock settings running =>
    apply Honest.ticks
    apply honest.moves
    exact unixTimestamp_isReading nowUtc
  | readMarker settings prior lastTriggerUnix running read =>
    rw [running] at own
    apply honest.moves
    refine ⟨own, fun last same => ?_⟩
    rw [same] at read
    exact (honest.files settings.markerPath).tells (fun done listed => (honest.done done listed).reading) read
  | due settings prior lastTriggerUnix cutoffUnix running triggers computed =>
    rw [running] at own
    apply honest.moves
    refine ⟨own.1, fun call made => ?_, nofun⟩
    cases made
    exact ⟨rfl, computePruneCutoffUnix_ok computed⟩
  | commanded olderThanDays keepRecent dryRun cutoffUnix running computed =>
    apply Honest.ticks
    apply honest.moves
    trivial
  | statement settings prior state running unfinished => exact honest.statement running unfinished
  | pruned settings prior stats running =>
    rw [running] at own
    apply honest.moves
    exact own.2.2 stats rfl
  | opens settings prior running =>
    rw [running] at own
    have emptied : (host.writes settings.markerPath "").Honest origin := by
      obtain ⟨done, listed, path, -, -⟩ := own
      exact honest.writes (Or.inr ⟨done, listed, path, Or.inl rfl⟩)
    exact emptied.moves own
  | writes settings prior running =>
    rw [running] at own
    have written : (host.writes settings.markerPath (writeRateLimitMarker prior)).Honest origin := by
      obtain ⟨done, listed, path, reading, -⟩ := own
      exact honest.writes (Or.inr ⟨done, listed, path, Or.inr (by rw [reading])⟩)
    apply written.moves
    trivial

end PruneHost

theorem PushStep.evolves {w next : PushWorld Nat} {action : PushAction Nat}
    (step : PushStep deviceId w action next) : w.store.entries.Evolves next.store.entries := by
  rcases step.store_cases with ⟨same, -⟩ | ⟨entries, -, inserted⟩ | ⟨i, peerId, seq, -, moved⟩
  · rw [same]
    exact .refl _
  · rw [inserted]
    exact inserted_evolves _ _
  · rw [moved]
    exact .refl _

theorem PruneHostStep.honest {action : PruneHostAction} (step : PruneHostStep libs deviceId host action after)
    (honest : host.Honest origin) : after.Honest origin := by
  cases step with
  | push action world pushes => exact honest.evolves pushes.evolves
  | records pid env idle =>
    apply honest.moves
    trivial
  | prunes pid olderThanDays keepRecent dryRun idle =>
    apply honest.moves
    trivial
  | step pid nowUtc fault order => exact (host.step_turn libs pid nowUtc fault).honest honest
  | dies pid =>
    apply honest.moves
    trivial

end

/-- Of the rows that were there when it ran, none is left that is older than its cutoff, unless a
    floor that it read keeps it. -/
def PruneDone.Swept (done : PruneDone) (store : LocalStore) : Prop :=
  ∀ row ∈ store.entries.rows, row.seq ≤ done.sequence → row.val.ts < done.cutoffUnix →
    (∃ floor, done.keepFloorSeq = some floor ∧ floor ≤ row.seq) ∨
      ∃ floor, done.pushedFloorSeq = some floor ∧ floor < row.seq

theorem PruneDone.Holds.swept {done : PruneDone} {store : LocalStore} (holds : done.Holds store) :
    done.Swept store := by
  intro row member there old
  have unselected := holds.rows row member there
  unfold pruneSelects at unselected
  cases keep : done.keepFloorSeq <;> cases pushed : done.pushedFloorSeq <;>
    simp [keep, pushed, old] at unselected ⊢ <;> omega

/-- The auto prunes of a run put no mark that they have not earned. -/
structure MarkersEarned (initial host : PruneHost) : Prop where
  /-- A marker file is as it was, or reads as the time of a prune that has run, or as none. -/
  files : ∀ path, host.files path = initial.files path ∨
    ∃ done ∈ host.done, done.markerPath = path ∧
      (readRateLimitMarker path (host.files path) = .ok none ∨
        readRateLimitMarker path (host.files path) = .ok (some done.nowUnix))
  /-- A process that is not due is held back by the marker of the start, or by a prune that has run
      within the interval. -/
  skips : ∀ pid settings nowUnix last, host.pruners pid = .deciding settings nowUnix (some last) →
    shouldTriggerInterval nowUnix (some last) settings.minIntervalSec.value = false →
    readRateLimitMarker settings.markerPath (initial.files settings.markerPath) = .ok (some last) ∨
      ∃ done ∈ host.done, done.markerPath = settings.markerPath ∧
        nowUnix < done.nowUnix + settings.minIntervalSec.value.toNat
  swept : ∀ done ∈ host.done, done.Swept host.push.store

theorem PruneHost.Honest.earned {initial host : PruneHost} (honest : host.Honest initial.files) :
    MarkersEarned initial host where
  files := by
    intro path
    rcases honest.files path with same | ⟨done, listed, own, emptied | written⟩
    · exact Or.inl same
    · exact Or.inr ⟨done, listed, own, Or.inl (by rw [emptied]; rfl)⟩
    · exact Or.inr ⟨done, listed, own, Or.inr (by rw [written, marker_read (honest.done done listed).reading])⟩
  skips := by
    intro pid settings nowUnix last running early
    have own := honest.pruners pid
    rw [running] at own
    have soon : nowUnix < last + settings.minIntervalSec.value.toNat := by
      rw [← Bool.not_eq_true, shouldTriggerInterval_some] at early
      omega
    rcases own.2 last rfl with start | ⟨done, listed, path, same⟩
    · exact Or.inl start
    · exact Or.inr ⟨done, listed, path, same ▸ soon⟩
  swept := fun done listed => (honest.done done listed).swept

/-- In every run of processes that prune, whoever fails or dies where, a prune is skipped only
    when one has run. -/
theorem markers_earned {libs : InitLibs} {deviceId : String} {initial host : PruneHost}
    {actions : List PruneHostAction} (idle : ∀ pid, initial.pruners pid = .idle) (fresh : initial.done = [])
    (run : Run (PruneHostStep libs deviceId) initial actions host) : MarkersEarned initial host := by
  have start : initial.Honest initial.files := by
    refine ⟨fun done listed => ?_, fun pid => ?_, fun path => Or.inl rfl⟩
    · rw [fresh] at listed
      exact absurd listed List.not_mem_nil
    · rw [idle pid]
      trivial
  have honest : host.Honest initial.files :=
    run.invariant (fun host => host.Honest initial.files) (fun honest step => step.honest honest) start
  exact honest.earned

/-- A second record, one second after the first has pruned. -/
theorem markers_earned_twice :
    ∃ host settings, host.pruners 8 = .deciding settings 15552003 (some 15552002) ∧
      host.push.store.entries.rows = [⟨2, secondEcho.toRow⟩] ∧ MarkersEarned idlePruneHost host := by
  have idle : Run (PruneHostStep asciiLibs "dev1") idlePruneHost [] idlePruneHost := .nil _
  have inserted := idle.snoc (.push _ _ _ (.insert _ [firstEcho, secondEcho] noFaults _ _ rfl))
  have records := inserted.snoc (.records _ 7 autoPruneEnv rfl)
  have resolved := records.snoc (.step _ 7 (atUnix 15552002) none (by decide))
  have clock := resolved.snoc (.step _ 7 (atUnix 15552002) none (by decide))
  have read := clock.snoc (.step _ 7 (atUnix 15552002) none (by decide))
  have due := read.snoc (.step _ 7 (atUnix 15552002) none (by decide))
  have kept := due.snoc (.step _ 7 (atUnix 15552002) none (by decide))
  have floors := kept.snoc (.step _ 7 (atUnix 15552002) none (by decide))
  have counted := floors.snoc (.step _ 7 (atUnix 15552002) none (by decide))
  have pruned := counted.snoc (.step _ 7 (atUnix 15552002) none (by decide))
  have opens := pruned.snoc (.step _ 7 (atUnix 15552002) none (by decide))
  have emptied := opens.snoc (.step _ 7 (atUnix 15552002) none (by decide))
  have written := emptied.snoc (.step _ 7 (atUnix 15552002) none (by decide))
  have records' := written.snoc (.records _ 8 autoPruneEnv rfl)
  have resolved' := records'.snoc (.step _ 8 (atUnix 15552003) none (by decide))
  have clock' := resolved'.snoc (.step _ 8 (atUnix 15552003) none (by decide))
  have read' := clock'.snoc (.step _ 8 (atUnix 15552003) none (by decide))
  exact ⟨_, _, rfl, by decide +kernel, markers_earned (fun _ => rfl) rfl read'⟩

/-! One process alone. -/

/-- `maybe_run_auto_prune`, where nothing fails and nobody else is at work. -/
def maybeRunAutoPrune (libs : InitLibs) (env : String → Option String) (nowUnix : Int) (store : LocalStore)
    (files : String → Option String) : Except Error Unit × LocalStore × (String → Option String) :=
  match resolveAutoPrune libs env with
  | .error err => (.error err, store, files)
  | .ok none => (.ok (), store, files)
  | .ok (some settings) =>
    match readRateLimitMarker settings.markerPath (files settings.markerPath) with
    | .error err => (.error err, store, files)
    | .ok lastTriggerUnix =>
      if !shouldTriggerInterval nowUnix lastTriggerUnix settings.minIntervalSec.value then
        (.ok (), store, files)
      else
        match computePruneCutoffUnix nowUnix settings.olderThanDays.value with
        | .error err => (.error err, store, files)
        | .ok cutoffUnix => (.ok (), (store.pruneEntriesOlderThan cutoffUnix settings.keepRecent false).2,
            Function.update files settings.markerPath (some (writeRateLimitMarker nowUnix)))

/-- The process takes steps at one time, and nobody else does. -/
def AloneStep (libs : InitLibs) (pid : Nat) (nowUtc : OffsetDateTime) (host after : PruneHost) : Prop :=
  after = host.step libs pid nowUtc none

/-- From `host`, the process alone comes to be at `pruner`, with this database and these files. -/
def Reaches (libs : InitLibs) (pid : Nat) (nowUtc : OffsetDateTime) (host : PruneHost) (pruner : Pruner)
    (store : LocalStore) (files : String → Option String) : Prop :=
  ∃ after, Relation.ReflTransGen (AloneStep libs pid nowUtc) host after ∧ after.pruners pid = pruner ∧
    after.push.store = store ∧ after.files = files

section

variable {libs : InitLibs} {host : PruneHost} {pid : Nat} {nowUtc : OffsetDateTime} {pruner next : Pruner}
  {store store' : LocalStore} {files files' : String → Option String}

theorem Reaches.here (running : host.pruners pid = pruner) :
    Reaches libs pid nowUtc host pruner host.push.store host.files := ⟨host, .refl, running, rfl, rfl⟩

theorem Reaches.step (reaches : Reaches libs pid nowUtc host pruner store files)
    (takes : ∀ at_ : PruneHost, at_.pruners pid = pruner → at_.push.store = store → at_.files = files →
      (at_.step libs pid nowUtc none).pruners pid = next ∧ (at_.step libs pid nowUtc none).push.store = store' ∧
        (at_.step libs pid nowUtc none).files = files') :
    Reaches libs pid nowUtc host next store' files' := by
  obtain ⟨at_, steps, running, held, written⟩ := reaches
  exact ⟨_, steps.tail rfl, takes at_ running held written⟩

/-- A step that only moves the process on. -/
theorem Reaches.moves (reaches : Reaches libs pid nowUtc host pruner store files)
    (takes : ∀ at_ : PruneHost, at_.pruners pid = pruner → at_.files = files →
      at_.step libs pid nowUtc none = at_.moves pid next) :
    Reaches libs pid nowUtc host next store files := by
  apply reaches.step
  intro at_ running held written
  rw [takes at_ running written]
  exact ⟨moves_pruner _ pid _, held, written⟩

theorem step_statement {settings : Option AutoPruneSettings} {prior : Int} {state : PruneState}
    (running : host.pruners pid = .pruning settings prior state) (unfinished : ¬ ∃ stats, state = .returned stats) :
    host.step libs pid nowUtc none = host.stepPrune pid settings prior state := by
  unfold PruneHost.step
  rw [running]
  cases state with
  | returned stats => exact absurd ⟨stats, rfl⟩ unfinished
  | started | keepFloorRead | floorsRead | counted => cases settings <;> rfl

/-- The statements of the prune, one by one. -/
theorem Reaches.statements {settings : Option AutoPruneSettings} {prior : Int} {state : PruneState}
    (reaches : Reaches libs pid nowUtc host (.pruning settings prior state) store files) (n : Nat) :
    Reaches libs pid nowUtc host
      (.pruning settings prior ((fun run : LocalStore × PruneState => run.2.step run.1)^[n] (store, state)).2)
      ((fun run : LocalStore × PruneState => run.2.step run.1)^[n] (store, state)).1 files := by
  induction n with
  | zero => exact reaches
  | succ n ih =>
    rw [Function.iterate_succ_apply']
    generalize (fun run : LocalStore × PruneState => run.2.step run.1)^[n] (store, state) = run at ih ⊢
    obtain ⟨held, state⟩ := run
    by_cases finished : ∃ stats, state = .returned stats
    · obtain ⟨stats, rfl⟩ := finished
      exact ih
    · apply ih.step
      rintro at_ running rfl rfl
      rw [step_statement running finished]
      exact ⟨moves_pruner _ pid _, rfl, rfl⟩

/-- A process that is due prunes, and then leaves its mark. -/
theorem Reaches.prunes {settings : AutoPruneSettings} {prior : Int} {call : PruneCall}
    (reaches : Reaches libs pid nowUtc host (.pruning (some settings) prior (.started call)) store files) :
    Reaches libs pid nowUtc host (.returned (.ok ()))
      (store.pruneEntriesOlderThan call.cutoffUnix call.keepRecent call.dryRun).2
      (Function.update files settings.markerPath (some (writeRateLimitMarker prior))) := by
  let pruned := store.pruneEntriesOlderThan call.cutoffUnix call.keepRecent call.dryRun
  have run := reaches.statements 4
  rw [prune_undisturbed store call] at run
  have opening : Reaches libs pid nowUtc host (.openingMarker settings prior) pruned.2 files := by
    apply run.moves
    intro at_ running written
    unfold PruneHost.step
    rw [running]
  have writing : Reaches libs pid nowUtc host (.writingMarker settings prior) pruned.2
      (Function.update files settings.markerPath (some "")) := by
    apply opening.step
    intro at_ running held written
    unfold PruneHost.step
    rw [running]
    exact ⟨moves_pruner _ pid _, held, congrArg (Function.update · _ _) written⟩
  apply writing.step
  intro at_ running held written
  unfold PruneHost.step
  rw [running]
  refine ⟨moves_pruner _ pid _, held, ?_⟩
  show Function.update at_.files settings.markerPath (some (writeRateLimitMarker prior)) = _
  rw [written, Function.update_idem]

end

/-- A process that nobody disturbs does in its steps what `maybe_run_auto_prune` says. -/
theorem auto_prune_alone (libs : InitLibs) (env : String → Option String) (host : PruneHost) (pid : Nat)
    (nowUtc : OffsetDateTime) (running : host.pruners pid = .resolving env) :
    let outcome := maybeRunAutoPrune libs env nowUtc.unixTimestamp host.push.store host.files
    Reaches libs pid nowUtc host (.returned outcome.1) outcome.2.1 outcome.2.2 := by
  have resolving : Reaches libs pid nowUtc host (.resolving env) host.push.store host.files := .here running
  unfold maybeRunAutoPrune
  split
  case h_1 err found =>
    apply resolving.moves
    intro at_ running written
    unfold PruneHost.step
    simp only [running, found]
  case h_2 found =>
    apply resolving.moves
    intro at_ running written
    unfold PruneHost.step
    simp only [running, found]
  case h_3 settings found =>
    have reading : Reaches libs pid nowUtc host (.readingClock settings) host.push.store host.files := by
      apply resolving.moves
      intro at_ running written
      unfold PruneHost.step
      simp only [running, found]
    have read : Reaches libs pid nowUtc host (.readingMarker settings nowUtc.unixTimestamp) host.push.store
        host.files := by
      apply reading.step
      intro at_ running held written
      unfold PruneHost.step
      rw [running]
      exact ⟨moves_pruner _ pid _, held, written⟩
    split
    case h_1 err unreadable =>
      apply read.moves
      intro at_ running written
      unfold PruneHost.step
      simp only [running, written, unreadable]
    case h_2 lastTriggerUnix marked =>
      have deciding : Reaches libs pid nowUtc host (.deciding settings nowUtc.unixTimestamp lastTriggerUnix)
          host.push.store host.files := by
        apply read.moves
        intro at_ running written
        unfold PruneHost.step
        simp only [running, written, marked]
      split
      case isTrue early =>
        apply deciding.moves
        intro at_ running written
        unfold PruneHost.step
        simp only [running, early, if_true]
      case isFalse due =>
        split
        case h_1 err refused =>
          apply deciding.moves
          intro at_ running written
          unfold PruneHost.step
          simp only [running, due, refused, Bool.false_eq_true, if_false]
        case h_2 cutoffUnix computed =>
          have pruning : Reaches libs pid nowUtc host
              (.pruning (some settings) nowUtc.unixTimestamp (.started ⟨cutoffUnix, settings.keepRecent, false⟩))
              host.push.store host.files := by
            apply deciding.moves
            intro at_ running written
            unfold PruneHost.step
            simp only [running, due, computed, Bool.false_eq_true, if_false]
          exact pruning.prunes

theorem auto_prune_alone_echo :
    ∃ store files, Reaches asciiLibs 7 (atUnix 15552002)
        { idlePruneHost.withStore (opened.inserted [firstEcho, secondEcho]) with
          pruners := Function.update (fun _ => .idle) 7 (.resolving autoPruneEnv) }
        (.returned (.ok ())) store files ∧
      store.entries.rows = [⟨2, secondEcho.toRow⟩] ∧
      files "/home/dev/.config/rustory/auto-prune.last" = some "15552002\n" :=
  ⟨_, _, auto_prune_alone asciiLibs autoPruneEnv _ 7 (atUnix 15552002) rfl, by decide +kernel, by decide +kernel⟩

end Rustory
