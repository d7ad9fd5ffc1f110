import Mathlib.Data.List.Pairwise
import Mathlib.Logic.Function.Basic
import Rustory.Core.Entry
import Rustory.Core.Error
import Rustory.Core.Text
import Rustory.Foundations.Transition

namespace Rustory

open Foundations

/-! The marker file of the upload trigger. -/

/-- The `ParseIntError` of a text that is no `i64`: the digits are read until one of them does not
    fit or is none. -/
def parseI64Error (text : String) : String :=
  let valueOf := fun digits : List Char =>
    (digits.takeWhile Char.isDigit).foldl (fun value c => value * 10 + ((c.toNat - '0'.toNat : Nat) : Int)) 0
  let value : Int :=
    match text.toList with
    | '-' :: digits => -valueOf digits
    | '+' :: digits => valueOf digits
    | digits => valueOf digits
  if maxI64 < value then
    "number too large to fit in target type"
  else if value < minI64 then
    "number too small to fit in target type"
  else
    "invalid digit found in string"

/-- `read_rate_limit_marker`, from the content of the file, if there is one. -/
def readRateLimitMarker (path : String) : Option String → Except Error (Option Int)
  | none => .ok none
  | some content =>
    let trimmed := trim content
    if trimmed.isEmpty then
      .ok none
    else
      match parseI64 trimmed with
      | some parsed => .ok (some parsed)
      | none => .error (bail ("invalid rate limit marker " ++ path ++ ": " ++ parseI64Error trimmed))

/-- The content that `write_rate_limit_marker` leaves. -/
def writeRateLimitMarker (nowUnix : Int) : String := Int.repr nowUnix ++ "\n"

/-- `i64::saturating_sub` -/
def saturatingSub (a b : Int) : Int := max minI64 (min maxI64 (a - b))

def shouldTriggerInterval (nowUnix : Int) (lastTriggerUnix : Option Int) (minIntervalSec : UInt64) : Bool :=
  -- i64::try_from(min_interval_sec).unwrap_or(i64::MAX)
  let minIntervalSec : Int := min minIntervalSec.toNat maxI64
  match lastTriggerUnix with
  | none => true
  | some last => decide (minIntervalSec ≤ saturatingSub nowUnix last)

/-! The processes that share it. -/

/-- Where a process is in `maybe_spawn_async_upload`, once it has read its settings. -/
inductive UploadTrigger
  | readingClock
  | readingMarker (nowUnix : Int)
  | deciding (nowUnix : Int) (lastTriggerUnix : Option Int)
  | writingMarker (nowUnix : Int)
  | spawning (nowUnix : Int)
  | returned (result : Except Error Unit)

/-- The clock reading a running process goes by. -/
def UploadTrigger.nowUnix : UploadTrigger → Option Int
  | .readingMarker nowUnix => some nowUnix
  | .deciding nowUnix _ => some nowUnix
  | .writingMarker nowUnix => some nowUnix
  | .spawning nowUnix => some nowUnix
  | _ => none

/-- The marker file, the latest clock reading and the processes by their pid, with the markers
    written and the uploads spawned so far: whose they are, and the clock reading they go by. -/
structure UploadHost where
  marker : Option String
  clock : Int
  triggers : Nat → UploadTrigger
  written : List (Nat × Int)
  spawned : List (Nat × Int)

namespace UploadHost

def started (marker : Option String) (clock : Int) : UploadHost :=
  ⟨marker, clock, fun _ => .readingClock, [], []⟩

def moves (host : UploadHost) (pid : Nat) (next : UploadTrigger) : UploadHost :=
  { host with triggers := Function.update host.triggers pid next }

section

variable (markerPath : String) (minIntervalSec : UInt64)

/-- The next step of a process, at the time `nowUtc`: one for each of reading the clock, reading the marker,
    deciding, writing the marker and spawning. That a file is empty for a moment while it is written, as in
    `PruneHost.step`, is left out. -/
def step (host : UploadHost) (pid : Nat) (nowUtc : OffsetDateTime) : UploadHost :=
  match host.triggers pid with
  | .readingClock =>
    { host.moves pid (.readingMarker nowUtc.unixTimestamp) with clock := nowUtc.unixTimestamp }
  | .readingMarker nowUnix =>
    match readRateLimitMarker markerPath host.marker with
    | .error err => host.moves pid (.returned (.error err))
    | .ok lastTriggerUnix => host.moves pid (.deciding nowUnix lastTriggerUnix)
  | .deciding nowUnix lastTriggerUnix =>
    if !shouldTriggerInterval nowUnix lastTriggerUnix minIntervalSec then
      host.moves pid (.returned (.ok ()))
    else
      host.moves pid (.writingMarker nowUnix)
  | .writingMarker nowUnix =>
    { host.moves pid (.spawning nowUnix) with
      marker := some (writeRateLimitMarker nowUnix)
      written := host.written ++ [(pid, nowUnix)] }
  | .spawning nowUnix =>
    { host.moves pid (.returned (.ok ())) with spawned := host.spawned ++ [(pid, nowUnix)] }
  | .returned _ => host

/-- Any process takes the next step, and time does not run backwards. A process that dies or meets
    an I/O error takes no further step. -/
def Step (host : UploadHost) (turn : Nat × OffsetDateTime) (next : UploadHost) : Prop :=
  host.clock ≤ turn.2.unixTimestamp ∧ next = host.step markerPath minIntervalSec turn.1 turn.2

/-- A process that writes the marker now would still decide to. -/
def stillDue (host : UploadHost) (pid : Nat) : Bool :=
  match host.triggers pid with
  | .writingMarker nowUnix =>
    match readRateLimitMarker markerPath host.marker with
    | .ok lastTriggerUnix => shouldTriggerInterval nowUnix lastTriggerUnix minIntervalSec
    | .error _ => false
  | _ => true

/-- A step in which no marker is written over one that would have held the process back. -/
def DueStep (host : UploadHost) (turn : Nat × OffsetDateTime) (next : UploadHost) : Prop :=
  host.Step markerPath minIntervalSec turn next ∧ host.stillDue markerPath minIntervalSec turn.1 = true

end

/-- Any two uploads were decided at clock readings at least the interval apart. -/
def SpawnsApart (minIntervalSec : UInt64) (host : UploadHost) : Prop :=
  host.spawned.Pairwise fun earlier later => minIntervalSec.toNat ≤ (later.2 - earlier.2).natAbs

/-! Clock readings, and what the marker says of them. -/

def IsReading (nowUnix : Int) : Prop :=
  minUnixTimestamp - maxUtcOffset ≤ nowUnix ∧ nowUnix ≤ maxUnixTimestamp + maxUtcOffset

theorem unixTimestamp_isReading (ts : OffsetDateTime) : IsReading ts.unixTimestamp := by
  have date := ts.date
  have offset := ts.offset
  unfold IsReading OffsetDateTime.unixTimestamp
  omega

theorem marker_read {nowUnix : Int} (reading : IsReading nowUnix) (markerPath : String) :
    readRateLimitMarker markerPath (some (writeRateLimitMarker nowUnix)) = .ok (some nowUnix) := by
  have range : minI64 ≤ nowUnix ∧ nowUnix ≤ maxI64 := by
    unfold IsReading minUnixTimestamp maxUnixTimestamp maxUtcOffset at reading
    unfold minI64 maxI64
    omega
  have read := parseI64_repr range
  have some_digit : (Int.repr nowUnix).isEmpty = false := by
    rw [← Bool.not_eq_true, String.isEmpty_iff]
    intro empty
    rw [empty] at read
    cases read
  have trimmed : trim (Int.repr nowUnix ++ "\n") = Int.repr nowUnix :=
    trim_line fun _ member => parseI64_solid read member
  unfold readRateLimitMarker writeRateLimitMarker
  simp only [trimmed, some_digit, read, Bool.false_eq_true, if_false]

theorem due_apart {nowUnix last : Int} {minIntervalSec : UInt64} (reading : IsReading nowUnix)
    (earlier : IsReading last) (due : shouldTriggerInterval nowUnix (some last) minIntervalSec = true) :
    last + minIntervalSec.toNat ≤ nowUnix := by
  have gap := of_decide_eq_true due
  unfold IsReading minUnixTimestamp maxUnixTimestamp maxUtcOffset at reading earlier
  unfold saturatingSub minI64 maxI64 at gap
  omega

/-! The invariant of runs in which every marker is written while it is still due. -/

@[simp] theorem moves_self (host : UploadHost) (pid : Nat) (next : UploadTrigger) :
    (host.moves pid next).triggers pid = next := Function.update_self _ _ _

theorem moves_other {host : UploadHost} {pid other : Nat} (different : other ≠ pid) (next : UploadTrigger) :
    (host.moves pid next).triggers other = host.triggers other := Function.update_of_ne different _ _

/-- The marker holds the last reading written, the readings written are apart, and every process
    that spawns has written its own. -/
structure Spaced (minIntervalSec : UInt64) (host : UploadHost) : Prop where
  readings : ∀ pid nowUnix, (host.triggers pid).nowUnix = some nowUnix → IsReading nowUnix
  wrote : ∀ write ∈ host.written, IsReading write.2
  marker : host.written = [] ∨ ∃ before last, host.written = before ++ [last] ∧
    host.marker = some (writeRateLimitMarker last.2)
  apart : host.written.Pairwise fun earlier later => earlier.2 + (minIntervalSec.toNat : Int) ≤ later.2
  spawning : ∀ pid nowUnix, host.triggers pid = .spawning nowUnix → (pid, nowUnix) ∈ host.written
  spawned : ∀ spawn ∈ host.spawned, spawn ∈ host.written ∧
    ∃ result, host.triggers spawn.1 = .returned result
  once : (host.spawned.map Prod.fst).Nodup

section

variable {markerPath : String} {minIntervalSec : UInt64} {host : UploadHost} {pid : Nat} {nowUnix : Int}

theorem started_spaced (minIntervalSec : UInt64) (marker : Option String) (clock : Int) :
    Spaced minIntervalSec (started marker clock) where
  readings := by
    intro pid nowUnix none
    cases none
  wrote := fun _ listed => absurd listed List.not_mem_nil
  marker := Or.inl rfl
  apart := .nil
  spawning := by
    intro pid nowUnix spawns
    cases spawns
  spawned := fun _ listed => absurd listed List.not_mem_nil
  once := List.nodup_nil

theorem Spaced.moves (spaced : Spaced minIntervalSec host) (pid : Nat) (next : UploadTrigger)
    (running : ∀ result, host.triggers pid ≠ .returned result)
    (reading : ∀ nowUnix, next.nowUnix = some nowUnix → IsReading nowUnix)
    (spawning : ∀ nowUnix, next = .spawning nowUnix → (pid, nowUnix) ∈ host.written) :
    Spaced minIntervalSec (host.moves pid next) where
  readings := by
    intro other nowUnix
    by_cases same : other = pid
    · rw [same, moves_self]
      exact reading nowUnix
    · rw [moves_other same]
      exact spaced.readings other nowUnix
  wrote := spaced.wrote
  marker := spaced.marker
  apart := spaced.apart
  spawning := by
    intro other nowUnix
    by_cases same : other = pid
    · rw [same, moves_self]
      exact spawning nowUnix
    · rw [moves_other same]
      exact spaced.spawning other nowUnix
  spawned := by
    intro spawn listed
    obtain ⟨written, result, returned⟩ := spaced.spawned spawn listed
    have different : spawn.1 ≠ pid := fun same => running result (same ▸ returned)
    exact ⟨written, result, by rw [moves_other different, returned]⟩
  once := spaced.once

theorem Spaced.writes (spaced : Spaced minIntervalSec host) (pid : Nat) (reading : IsReading nowUnix)
    (due : ∃ last, readRateLimitMarker markerPath host.marker = .ok last ∧
      shouldTriggerInterval nowUnix last minIntervalSec = true) :
    Spaced minIntervalSec { host with
      marker := some (writeRateLimitMarker nowUnix)
      written := host.written ++ [(pid, nowUnix)] } where
  readings := spaced.readings
  wrote := by
    intro write listed
    rcases List.mem_append.mp listed with before | now
    · exact spaced.wrote write before
    · rw [List.mem_singleton.mp now]
      exact reading
  marker := Or.inr ⟨host.written, (pid, nowUnix), rfl, rfl⟩
  apart := by
    apply List.pairwise_append.mpr ⟨spaced.apart, List.pairwise_singleton _ _, ?_⟩
    intro write before now listed
    rw [List.mem_singleton.mp listed]
    have ascends := spaced.apart
    have earlier := spaced.wrote
    obtain ⟨last, read, due⟩ := due
    rcases spaced.marker with none | ⟨front, latest, split, marker⟩
    · rw [none] at before
      exact absurd before List.not_mem_nil
    · rw [split] at ascends before earlier
      rw [marker, marker_read (earlier latest (List.mem_append_right _ List.mem_cons_self))] at read
      cases read
      have gap := due_apart reading (earlier latest (List.mem_append_right _ List.mem_cons_self)) due
      rcases List.mem_append.mp before with older | newest
      · have step := (List.pairwise_append.mp ascends).2.2 write older latest List.mem_cons_self
        dsimp only
        omega
      · rw [List.mem_singleton.mp newest]
        exact gap
  spawning := fun other reading spawns => List.mem_append_left _ (spaced.spawning other reading spawns)
  spawned := by
    intro spawn listed
    obtain ⟨written, returned⟩ := spaced.spawned spawn listed
    exact ⟨List.mem_append_left _ written, returned⟩
  once := spaced.once

theorem Spaced.spawns (spaced : Spaced minIntervalSec host) (written : (pid, nowUnix) ∈ host.written)
    (returned : ∃ result, host.triggers pid = .returned result) (first : pid ∉ host.spawned.map Prod.fst) :
    Spaced minIntervalSec { host with spawned := host.spawned ++ [(pid, nowUnix)] } where
  readings := spaced.readings
  wrote := spaced.wrote
  marker := spaced.marker
  apart := spaced.apart
  spawning := spaced.spawning
  spawned := by
    intro spawn listed
    rcases List.mem_append.mp listed with before | now
    · exact spaced.spawned spawn before
    · rw [List.mem_singleton.mp now]
      exact ⟨written, returned⟩
  once := by
    rw [List.map_append, List.map_singleton]
    apply List.nodup_append.mpr ⟨spaced.once, List.pairwise_singleton _ _, ?_⟩
    intro other listed now same equal
    rw [equal, List.mem_singleton.mp same] at listed
    exact first listed

theorem Spaced.ticks (spaced : Spaced minIntervalSec host) (clock : Int) :
    Spaced minIntervalSec { host with clock := clock } :=
  ⟨spaced.readings, spaced.wrote, spaced.marker, spaced.apart, spaced.spawning, spaced.spawned, spaced.once⟩

theorem step_spaced (spaced : Spaced minIntervalSec host) (due : host.stillDue markerPath minIntervalSec pid = true)
    (nowUtc : OffsetDateTime) : Spaced minIntervalSec (host.step markerPath minIntervalSec pid nowUtc) := by
  have readings := spaced.readings pid
  unfold step
  split
  · rename_i trigger
    apply Spaced.ticks
    apply spaced.moves pid _ (by simp [trigger]) _ (by simp)
    intro nowUnix read
    cases read
    exact unixTimestamp_isReading nowUtc
  · rename_i nowUnix trigger
    rw [trigger] at readings
    split
    · exact spaced.moves pid _ (by simp [trigger]) (by simp [UploadTrigger.nowUnix]) (by simp)
    · exact spaced.moves pid _ (by simp [trigger]) readings (by simp)
  · rename_i nowUnix lastTriggerUnix trigger
    rw [trigger] at readings
    split
    · exact spaced.moves pid _ (by simp [trigger]) (by simp [UploadTrigger.nowUnix]) (by simp)
    · exact spaced.moves pid _ (by simp [trigger]) readings (by simp)
  · rename_i nowUnix trigger
    rw [trigger] at readings
    have decided : ∃ last, readRateLimitMarker markerPath host.marker = .ok last ∧
        shouldTriggerInterval nowUnix last minIntervalSec = true := by
      simp only [stillDue, trigger] at due
      split at due
      · rename_i last read
        exact ⟨last, read, due⟩
      · cases due
    have written := spaced.writes pid (readings nowUnix rfl) decided
    apply written.moves pid (.spawning nowUnix) (by simp [trigger]) readings
    intro other same
    cases same
    exact List.mem_append_right _ List.mem_cons_self
  · rename_i nowUnix trigger
    have written := spaced.spawning pid nowUnix trigger
    have moved := spaced.moves pid (.returned (.ok ())) (by simp [trigger]) (by simp [UploadTrigger.nowUnix])
      (by simp)
    apply moved.spawns written ⟨.ok (), moves_self _ _ _⟩
    intro again
    obtain ⟨spawn, listed, rfl⟩ := List.mem_map.mp again
    obtain ⟨-, result, returned⟩ := spaced.spawned spawn listed
    cases trigger.symm.trans returned
  · exact spaced

theorem Spaced.spawnsApart (spaced : Spaced minIntervalSec host) : SpawnsApart minIntervalSec host := by
  have distinct := List.pairwise_map.mp spaced.once
  have apart : ∀ write ∈ host.written, ∀ other ∈ host.written, write ≠ other →
      minIntervalSec.toNat ≤ (other.2 - write.2).natAbs := by
    have symmetric : Std.Symm fun write other : Nat × Int =>
        minIntervalSec.toNat ≤ (other.2 - write.2).natAbs := by
      constructor
      intro write other gap
      omega
    apply List.Pairwise.forall
    apply spaced.apart.imp
    intro earlier later gap
    omega
  apply distinct.imp_of_mem
  intro earlier later inEarlier inLater different
  exact apart earlier (spaced.spawned earlier inEarlier).1 later (spaced.spawned later inLater).1
    fun same => different (congrArg Prod.fst same)

end

end UploadHost

open UploadHost

/-- The interval is kept in every run in which a process that writes the marker would still decide
    to do so. -/
theorem spawns_apart_while_due {markerPath : String} {minIntervalSec : UInt64} {marker : Option String}
    {clock : Int} {turns : List (Nat × OffsetDateTime)} {host : UploadHost}
    (run : Run (DueStep markerPath minIntervalSec) (started marker clock) turns host) :
    SpawnsApart minIntervalSec host := by
  apply Spaced.spawnsApart
  apply run.invariant (Spaced minIntervalSec) _ (started_spaced minIntervalSec marker clock)
  rintro host ⟨pid, nowUtc⟩ _ spaced ⟨⟨-, rfl⟩, due⟩
  exact step_spaced spaced due nowUtc

theorem spawns_apart_while_due_twice :
    ∃ turns host, Run (DueStep "async-upload.last" 15) (started none 0) turns host ∧
      host.spawned = [(1, 5), (2, 20)] ∧ SpawnsApart 15 host := by
  have idle : Run (DueStep "async-upload.last" 15) (started none 0) [] (started none 0) := .nil _
  have clock := idle.snoc (l := (1, .atSecond 5)) ⟨⟨by decide, rfl⟩, rfl⟩
  have read := clock.snoc (l := (1, .atSecond 5)) ⟨⟨by decide, rfl⟩, rfl⟩
  have decided := read.snoc (l := (1, .atSecond 5)) ⟨⟨by decide, rfl⟩, rfl⟩
  have written := decided.snoc (l := (1, .atSecond 5)) ⟨⟨by decide, rfl⟩, by decide⟩
  have spawned := written.snoc (l := (1, .atSecond 5)) ⟨⟨by decide, rfl⟩, rfl⟩
  have clock' := spawned.snoc (l := (2, .atSecond 20)) ⟨⟨by decide, rfl⟩, rfl⟩
  have read' := clock'.snoc (l := (2, .atSecond 20)) ⟨⟨by decide, rfl⟩, rfl⟩
  have decided' := read'.snoc (l := (2, .atSecond 20)) ⟨⟨by decide, rfl⟩, rfl⟩
  have written' := decided'.snoc (l := (2, .atSecond 20)) ⟨⟨by decide, rfl⟩, by decide⟩
  have spawned' := written'.snoc (l := (2, .atSecond 20)) ⟨⟨by decide, rfl⟩, rfl⟩
  exact ⟨_, _, spawned', by decide, spawns_apart_while_due spawned'⟩

/-- Two processes read the marker before either writes it. -/
theorem raced_triggers_both_spawn :
    ¬ ∀ (markerPath : String) (minIntervalSec : UInt64) (marker : Option String) (clock : Int)
      (turns : List (Nat × OffsetDateTime)) (host : UploadHost), 1 ≤ minIntervalSec →
      Run (UploadHost.Step markerPath minIntervalSec) (started marker clock) turns host →
      SpawnsApart minIntervalSec host := by
  intro apart
  have idle : Run (UploadHost.Step "async-upload.last" 15) (started none 0) [] (started none 0) := .nil _
  have clock := idle.snoc (l := (1, .atSecond 5)) ⟨by decide, rfl⟩
  have read := clock.snoc (l := (1, .atSecond 5)) ⟨by decide, rfl⟩
  have decided := read.snoc (l := (1, .atSecond 5)) ⟨by decide, rfl⟩
  have clock' := decided.snoc (l := (2, .atSecond 5)) ⟨by decide, rfl⟩
  have read' := clock'.snoc (l := (2, .atSecond 5)) ⟨by decide, rfl⟩
  have decided' := read'.snoc (l := (2, .atSecond 5)) ⟨by decide, rfl⟩
  have written := decided'.snoc (l := (1, .atSecond 5)) ⟨by decide, rfl⟩
  have written' := written.snoc (l := (2, .atSecond 5)) ⟨by decide, rfl⟩
  have spawned := written'.snoc (l := (1, .atSecond 5)) ⟨by decide, rfl⟩
  have spawned' := spawned.snoc (l := (2, .atSecond 5)) ⟨by decide, rfl⟩
  have wrong := apart _ _ _ _ _ _ (by decide) spawned'
  unfold SpawnsApart at wrong
  revert wrong
  decide

end Rustory
