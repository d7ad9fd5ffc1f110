import Mathlib.Data.Int.Order.Basic

namespace Rustory

/-! `time::OffsetDateTime`, read as a second count: the years -9999 to 9999 on the local
    clock, and a UTC offset of at most 25:59:59 either way. -/

def minUnixTimestamp : Int := -377705116800
def maxUnixTimestamp : Int := 253402300799
def maxUtcOffset : Int := 93599

structure OffsetDateTime where
  localSecond : Int
  nanosecond : Nat
  utcOffset : Int
  date : minUnixTimestamp ≤ localSecond ∧ localSecond ≤ maxUnixTimestamp
  fraction : nanosecond < 1000000000
  offset : -maxUtcOffset ≤ utcOffset ∧ utcOffset ≤ maxUtcOffset
  deriving DecidableEq, Repr

def OffsetDateTime.unixTimestamp (ts : OffsetDateTime) : Int := ts.localSecond - ts.utcOffset

/-- `OffsetDateTime::from_unix_timestamp`: the date-time in UTC, or an error outside the years
    -9999 to 9999. -/
def OffsetDateTime.fromUnixTimestamp (second : Int) : Option OffsetDateTime :=
  if range : minUnixTimestamp ≤ second ∧ second ≤ maxUnixTimestamp then
    some ⟨second, 0, 0, range, by decide, by decide⟩
  else
    none

theorem OffsetDateTime.unixTimestamp_of_fromUnixTimestamp {second : Int} {ts : OffsetDateTime}
    (h : OffsetDateTime.fromUnixTimestamp second = some ts) : ts.unixTimestamp = second := by
  unfold OffsetDateTime.fromUnixTimestamp at h
  split at h
  · cases h
    exact Int.sub_zero second
  · cases h

theorem OffsetDateTime.fromUnixTimestamp_isSome {second : Int} :
    (OffsetDateTime.fromUnixTimestamp second).isSome ↔
      minUnixTimestamp ≤ second ∧ second ≤ maxUnixTimestamp := by
  unfold OffsetDateTime.fromUnixTimestamp
  split <;> simp [*]

def OffsetDateTime.atSecond (second : Fin 86400) : OffsetDateTime where
  localSecond := second.val
  nanosecond := 0
  utcOffset := 0
  date := by
    have := second.isLt
    unfold minUnixTimestamp maxUnixTimestamp
    omega
  fraction := by decide
  offset := by decide

/-- The last second of the year 9999, one hour west of UTC. -/
def OffsetDateTime.lastSecondWest : OffsetDateTime :=
  ⟨maxUnixTimestamp, 0, -3600, by decide, by decide, by decide⟩

abbrev EntryId := String

structure Entry where
  entryId : EntryId
  deviceId : String
  userId : String
  ts : OffsetDateTime
  cmd : String
  cwd : String
  exitCode : Int32
  durationMs : Int64
  shell : String
  hostname : String
  version : String
  deriving DecidableEq

structure EntryInput where
  deviceId : String
  userId : String
  ts : OffsetDateTime
  cmd : String
  cwd : String
  exitCode : Int32
  durationMs : Int64
  shell : String
  hostname : String

/-- `CARGO_PKG_VERSION` -/
def pkgVersion : String := "0.1.0"

def Entry.newWithId (entryId : EntryId) (input : EntryInput) : Entry where
  entryId := entryId
  deviceId := input.deviceId
  userId := input.userId
  ts := input.ts
  cmd := input.cmd
  cwd := input.cwd
  exitCode := input.exitCode
  durationMs := input.durationMs
  shell := input.shell
  hostname := input.hostname
  version := pkgVersion

/-- `Entry::new`; the id is the UUIDv4 that `new_entry_id` draws. -/
def Entry.new (newEntryId : EntryId) (input : EntryInput) : Entry := .newWithId newEntryId input

/-- The entry the repository's tests build. -/
def testEntry (entryId : EntryId) (ts : OffsetDateTime) (cmd : String) : Entry where
  entryId := entryId
  deviceId := "dev1"
  userId := "user1"
  ts := ts
  cmd := cmd
  cwd := "/tmp"
  exitCode := 0
  durationMs := 12
  shell := "zsh"
  hostname := "host"
  version := pkgVersion

def firstEcho : Entry := testEntry "id-1" (.atSecond 1) "echo 1"
def secondEcho : Entry := testEntry "id-2" (.atSecond 2) "echo 2"
def lateEcho : Entry := testEntry "id-1" .lastSecondWest "echo 1"

end Rustory
