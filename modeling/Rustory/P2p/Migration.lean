import Rustory.Foundations.Rekey
import Rustory.P2p.Fallback
import Rustory.Sync.Device

namespace Rustory

open Foundations LocalStore

/-! Cursors under multiaddr keys, from before peers were keyed by their ids. -/

def legacyKeys (peers : List String) : List String := (peers.map trim).filter fun key => !key.isEmpty

section

variable {PeerId : Type} (libs : P2pLibs PeerId)

def isPeerKey (key : String) : Bool := (libs.parsePeerId key).isOk

/-- The key of the peer that a multiaddr names, and the multiaddr. -/
def rename (peerKeyOld : String) : Option (String × String) :=
  match splitPeerMultiaddr libs peerKeyOld with
  | .error _ => none
  | .ok (peerId, _) => some (libs.peerIdText peerId, peerKeyOld)

def renames (peers : List String) : List (String × String) := (legacyKeys peers).filterMap (rename libs)

/-- The given multiaddrs that name the peer of `peerKey`, in order. -/
def legacyKeysOf (peers : List String) (peerKey : String) : List String := oldKeys (renames libs peers) peerKey

/-- No text of a peer id is read as a multiaddr, which begins with a slash. -/
def PeerIdNoMultiaddr : Prop := ∀ peerId, ∃ text, libs.parseMultiaddr (libs.peerIdText peerId) = .error text

/-- Every cursor is kept under a peer id, or under a multiaddr of the given peers. -/
def Keyed (peers : List String) (store : LocalStore) : Prop :=
  ∀ key, key ∈ store.peerState ∨ key ∈ store.peerPushState → isPeerKey libs key = true ∨ key ∈ legacyKeys peers

/-- What `build_manual_targets` does when it succeeds. -/
structure Migrates (peers : List String) (targets : List (SyncTarget PeerId)) (store migrated : LocalStore) :
    Prop where
  keys : targets.map SyncTarget.peerKey = (renames libs peers).map Prod.fst
  addresses : (renames libs peers).map Prod.snd = legacyKeys peers
  cursors : migrated.peerState = copyKeys store.peerState (renames libs peers)
  pushed : migrated.peerPushState = copyKeys store.peerPushState (renames libs peers)
  book : ∀ key, key ∈ migrated.peerBook ↔ key ∈ store.peerBook ∨ ∃ target ∈ targets, target.peerKey = key

variable {libs} {manualRelay : Option (Multiaddr PeerId)} {clock : Nat → OffsetDateTime} {peers : List String}
  {index : Nat} {targets : List (SyncTarget PeerId)} {store migrated after : LocalStore} {key : String}

theorem migrateCursors_eq (store : LocalStore) (peerKey peerKeyOld : String) :
    migrateCursors store peerKey peerKeyOld =
      { store with
        peerState := copyKey store.peerState peerKey peerKeyOld
        peerPushState := copyKey store.peerPushState peerKey peerKeyOld } := by
  unfold migrateCursors copyKey getLastCursorOpt
  cases store.peerState.lookup peerKey with
  | some cursor =>
    dsimp only [getLastPushedSeqOpt]
    cases store.peerPushState.lookup peerKey <;> cases store.peerPushState.lookup peerKeyOld <;> rfl
  | none =>
    cases store.peerState.lookup peerKeyOld <;> dsimp only [getLastPushedSeqOpt, setLastCursor] <;>
      cases store.peerPushState.lookup peerKey <;> cases store.peerPushState.lookup peerKeyOld <;> rfl

theorem legacyKeys_cons (addr : String) (rest : List String) :
    legacyKeys (addr :: rest) = if (trim addr).isEmpty then legacyKeys rest else trim addr :: legacyKeys rest := by
  unfold legacyKeys
  rw [List.map_cons, List.filter_cons]
  cases (trim addr).isEmpty <;> rfl

theorem manualTargetsFrom_migrates
    (built : manualTargetsFrom libs manualRelay clock index store peers = (.ok targets, migrated)) :
    Migrates libs peers targets store migrated := by
  induction peers generalizing index store targets with
  | nil =>
    cases built
    constructor <;> first | rfl | simp
  | cons addr rest ih =>
    have legacy := legacyKeys_cons addr rest
    cases given : (trim addr).isEmpty with
    | true =>
      rw [manualTargetsFrom_blank given] at built
      rw [if_pos given] at legacy
      obtain ⟨same, addresses, cursors, pushed, book⟩ := ih built
      unfold renames at *
      rw [← legacy] at same addresses cursors pushed
      exact ⟨same, addresses, cursors, pushed, book⟩
    | false =>
      obtain ⟨peerId, baseAddr, others, split, rfl, later⟩ := (manualTargetsFrom_given given).mp built
      rw [if_neg (by simp [given])] at legacy
      have first : renames libs (addr :: rest) = (libs.peerIdText peerId, trim addr) :: renames libs rest := by
        unfold renames
        rw [legacy, List.filterMap_cons, rename, split]
      obtain ⟨same, addresses, cursors, pushed, book⟩ := ih later
      unfold cachedManually at cursors pushed book
      rw [migrateCursors_eq] at cursors pushed book
      constructor
      · rw [first, List.map_cons, List.map_cons, same]
      · rw [first, legacy, List.map_cons, addresses]
      · rw [first, cursors]
        rfl
      · rw [first, pushed]
        rfl
      · intro key
        rw [book key]
        unfold upsertPeerBook
        dsimp only
        rw [AList.mem_insert, List.exists_mem_cons_iff]
        constructor
        · intro known
          rcases known with (now | before) | later
          · exact Or.inr (Or.inl now.symm)
          · exact Or.inl before
          · exact Or.inr (Or.inr later)
        · intro known
          rcases known with before | now | later
          · exact Or.inl (Or.inr before)
          · exact Or.inl (Or.inl now.symm)
          · exact Or.inr later

/-- The targets do not depend on the store. -/
theorem manualTargetsFrom_again
    (built : manualTargetsFrom libs manualRelay clock index store peers = (.ok targets, migrated))
    (clock' : Nat → OffsetDateTime) (index' : Nat) (other : LocalStore) :
    ∃ again, manualTargetsFrom libs manualRelay clock' index' other peers = (.ok targets, again) := by
  induction peers generalizing index store targets index' other with
  | nil =>
    cases built
    exact ⟨other, rfl⟩
  | cons addr rest ih =>
    cases given : (trim addr).isEmpty with
    | true =>
      rw [manualTargetsFrom_blank given] at built ⊢
      exact ih built (index' + 1) other
    | false =>
      obtain ⟨peerId, baseAddr, others, split, rfl, later⟩ := (manualTargetsFrom_given given).mp built
      obtain ⟨again, built'⟩ := ih later (index' + 1)
        (cachedManually other (libs.peerIdText peerId) (trim addr) (clock' index'))
      exact ⟨again, (manualTargetsFrom_given given).mpr ⟨peerId, baseAddr, others, split, rfl, built'⟩⟩

/-! Addresses and peer ids are told apart. -/

theorem mem_renames {new old : String} (member : (new, old) ∈ renames libs peers) :
    old ∈ legacyKeys peers ∧ ∃ peerId baseAddr, splitPeerMultiaddr libs old = .ok (peerId, baseAddr) ∧
      new = libs.peerIdText peerId := by
  unfold renames at member
  obtain ⟨addr, listed, named⟩ := List.mem_filterMap.mp member
  unfold rename at named
  split at named
  · cases named
  · rename_i peerId baseAddr split
    cases named
    exact ⟨listed, peerId, baseAddr, split, rfl⟩

theorem splitPeerMultiaddr_text (unread : PeerIdNoMultiaddr libs) (peerId : PeerId) :
    ∃ err, splitPeerMultiaddr libs (libs.peerIdText peerId) = .error err := by
  obtain ⟨text, fails⟩ := unread peerId
  unfold splitPeerMultiaddr
  rw [fails]
  exact ⟨_, rfl⟩

theorem isPeerKey_text (text : PeerIdText libs) (peerId : PeerId) : isPeerKey libs (libs.peerIdText peerId) = true := by
  rw [isPeerKey, text.reads]
  rfl

theorem new_isPeerKey (text : PeerIdText libs) {r : String × String} (member : r ∈ renames libs peers) :
    isPeerKey libs r.1 = true := by
  obtain ⟨-, peerId, baseAddr, -, same⟩ := mem_renames member
  rw [same]
  exact isPeerKey_text text peerId

theorem old_not_isPeerKey (text : PeerIdText libs) (unread : PeerIdNoMultiaddr libs) {r : String × String}
    (member : r ∈ renames libs peers) : isPeerKey libs r.2 = false := by
  obtain ⟨-, peerId, baseAddr, split, -⟩ := mem_renames member
  unfold isPeerKey
  cases parsed : libs.parsePeerId r.2 with
  | error err => rfl
  | ok other =>
    obtain ⟨err, fails⟩ := splitPeerMultiaddr_text unread other
    rw [text.unique r.2 other parsed, fails] at split
    cases split

theorem renames_apart (text : PeerIdText libs) (unread : PeerIdNoMultiaddr libs) (peers : List String) :
    Apart (renames libs peers) := by
  intro new isNew old isOld same
  have known := new_isPeerKey text isNew
  rw [same, old_not_isPeerKey text unread isOld] at known
  cases known

theorem Migrates.legacy_renames (migrates : Migrates libs peers targets store migrated)
    (legacy : key ∈ legacyKeys peers) : ∃ new, (new, key) ∈ renames libs peers := by
  rw [← migrates.addresses] at legacy
  obtain ⟨r, member, same⟩ := List.mem_map.mp legacy
  exact ⟨r.1, same ▸ member⟩

theorem Migrates.target_renames (migrates : Migrates libs peers targets store migrated)
    {target : SyncTarget PeerId} (member : target ∈ targets) : ∃ r ∈ renames libs peers, r.1 = target.peerKey := by
  have listed := List.mem_map_of_mem (f := SyncTarget.peerKey) member
  rw [migrates.keys] at listed
  exact List.mem_map.mp listed

/-! The rows under legacy keys, from before the migration to some sessions after it. -/

/-- Whatever is not a peer id keeps its rows. -/
structure KeepsLegacy (libs : P2pLibs PeerId) (store after : LocalStore) : Prop where
  cursor : ∀ key, isPeerKey libs key = false → after.getLastCursorOpt key = store.getLastCursorOpt key
  pushed : ∀ key, isPeerKey libs key = false → after.getLastPushedSeqOpt key = store.getLastPushedSeqOpt key
  book : ∀ key, isPeerKey libs key = false → (key ∈ after.peerBook ↔ key ∈ store.peerBook)

theorem KeepsLegacy.trans {between : LocalStore} (first : KeepsLegacy libs store between)
    (second : KeepsLegacy libs between after) : KeepsLegacy libs store after where
  cursor := fun key legacy => (second.cursor key legacy).trans (first.cursor key legacy)
  pushed := fun key legacy => (second.pushed key legacy).trans (first.pushed key legacy)
  book := fun key legacy => (second.book key legacy).trans (first.book key legacy)

theorem KeepsLegacy.knows (keeps : KeepsLegacy libs store after) (legacy : isPeerKey libs key = false) :
    after.Knows key ↔ store.Knows key := by
  have cursor := keeps.cursor key legacy
  have pushed := keeps.pushed key legacy
  unfold Knows
  rw [← AList.lookup_isSome, ← AList.lookup_isSome, keeps.book key legacy, ← AList.lookup_isSome (s := store.peerState),
    ← AList.lookup_isSome (s := store.peerPushState)]
  unfold getLastCursorOpt at cursor
  unfold getLastPushedSeqOpt at pushed
  rw [cursor, pushed]

theorem Migrates.keepsLegacy (text : PeerIdText libs) (migrates : Migrates libs peers targets store migrated) :
    KeepsLegacy libs store migrated := by
  have other : ∀ key, isPeerKey libs key = false → ∀ r ∈ renames libs peers, r.1 ≠ key := by
    intro key legacy r member same
    rw [← same, new_isPeerKey text member] at legacy
    cases legacy
  constructor
  · intro key legacy
    unfold getLastCursorOpt
    rw [migrates.cursors]
    exact lookup_copyKeys_other (other key legacy)
  · intro key legacy
    unfold getLastPushedSeqOpt
    rw [migrates.pushed]
    exact lookup_copyKeys_other (other key legacy)
  · intro key legacy
    rw [migrates.book key, or_iff_left]
    intro ⟨target, member, same⟩
    obtain ⟨r, listed, new⟩ := migrates.target_renames member
    exact other key legacy r listed (new.trans same)

/-- Sessions with peers that are known by their ids. -/
def WithPeerIds (libs : P2pLibs PeerId) (actions : List DeviceAction) : Prop :=
  ∀ action ∈ actions, ∀ key, action.peer = some key → isPeerKey libs key = true

theorem run_keepsLegacy {deviceId : String} {actions : List DeviceAction}
    (run : Run (DeviceStep deviceId) store actions after) (sessions : WithPeerIds libs actions) :
    KeepsLegacy libs store after ∧ after.peerBook = store.peerBook := by
  refine run.invariant_of_labels (fun now => KeepsLegacy libs store now ∧ now.peerBook = store.peerBook)
    (fun action : DeviceAction => ∀ key, action.peer = some key → isPeerKey libs key = true) ?_ sessions
    ⟨⟨fun _ _ => rfl, fun _ _ => rfl, fun _ _ => Iff.rfl⟩, rfl⟩
  intro before action now ⟨keeps, book⟩ allowed step
  obtain ⟨same, cursor, pushed⟩ := step.keeps
  have other : ∀ key, isPeerKey libs key = false → action.peer ≠ some key := by
    intro key legacy is
    rw [allowed key is] at legacy
    cases legacy
  refine ⟨keeps.trans ⟨?_, ?_, ?_⟩, same.trans book⟩
  · exact fun key legacy => cursor key (other key legacy)
  · exact fun key legacy => pushed key (other key legacy)
  · intro key _
    rw [same]

/-! What a migration is to achieve. -/

/-- Each peer goes on from where its legacy key was, unless it has a cursor of its own; a second
    migration changes no cursor. -/
structure CarriesCursors (libs : P2pLibs PeerId) (peers : List String) (manualRelay : Option (Multiaddr PeerId))
    (targets : List (SyncTarget PeerId)) (store migrated : LocalStore) : Prop where
  cursors : ∀ target ∈ targets, migrated.getLastCursorOpt target.peerKey =
    (store.getLastCursorOpt target.peerKey).or
      ((legacyKeysOf libs peers target.peerKey).findSome? store.getLastCursorOpt)
  pushed : ∀ target ∈ targets, migrated.getLastPushedSeqOpt target.peerKey =
    (store.getLastPushedSeqOpt target.peerKey).or
      ((legacyKeysOf libs peers target.peerKey).findSome? store.getLastPushedSeqOpt)
  repeats : ∀ clock, ∃ again, buildManualTargets libs migrated peers manualRelay clock = (.ok targets, again) ∧
    ∀ key, again.getLastCursorOpt key = migrated.getLastCursorOpt key ∧
      again.getLastPushedSeqOpt key = migrated.getLastPushedSeqOpt key

/-- Some sessions later, each peer has one line, and no other row holds the floor down. -/
structure LeavesNoGhosts (libs : P2pLibs PeerId) (peers : List String) (manualRelay : Option (Multiaddr PeerId))
    (targets : List (SyncTarget PeerId)) (store migrated after : LocalStore) : Prop extends
    CarriesCursors libs peers manualRelay targets store migrated where
  once : ∀ target ∈ targets, (after.listPeerSyncStatus.map PeerSyncStatus.peerId).filter
    (fun id => decide (id = target.peerKey ∨ id ∈ legacyKeysOf libs peers target.peerKey)) = [target.peerKey]
  floor : after.prunePushedFloorSeq =
    ((after.peerPushState.entries.filter fun entry => isPeerKey libs entry.fst).map Sigma.snd).min?

theorem buildManualTargets_again (text : PeerIdText libs) (unread : PeerIdNoMultiaddr libs)
    (built : buildManualTargets libs store peers manualRelay clock = (.ok targets, migrated))
    (clock' : Nat → OffsetDateTime) :
    ∃ again, buildManualTargets libs migrated peers manualRelay clock' = (.ok targets, again) ∧
      ∀ key, again.getLastCursorOpt key = migrated.getLastCursorOpt key ∧
        again.getLastPushedSeqOpt key = migrated.getLastPushedSeqOpt key := by
  have apart := renames_apart text unread peers
  obtain ⟨again, built'⟩ := manualTargetsFrom_again built clock' 0 migrated
  have first := manualTargetsFrom_migrates built
  have second := manualTargetsFrom_migrates built'
  refine ⟨again, built', ?_⟩
  intro key
  unfold getLastCursorOpt getLastPushedSeqOpt
  rw [second.cursors, second.pushed, first.cursors, first.pushed]
  exact ⟨lookup_copyKeys_again apart _ key, lookup_copyKeys_again apart _ key⟩

theorem buildManualTargets_carries (text : PeerIdText libs) (unread : PeerIdNoMultiaddr libs)
    (built : buildManualTargets libs store peers manualRelay clock = (.ok targets, migrated)) :
    CarriesCursors libs peers manualRelay targets store migrated := by
  have migrates := manualTargetsFrom_migrates built
  have apart := renames_apart text unread peers
  constructor
  · intro target _
    unfold getLastCursorOpt legacyKeysOf
    rw [migrates.cursors]
    exact lookup_copyKeys apart store.peerState target.peerKey
  · intro target _
    unfold getLastPushedSeqOpt legacyKeysOf
    rw [migrates.pushed]
    exact lookup_copyKeys apart store.peerPushState target.peerKey
  · exact buildManualTargets_again text unread built

theorem Migrates.once_iff (text : PeerIdText libs) (unread : PeerIdNoMultiaddr libs)
    (migrates : Migrates libs peers targets store migrated) (keeps : KeepsLegacy libs store after)
    (book : after.peerBook = migrated.peerBook) :
    (∀ target ∈ targets, (after.listPeerSyncStatus.map PeerSyncStatus.peerId).filter
        (fun id => decide (id = target.peerKey ∨ id ∈ legacyKeysOf libs peers target.peerKey)) = [target.peerKey]) ↔
      ∀ key ∈ legacyKeys peers, ¬ store.Knows key := by
  have listed : ∀ target ∈ targets, target.peerKey ∈ after.listPeerSyncStatus.map PeerSyncStatus.peerId := by
    intro target member
    rw [mem_statusIds]
    refine Or.inr (Or.inr ?_)
    rw [book, migrates.book]
    exact Or.inr ⟨target, member, rfl⟩
  have single := fun target member => filter_eq_singleton_iff (statusIds_nodup after) (listed target member)
    (p := fun id => decide (id = target.peerKey ∨ id ∈ legacyKeysOf libs peers target.peerKey)) (by simp)
  constructor
  · intro once key legacy known
    obtain ⟨new, member⟩ := migrates.legacy_renames legacy
    have isKey := List.mem_map_of_mem (f := Prod.fst) member
    rw [← migrates.keys] at isKey
    obtain ⟨target, among, rfl⟩ := List.mem_map.mp isKey
    have later := (keeps.knows (old_not_isPeerKey text unread member)).mpr known
    have same := (single target among).mp (once target among) key (mem_statusIds.mpr later)
      (decide_eq_true (Or.inr (mem_oldKeys.mpr member)))
    exact renames_apart text unread peers _ member _ member same.symm
  · intro nothing target among
    rw [single target among]
    intro id known names
    rcases of_decide_eq_true names with same | old
    · exact same
    · have member := mem_oldKeys.mp old
      have before := (keeps.knows (old_not_isPeerKey text unread member)).mp (mem_statusIds.mp known)
      exact absurd before (nothing id (mem_renames member).1)

theorem KeepsLegacy.floor (keeps : KeepsLegacy libs store after) (keyed : Keyed libs peers store)
    (nothing : ∀ key ∈ legacyKeys peers, ¬ store.Knows key) :
    after.prunePushedFloorSeq =
      ((after.peerPushState.entries.filter fun entry => isPeerKey libs entry.fst).map Sigma.snd).min? := by
  have all : (after.peerPushState.entries.filter fun entry => isPeerKey libs entry.fst) =
      after.peerPushState.entries := by
    rw [List.filter_eq_self]
    intro entry member
    by_contra other
    have legacy := Bool.eq_false_iff.mpr other
    have pushed := keeps.pushed entry.fst legacy
    have row : after.getLastPushedSeqOpt entry.fst = some entry.snd := AList.mem_lookup_iff.mpr member
    have inside : entry.fst ∈ store.peerPushState := by
      rw [← AList.lookup_isSome, ← getLastPushedSeqOpt, ← pushed, row]
      rfl
    rcases keyed entry.fst (Or.inr inside) with isKey | old
    · exact other isKey
    · exact nothing entry.fst old (Or.inr (Or.inl inside))
  rw [all]
  rfl

end

/-- A migration carries every cursor over. It leaves no ghosts exactly where there is nothing to
    migrate: a row that is copied stays, and goes on counting as a peer. -/
theorem migration_leaves_no_ghosts_iff {PeerId : Type} (libs : P2pLibs PeerId) (text : PeerIdText libs)
    (unread : PeerIdNoMultiaddr libs) (peers : List String) (manualRelay : Option (Multiaddr PeerId))
    (clock : Nat → OffsetDateTime) (store : LocalStore) (keyed : Keyed libs peers store)
    (targets : List (SyncTarget PeerId)) (migrated : LocalStore)
    (built : buildManualTargets libs store peers manualRelay clock = (.ok targets, migrated)) (deviceId : String)
    (actions : List DeviceAction) (after : LocalStore) (run : Run (DeviceStep deviceId) migrated actions after)
    (sessions : WithPeerIds libs actions) :
    CarriesCursors libs peers manualRelay targets store migrated ∧
      (LeavesNoGhosts libs peers manualRelay targets store migrated after ↔
        ∀ key ∈ legacyKeys peers, ¬ store.Knows key) := by
  have carries := buildManualTargets_carries text unread built
  have migrates := manualTargetsFrom_migrates built
  obtain ⟨later, book⟩ := run_keepsLegacy run sessions
  have keeps := (migrates.keepsLegacy text).trans later
  have once := migrates.once_iff text unread keeps book
  refine ⟨carries, ?_, ?_⟩
  · intro ghosts
    exact once.mp ghosts.once
  · intro nothing
    exact ⟨carries, once.mpr nothing, keeps.floor keyed nothing⟩

/-- A store from stage 1, which has pulled from one multiaddr and pushed to it. -/
def legacyStore : LocalStore := (opened.setLastCursor remoteAddr 11).setLastPushedSeq remoteAddr 7

def remoteTarget : SyncTarget EchoPeer :=
  ⟨.remote, EchoPeer.text .remote, [[.ip4 0x7F000001, .other "/tcp/1234"]], none⟩

def migratedStore : LocalStore := cachedManually legacyStore (EchoPeer.text .remote) remoteAddr secondEcho.ts

theorem remoteAddr_trimmed : trim remoteAddr = remoteAddr := by decide

theorem migratedStore_built :
    buildManualTargets echoLibs legacyStore [remoteAddr] none (fun _ => secondEcho.ts) =
      (.ok [remoteTarget], migratedStore) := by
  have given : remoteAddr.isEmpty = false := by decide
  unfold buildManualTargets manualTargetsFrom
  simp only [remoteAddr_trimmed, given, Bool.false_eq_true, if_false]
  rfl

theorem legacyKeys_remoteAddr : legacyKeys [remoteAddr] = [remoteAddr] := by
  have given : remoteAddr.isEmpty = false := by decide
  rw [legacyKeys_cons, remoteAddr_trimmed, given]
  rfl

theorem echoLibs_unread : PeerIdNoMultiaddr echoLibs := by
  intro peerId
  refine ⟨"invalid multiaddr", if_neg ?_⟩
  cases peerId <;> decide

theorem legacyStore_keyed : Keyed echoLibs [remoteAddr] legacyStore := by
  intro key known
  right
  rw [legacyKeys_remoteAddr, List.mem_singleton]
  rcases known with cursor | pushed
  · rcases (AList.mem_insert _).mp cursor with same | none
    · exact same
    · cases none
  · rcases (AList.mem_insert _).mp pushed with same | none
    · exact same
    · cases none

theorem legacyStore_knows : ¬ ∀ key ∈ legacyKeys [remoteAddr], ¬ legacyStore.Knows key := by
  rw [legacyKeys_remoteAddr]
  intro nothing
  exact nothing remoteAddr List.mem_cons_self (Or.inl ((AList.mem_insert _).mpr (Or.inl rfl)))

/-- The upload of an empty history. -/
theorem migratedStore_pushed :
    Run (DeviceStep "dev1") migratedStore [.push (EchoPeer.text .remote) (.returned (.ok 0))] migratedStore :=
  .single (.push migratedStore migratedStore _ 1 (fun _ => takesAll) 1 _ (fun _ => rfl) rfl)

theorem pushed_withPeerIds (ends : PushState) : WithPeerIds echoLibs [.push (EchoPeer.text .remote) ends] := by
  intro action member key is
  rw [List.mem_singleton.mp member] at is
  cases is
  exact isPeerKey_text echoLibs_text .remote

theorem migration_leaves_no_ghosts_iff_echo :
    buildManualTargets echoLibs legacyStore [remoteAddr] none (fun _ => secondEcho.ts) =
        (.ok [remoteTarget], migratedStore) ∧
      CarriesCursors echoLibs [remoteAddr] none [remoteTarget] legacyStore migratedStore ∧
      (LeavesNoGhosts echoLibs [remoteAddr] none [remoteTarget] legacyStore migratedStore migratedStore ↔
        ∀ key ∈ legacyKeys [remoteAddr], ¬ legacyStore.Knows key) :=
  ⟨migratedStore_built, migration_leaves_no_ghosts_iff echoLibs echoLibs_text echoLibs_unread [remoteAddr] none
    (fun _ => secondEcho.ts) legacyStore legacyStore_keyed [remoteTarget] migratedStore migratedStore_built "dev1" _
    migratedStore migratedStore_pushed (pushed_withPeerIds _)⟩

/-- The legacy row is listed beside the peer that it was copied to, after an upload to it as well. -/
theorem migrated_row_counts_as_peer :
    ¬ ∀ (libs : P2pLibs EchoPeer), PeerIdText libs → PeerIdNoMultiaddr libs →
      ∀ (peers : List String) (manualRelay : Option (Multiaddr EchoPeer)) (clock : Nat → OffsetDateTime)
        (store : LocalStore), Keyed libs peers store →
      ∀ (targets : List (SyncTarget EchoPeer)) (migrated : LocalStore),
        buildManualTargets libs store peers manualRelay clock = (.ok targets, migrated) →
      ∀ (deviceId : String) (actions : List DeviceAction) (after : LocalStore),
        Run (DeviceStep deviceId) migrated actions after → WithPeerIds libs actions →
        (∀ target ∈ targets, ∃ total, .push target.peerKey (.returned (.ok total)) ∈ actions) →
        LeavesNoGhosts libs peers manualRelay targets store migrated after := by
  intro law
  have uploaded : ∀ target ∈ [remoteTarget], ∃ total, DeviceAction.push target.peerKey (.returned (.ok total)) ∈
      [DeviceAction.push (EchoPeer.text .remote) (.returned (.ok 0))] := by
    intro target member
    rw [List.mem_singleton.mp member]
    exact ⟨0, List.mem_cons_self⟩
  have ghosts := law echoLibs echoLibs_text echoLibs_unread [remoteAddr] none (fun _ => secondEcho.ts) legacyStore
    legacyStore_keyed [remoteTarget] migratedStore migratedStore_built "dev1" _ migratedStore migratedStore_pushed
    (pushed_withPeerIds _) uploaded
  have migrates := manualTargetsFrom_migrates migratedStore_built
  have once := migrates.once_iff echoLibs_text echoLibs_unread (migrates.keepsLegacy echoLibs_text) rfl
  exact legacyStore_knows (once.mp ghosts.once)

end Rustory
