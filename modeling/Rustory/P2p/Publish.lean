import Rustory.Foundations.Merge
import Rustory.P2p.Fallback

namespace Rustory

open Foundations

/-! The addresses that `serve_async` collects and registers. -/

/-- `libp2p::swarm::SwarmEvent`, as far as addresses go. -/
inductive AddrEvent (PeerId : Type)
  | newListenAddr (address : Multiaddr PeerId)
  | newExternalAddrCandidate (address : Multiaddr PeerId)
  | externalAddrConfirmed (address : Multiaddr PeerId)

section

variable {PeerId : Type}

def AddrEvent.address : AddrEvent PeerId → Multiaddr PeerId
  | .newListenAddr address => address
  | .newExternalAddrCandidate address => address
  | .externalAddrConfirmed address => address

variable [DecidableEq PeerId]

def ensureP2pSuffix (addr : Multiaddr PeerId) (peerId : PeerId) : Multiaddr PeerId :=
  match addr.getLast? with
  | some (.p2p got) => if got = peerId then addr else addr.dropLast ++ [.p2p peerId]
  | _ => addr ++ [.p2p peerId]

variable (libs : P2pLibs PeerId)

def dialableTrackerAddrFromExternalCandidate (addr : Multiaddr PeerId) (peerId : PeerId) : Option String :=
  if addr.any fun p => p.isUnspecified || p.isCircuit then
    none
  else
    some (libs.multiaddrText (ensureP2pSuffix addr peerId))

def publishedAddr (localPeerId : PeerId) : AddrEvent PeerId → Option String
  | .newListenAddr address => some (libs.multiaddrText (ensureP2pSuffix address localPeerId))
  | .newExternalAddrCandidate address => dialableTrackerAddrFromExternalCandidate libs address localPeerId
  | .externalAddrConfirmed address => dialableTrackerAddrFromExternalCandidate libs address localPeerId

/-- `known_addrs`, a `HashSet`, after these events. -/
def knownAddrs (localPeerId : PeerId) (events : List (AddrEvent PeerId)) : List String :=
  events.foldl
    (fun known event =>
      match publishedAddr libs localPeerId event with
      | none => known
      | some full => known.insert full)
    []

end

section

variable {PeerId : Type}

def Bare (addr : Multiaddr PeerId) : Prop := ∀ peerId, addr.getLast? ≠ some (.p2p peerId)

/-- No unspecified IP and no relay. -/
def Dialable (addr : Multiaddr PeerId) : Prop := ∀ p ∈ addr, p.isUnspecified = false ∧ p.isCircuit = false

theorem dialable_iff {addr : Multiaddr PeerId} :
    Dialable addr ↔ (addr.any fun p => p.isUnspecified || p.isCircuit) = false := by
  simp [Dialable, List.any_eq_false]

theorem any_undialable (addr : Multiaddr PeerId) :
    (addr.any fun p => p.isUnspecified || p.isCircuit) =
      (addr.any Protocol.isUnspecified || addr.any Protocol.isCircuit) := by
  induction addr with
  | nil => rfl
  | cons p rest ih =>
    rw [List.any_cons, List.any_cons, List.any_cons, ih]
    cases p.isUnspecified <;> cases p.isCircuit <;> simp

theorem directCandidate_full (addr : Multiaddr PeerId) (peerId : PeerId) :
    directCandidate (addr ++ [.p2p peerId]) =
      if addr.any fun p => p.isUnspecified || p.isCircuit then none else some addr := by
  have unspecified : (addr ++ [Protocol.p2p peerId]).any Protocol.isUnspecified =
      addr.any Protocol.isUnspecified := by
    simp [Protocol.isUnspecified]
  have circuit : (addr ++ [Protocol.p2p peerId]).any Protocol.isCircuit = addr.any Protocol.isCircuit := by
    simp [Protocol.isCircuit]
  unfold directCandidate
  rw [unspecified, circuit, any_undialable, List.getLast?_concat, List.dropLast_concat]

def readCandidate (libs : P2pLibs PeerId) (raw : String) : Option (Multiaddr PeerId) :=
  (libs.parseMultiaddr raw).toOption.bind directCandidate

theorem addCandidate_eq (libs : P2pLibs PeerId) :
    addCandidate libs = collectNew (readCandidate libs) libs.multiaddrText := by
  funext found raw
  unfold addCandidate collectNew readCandidate
  cases libs.parseMultiaddr raw with
  | error text => rfl
  | ok addr =>
    simp only [Except.toOption, Option.bind_some]
    cases directCandidate addr with
    | none => rfl
    | some value => by_cases known : libs.multiaddrText value ∈ found.2 <;> simp [known]

variable [DecidableEq PeerId]

/-- The address is read back from its text, with and without the peer id. -/
structure ReadsPrinted (libs : P2pLibs PeerId) (localPeerId : PeerId) (addr : Multiaddr PeerId) : Prop where
  bare : libs.parseMultiaddr (libs.multiaddrText addr) = .ok addr
  full : libs.parseMultiaddr (libs.multiaddrText (ensureP2pSuffix addr localPeerId)) =
    .ok (ensureP2pSuffix addr localPeerId)

/-- A reader of the published addresses gets the dialable ones, each once, in the order in which they
    first occur. -/
structure ReadsBack (libs : P2pLibs PeerId) (localPeerId : PeerId) (events : List (AddrEvent PeerId))
    (published : List String) (read : List (Multiaddr PeerId)) : Prop where
  once : read.Nodup
  exact : ∀ addr, addr ∈ read ↔ (∃ event ∈ events, event.address = addr) ∧ Dialable addr
  ordered : read.Pairwise fun a b =>
    published.idxOf (libs.multiaddrText (ensureP2pSuffix a localPeerId)) <
      published.idxOf (libs.multiaddrText (ensureP2pSuffix b localPeerId))

variable {libs : P2pLibs PeerId} {localPeerId : PeerId} {events : List (AddrEvent PeerId)}
  {event : AddrEvent PeerId} {addr : Multiaddr PeerId} {full : String} {published : List String}

theorem ensureP2pSuffix_bare (bare : Bare addr) : ensureP2pSuffix addr localPeerId = addr ++ [.p2p localPeerId] := by
  unfold ensureP2pSuffix
  split
  · rename_i got last
    exact absurd last (bare got)
  · rfl

theorem mem_knownAddrs :
    full ∈ knownAddrs libs localPeerId events ↔
      ∃ event ∈ events, publishedAddr libs localPeerId event = some full := by
  have from_known : ∀ known : List String,
      full ∈ events.foldl
        (fun known event =>
          match publishedAddr libs localPeerId event with
          | none => known
          | some full => known.insert full)
        known ↔ full ∈ known ∨ ∃ event ∈ events, publishedAddr libs localPeerId event = some full := by
    induction events with
    | nil => simp
    | cons event rest ih =>
      intro known
      rw [List.foldl_cons, ih]
      cases given : publishedAddr libs localPeerId event with
      | none => simp [given]
      | some other => simp [given, or_assoc, eq_comm, or_left_comm]
  unfold knownAddrs
  rw [from_known]
  simp

theorem readCandidate_full (bare : Bare addr) (reads : ReadsPrinted libs localPeerId addr) :
    readCandidate libs (libs.multiaddrText (ensureP2pSuffix addr localPeerId)) =
      if addr.any fun p => p.isUnspecified || p.isCircuit then none else some addr := by
  unfold readCandidate
  rw [reads.full, ensureP2pSuffix_bare bare]
  exact directCandidate_full addr localPeerId

/-- Both routes publish the address with the suffix; external candidates only if they can be dialled. -/
theorem publishedAddr_some (given : publishedAddr libs localPeerId event = some full) :
    full = libs.multiaddrText (ensureP2pSuffix event.address localPeerId) := by
  have external : ∀ addr, dialableTrackerAddrFromExternalCandidate libs addr localPeerId = some full →
      full = libs.multiaddrText (ensureP2pSuffix addr localPeerId) := by
    intro addr accepted
    unfold dialableTrackerAddrFromExternalCandidate at accepted
    split at accepted
    · cases accepted
    · exact (Option.some.inj accepted).symm
  cases event with
  | newListenAddr address => exact (Option.some.inj given).symm
  | newExternalAddrCandidate address => exact external address given
  | externalAddrConfirmed address => exact external address given

theorem publishedAddr_dialable (dialable : Dialable event.address) :
    publishedAddr libs localPeerId event = some (libs.multiaddrText (ensureP2pSuffix event.address localPeerId)) := by
  have external : ∀ addr : Multiaddr PeerId, Dialable addr →
      dialableTrackerAddrFromExternalCandidate libs addr localPeerId =
        some (libs.multiaddrText (ensureP2pSuffix addr localPeerId)) := by
    intro addr dialable
    unfold dialableTrackerAddrFromExternalCandidate
    rw [dialable_iff.mp dialable, if_neg (by simp)]
  cases event with
  | newListenAddr address => rfl
  | newExternalAddrCandidate address => exact external address dialable
  | externalAddrConfirmed address => exact external address dialable

end

/-- The published addresses come back as the dialable ones among those that the swarm reported. -/
theorem published_read_back {PeerId : Type} [DecidableEq PeerId] {libs : P2pLibs PeerId} {localPeerId : PeerId}
    {events : List (AddrEvent PeerId)} (bare : ∀ event ∈ events, Bare event.address)
    (reads : ∀ event ∈ events, ReadsPrinted libs localPeerId event.address) {published : List String}
    (order : ∀ full, full ∈ published ↔ full ∈ knownAddrs libs localPeerId events) :
    ReadsBack libs localPeerId events published (directCandidateAddrsFromTracker libs published) := by
  have origin : ∀ full ∈ published, ∃ event ∈ events,
      full = libs.multiaddrText (ensureP2pSuffix event.address localPeerId) := by
    intro full listed
    obtain ⟨event, member, given⟩ := mem_knownAddrs.mp ((order full).mp listed)
    exact ⟨event, member, publishedAddr_some given⟩
  have value : ∀ full ∈ published, ∀ addr, readCandidate libs full = some addr → ∃ event ∈ events,
      event.address = addr ∧ Dialable addr ∧ libs.multiaddrText (ensureP2pSuffix addr localPeerId) = full := by
    intro full listed addr read
    obtain ⟨event, member, rfl⟩ := origin full listed
    rw [readCandidate_full (bare event member) (reads event member)] at read
    split at read
    · cases read
    · rename_i dialable
      obtain rfl := Option.some.inj read
      exact ⟨event, member, rfl, dialable_iff.mpr (by simpa using dialable), rfl⟩
  have collected : Collected (readCandidate libs) libs.multiaddrText
      (fun addr => libs.multiaddrText (ensureP2pSuffix addr localPeerId)) published
      (published.foldl (collectNew (readCandidate libs) libs.multiaddrText) ([], [])) := by
    apply collected_run
    · intro full listed addr read
      obtain ⟨event, -, -, -, text⟩ := value full listed addr read
      exact text
    · intro full listed full' listed' a b readA readB same
      obtain ⟨event, member, rfl, -⟩ := value full listed a readA
      obtain ⟨event', member', rfl, -⟩ := value full' listed' b readB
      have parsed := (reads event member).bare
      rw [same, (reads event' member').bare] at parsed
      exact (Except.ok.inj parsed).symm
  rw [← addCandidate_eq] at collected
  refine ⟨collected.ordered.imp fun earlier same => ?_, ?_, collected.ordered⟩
  · rw [same] at earlier
    exact Nat.lt_irrefl _ earlier
  · intro addr
    unfold directCandidateAddrsFromTracker
    rw [collected.exact]
    constructor
    · intro ⟨full, listed, read⟩
      obtain ⟨event, member, same, dialable, -⟩ := value full listed addr read
      exact ⟨⟨event, member, same⟩, dialable⟩
    · intro ⟨⟨event, member, same⟩, dialable⟩
      subst same
      refine ⟨_, (order _).mpr (mem_knownAddrs.mpr ⟨event, member, publishedAddr_dialable dialable⟩), ?_⟩
      rw [readCandidate_full (bare event member) (reads event member), dialable_iff.mp dialable, if_neg (by simp)]

/-! A listener on every interface, of which the router shows one address. -/

def dottedQuad (addr : BitVec 32) : String :=
  ".".intercalate ([24, 16, 8, 0].map fun shift => Nat.repr ((addr >>> shift).toNat % 256))

def echoProtocolText : Protocol EchoPeer → String
  | .ip4 addr => "/ip4/" ++ dottedQuad addr
  | .ip6 _ => "/ip6/::"
  | .p2p peerId => "/p2p/" ++ peerId.text
  | .p2pCircuit => "/p2p-circuit"
  | .other text => text

def echoAddrText (addr : Multiaddr EchoPeer) : String := String.join (addr.map echoProtocolText)

def everyInterface : Multiaddr EchoPeer := [.ip4 0, .other "/tcp/1234"]

def lanAddr : Multiaddr EchoPeer := [.ip4 0xC0A80005, .other "/tcp/1234"]

def publishLibs : P2pLibs EchoPeer where
  parseMultiaddr text :=
    match [everyInterface, everyInterface ++ [.p2p .remote], lanAddr, lanAddr ++ [.p2p .remote]].find?
        (fun addr => echoAddrText addr == text) with
    | some addr => .ok addr
    | none => .error "invalid multiaddr"
  multiaddrText := echoAddrText
  parsePeerId := echoLibs.parsePeerId
  peerIdText := echoLibs.peerIdText

def lanEvents : List (AddrEvent EchoPeer) :=
  [.newListenAddr everyInterface, .newListenAddr lanAddr, .externalAddrConfirmed lanAddr,
    .newExternalAddrCandidate everyInterface]

theorem published_read_back_lan :
    ReadsBack publishLibs .remote lanEvents (knownAddrs publishLibs .remote lanEvents)
      (directCandidateAddrsFromTracker publishLibs (knownAddrs publishLibs .remote lanEvents)) := by
  have bare : ∀ event ∈ lanEvents, Bare event.address := by
    intro event member peerId
    simp only [lanEvents, List.mem_cons, List.not_mem_nil, or_false] at member
    rcases member with rfl | rfl | rfl | rfl <;> simp [AddrEvent.address, everyInterface, lanAddr]
  have reads : ∀ event ∈ lanEvents, ReadsPrinted publishLibs .remote event.address := by
    intro event member
    simp only [lanEvents, List.mem_cons, List.not_mem_nil, or_false] at member
    rcases member with rfl | rfl | rfl | rfl <;> exact ⟨rfl, rfl⟩
  exact published_read_back bare reads fun full => Iff.rfl

end Rustory
