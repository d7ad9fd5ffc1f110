import Mathlib.Data.List.Basic
import Rustory.Core.Error

namespace Rustory

inductive IoErrorKind
  | invalidData
  | invalidInput
  | outOfMemory
  deriving DecidableEq, Repr

structure IoError where
  kind : IoErrorKind
  text : String
  deriving DecidableEq, Repr

/-- `isize::MAX`, the most bytes a `Vec` or a slice can hold. -/
def isizeMax : Nat := 0x7FFFFFFFFFFFFFFF

structure ByteVec where
  bytes : List UInt8
  fits : bytes.length ≤ isizeMax
  deriving DecidableEq

def ByteVec.len (data : ByteVec) : Nat := data.bytes.length

def u64Max : Nat := 0xFFFFFFFFFFFFFFFF

/-- `u64::saturating_add(1)` -/
def saturatingSucc (max : UInt64) : Nat := min (max.toNat + 1) u64Max

/-- `read_to_end` on a stream that does not fail. -/
def readToEnd (bytes : List UInt8) : Except IoError ByteVec :=
  if fits : bytes.length ≤ isizeMax then .ok ⟨bytes, fits⟩ else .error ⟨.outOfMemory, "out of memory"⟩

/-- `serde_json` at one type. -/
structure SerdeJson (α : Type*) where
  toVec : α → Except String ByteVec
  fromSlice : ByteVec → Except String α

def SerdeJson.RoundTrips {α : Type*} (serde : SerdeJson α) : Prop :=
  ∀ v json, serde.toVec v = .ok json → serde.fromSlice json = .ok v

def ascii (text : String) : List UInt8 := text.toList.map fun c => UInt8.ofNat c.toNat

/-- `serde_json` at the values listed with their text. -/
def listedSerde {α : Type} [DecidableEq α] (texts : List (α × List UInt8)) : SerdeJson α where
  toVec v :=
    match texts.find? fun listed => decide (listed.1 = v) with
    | none => .error "not listed"
    | some (_, json) => if fits : json.length ≤ isizeMax then .ok ⟨json, fits⟩ else .error "out of memory"
  fromSlice data :=
    if data.bytes = [] then
      .error "EOF while parsing a value at line 1 column 0"
    else
      match texts.find? fun listed => decide (listed.2 = data.bytes) with
      | none => .error "expected value at line 1 column 1"
      | some (v, _) => .ok v

section

variable {α β : Type} [DecidableEq β]

theorem find_listed {texts : List α} {key : α → β} (nodup : (texts.map key).Nodup) {listed : α}
    (member : listed ∈ texts) : texts.find? (fun other => decide (key other = key listed)) = some listed := by
  induction texts with
  | nil => cases member
  | cons other rest ih =>
    obtain ⟨new, nodup⟩ := List.nodup_cons.mp nodup
    rcases List.mem_cons.mp member with rfl | later
    · exact List.find?_cons_of_pos (decide_eq_true rfl)
    · have differs : ¬ key other = key listed := fun same =>
        new (List.mem_map.mpr ⟨listed, later, same.symm⟩)
      rw [List.find?_cons_of_neg (by simp [differs])]
      exact ih nodup later

theorem listedSerde_toVec {texts : List (β × List UInt8)} (nodup : (texts.map Prod.fst).Nodup) {v : β}
    {json : List UInt8} (listed : (v, json) ∈ texts) (fits : json.length ≤ isizeMax) :
    (listedSerde texts).toVec v = .ok ⟨json, fits⟩ := by
  have found : texts.find? (fun other => decide (other.1 = v)) = some (v, json) := find_listed nodup listed
  simp only [listedSerde, found]
  exact dif_pos fits

theorem listedSerde_listed {texts : List (β × List UInt8)} {v : β} {json : ByteVec}
    (written : (listedSerde texts).toVec v = .ok json) : (v, json.bytes) ∈ texts := by
  simp only [listedSerde] at written
  split at written
  · cases written
  · rename_i v' bytes found
    split at written
    · cases written
      obtain rfl : v' = v := by simpa using List.find?_some found
      exact List.mem_of_find?_eq_some found
    · cases written

theorem listedSerde_roundTrips {texts : List (β × List UInt8)} (nodup : (texts.map Prod.snd).Nodup)
    (nonempty : [] ∉ texts.map Prod.snd) : (listedSerde texts).RoundTrips := by
  intro v json written
  have listed := listedSerde_listed written
  have text : json.bytes ≠ [] := by
    intro empty
    exact nonempty (empty ▸ List.mem_map_of_mem listed)
  have read : texts.find? (fun other => decide (other.2 = json.bytes)) = some (v, json.bytes) :=
    find_listed nodup listed
  simp only [listedSerde, text, read, if_false]

end

/-- `zstd`: a decoder yields its output up to the end of the frame or to a first error. -/
structure Zstd where
  encodeAll : ByteVec → Except String ByteVec
  decoder : ByteVec → Except String (List UInt8 × Option String)

def Zstd.RoundTrips (zstd : Zstd) : Prop :=
  ∀ data frame, zstd.encodeAll data = .ok frame → zstd.decoder frame = .ok (data.bytes, none)

structure JsonCodec where
  requestWireMaximum : UInt64
  responseWireMaximum : UInt64
  requestDecodedMaximum : UInt64
  responseDecodedMaximum : UInt64
  deriving DecidableEq, Repr

def JsonCodec.new (requestWireMaximum responseWireMaximum : UInt64) : JsonCodec where
  requestWireMaximum := requestWireMaximum
  responseWireMaximum := responseWireMaximum
  requestDecodedMaximum := requestWireMaximum
  responseDecodedMaximum := responseWireMaximum

def JsonCodec.withDecodedMaximum (codec : JsonCodec)
    (requestDecodedMaximum responseDecodedMaximum : UInt64) : JsonCodec :=
  { codec with
    requestDecodedMaximum := requestDecodedMaximum
    responseDecodedMaximum := responseDecodedMaximum }

def isZstdProtocol (protocol : String) : Bool := "/1.0.1".toList.isSuffixOf protocol.toList

/-- A result together with the number of bytes that were put into the buffer for it. -/
structure Buffered (α : Type*) where
  held : Nat
  result : Except IoError α

/-- Reads up to `max + 1` bytes to find out whether there are more than `max`. -/
def readWithin (max : UInt64) (kind : String) (bytes : List UInt8) : Buffered ByteVec :=
  let taken := bytes.take (saturatingSucc max)
  { held := taken.length
    result :=
      match readToEnd taken with
      | .error err => .error err
      | .ok vec =>
        if max.toNat < vec.len then
          .error ⟨.invalidData, s!"{kind} too large: {vec.len} > {max} bytes"⟩
        else
          .ok vec }

def readLimitedBytes (io : List UInt8) (max : UInt64) : Buffered ByteVec := readWithin max "message" io

def ensureLenLe (len : Nat) (max : UInt64) (kind : String) : Except IoError Unit :=
  if max.toNat < len then
    .error ⟨.invalidInput, s!"{kind} too large: {len} > {max} bytes"⟩
  else
    .ok ()

def compressZstd (zstd : Zstd) (data : ByteVec) : Except IoError ByteVec :=
  (zstd.encodeAll data).mapError fun text => ⟨.invalidData, text⟩

/-- The decoder is not asked again once `max + 1` bytes are there, so a later error of it does
    not show. -/
def decompressZstdLimited (zstd : Zstd) (data : ByteVec) (max : UInt64) : Buffered ByteVec :=
  match zstd.decoder data with
  | .error text => ⟨0, .error ⟨.invalidData, text⟩⟩
  | .ok (output, failure) =>
    let read := readWithin max "decompressed message" output
    { read with
      result :=
        match failure with
        | some text =>
          if output.length < saturatingSucc max then
            .error ⟨.invalidData, text⟩
          else
            read.result.mapError fun err => ⟨.invalidData, err.text⟩
        | none => read.result.mapError fun err => ⟨.invalidData, err.text⟩ }

/-! The four methods of the codec: two directions of one reader and one writer. -/

section

variable {α : Type*} (serde : SerdeJson α) (zstd : Zstd)

structure ReadOutcome (α : Type*) where
  wireHeld : Nat
  decodedHeld : Nat
  result : Except IoError α

def parseJson (data : ByteVec) : Except IoError α :=
  (serde.fromSlice data).mapError fun text => ⟨.invalidData, text⟩

def readMessage (wireMaximum decodedMaximum : UInt64) (protocol : String) (io : List UInt8) :
    ReadOutcome α :=
  let data := readLimitedBytes io wireMaximum
  match data.result with
  | .error err => ⟨data.held, 0, .error err⟩
  | .ok vec =>
    if isZstdProtocol protocol then
      let out := decompressZstdLimited zstd vec decodedMaximum
      match out.result with
      | .error err => ⟨data.held, out.held, .error err⟩
      | .ok vec => ⟨data.held, out.held, parseJson serde vec⟩
    else
      ⟨data.held, 0, parseJson serde vec⟩

def packMessage (decodedMaximum : UInt64) (decodedKind protocol : String) (json : ByteVec) :
    Except IoError ByteVec :=
  if isZstdProtocol protocol then do
    ensureLenLe json.len decodedMaximum decodedKind
    compressZstd zstd json
  else
    .ok json

def encodeMessage (wireMaximum decodedMaximum : UInt64) (kind decodedKind protocol : String) (v : α) :
    Except IoError ByteVec := do
  let json ← (serde.toVec v).mapError fun text => ⟨.invalidData, text⟩
  let data ← packMessage zstd decodedMaximum decodedKind protocol json
  ensureLenLe data.len wireMaximum kind
  return data

/-- `io` is what has been written so far. -/
def writeMessage (wireMaximum decodedMaximum : UInt64) (kind decodedKind protocol : String)
    (io : List UInt8) (v : α) : Except IoError Unit × List UInt8 :=
  match encodeMessage serde zstd wireMaximum decodedMaximum kind decodedKind protocol v with
  | .error err => (.error err, io)
  | .ok data => (.ok (), io ++ data.bytes)

def JsonCodec.readRequest (codec : JsonCodec) (protocol : String) (io : List UInt8) : ReadOutcome α :=
  readMessage serde zstd codec.requestWireMaximum codec.requestDecodedMaximum protocol io

def JsonCodec.readResponse (codec : JsonCodec) (protocol : String) (io : List UInt8) : ReadOutcome α :=
  readMessage serde zstd codec.responseWireMaximum codec.responseDecodedMaximum protocol io

def JsonCodec.writeRequest (codec : JsonCodec) (protocol : String) (io : List UInt8) (req : α) :
    Except IoError Unit × List UInt8 :=
  writeMessage serde zstd codec.requestWireMaximum codec.requestDecodedMaximum "request"
    "decoded request" protocol io req

def JsonCodec.writeResponse (codec : JsonCodec) (protocol : String) (io : List UInt8) (resp : α) :
    Except IoError Unit × List UInt8 :=
  writeMessage serde zstd codec.responseWireMaximum codec.responseDecodedMaximum "response"
    "decoded response" protocol io resp

end

/-! Reading within a maximum. -/

theorem readWithin_held_le (max : UInt64) (kind : String) (bytes : List UInt8) :
    (readWithin max kind bytes).held ≤ max.toNat + 1 := by
  have cut : (bytes.take (saturatingSucc max)).length ≤ saturatingSucc max := List.length_take_le _ _
  have limit : saturatingSucc max ≤ max.toNat + 1 := Nat.min_le_left _ _
  exact cut.trans limit

theorem readToEnd_ok {bytes : List UInt8} {vec : ByteVec} :
    readToEnd bytes = .ok vec ↔ vec.bytes = bytes := by
  unfold readToEnd
  constructor
  · intro h
    split at h
    · cases h
      rfl
    · cases h
  · rintro rfl
    rw [dif_pos vec.fits]

theorem take_within {bytes : List UInt8} {max : UInt64} {vec : ByteVec} :
    (vec.bytes = bytes.take (saturatingSucc max) ∧ vec.len ≤ max.toNat) ↔
      (vec.bytes = bytes ∧ bytes.length ≤ max.toNat) := by
  have fits := vec.fits
  have wide : isizeMax < u64Max := by decide
  constructor
  · intro ⟨taken, within⟩
    unfold ByteVec.len at within
    have short : (bytes.take (saturatingSucc max)).length < saturatingSucc max := by
      rw [← taken]
      unfold saturatingSucc
      omega
    have whole : bytes.length ≤ saturatingSucc max := by
      rw [List.length_take] at short
      omega
    rw [List.take_of_length_le whole] at taken
    rw [taken] at within
    exact ⟨taken, within⟩
  · rintro ⟨rfl, within⟩
    have whole : vec.bytes.length ≤ saturatingSucc max := by
      unfold saturatingSucc
      omega
    rw [List.take_of_length_le whole]
    exact ⟨rfl, within⟩

theorem readWithin_ok {max : UInt64} {kind : String} {bytes : List UInt8} {vec : ByteVec} :
    (readWithin max kind bytes).result = .ok vec ↔ vec.bytes = bytes ∧ bytes.length ≤ max.toNat := by
  rw [← take_within]
  unfold readWithin
  dsimp only
  constructor
  · intro h
    split at h
    · cases h
    · rename_i taken read
      split at h
      · cases h
      · rename_i within
        cases h
        exact ⟨readToEnd_ok.mp read, Nat.not_lt.mp within⟩
  · intro ⟨taken, within⟩
    rw [readToEnd_ok.mpr taken]
    exact if_neg (Nat.not_lt.mpr within)

theorem readLimitedBytes_ok {io : List UInt8} {max : UInt64} {vec : ByteVec} :
    (readLimitedBytes io max).result = .ok vec ↔ vec.bytes = io ∧ io.length ≤ max.toNat :=
  readWithin_ok

theorem decompressZstdLimited_held_le (zstd : Zstd) (data : ByteVec) (max : UInt64) :
    (decompressZstdLimited zstd data max).held ≤ max.toNat + 1 := by
  unfold decompressZstdLimited
  split
  · exact Nat.zero_le _
  · exact readWithin_held_le max "decompressed message" _

theorem decompressZstdLimited_ok {zstd : Zstd} {data out : ByteVec} {max : UInt64} :
    (decompressZstdLimited zstd data max).result = .ok out ↔
      zstd.decoder data = .ok (out.bytes, none) ∧ out.len ≤ max.toNat := by
  unfold decompressZstdLimited
  cases decoded : zstd.decoder data with
  | error text => simp
  | ok stream =>
    obtain ⟨output, failure⟩ := stream
    cases failure with
    | none =>
      simp only [mapError_ok, readWithin_ok, Except.ok.injEq, Prod.mk.injEq, and_true]
      constructor
      · rintro ⟨rfl, within⟩
        exact ⟨rfl, within⟩
      · rintro ⟨rfl, within⟩
        exact ⟨rfl, within⟩
    | some text =>
      simp only [Except.ok.injEq, Prod.mk.injEq, reduceCtorEq, and_false, false_and, iff_false]
      -- past the limit without an error, the output is too large
      split
      · exact fun h => by cases h
      · rename_i cut
        rw [mapError_ok, readWithin_ok]
        rintro ⟨rfl, within⟩
        have fits := out.fits
        have wide : isizeMax < u64Max := by decide
        unfold saturatingSucc at cut
        omega

/-! What one direction promises. -/

section

variable {α : Type*} {serde : SerdeJson α} {zstd : Zstd} {wireMaximum decodedMaximum : UInt64}
  {kind decodedKind protocol : String}

theorem ensureLenLe_ok {len : Nat} {max : UInt64} {kind : String} :
    ensureLenLe len max kind = .ok () ↔ len ≤ max.toNat := by
  unfold ensureLenLe
  split
  · rename_i above
    simp [Nat.not_le.mpr above]
  · rename_i within
    simp [Nat.not_lt.mp within]

/-- The bytes that are sent when nothing is too large. -/
def SentBytes (serde : SerdeJson α) (zstd : Zstd) (protocol : String) (v : α) (json sent : ByteVec) : Prop :=
  serde.toVec v = .ok json ∧
    if isZstdProtocol protocol then zstd.encodeAll json = .ok sent else sent = json

theorem packMessage_ok {json data : ByteVec} :
    packMessage zstd decodedMaximum decodedKind protocol json = .ok data ↔
      (isZstdProtocol protocol → json.len ≤ decodedMaximum.toNat) ∧
        if isZstdProtocol protocol then zstd.encodeAll json = .ok data else data = json := by
  unfold packMessage
  cases isZstdProtocol protocol
  · simp [eq_comm]
  · simp only [if_true, bind_ok, compressZstd, mapError_ok, true_implies]
    constructor
    · intro ⟨_, small, compressed⟩
      exact ⟨ensureLenLe_ok.mp small, compressed⟩
    · intro ⟨small, compressed⟩
      exact ⟨(), ensureLenLe_ok.mpr small, compressed⟩

theorem encodeMessage_ok {v : α} {sent : ByteVec} :
    encodeMessage serde zstd wireMaximum decodedMaximum kind decodedKind protocol v = .ok sent ↔
      ∃ json, SentBytes serde zstd protocol v json sent ∧
        (isZstdProtocol protocol → json.len ≤ decodedMaximum.toNat) ∧
        sent.len ≤ wireMaximum.toNat := by
  simp only [encodeMessage, SentBytes, bind_ok, mapError_ok, packMessage_ok, pure, Except.pure]
  constructor
  · intro ⟨json, written, data, ⟨small, packed⟩, _, within, sends⟩
    cases sends
    exact ⟨json, ⟨written, packed⟩, small, ensureLenLe_ok.mp within⟩
  · intro ⟨json, ⟨written, packed⟩, small, within⟩
    exact ⟨json, written, sent, ⟨small, packed⟩, (), ensureLenLe_ok.mpr within, rfl⟩

theorem writeMessage_ok {io : List UInt8} {v : α} :
    (writeMessage serde zstd wireMaximum decodedMaximum kind decodedKind protocol io v).1 = .ok () ↔
      ∃ sent, encodeMessage serde zstd wireMaximum decodedMaximum kind decodedKind protocol v = .ok sent := by
  unfold writeMessage
  cases encodeMessage serde zstd wireMaximum decodedMaximum kind decodedKind protocol v <;> simp

theorem parseJson_ok {data : ByteVec} {v : α} :
    parseJson serde data = .ok v ↔ serde.fromSlice data = .ok v := mapError_ok

theorem readMessage_ok {io : List UInt8} {v : α} :
    (readMessage serde zstd wireMaximum decodedMaximum protocol io).result = .ok v ↔
      io.length ≤ wireMaximum.toNat ∧ ∃ sent json : ByteVec, sent.bytes = io ∧
        (if isZstdProtocol protocol then
          zstd.decoder sent = .ok (json.bytes, none) ∧ json.len ≤ decodedMaximum.toNat
        else
          sent = json) ∧
        serde.fromSlice json = .ok v := by
  simp only [readMessage]
  constructor
  · intro h
    split at h
    · cases h
    rename_i sent read
    obtain ⟨rfl, within⟩ := readLimitedBytes_ok.mp read
    apply And.intro within
    split at h
    · rename_i zipped
      split at h
      · cases h
      · rename_i json decoded
        simp only [zipped, if_true]
        exact ⟨sent, json, rfl, decompressZstdLimited_ok.mp decoded, parseJson_ok.mp h⟩
    · rename_i plain
      simp only [plain]
      exact ⟨sent, sent, rfl, rfl, parseJson_ok.mp h⟩
  · rintro ⟨within, sent, json, rfl, packed, parsed⟩
    rw [readLimitedBytes_ok.mpr ⟨rfl, within⟩]
    split at packed
    · rename_i zipped
      simp only [zipped, if_true]
      rw [decompressZstdLimited_ok.mpr packed]
      exact parseJson_ok.mpr parsed
    · rename_i plain
      subst packed
      simp only [plain]
      exact parseJson_ok.mpr parsed

theorem readMessage_held (io : List UInt8) :
    (readMessage serde zstd wireMaximum decodedMaximum protocol io).wireHeld ≤ wireMaximum.toNat + 1 ∧
      (readMessage serde zstd wireMaximum decodedMaximum protocol io).decodedHeld ≤
        decodedMaximum.toNat + 1 := by
  have wire : (readLimitedBytes io wireMaximum).held ≤ wireMaximum.toNat + 1 := readWithin_held_le wireMaximum _ io
  simp only [readMessage]
  split
  · exact ⟨wire, Nat.zero_le _⟩
  · rename_i vec read
    have decoded := decompressZstdLimited_held_le zstd vec decodedMaximum
    split
    · split
      · exact ⟨wire, decoded⟩
      · exact ⟨wire, decoded⟩
    · exact ⟨wire, Nat.zero_le _⟩

end

/-- What a writer and a reader of one kind of message promise under their two maxima. -/
structure MessageContract {α : Type*} (serde : SerdeJson α) (zstd : Zstd) (protocol : String)
    (wireMaximum decodedMaximum : UInt64)
    (write : List UInt8 → α → Except IoError Unit × List UInt8)
    (read : List UInt8 → ReadOutcome α) : Prop where
  roundTrip : ∀ io v io', write io v = (.ok (), io') → ∃ b, io' = io ++ b ∧ (read b).result = .ok v
  fails : ∀ io v json sent, SentBytes serde zstd protocol v json sent →
    ((∃ err, (write io v).1 = .error err) ↔
      (isZstdProtocol protocol ∧ decodedMaximum.toNat < json.len) ∨ wireMaximum.toNat < sent.len)
  nothingWritten : ∀ io v err, (write io v).1 = .error err → (write io v).2 = io
  accepts : ∀ b v, (read b).result = .ok v → b.length ≤ wireMaximum.toNat ∧
    ∃ sent json : ByteVec, sent.bytes = b ∧
      (if isZstdProtocol protocol then
        zstd.decoder sent = .ok (json.bytes, none) ∧ json.len ≤ decodedMaximum.toNat
      else
        sent = json) ∧
      serde.fromSlice json = .ok v
  held : ∀ b, (read b).wireHeld ≤ wireMaximum.toNat + 1 ∧
    (read b).decodedHeld ≤ decodedMaximum.toNat + 1

theorem SentBytes.unique {α : Type*} {serde : SerdeJson α} {zstd : Zstd} {protocol : String} {v : α}
    {json sent json' sent' : ByteVec} (first : SentBytes serde zstd protocol v json sent)
    (second : SentBytes serde zstd protocol v json' sent') : json' = json ∧ sent' = sent := by
  obtain ⟨written, packed⟩ := first
  obtain ⟨written', packed'⟩ := second
  have same : json' = json := Except.ok.inj (written'.symm.trans written)
  subst same
  apply And.intro rfl
  split at packed
  · rename_i zipped
    rw [if_pos zipped] at packed'
    exact Except.ok.inj (packed'.symm.trans packed)
  · rename_i plain
    rw [if_neg plain] at packed'
    exact packed'.trans packed.symm

theorem message_contract {α : Type*} (serde : SerdeJson α) (zstd : Zstd)
    (serdeRoundTrips : serde.RoundTrips) (zstdRoundTrips : zstd.RoundTrips) (protocol : String)
    (wireMaximum decodedMaximum : UInt64) (kind decodedKind : String) :
    MessageContract serde zstd protocol wireMaximum decodedMaximum
      (writeMessage serde zstd wireMaximum decodedMaximum kind decodedKind protocol)
      (readMessage serde zstd wireMaximum decodedMaximum protocol) := by
  constructor
  · intro io v io' written
    unfold writeMessage at written
    split at written
    · cases written
    · rename_i sent encoded
      cases written
      obtain ⟨json, ⟨serialized, packed⟩, small, within⟩ := encodeMessage_ok.mp encoded
      refine ⟨sent.bytes, rfl, readMessage_ok.mpr ⟨within, sent, json, rfl, ?_, ?_⟩⟩
      · split
        · rename_i zipped
          rw [if_pos zipped] at packed
          exact ⟨zstdRoundTrips json sent packed, small zipped⟩
        · rename_i plain
          rw [if_neg plain] at packed
          exact packed
      · exact serdeRoundTrips v json serialized
  · intro io v json sent bytes
    unfold writeMessage
    constructor
    · intro ⟨err, failed⟩
      by_contra fine
      have encoded : encodeMessage serde zstd wireMaximum decodedMaximum kind decodedKind protocol v =
          .ok sent := by
        apply encodeMessage_ok.mpr
        refine ⟨json, bytes, fun zipped => ?_, ?_⟩
        · exact Nat.not_lt.mp fun large => fine (Or.inl ⟨zipped, large⟩)
        · exact Nat.not_lt.mp fun large => fine (Or.inr large)
      rw [encoded] at failed
      cases failed
    · intro large
      split
      · exact ⟨_, rfl⟩
      · rename_i sent' encoded
        obtain ⟨json', bytes', small, within⟩ := encodeMessage_ok.mp encoded
        obtain ⟨rfl, rfl⟩ := bytes.unique bytes'
        rcases large with ⟨zipped, large⟩ | large
        · exact absurd large (Nat.not_lt.mpr (small zipped))
        · exact absurd large (Nat.not_lt.mpr within)
  · intro io v err failed
    unfold writeMessage at failed ⊢
    split at failed
    · rfl
    · cases failed
  · intro b v read
    exact readMessage_ok.mp read
  · exact readMessage_held

/-- The message codec, in both directions and for both protocols. -/
theorem codec_round_trip {ρ β : Type*} (codec : JsonCodec) (protocol : String) (request : SerdeJson ρ)
    (response : SerdeJson β) (zstd : Zstd) (requestRoundTrips : request.RoundTrips)
    (responseRoundTrips : response.RoundTrips) (zstdRoundTrips : zstd.RoundTrips) :
    MessageContract request zstd protocol codec.requestWireMaximum codec.requestDecodedMaximum
      (codec.writeRequest request zstd protocol) (codec.readRequest request zstd protocol) ∧
    MessageContract response zstd protocol codec.responseWireMaximum codec.responseDecodedMaximum
      (codec.writeResponse response zstd protocol) (codec.readResponse response zstd protocol) :=
  ⟨message_contract request zstd requestRoundTrips zstdRoundTrips protocol _ _ _ _,
    message_contract response zstd responseRoundTrips zstdRoundTrips protocol _ _ _ _⟩

def trueJson : ByteVec := ⟨[116, 114, 117, 101], by decide⟩
def falseJson : ByteVec := ⟨[102, 97, 108, 115, 101], by decide⟩

/-- `serde_json` on `bool`, for text without blanks. -/
def boolSerde : SerdeJson Bool where
  toVec v := .ok (if v then trueJson else falseJson)
  fromSlice data :=
    if data = trueJson then .ok true
    else if data = falseJson then .ok false
    else .error "expected value at line 1 column 1"

theorem boolSerde_roundTrips : boolSerde.RoundTrips := by
  intro v json written
  cases written
  cases v <;> decide

/-- The frame of an incompressible block: magic, frame header, block header. -/
def rawHeader (len : Nat) : List UInt8 :=
  [0x28, 0xB5, 0x2F, 0xFD, 0x00, 0x48, UInt8.ofNat (8 * len + 1), UInt8.ofNat ((8 * len + 1) / 256),
    UInt8.ofNat ((8 * len + 1) / 65536)]

def rawZstd : Zstd where
  encodeAll data :=
    if fits : (rawHeader data.len ++ data.bytes).length ≤ isizeMax then
      .ok ⟨rawHeader data.len ++ data.bytes, fits⟩
    else
      .error "out of memory"
  decoder frame :=
    if frame.len < 9 then .ok ([], some "incomplete frame") else .ok (frame.bytes.drop 9, none)

theorem rawZstd_roundTrips : rawZstd.RoundTrips := by
  intro data frame encoded
  simp only [rawZstd] at encoded ⊢
  split at encoded
  · cases encoded
    have long : ¬ (rawHeader data.len ++ data.bytes).length < 9 := by simp [rawHeader]
    exact if_neg long
  · cases encoded

theorem codec_round_trip_true :
    ∃ b, (JsonCodec.new 64 64).writeRequest boolSerde rawZstd "/test/1.0.1" [] true = (.ok (), b) ∧
      b.length = 13 ∧
      ((JsonCodec.new 64 64).readRequest boolSerde rawZstd "/test/1.0.1" b).result = .ok true := by
  have contract := (codec_round_trip (JsonCodec.new 64 64) "/test/1.0.1" boolSerde boolSerde rawZstd
    boolSerde_roundTrips boolSerde_roundTrips rawZstd_roundTrips).1
  have written : (JsonCodec.new 64 64).writeRequest boolSerde rawZstd "/test/1.0.1" [] true =
      (.ok (), rawHeader 4 ++ trueJson.bytes) := by rfl
  obtain ⟨b, rfl, read⟩ := contract.roundTrip [] true _ written
  exact ⟨_, written, rfl, read⟩

end Rustory
