import Rustory.Http.Relay

namespace Rustory

open Foundations LocalStore

def pushReqMaxBytes : UInt64 := 16 * 1024 * 1024
def pushRespMaxBytes : UInt64 := 64 * 1024
def pushReqDecodedMaxBytes : UInt64 := pushReqMaxBytes * decodedMaxMultiplier
def pushRespDecodedMaxBytes : UInt64 := pushRespMaxBytes * decodedMaxMultiplier

def entriesPushProtocolPlain : String := "/rustory/entries-push/1.0.0"
def entriesPushProtocolZstd : String := "/rustory/entries-push/1.0.1"

def pushCodec : JsonCodec :=
  (JsonCodec.new pushReqMaxBytes pushRespMaxBytes).withDecodedMaximum pushReqDecodedMaxBytes pushRespDecodedMaxBytes

/-- The crates of the push protocol. -/
structure PushLibs where
  request : SerdeJson EntriesPush
  ack : SerdeJson PushAck
  zstd : Zstd

def outboundFailed (failure : OutboundFailure) : Error :=
  Error.context [.outbound failure] "p2p outbound request failed"

section

variable (libs : PushLibs) (protocol : String)

/-- The peer's side of one push: what it reads from the stream, stores and leaves on the stream. What the other
    side sees of a request that could not be read is up to `libp2p`; a closed connection stands for it, and no
    request that the other side has written is one of these. -/
def answerPush (remote : LocalStore) (stream : List UInt8) : Except OutboundFailure (List UInt8) × LocalStore :=
  match (pushCodec.readRequest libs.request libs.zstd protocol stream).result with
  | .error _ => (.error .connectionClosed, remote)
  | .ok request =>
    let (ack, remote) := servePush remote request
    (.ok (pushCodec.writeResponse libs.ack libs.zstd protocol [] ack).2, remote)

/-- `push_batch_once`, at a peer that nothing but sizes keeps from answering in time. -/
def pushBatchOnce (remote : LocalStore) (entries : List Entry) : Except Error Unit × LocalStore :=
  match pushCodec.writeRequest libs.request libs.zstd protocol [] ⟨entries⟩ with
  | (.error err, _) => (.error (outboundFailed (.io err.text)), remote)
  | (.ok (), stream) =>
    match answerPush libs protocol remote stream with
    | (.error failure, remote) => (.error (outboundFailed failure), remote)
    | (.ok stream, remote) =>
      match (pushCodec.readResponse libs.ack libs.zstd protocol stream).result with
      | .error err => (.error (outboundFailed (.io err.text)), remote)
      | .ok response => (if response.ok then .ok () else .error (bail "p2p push rejected"), remote)

/-- The push of `P2pClient`. -/
def p2pPush (policy : RequestRetryPolicy) (remote : LocalStore) (entries : List Entry) :
    Except Error Unit × LocalStore :=
  if entries.isEmpty then
    (.ok (), remote)
  else
    retryOn isRetryableP2pRequestError (fun _ remote => pushBatchOnce libs protocol remote entries)
      (policy.attempts - 1) 0 remote

/-- The request is written within both maxima. -/
def FitsP2pPush (entries : List Entry) : Prop :=
  ∃ json sent, SentBytes libs.request libs.zstd protocol ⟨entries⟩ json sent ∧
    (isZstdProtocol protocol → json.len ≤ pushReqDecodedMaxBytes.toNat) ∧ sent.len ≤ pushReqMaxBytes.toNat

/-- An acknowledgement fits its own maxima, and is read as one. A request has at least as many bytes as entries. -/
structure Acknowledges : Prop where
  counts : ∀ entries json, libs.request.toVec ⟨entries⟩ = .ok json → entries.length ≤ json.len
  ack : ∀ inserted ignored, inserted + ignored ≤ isizeMax →
    ∃ json sent, SentBytes libs.ack libs.zstd protocol ⟨true, some inserted, some ignored⟩ json sent ∧
      json.len ≤ pushRespDecodedMaxBytes.toNat ∧ sent.len ≤ pushRespMaxBytes.toNat ∧
      ∃ response, libs.ack.fromSlice json = .ok response ∧ response.ok = true

/-- A request is written and packed when it could be for each of its entries. -/
def SendsWhole (offers : List Entry → Prop) : Prop :=
  ∀ batch, offers batch → (∀ e ∈ batch, ∃ json sent, SentBytes libs.request libs.zstd protocol ⟨[e]⟩ json sent) →
    ∃ json sent, SentBytes libs.request libs.zstd protocol ⟨batch⟩ json sent

/-- A request is longer than that of each of its entries. -/
def RequestsContain : Prop :=
  ∀ batch json, libs.request.toVec ⟨batch⟩ = .ok json → ∀ e ∈ batch,
    ∃ one, libs.request.toVec ⟨[e]⟩ = .ok one ∧ one.len ≤ json.len

def pushWritten (entries : List Entry) : Except IoError Unit :=
  (pushCodec.writeRequest libs.request libs.zstd protocol [] ⟨entries⟩).1

/-- The result of a push, which does not depend on what the peer's store holds. -/
def p2pPushAnswer (entries : List Entry) : Except Error Unit :=
  if entries.isEmpty then
    .ok ()
  else
    (pushWritten libs protocol entries).mapError fun err => outboundFailed (.io err.text)

end

section

variable {libs : PushLibs} {protocol : String} {entries : List Entry} {remote : LocalStore}

theorem fitsP2pPush_iff : FitsP2pPush libs protocol entries ↔ pushWritten libs protocol entries = .ok () := by
  unfold pushWritten JsonCodec.writeRequest
  rw [writeMessage_ok]
  constructor
  · intro ⟨json, sent, written, small, within⟩
    exact ⟨sent, encodeMessage_ok.mpr ⟨json, written, small, within⟩⟩
  · intro ⟨sent, encoded⟩
    obtain ⟨json, written, small, within⟩ := encodeMessage_ok.mp encoded
    exact ⟨json, sent, written, small, within⟩

/-- What is written is read by the peer as the same request, and stored and acknowledged. -/
theorem answerPush_written (requestRoundTrips : libs.request.RoundTrips) (zstdRoundTrips : libs.zstd.RoundTrips)
    {stream : List UInt8}
    (written : pushCodec.writeRequest libs.request libs.zstd protocol [] ⟨entries⟩ = (.ok (), stream)) :
    answerPush libs protocol remote stream =
      (.ok (pushCodec.writeResponse libs.ack libs.zstd protocol [] (servePush remote ⟨entries⟩).1).2,
        remote.inserted entries) := by
  have contract := message_contract libs.request libs.zstd requestRoundTrips zstdRoundTrips protocol
    pushReqMaxBytes pushReqDecodedMaxBytes "request" "decoded request"
  obtain ⟨bytes, same, read⟩ := contract.roundTrip _ _ _ written
  rw [List.nil_append] at same
  subst same
  have request : (pushCodec.readRequest libs.request libs.zstd protocol stream).result = .ok ⟨entries⟩ := read
  have stored := servePush_store remote ⟨entries⟩
  unfold answerPush
  rw [request]
  dsimp only
  rw [stored]

theorem ack_read (zstdRoundTrips : libs.zstd.RoundTrips) {ack response : PushAck} {json sent : ByteVec}
    (bytes : SentBytes libs.ack libs.zstd protocol ack json sent)
    (small : json.len ≤ pushRespDecodedMaxBytes.toNat) (within : sent.len ≤ pushRespMaxBytes.toNat)
    (parsed : libs.ack.fromSlice json = .ok response) :
    (pushCodec.readResponse libs.ack libs.zstd protocol
      (pushCodec.writeResponse libs.ack libs.zstd protocol [] ack).2).result = .ok response := by
  have encoded : encodeMessage libs.ack libs.zstd pushRespMaxBytes pushRespDecodedMaxBytes "response"
      "decoded response" protocol ack = .ok sent :=
    encodeMessage_ok.mpr ⟨json, bytes, fun _ => small, within⟩
  have stream : (pushCodec.writeResponse libs.ack libs.zstd protocol [] ack).2 = sent.bytes := by
    have written : pushCodec.writeResponse libs.ack libs.zstd protocol [] ack = (.ok (), sent.bytes) := by
      unfold JsonCodec.writeResponse writeMessage
      rw [show encodeMessage libs.ack libs.zstd pushCodec.responseWireMaximum pushCodec.responseDecodedMaximum
        "response" "decoded response" protocol ack = .ok sent from encoded]
      rfl
    rw [written]
  rw [stream]
  apply readMessage_ok.mpr
  refine ⟨within, sent, json, rfl, ?_, parsed⟩
  obtain ⟨-, packed⟩ := bytes
  split
  · rename_i zipped
    rw [if_pos zipped] at packed
    exact ⟨zstdRoundTrips json sent packed, small⟩
  · rename_i plain
    rw [if_neg plain] at packed
    exact packed

theorem pushBatchOnce_written (requestRoundTrips : libs.request.RoundTrips) (zstdRoundTrips : libs.zstd.RoundTrips)
    (acks : Acknowledges libs protocol) (written : pushWritten libs protocol entries = .ok ())
    (remote : LocalStore) : pushBatchOnce libs protocol remote entries = (.ok (), remote.inserted entries) := by
  obtain ⟨json, sent, bytes, -⟩ := fitsP2pPush_iff.mpr written
  have few : entries.length ≤ isizeMax := (acks.counts entries json bytes.1).trans json.fits
  have total := remote.insertedStats_total entries
  obtain ⟨ackJson, ackSent, ackBytes, small, within, response, parsed, ok⟩ :=
    acks.ack (remote.insertedStats entries).inserted (remote.insertedStats entries).ignored (by omega)
  have ack : (servePush remote ⟨entries⟩).1 =
      ⟨true, some (remote.insertedStats entries).inserted, some (remote.insertedStats entries).ignored⟩ := by
    simp only [servePush, insertEntriesWithStats_noFaults]
  have whole : pushCodec.writeRequest libs.request libs.zstd protocol [] ⟨entries⟩ =
      (.ok (), (pushCodec.writeRequest libs.request libs.zstd protocol [] ⟨entries⟩).2) := Prod.ext written rfl
  have answered := @answerPush_written libs protocol entries remote requestRoundTrips zstdRoundTrips _ whole
  rw [ack] at answered
  unfold pushBatchOnce
  rw [whole]
  dsimp only
  rw [answered]
  dsimp only
  rw [ack_read zstdRoundTrips ackBytes small within parsed]
  simp only [ok, if_true]

theorem pushBatchOnce_unwritten {err : IoError} (failed : pushWritten libs protocol entries = .error err)
    (remote : LocalStore) :
    pushBatchOnce libs protocol remote entries = (.error (outboundFailed (.io err.text)), remote) := by
  have whole : pushCodec.writeRequest libs.request libs.zstd protocol [] ⟨entries⟩ =
      (.error err, (pushCodec.writeRequest libs.request libs.zstd protocol [] ⟨entries⟩).2) := Prod.ext failed rfl
  unfold pushBatchOnce
  rw [whole]

theorem p2pPush_takes (requestRoundTrips : libs.request.RoundTrips) (zstdRoundTrips : libs.zstd.RoundTrips)
    (acks : Acknowledges libs protocol) (policy : RequestRetryPolicy) :
    Takes (p2pPushAnswer libs protocol) (p2pPush libs protocol policy) := by
  have result : ∀ remote entries, p2pPush libs protocol policy remote entries =
      (p2pPushAnswer libs protocol entries,
        if (p2pPushAnswer libs protocol entries).isOk then remote.inserted entries else remote) := by
    intro remote entries
    unfold p2pPush p2pPushAnswer
    by_cases none : entries.isEmpty
    · rw [if_pos none, if_pos none, List.isEmpty_iff.mp none]
      rfl
    rw [if_neg none, if_neg none]
    cases written : pushWritten libs protocol entries with
    | ok done =>
      have once := pushBatchOnce_written requestRoundTrips zstdRoundTrips acks written
      have run := @retryOn_const _ _ _ isRetryableP2pRequestError
        (fun _ remote => pushBatchOnce libs protocol remote entries) (.ok ()) (fun _ here => by rw [once here])
        (fun _ failed => by cases failed) (policy.attempts - 1) 0 remote
      rw [run, once]
      rfl
    | error err =>
      have once := pushBatchOnce_unwritten written
      have run := @retryOn_const _ _ _ isRetryableP2pRequestError
        (fun _ remote => pushBatchOnce libs protocol remote entries) (.error (outboundFailed (.io err.text)))
        (fun _ here => by rw [once here]) (fun _ _ _ here => by rw [once here]) (policy.attempts - 1) 0 remote
      rw [run, once]
      rfl
  constructor
  · intro remote batch
    rw [result]
  · intro remote batch taken
    rw [result, taken]
    rfl
  · intro remote batch err refused
    rw [result, refused]
    rfl

/-! What does not fit is turned down as too large. -/

theorem ensureLenLe_error {len : Nat} {max : UInt64} {kind : String} {err : IoError}
    (failed : ensureLenLe len max kind = .error err) : contains err.text "too large" = true := by
  unfold ensureLenLe at failed
  split at failed
  · cases failed
    apply decide_eq_true
    refine ⟨kind.toList ++ [' '], (": " ++ toString len ++ " > " ++ toString max ++ " bytes").toList, ?_⟩
    have text : s!"{kind} too large: {len} > {max} bytes" =
        kind ++ (" " ++ "too large" ++ (": " ++ toString len ++ " > " ++ toString max ++ " bytes")) := by
      simp only [String.append_assoc]
      rfl
    dsimp only
    rw [text]
    simp only [String.toList_append, List.append_assoc]
    rfl
  · cases failed

theorem encodeMessage_error {α : Type} {serde : SerdeJson α} {zstd : Zstd} {wireMaximum decodedMaximum : UInt64}
    {kind decodedKind : String} {v : α} {json sent : ByteVec} {err : IoError}
    (bytes : SentBytes serde zstd protocol v json sent)
    (failed : encodeMessage serde zstd wireMaximum decodedMaximum kind decodedKind protocol v = .error err) :
    contains err.text "too large" = true := by
  obtain ⟨written, packed⟩ := bytes
  simp only [encodeMessage, written, Except.mapError, bind, Except.bind] at failed
  unfold packMessage at failed
  split at failed
  · rename_i refused
    split at refused
    · rename_i zipped
      rw [if_pos zipped] at packed
      simp only [bind, Except.bind, compressZstd, packed, Except.mapError] at refused
      split at refused
      · cases refused
        cases failed
        exact ensureLenLe_error ‹_›
      · cases refused
    · cases refused
  · split at failed
    · cases failed
      exact ensureLenLe_error ‹_›
    · cases failed

/-- An empty batch needs no request. -/
def PushesFit (libs : PushLibs) (protocol : String) (entries : List Entry) : Prop :=
  entries = [] ∨ FitsP2pPush libs protocol entries

theorem p2pPushAnswer_sizes {offers : List Entry → Prop} (whole : SendsWhole libs protocol offers) :
    TakesWhatFits offers (PushesFit libs protocol) (p2pPushAnswer libs protocol) := by
  constructor
  · intro batch fit
    rcases fit with rfl | fit
    · rfl
    · simp only [p2pPushAnswer, fitsP2pPush_iff.mp fit, Except.mapError]
      split <;> rfl
  · intro batch offered unfit
    have nonempty : ¬ batch.isEmpty = true := fun none => unfit (Or.inl (List.isEmpty_iff.mp none))
    cases written : pushWritten libs protocol batch with
    | ok done => exact absurd (Or.inr (fitsP2pPush_iff.mpr written)) unfit
    | error err =>
      refine ⟨outboundFailed (.io err.text), ?_, fun alone => ?_⟩
      · unfold p2pPushAnswer
        rw [if_neg nonempty, written]
        rfl
      · have sent : ∀ e ∈ batch, ∃ json sent, SentBytes libs.request libs.zstd protocol ⟨[e]⟩ json sent := by
          intro e listed
          rcases alone e listed with none | ⟨json, sent, bytes, -⟩
          · cases none
          · exact ⟨json, sent, bytes⟩
        obtain ⟨json, sent, bytes⟩ := whole batch offered sent
        unfold pushWritten JsonCodec.writeRequest writeMessage at written
        split at written
        · rename_i failed
          cases written
          have large := encodeMessage_error bytes failed
          simp [isPayloadTooLargeError, outboundFailed, Error.context, Cause.payloadTooLarge, large]
        · cases written

/-- Without compression, a request that is small enough has only entries that would be by themselves. -/
theorem pushesFit_entrywise (plain : isZstdProtocol protocol = false) (contain : RequestsContain libs) :
    Entrywise (PushesFit libs protocol) := by
  intro batch fit e listed
  rcases fit with rfl | ⟨json, sent, ⟨written, packed⟩, -, within⟩
  · cases listed
  · rw [plain] at packed
    have same : sent = json := packed
    subst same
    obtain ⟨one, alone, short⟩ := contain batch sent written e listed
    refine Or.inr ⟨one, one, ⟨alone, by rw [plain]; rfl⟩, ?_, short.trans within⟩
    intro zipped
    rw [plain] at zipped
    cases zipped

theorem fitsAlone_iff {row : EntryRow} : FitsAlone (PushesFit libs protocol) row ↔
    FitsAlone (FitsP2pPush libs protocol) row := by
  simp [FitsAlone, PushesFit]

end

theorem p2pPush_delivers {libs : PushLibs} {store : LocalStore} {peerId protocol : String} {limit : UInt64}
    {source : Option String} (positive : 1 ≤ limit) (requestRoundTrips : libs.request.RoundTrips)
    (zstdRoundTrips : libs.zstd.RoundTrips) (acks : Acknowledges libs protocol)
    (whole : SendsWhole libs protocol (Offered store source)) (policy : RequestRetryPolicy) (remote : LocalStore)
    (fit : ∀ row ∈ pendingRows store peerId source, FitsAlone (FitsP2pPush libs protocol) row.val) :
    DeliversPending store remote peerId source limit (p2pPush libs protocol policy) := by
  have takes := p2pPush_takes requestRoundTrips zstdRoundTrips acks policy
  apply (push_delivers takes (p2pPushAnswer_sizes whole) positive).1
  intro row pending
  exact fitsAlone_iff.mpr (fit row pending)

/-- A push over libp2p delivers everything that is pending, in however many batches it takes, when each pending
    entry is readable and small enough to be sent by itself; without compression it delivers only then. -/
theorem p2p_push_delivers {libs : PushLibs} {store : LocalStore} {peerId protocol : String} {limit : UInt64}
    {source : Option String} (positive : 1 ≤ limit) (requestRoundTrips : libs.request.RoundTrips)
    (zstdRoundTrips : libs.zstd.RoundTrips) (acks : Acknowledges libs protocol)
    (whole : SendsWhole libs protocol (Offered store source)) (policy : RequestRetryPolicy) (remote : LocalStore) :
    ((∀ row ∈ pendingRows store peerId source, FitsAlone (FitsP2pPush libs protocol) row.val) →
        DeliversPending store remote peerId source limit (p2pPush libs protocol policy)) ∧
      (isZstdProtocol protocol = false → RequestsContain libs →
        DeliversPending store remote peerId source limit (p2pPush libs protocol policy) →
        ∀ row ∈ pendingRows store peerId source, FitsAlone (FitsP2pPush libs protocol) row.val) := by
  constructor
  · exact p2pPush_delivers positive requestRoundTrips zstdRoundTrips acks whole policy remote
  · intro plain contain delivered row pending
    have takes := p2pPush_takes requestRoundTrips zstdRoundTrips acks policy
    have sizes := p2pPushAnswer_sizes whole
    have alone := (push_delivers takes sizes positive).2 (pushesFit_entrywise plain contain) delivered row pending
    exact fitsAlone_iff.mp alone

/-- What a device has pending reaches another one through a peer that both know and that is new to the other. -/
theorem p2p_hub_relays {libs : PushLibs} {sync : SerdeJson SyncBatch} {store hub other : LocalStore}
    {pushProtocol pullProtocol hubId : String} {pushLimit pullLimit : UInt64} {source : Option String}
    (pushes : 1 ≤ pushLimit) (pulls : 1 ≤ pullLimit) (requestRoundTrips : libs.request.RoundTrips)
    (syncRoundTrips : sync.RoundTrips) (zstdRoundTrips : libs.zstd.RoundTrips) (syncRejects : sync.RejectsEmpty)
    (zstdRejects : libs.zstd.RejectsEmpty) (acks : Acknowledges libs pushProtocol)
    (whole : SendsWhole libs pushProtocol (Offered store source)) (policy : RequestRetryPolicy)
    (new : other.getLastCursorOpt hubId = none)
    (fit : ∀ row ∈ pendingRows store hubId source, FitsAlone (FitsP2pPush libs pushProtocol) row.val)
    (pages : PagesFit (withPending hub store hubId source) (FitsP2p sync libs.zstd pullProtocol) 0 pullLimit) :
    ∃ fuel, (syncPushToRemote fuel store hub hubId pushLimit source (p2pPush libs pushProtocol policy)).Complete
        store hub hubId source ∧
      ∃ fuel' stats after, syncPullFromPeer fuel' other hubId pullLimit (p2pPull sync libs.zstd pullProtocol policy
          (syncPushToRemote fuel store hub hubId pushLimit source (p2pPush libs pushProtocol policy)).remote) =
          (after, .returned (.ok stats)) ∧
        ∀ row ∈ pendingRows store hubId source, after.Holds row.val.entryId := by
  obtain ⟨fuel, complete⟩ := p2pPush_delivers pushes requestRoundTrips zstdRoundTrips acks whole policy hub fit
  have link := @p2pPull_carries sync libs.zstd pullProtocol syncRoundTrips zstdRoundTrips syncRejects zstdRejects
    policy (withPending hub store hubId source)
  have start : other.getLastCursor hubId = 0 := by
    unfold getLastCursor
    rw [new]
    rfl
  rw [← start] at pages
  obtain ⟨fuel', stats, after, pulled, adds⟩ := (pullCompletes_iff pulls link).mpr pages
  rw [← complete.remote] at pulled
  exact ⟨fuel, complete, fuel', stats, after, pulled, withPending_reaches new adds⟩

/-! Two entries pushed to a peer and pulled from it. -/

def echoRequests : SerdeJson (List Entry) := Transport.arraySerde "\x7b\"entries\":[" "]\x7d"

theorem echoRequests_around : "\x7b\"entries\":[".toList.length + "]\x7d".toList.length = 14 := by decide

theorem echoRequests_roundTrips : echoRequests.RoundTrips :=
  listedSerde_roundTrips (by decide +kernel) (by decide +kernel)

def ackText (inserted ignored : Nat) : String :=
  "\x7b\"ok\":true,\"inserted\":" ++ toString inserted ++ ",\"ignored\":" ++ toString ignored ++ "\x7d"

theorem ackText_length {inserted ignored : Nat} (few : inserted + ignored ≤ isizeMax) :
    (ascii (ackText inserted ignored)).length ≤ 100 := by
  have number : ∀ n, n ≤ isizeMax → (toString n).toList.length ≤ 20 := by
    intro n small
    unfold isizeMax at small
    exact (Nat.length_repr_le_iff (by decide)).mpr (by omega)
  have first := number inserted (by omega)
  have second := number ignored (by omega)
  have texts : "\x7b\"ok\":true,\"inserted\":".toList.length = 22 ∧ ",\"ignored\":".toList.length = 11 ∧
      "\x7d".toList.length = 1 := by decide
  obtain ⟨start, middle, last⟩ := texts
  unfold ascii ackText
  simp only [List.length_map, String.toList_append, List.length_append]
  omega

theorem ackText_starts (inserted ignored : Nat) :
    ascii "\x7b\"ok\":true," <+: ascii (ackText inserted ignored) := by
  have split : "\x7b\"ok\":true,\"inserted\":".toList = "\x7b\"ok\":true,".toList ++ "\"inserted\":".toList := by
    decide
  unfold ascii ackText
  simp only [String.toList_append, split, List.append_assoc, List.map_append]
  exact List.prefix_append _ _

/-- The acknowledgements that a peer sends, as far as anybody looks at them. -/
def echoAcks : SerdeJson PushAck where
  toVec ack :=
    match ack with
    | ⟨true, some inserted, some ignored⟩ =>
      if few : inserted + ignored ≤ isizeMax then
        .ok ⟨ascii (ackText inserted ignored), (ackText_length few).trans (by decide)⟩
      else
        .error "out of memory"
    | _ => .error "not listed"
  fromSlice data :=
    if data.bytes = ascii (ackText 1 0) then .ok ⟨true, some 1, some 0⟩
    else if (ascii "\x7b\"ok\":true,").isPrefixOf data.bytes then .ok ⟨true, none, none⟩
    else .error "expected value at line 1 column 1"

def echoPushLibs : PushLibs where
  request := ⟨fun request => echoRequests.toVec request.entries,
    fun data => (echoRequests.fromSlice data).map EntriesPush.mk⟩
  ack := echoAcks
  zstd := rawZstd

theorem echoPushLibs_roundTrips : echoPushLibs.request.RoundTrips := by
  intro request json written
  have read := echoRequests_roundTrips request.entries json written
  simp only [echoPushLibs, read, Except.map]

theorem rawZstd_encodes {json : ByteVec} (small : json.len ≤ 1000) :
    ∃ frame, rawZstd.encodeAll json = .ok frame ∧ frame.len = json.len + 9 := by
  have length : (rawHeader json.len ++ json.bytes).length = json.len + 9 := by
    simp only [List.length_append, rawHeader, List.length_cons, List.length_nil, ByteVec.len]
    omega
  have fits : (rawHeader json.len ++ json.bytes).length ≤ isizeMax := by
    rw [length]
    unfold isizeMax
    omega
  exact ⟨⟨_, fits⟩, dif_pos fits, length⟩

theorem echoPushLibs_sends {array : List Entry × List UInt8} (listed : array ∈ Transport.arrayTexts) :
    ∃ json sent, SentBytes echoPushLibs.request rawZstd entriesPushProtocolZstd ⟨array.1⟩ json sent ∧
      json.len ≤ 1000 ∧ sent.len ≤ 1009 := by
  have zipped : isZstdProtocol entriesPushProtocolZstd = true := by decide
  obtain ⟨json, toVec, length⟩ := Transport.arraySerde_toVec (echoRequests_around.le.trans (by decide)) listed
  have short := Transport.arrayTexts_short array listed
  rw [echoRequests_around] at length
  have small : json.len ≤ 1000 := by omega
  obtain ⟨frame, packed, more⟩ := rawZstd_encodes small
  refine ⟨json, frame, ⟨toVec, ?_⟩, small, by omega⟩
  rw [zipped]
  exact packed

theorem echoPushLibs_acknowledges : Acknowledges echoPushLibs entriesPushProtocolZstd where
  counts := by
    intro entries json written
    have few : ∀ array ∈ Transport.arrayTexts, array.1.length ≤ 2 := by decide
    obtain ⟨array, listed, rfl, length⟩ :=
      Transport.arraySerde_listed (echoRequests_around.le.trans (by decide)) written
    have two := few array listed
    rw [echoRequests_around] at length
    omega
  ack := by
    intro inserted ignored few
    have short := ackText_length few
    let json : ByteVec := ⟨ascii (ackText inserted ignored), short.trans (by decide)⟩
    obtain ⟨frame, packed, length⟩ := @rawZstd_encodes json (short.trans (by decide))
    have zipped : isZstdProtocol entriesPushProtocolZstd = true := by decide
    have start : (ascii "\x7b\"ok\":true,").isPrefixOf json.bytes = true :=
      List.isPrefixOf_iff_prefix.mpr (ackText_starts inserted ignored)
    refine ⟨json, frame, ⟨dif_pos few, by rw [zipped]; exact packed⟩, short.trans (by decide), ?_, ?_⟩
    · have small : json.len ≤ 100 := short
      have room : pushRespMaxBytes.toNat = 65536 := by decide
      omega
    · by_cases one : json.bytes = ascii (ackText 1 0)
      · exact ⟨_, if_pos one, rfl⟩
      · exact ⟨_, (if_neg one).trans (if_pos start), rfl⟩

theorem echoPushLibs_whole (source : Option String) :
    SendsWhole echoPushLibs entriesPushProtocolZstd (Offered (longRemote 4) source) := by
  intro batch offered _
  obtain ⟨array, listed, rfl⟩ := Transport.offered_arrays offered
  obtain ⟨json, sent, bytes, -⟩ := echoPushLibs_sends listed
  exact ⟨json, sent, bytes⟩

theorem echoPushLibs_fits (row : IngestRow) (listed : row ∈ pendingRows (longRemote 4) "peer-a" (some "dev1")) :
    FitsAlone (FitsP2pPush echoPushLibs entriesPushProtocolZstd) row.val := by
  have singles : ∀ e ∈ [longFirst 4, longSecond 4], ∃ one ∈ Transport.arrayTexts, one.1 = [e] := by decide +kernel
  obtain ⟨e, pending, read⟩ := Transport.echo_pending listed
  obtain ⟨one, single, alone⟩ := singles e pending
  obtain ⟨json, sent, bytes, small, within⟩ := echoPushLibs_sends single
  have room : pushReqMaxBytes.toNat = 16777216 ∧ pushReqDecodedMaxBytes.toNat = 67108864 := by decide
  rw [alone] at bytes
  exact ⟨e, read, json, sent, bytes, fun _ => by omega, by omega⟩

/-- With a limit of 1 it takes two requests. -/
theorem p2p_push_delivers_echo :
    DeliversPending (longRemote 4) opened "peer-a" (some "dev1") 1
      (p2pPush echoPushLibs entriesPushProtocolZstd .default) :=
  (p2p_push_delivers (by decide) echoPushLibs_roundTrips rawZstd_roundTrips echoPushLibs_acknowledges
    (echoPushLibs_whole (some "dev1")) .default opened).1 echoPushLibs_fits

theorem p2p_hub_relays_echo :
    ∃ fuel, (syncPushToRemote fuel (longRemote 4) opened "peer-a" 1 (some "dev1")
        (p2pPush echoPushLibs entriesPushProtocolZstd .default)).Complete (longRemote 4) opened "peer-a"
        (some "dev1") ∧
      ∃ fuel' stats after, syncPullFromPeer fuel' opened "peer-a" 1000 (p2pPull (longSync 4) rawZstd
          syncPullProtocolPlain .default (syncPushToRemote fuel (longRemote 4) opened "peer-a" 1 (some "dev1")
            (p2pPush echoPushLibs entriesPushProtocolZstd .default)).remote) = (after, .returned (.ok stats)) ∧
        ∀ row ∈ pendingRows (longRemote 4) "peer-a" (some "dev1"), after.Holds row.val.entryId := by
  have small : 2 * 4 + 405 ≤ isizeMax := by decide
  apply p2p_hub_relays (by decide) (by decide) echoPushLibs_roundTrips (replySerde_roundTrips_short _)
    rawZstd_roundTrips replySerde_rejectsEmpty rawZstd_rejectsEmpty echoPushLibs_acknowledges
    (echoPushLibs_whole (some "dev1")) .default rfl echoPushLibs_fits
  intro cursor _
  obtain ⟨reply, listed, answer⟩ := longRemote_answers 4 cursor 1000
  have short := longReplies_length_le listed
  rw [Transport.echo_relayed "peer-a" rfl]
  exact ⟨reply.1, answer, (fitsP2p_long small listed).mpr (short.trans (by decide))⟩

end Rustory
