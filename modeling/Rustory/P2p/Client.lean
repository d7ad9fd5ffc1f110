import Rustory.Foundations.Retry
import Rustory.P2p.Codec
import Rustory.P2p.Serve
import Rustory.Sync.PullSession

namespace Rustory

open Foundations LocalStore

def decodedMaxMultiplier : UInt64 := 4
def pullReqMaxBytes : UInt64 := 64 * 1024
def pullRespMaxBytes : UInt64 := 32 * 1024 * 1024
def pullReqDecodedMaxBytes : UInt64 := pullReqMaxBytes * decodedMaxMultiplier
def pullRespDecodedMaxBytes : UInt64 := pullRespMaxBytes * decodedMaxMultiplier

def syncPullProtocolPlain : String := "/rustory/sync-pull/1.0.0"
def syncPullProtocolZstd : String := "/rustory/sync-pull/1.0.1"

def pullCodec : JsonCodec :=
  (JsonCodec.new pullReqMaxBytes pullRespMaxBytes).withDecodedMaximum pullReqDecodedMaxBytes
    pullRespDecodedMaxBytes

/-- `parse_attempts` admits no 0. -/
structure RequestRetryPolicy where
  attempts : Nat
  positive : 1 ≤ attempts

def RequestRetryPolicy.default : RequestRetryPolicy := ⟨3, by decide⟩

def Cause.outboundFailure : Cause → Option OutboundFailure
  | .outbound failure => some failure
  | _ => none

def isRetryableP2pRequestError (err : Error) : Bool :=
  if isPayloadTooLargeError err then
    false
  else if err.any fun cause => startsWith cause.display "p2p request timeout after" then
    true
  else
    match err.findSome? Cause.outboundFailure with
    | some failure => failure != .unsupportedProtocols
    | none => false

def pullBatchWithRetries (policy : RequestRetryPolicy) (pullBatchOnce : Nat → Except Error PullBatch) :
    Except Error PullBatch :=
  retry isRetryableP2pRequestError pullBatchOnce (policy.attempts - 1) 0

section

variable (serde : SerdeJson SyncBatch) (zstd : Zstd) (protocol : String)

/-- The stream that the peer leaves: what `write_response` wrote, also when it failed. A peer whose
    loop has ended closes the connection. -/
def answerSync (remote : LocalStore) (request : SyncPull) : Except OutboundFailure (List UInt8) :=
  match serveSync remote request with
  | .error _ => .error .connectionClosed
  | .ok response => .ok (pullCodec.writeResponse serde zstd protocol [] response).2

def pullBatchOnce (remote : LocalStore) (cursor : Int) (limit : UInt64) : Except Error PullBatch :=
  match answerSync serde zstd protocol remote ⟨cursor, limit⟩ with
  | .error failure => .error (Error.context [.outbound failure] "p2p outbound request failed")
  | .ok stream =>
    match (pullCodec.readResponse serde zstd protocol stream).result with
    | .error err => .error (Error.context [.outbound (.io err.text)] "p2p outbound request failed")
    | .ok response => .ok ⟨response.entries, response.nextCursor⟩

/-- The pull of `P2pClient`, from a peer that nothing but sizes keeps from answering. -/
def p2pPull (policy : RequestRetryPolicy) (remote : LocalStore) (cursor : Int) (limit : UInt64) :
    Except Error PullBatch :=
  pullBatchWithRetries policy fun _ => pullBatchOnce serde zstd protocol remote cursor limit

def FitsP2p (batch : PullBatch) : Prop :=
  ∃ json sent, SentBytes serde zstd protocol ⟨batch.entries, batch.nextCursor⟩ json sent ∧
    (isZstdProtocol protocol → json.len ≤ pullRespDecodedMaxBytes.toNat) ∧
    sent.len ≤ pullRespMaxBytes.toNat

end

def noBytes : ByteVec := ⟨[], Nat.zero_le _⟩

def SerdeJson.RejectsEmpty {α : Type*} (serde : SerdeJson α) : Prop :=
  serde.fromSlice noBytes = .error "EOF while parsing a value at line 1 column 0"

def Zstd.RejectsEmpty (zstd : Zstd) : Prop := zstd.decoder noBytes = .ok ([], some "incomplete frame")

section

variable {serde : SerdeJson SyncBatch} {zstd : Zstd} {protocol : String}

theorem p2pPull_eq (policy : RequestRetryPolicy) (remote : LocalStore) (cursor : Int) (limit : UInt64) :
    p2pPull serde zstd protocol policy remote cursor limit =
      pullBatchOnce serde zstd protocol remote cursor limit := retry_const _ _ _ _

theorem fitsP2p_iff {batch : PullBatch} :
    FitsP2p serde zstd protocol batch ↔
      (pullCodec.writeResponse serde zstd protocol [] ⟨batch.entries, batch.nextCursor⟩).1 = .ok () := by
  unfold JsonCodec.writeResponse
  rw [writeMessage_ok]
  constructor
  · intro ⟨json, sent, written, small, within⟩
    exact ⟨sent, encodeMessage_ok.mpr ⟨json, written, small, within⟩⟩
  · intro ⟨sent, encoded⟩
    obtain ⟨json, written, small, within⟩ := encodeMessage_ok.mp encoded
    exact ⟨json, sent, written, small, within⟩

theorem readResponse_fit (serdeRoundTrips : serde.RoundTrips) (zstdRoundTrips : zstd.RoundTrips)
    {batch : PullBatch} (fit : FitsP2p serde zstd protocol batch) :
    (pullCodec.readResponse serde zstd protocol
      (pullCodec.writeResponse serde zstd protocol [] ⟨batch.entries, batch.nextCursor⟩).2).result =
        .ok ⟨batch.entries, batch.nextCursor⟩ := by
  have contract := message_contract serde zstd serdeRoundTrips zstdRoundTrips protocol pullRespMaxBytes
    pullRespDecodedMaxBytes "response" "decoded response"
  have done := fitsP2p_iff.mp fit
  obtain ⟨bytes, stream, read⟩ := contract.roundTrip _ _ _ (Prod.ext done rfl)
  have same : (pullCodec.writeResponse serde zstd protocol [] ⟨batch.entries, batch.nextCursor⟩).2 = bytes :=
    stream
  rw [same]
  exact read

theorem writeResponse_unfit {batch : PullBatch} (large : ¬ FitsP2p serde zstd protocol batch) :
    (pullCodec.writeResponse serde zstd protocol [] ⟨batch.entries, batch.nextCursor⟩).2 = [] := by
  rw [fitsP2p_iff] at large
  unfold JsonCodec.writeResponse writeMessage at large ⊢
  split
  · rfl
  · rename_i encoded
    rw [encoded] at large
    exact absurd rfl large

theorem readLimitedBytes_empty (max : UInt64) : (readLimitedBytes [] max).result = .ok noBytes :=
  readLimitedBytes_ok.mpr ⟨rfl, Nat.zero_le _⟩

theorem decompressZstdLimited_empty (zstdRejects : zstd.RejectsEmpty) (max : UInt64) :
    (decompressZstdLimited zstd noBytes max).result = .error ⟨.invalidData, "incomplete frame"⟩ := by
  unfold Zstd.RejectsEmpty at zstdRejects
  have open_ : 0 < saturatingSucc max := by
    unfold saturatingSucc u64Max
    omega
  simp [decompressZstdLimited, zstdRejects, open_]

/-- On an empty stream the reader fails, with an error that names no size. -/
theorem readResponse_empty (serdeRejects : serde.RejectsEmpty) (zstdRejects : zstd.RejectsEmpty) :
    ∃ text, (pullCodec.readResponse serde zstd protocol []).result = .error ⟨.invalidData, text⟩ ∧
      contains text "too large" = false := by
  simp only [JsonCodec.readResponse, readMessage, readLimitedBytes_empty]
  split
  · rw [decompressZstdLimited_empty zstdRejects]
    exact ⟨"incomplete frame", rfl, by decide⟩
  · refine ⟨"EOF while parsing a value at line 1 column 0", ?_, by decide⟩
    unfold SerdeJson.RejectsEmpty at serdeRejects
    simp [parseJson, serdeRejects, Except.mapError]

theorem outbound_not_payloadTooLarge {failure : OutboundFailure}
    (silent : ∀ text, failure = .io text → contains text "too large" = false) :
    isPayloadTooLargeError (Error.context [.outbound failure] "p2p outbound request failed") = false := by
  have context : Cause.payloadTooLarge (.message "p2p outbound request failed") = false := by decide
  have cause : Cause.payloadTooLarge (.outbound failure) = false := by
    cases failure with
    | io text => exact silent text rfl
    | dialFailure => decide
    | timeout => decide
    | connectionClosed => decide
    | unsupportedProtocols => decide
  simp [isPayloadTooLargeError, Error.context, context, cause]

theorem p2pPull_unfit (serdeRejects : serde.RejectsEmpty) (zstdRejects : zstd.RejectsEmpty)
    (policy : RequestRetryPolicy) {remote : LocalStore} {cursor : Int} {limit : UInt64}
    (unfit : ¬ PageFits remote (FitsP2p serde zstd protocol) cursor limit) :
    ∃ err, p2pPull serde zstd protocol policy remote cursor limit = .error err ∧
      isPayloadTooLargeError err = false := by
  rw [p2pPull_eq]
  unfold pullBatchOnce answerSync
  cases served : serveSync remote ⟨cursor, limit⟩ with
  | error err => exact ⟨_, rfl, outbound_not_payloadTooLarge (fun text same => by cases same)⟩
  | ok response =>
    have answer := serveSync_ok.mp served
    have large : ¬ FitsP2p serde zstd protocol ⟨response.entries, response.nextCursor⟩ :=
      fun fit => unfit ⟨_, answer, fit⟩
    obtain ⟨text, broken, silent⟩ := @readResponse_empty serde zstd protocol serdeRejects zstdRejects
    simp only [writeResponse_unfit large, broken]
    refine ⟨_, rfl, outbound_not_payloadTooLarge ?_⟩
    rintro _ ⟨⟩
    exact silent

theorem p2pPull_carries (serdeRoundTrips : serde.RoundTrips) (zstdRoundTrips : zstd.RoundTrips)
    (serdeRejects : serde.RejectsEmpty) (zstdRejects : zstd.RejectsEmpty) (policy : RequestRetryPolicy)
    (remote : LocalStore) :
    CarriesWhatFits remote (FitsP2p serde zstd protocol) (p2pPull serde zstd protocol policy remote) := by
  constructor
  · intro cursor limit batch answer fit
    have served : serveSync remote ⟨cursor, limit⟩ = .ok ⟨batch.entries, batch.nextCursor⟩ :=
      serveSync_ok.mpr answer
    have read := readResponse_fit serdeRoundTrips zstdRoundTrips fit
    simp only [p2pPull_eq, pullBatchOnce, answerSync, served, read]
  · intro cursor limit unfit
    exact p2pPull_unfit serdeRejects zstdRejects policy unfit

end

end Rustory
