import Rustory.Foundations.Transition
import Rustory.Http.Server
import Rustory.Sync.BatchSize

namespace Rustory

open Foundations LocalStore

namespace Transport

/-! What the server's store holds after any sequence of requests. -/

structure Served where
  request : HttpRequest
  answer : HttpResponse

/-- A POST that was answered with 200. -/
def Served.Accepted (served : Served) : Prop :=
  asks served.request "POST" "/api/v1/entries" = true ∧ served.answer.code = 200

instance (served : Served) : Decidable served.Accepted := inferInstanceAs (Decidable (_ ∧ _))

section

variable (libs : TransportLibs)

/-- One turn of the server, whose transaction may fail at any point. -/
def ServerStep (store : LocalStore) (served : Served) (after : LocalStore) : Prop :=
  ∃ faults, serveHttp libs store faults served.request = (served.answer, after)

def postedEntries (req : HttpRequest) : List Entry :=
  match readPush libs req with
  | .ok (.inr entries) => entries
  | _ => []

def Served.entries (served : Served) : List Entry := if served.Accepted then postedEntries libs served.request else []

/-- What the answer to an accepted POST says of it. -/
structure Reports (served : Served) (stats : InsertStats) : Prop where
  answer : served.Accepted → ∃ body,
    libs.pushResponse.toVec ⟨true, .ofNat stats.inserted, .ofNat stats.ignored⟩ = .ok body ∧
      served.answer = ⟨200, body.bytes⟩
  total : stats.inserted + stats.ignored = (served.entries libs).length

end

section

variable {libs : TransportLibs} {store after : LocalStore} {faults : TxFaults} {req : HttpRequest}

theorem asks_get {path path' : String} (get : asks req "GET" path = true) : asks req "POST" path' = false := by
  obtain ⟨method, -⟩ := Bool.and_eq_true_iff.mp get
  have same : req.method = "GET" := eq_of_beq method
  simp only [asks, same]
  rfl

theorem respondText_code (code : Nat) (body : String) : (respondText code body).code = code := rfl

theorem readPush_answer {response : HttpResponse} (read : readPush libs req = .ok (.inl response)) :
    response.code = 413 := by
  unfold readPush at read
  split at read
  · cases read
  · split at read
    · split at read <;> cases read
    · cases read
      rfl

theorem routeHttpRequest_post (post : asks req "POST" "/api/v1/entries" = true) :
    routeHttpRequest libs store faults req = routePush libs store faults req := by
  have other : ∀ path, asks req "GET" path = false := by
    intro path
    by_contra get
    rw [Bool.not_eq_false] at get
    rw [asks_get get] at post
    cases post
  simp only [routeHttpRequest, other, post, Bool.false_eq_true, if_false, if_true]

theorem serveHttp_other (other : ¬ asks req "POST" "/api/v1/entries" = true) :
    (serveHttp libs store faults req).2 = store := by
  have kept : (routeHttpRequest libs store faults req).2 = store := by
    simp only [routeHttpRequest, other]
    split
    · rfl
    · split <;> rfl
  unfold serveHttp
  split
  · rename_i result after routed
    rw [routed] at kept
    cases kept
    cases result <;> rfl

theorem serveHttp_posted (post : asks req "POST" "/api/v1/entries" = true) {entries : List Entry}
    (read : readPush libs req = .ok (.inr entries))
    (done : store.insertEntriesWithStats entries faults = (.ok (store.insertedStats entries), store.inserted entries))
    {body : ByteVec} (written : libs.pushResponse.toVec ⟨true, .ofNat (store.insertedStats entries).inserted,
      .ofNat (store.insertedStats entries).ignored⟩ = .ok body) :
    serveHttp libs store faults req = (⟨200, body.bytes⟩, store.inserted entries) := by
  have result : routePush libs store faults req = (.ok ⟨200, body.bytes⟩, store.inserted entries) := by
    simp only [routePush, read, done, respondJson, written]
  simp only [serveHttp, routeHttpRequest_post post, result]

theorem readPush_body {body : ByteVec} {reqBody : EntriesRequest} (sent : req.body = .ok body.bytes)
    (within : body.len ≤ maxRequestBodyBytes) (parsed : libs.entriesRequest body = .ok reqBody) :
    readPush libs req = .ok (.inr reqBody.entries) := by
  unfold ByteVec.len at within
  simp only [readPush, sent, within, dif_pos, parsed]

/-- A turn stores the entries of a POST and answers it with their counts, or it stores nothing. -/
theorem serveHttp_cases (writes : ∀ response, ∃ body, libs.pushResponse.toVec response = .ok body) :
    (∃ entries body, asks req "POST" "/api/v1/entries" = true ∧ readPush libs req = .ok (.inr entries) ∧
      libs.pushResponse.toVec ⟨true, .ofNat (store.insertedStats entries).inserted,
        .ofNat (store.insertedStats entries).ignored⟩ = .ok body ∧
      serveHttp libs store faults req = (⟨200, body.bytes⟩, store.inserted entries)) ∨
    ∃ answer, serveHttp libs store faults req = (answer, store) ∧ ¬ Served.Accepted ⟨req, answer⟩ := by
  by_cases post : asks req "POST" "/api/v1/entries" = true
  · have failed : ∀ err, routePush libs store faults req = (.error err, store) →
        ∃ answer, serveHttp libs store faults req = (answer, store) ∧ ¬ Served.Accepted ⟨req, answer⟩ := by
      intro err result
      refine ⟨_, by simp only [serveHttp, routeHttpRequest_post post, result]; rfl, ?_⟩
      exact fun accepted => by simp [Served.Accepted, respondText_code] at accepted
    cases read : readPush libs req with
    | error err => exact Or.inr (failed err (by simp only [routePush, read]))
    | ok outcome =>
      cases outcome with
      | inl response =>
        have result : routePush libs store faults req = (.ok response, store) := by simp only [routePush, read]
        refine Or.inr ⟨response, by simp only [serveHttp, routeHttpRequest_post post, result], ?_⟩
        exact fun accepted => by simp [Served.Accepted, readPush_answer read] at accepted
      | inr entries =>
        rcases store.insertEntriesWithStats_cases entries faults with ⟨err, rolledBack⟩ | done
        · exact Or.inr (failed err (by simp only [routePush, read, rolledBack]))
        · obtain ⟨body, written⟩ := writes ⟨true, .ofNat (store.insertedStats entries).inserted,
            .ofNat (store.insertedStats entries).ignored⟩
          exact Or.inl ⟨entries, body, post, rfl, written, serveHttp_posted post read done written⟩
  · exact Or.inr ⟨_, Prod.ext rfl (serveHttp_other post), fun accepted => post accepted.1⟩

theorem ServerStep.takes (writes : ∀ response, ∃ body, libs.pushResponse.toVec response = .ok body) {served : Served}
    (step : ServerStep libs store served after) :
    after = store.inserted (served.entries libs) ∧ Reports libs served (store.insertedStats (served.entries libs)) := by
  obtain ⟨request, answer⟩ := served
  obtain ⟨faults, turn⟩ := step
  dsimp only at turn
  rcases @serveHttp_cases libs store faults request writes with
    ⟨entries, body, post, read, written, taken⟩ | ⟨other, kept, refused⟩
  · rw [taken] at turn
    cases turn
    have accepted : Served.Accepted ⟨request, ⟨200, body.bytes⟩⟩ := ⟨post, rfl⟩
    have posted : Served.entries libs ⟨request, ⟨200, body.bytes⟩⟩ = entries := by
      simp only [Served.entries, accepted, if_true, postedEntries, read]
    rw [posted]
    refine ⟨rfl, fun _ => ⟨body, written, rfl⟩, ?_⟩
    rw [posted]
    exact store.insertedStats_total entries
  · rw [kept] at turn
    cases turn
    have none : Served.entries libs ⟨request, answer⟩ = [] := by simp only [Served.entries, refused, if_false]
    rw [none]
    refine ⟨rfl, fun accepted => absurd accepted refused, ?_⟩
    rw [none]
    rfl

end

/-- The store has the entries of the POSTs that were answered with 200, in order and each once, whatever else
    was asked and whichever transactions failed. The answers add up to the new rows, and a POST that is sent
    again changes no row. -/
theorem server_history {libs : TransportLibs}
    (writes : ∀ response, ∃ body, libs.pushResponse.toVec response = .ok body) {store after : LocalStore}
    {history : List Served} (run : Run (ServerStep libs) store history after) :
    after = store.inserted (history.flatMap (Served.entries libs)) ∧
    (∃ stats, List.Forall₂ (Reports libs) history stats ∧
      after.entries.rows.length = store.entries.rows.length + (stats.map InsertStats.inserted).sum) ∧
    ∀ served ∈ history, served.Accepted → ∀ again last, ServerStep libs after again last →
      again.request = served.request → again.Accepted → last.entries.rows = after.entries.rows ∧
        Reports libs again ⟨0, (again.entries libs).length⟩ := by
  have stores : after = store.inserted (history.flatMap (Served.entries libs)) := by
    induction run with
    | nil => rfl
    | cons step _ ih =>
      rw [List.flatMap_cons, inserted_append, ← (step.takes writes).1]
      exact ih
  refine ⟨stores, ?_, ?_⟩
  · clear stores
    induction run with
    | nil => exact ⟨[], .nil, rfl⟩
    | @cons first next _ served _ step _ ih =>
      obtain ⟨stats, reports, total⟩ := ih
      obtain ⟨taken, here⟩ := step.takes writes
      obtain ⟨added, rows, -, count, -⟩ := first.inserted_rows (served.entries libs)
      refine ⟨_ :: stats, .cons here reports, ?_⟩
      rw [total, taken, rows, List.length_append, List.map_cons, List.sum_cons, count, Nat.add_assoc]
  · intro served listed accepted again last step same takenAgain
    have entries : again.entries libs = served.entries libs := by
      simp only [Served.entries, accepted, takenAgain, if_true, same]
    have present : ∀ row ∈ rowsOf (again.entries libs), after.entries.Holds row.entryId := by
      intro row member
      obtain ⟨e, posted, rfl⟩ := List.mem_map.mp member
      rw [stores]
      apply (store.inserted_holds _ _).mpr
      rw [entries] at posted
      exact Or.inr ⟨e, List.mem_flatMap.mpr ⟨served, listed, posted⟩, rfl⟩
    obtain ⟨rows, none⟩ := after.entries.insertAll_present _ present
    obtain ⟨taken, reports⟩ := step.takes writes
    have stats : after.insertedStats (again.entries libs) = ⟨0, (again.entries libs).length⟩ := by
      simp only [insertedStats, none, Nat.sub_zero]
    rw [stats] at reports
    rw [taken]
    exact ⟨rows, reports⟩

/-! Two entries, and a server at `http://peer-a:8080`. -/

def pushText (response : PushResponse) : String :=
  "\x7b\"ok\":" ++ (if response.ok then "true" else "false") ++ ",\"inserted\":" ++ toString response.inserted ++
    ",\"ignored\":" ++ toString response.ignored ++ "\x7d"

theorem pushText_length (response : PushResponse) : (ascii (pushText response)).length ≤ 100 := by
  have number : ∀ n : UInt64, (toString n).toList.length ≤ 20 := by
    intro n
    have small := n.toNat_lt
    exact (Nat.length_repr_le_iff (by decide)).mpr (by omega)
  have inserted := number response.inserted
  have ignored := number response.ignored
  have ok : (if response.ok then "true" else "false").toList.length ≤ 5 := by split <;> decide
  have texts : "\x7b\"ok\":".toList.length = 6 ∧ ",\"inserted\":".toList.length = 12 ∧
      ",\"ignored\":".toList.length = 11 ∧ "\x7d".toList.length = 1 := by decide
  obtain ⟨first, second, third, last⟩ := texts
  simp only [ascii, List.length_map, pushText, String.toList_append, List.length_append]
  omega

/-- The arrays of the two entries, and what stands between their brackets. -/
def arrayTexts : List (List Entry × List UInt8) :=
  [([], []), ([longFirst 4], longText 4 "id-1" "1"), ([longSecond 4], longText 4 "id-2" "2"),
    ([longFirst 4, longSecond 4], longText 4 "id-1" "1" ++ ascii "," ++ longText 4 "id-2" "2")]

/-- `serde_json` at these arrays, in a text that starts and ends like this. -/
def arraySerde (start finish : String) : SerdeJson (List Entry) :=
  listedSerde (arrayTexts.map fun array => (array.1, ascii start ++ array.2 ++ ascii finish))

def echoEntries : SerdeJson (List Entry) := arraySerde "[" "]"

def echoTransport : TransportLibs where
  entriesResponse := longHttp 4
  pushResponse := ⟨fun response => .ok ⟨ascii (pushText response), (pushText_length response).trans (by decide)⟩,
    fun _ => .error "expected value at line 1 column 1"⟩
  entries := echoEntries
  entriesRequest := fun data => (echoEntries.fromSlice data).map EntriesRequest.array
  target := fun url => (stripStart "http://peer-a:8080" url).getD url

theorem arrayTexts_short : ∀ array ∈ arrayTexts, array.2.length ≤ 400 := by decide +kernel

theorem arraySerde_toVec {start finish : String} (around : start.toList.length + finish.toList.length ≤ 100)
    {array : List Entry × List UInt8} (listed : array ∈ arrayTexts) :
    ∃ body, (arraySerde start finish).toVec array.1 = .ok body ∧
      body.len = array.2.length + (start.toList.length + finish.toList.length) := by
  have length : (ascii start ++ array.2 ++ ascii finish).length =
      array.2.length + (start.toList.length + finish.toList.length) := by
    simp only [ascii, List.length_append, List.length_map]
    omega
  have fits : (ascii start ++ array.2 ++ ascii finish).length ≤ isizeMax := by
    have short := arrayTexts_short array listed
    rw [length]
    unfold isizeMax
    omega
  have member : (array.1, ascii start ++ array.2 ++ ascii finish) ∈
      arrayTexts.map fun array => (array.1, ascii start ++ array.2 ++ ascii finish) :=
    List.mem_map.mpr ⟨array, listed, rfl⟩
  have batches : (arrayTexts.map Prod.fst).Nodup := by decide
  refine ⟨⟨_, fits⟩, listedSerde_toVec ?_ member fits, length⟩
  rw [List.map_map]
  exact batches

theorem arraySerde_listed {start finish : String} (around : start.toList.length + finish.toList.length ≤ 100)
    {batch : List Entry} {body : ByteVec} (written : (arraySerde start finish).toVec batch = .ok body) :
    ∃ array ∈ arrayTexts, array.1 = batch ∧
      body.len = array.2.length + (start.toList.length + finish.toList.length) := by
  obtain ⟨array, listed, same⟩ := List.mem_map.mp (listedSerde_listed written)
  obtain ⟨again, writtenAgain, length⟩ := arraySerde_toVec around listed
  have batches : array.1 = batch := congrArg Prod.fst same
  rw [batches, written] at writtenAgain
  cases writtenAgain
  exact ⟨array, listed, batches, length⟩

theorem echoEntries_toVec {array : List Entry × List UInt8} (listed : array ∈ arrayTexts) :
    ∃ body, echoEntries.toVec array.1 = .ok body ∧ body.len = array.2.length + 2 :=
  arraySerde_toVec (by decide) listed

theorem echoEntries_roundTrips : echoEntries.RoundTrips :=
  listedSerde_roundTrips (by decide +kernel) (by decide +kernel)

theorem echoTransport_writes (response : PushResponse) :
    ∃ body, echoTransport.pushResponse.toVec response = .ok body ∧ body.len ≤ intoStringLimit :=
  ⟨_, rfl, (pushText_length response).trans (by decide)⟩

theorem echoTransport_named : NamesServer echoTransport "http://peer-a:8080" := by
  have origin : trimEndMatches (· == '/') "http://peer-a:8080" = "http://peer-a:8080" := by decide
  constructor
  · intro cursor limit
    have url : entriesUrl "http://peer-a:8080" cursor limit = "http://peer-a:8080" ++
        ("/api/v1/entries?cursor=" ++ toString cursor ++ "&limit=" ++ toString limit) := by
      unfold entriesUrl
      rw [show String.ofList ("http://peer-a:8080".toList.reverse.dropWhile (fun c => c == '/')).reverse =
        "http://peer-a:8080" from origin]
      simp only [String.append_assoc]
    simp only [echoTransport, stripStart_some.mpr url, Option.getD_some]
  · have url : pushUrl "http://peer-a:8080" = "http://peer-a:8080" ++ "/api/v1/entries" := by
      unfold pushUrl
      rw [origin]
    simp only [echoTransport, stripStart_some.mpr url, Option.getD_some]

theorem echoTransport_readPush {entries : List Entry} {body : ByteVec} (written : echoEntries.toVec entries = .ok body) :
    readPush echoTransport (pushRequest echoTransport "http://peer-a:8080" body) = .ok (.inr entries) := by
  have within : body.len ≤ maxRequestBodyBytes := by
    obtain ⟨array, listed, -, length⟩ := arraySerde_listed (by decide) written
    have short := arrayTexts_short array listed
    have brackets : "[".toList.length + "]".toList.length = 2 := by decide
    rw [length, brackets]
    unfold maxRequestBodyBytes
    omega
  have parsed : echoTransport.entriesRequest body = .ok (.array entries) := by
    simp only [echoTransport, echoEntries_roundTrips _ _ written, Except.map]
  exact readPush_body rfl within parsed

theorem echoTransport_post (body : ByteVec) :
    asks (pushRequest echoTransport "http://peer-a:8080" body) "POST" "/api/v1/entries" = true := by
  simp only [asks, pushRequest, echoTransport_named.push]
  decide

/-- What the server answers to a POST of entries. -/
def posted (store : LocalStore) (body : ByteVec) (entries : List Entry) : Served :=
  ⟨pushRequest echoTransport "http://peer-a:8080" body, ⟨200, ascii (pushText
    ⟨true, .ofNat (store.insertedStats entries).inserted, .ofNat (store.insertedStats entries).ignored⟩)⟩⟩

theorem posted_step {entries : List Entry} {body : ByteVec} (written : echoEntries.toVec entries = .ok body)
    (store : LocalStore) : ServerStep echoTransport store (posted store body entries) (store.inserted entries) :=
  ⟨noFaults, serveHttp_posted (echoTransport_post body) (echoTransport_readPush written)
    (insertEntriesWithStats_noFaults _ _) rfl⟩

/-- The first entry is posted alone, and then once more with the second. -/
theorem server_history_echo :
    ∃ first second : Served, ∃ after, Run (ServerStep echoTransport) opened [first, second] after ∧
      first.answer.body = ascii (pushText ⟨true, 1, 0⟩) ∧ second.answer.body = ascii (pushText ⟨true, 1, 1⟩) ∧
      after = opened.inserted ([first, second].flatMap (Served.entries echoTransport)) := by
  obtain ⟨one, alone, -⟩ := @echoEntries_toVec ([longFirst 4], longText 4 "id-1" "1") (by simp [arrayTexts])
  obtain ⟨both, together, -⟩ := @echoEntries_toVec ([longFirst 4, longSecond 4], _)
    (List.mem_of_getLast? (by rfl))
  have run := (Run.single (posted_step alone opened)).snoc (posted_step together (opened.inserted [longFirst 4]))
  refine ⟨_, _, _, run, rfl, rfl, ?_⟩
  exact (server_history (fun response => ⟨_, (echoTransport_writes response).choose_spec.1⟩) run).1

end Transport

end Rustory
