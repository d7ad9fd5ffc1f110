import Rustory.Cli.RequestRetry
import Rustory.Storage.History
import Rustory.Tracker.Server

namespace Rustory

open Foundations LocalStore

/-! `str::parse` for integers, which stops at the first digit that is none or that does not fit. -/

/-- The digits of an `i64`, as the distance from 0. -/
def i64Digit (farthest : Nat) (overflow : String) (value : Nat) (c : Char) : Except String Nat :=
  if !c.isDigit then
    .error "invalid digit found in string"
  else
    let next := value * 10 + (c.toNat - '0'.toNat)
    if next ≤ farthest then .ok next else .error overflow

def i64FromStr (text : String) : Except String Int :=
  let positive := fun digits : List Char =>
    (digits.foldlM (i64Digit (2 ^ 63 - 1) "number too large to fit in target type") 0).map Int.ofNat
  match text.toList with
  | [] => .error "cannot parse integer from empty string"
  | ['+'] => .error "invalid digit found in string"
  | ['-'] => .error "invalid digit found in string"
  | '+' :: digits => positive digits
  | '-' :: digits =>
    (digits.foldlM (i64Digit (2 ^ 63) "number too small to fit in target type") 0).map fun n => -Int.ofNat n
  | digits => positive digits

/-! A number in decimal is read back where it fits. -/

def decimal (digits : List Char) (value : Nat) : Nat :=
  digits.foldl (fun value c => value * 10 + (c.toNat - '0'.toNat)) value

theorem le_decimal (digits : List Char) (value : Nat) : value ≤ decimal digits value := by
  induction digits generalizing value with
  | nil => exact Nat.le_refl value
  | cons c rest ih =>
    have later := ih (value * 10 + (c.toNat - '0'.toNat))
    have here : decimal (c :: rest) value = decimal rest (value * 10 + (c.toNat - '0'.toNat)) := rfl
    omega

theorem foldlM_decimal {read : Nat → Char → Except String Nat} {most : Nat}
    (reads : ∀ value c, c.isDigit = true → value * 10 + (c.toNat - '0'.toNat) ≤ most →
      read value c = .ok (value * 10 + (c.toNat - '0'.toNat)))
    {digits : List Char} (wellFormed : digits.all Char.isDigit = true) {value : Nat}
    (fits : decimal digits value ≤ most) : digits.foldlM read value = .ok (decimal digits value) := by
  induction digits generalizing value with
  | nil => rfl
  | cons c rest ih =>
    obtain ⟨digit, later⟩ := Bool.and_eq_true_iff.mp wellFormed
    have here : decimal (c :: rest) value = decimal rest (value * 10 + (c.toNat - '0'.toNat)) := rfl
    rw [here] at fits ⊢
    have small := le_decimal rest (value * 10 + (c.toNat - '0'.toNat))
    rw [List.foldlM_cons, reads value c digit (by omega)]
    exact ih later fits

theorem repr_decimal (n : Nat) : (Nat.repr n).toList.all Char.isDigit = true ∧ decimal (Nat.repr n).toList 0 = n := by
  have read := parseDigits_repr n
  unfold parseDigits at read
  split at read
  · cases read
  · rename_i wellFormed
    rw [Bool.not_eq_true, Bool.or_eq_false_iff, Bool.not_eq_false'] at wellFormed
    exact ⟨wellFormed.2, Option.some.inj read⟩

theorem i64Digit_reads (farthest : Nat) (overflow : String) (value : Nat) (c : Char) (digit : c.isDigit = true)
    (fits : value * 10 + (c.toNat - '0'.toNat) ≤ farthest) :
    i64Digit farthest overflow value c = .ok (value * 10 + (c.toNat - '0'.toNat)) := by
  simp only [i64Digit, digit, Bool.not_true, Bool.false_eq_true, if_false, fits, if_true]

theorem parseDigit_reads (value : Nat) (c : Char) (digit : c.isDigit = true)
    (fits : value * 10 + (c.toNat - '0'.toNat) ≤ 2 ^ 64 - 1) :
    parseDigit value c = .ok (value * 10 + (c.toNat - '0'.toNat)) := by
  have below : value * 10 + (c.toNat - '0'.toNat) < 2 ^ 64 := by omega
  simp only [parseDigit, digit, Bool.not_true, Bool.false_eq_true, if_false, below, if_true]

/-- The digits of a number are no sign. -/
theorem repr_unsigned (n : Nat) : ∃ c rest, (Nat.repr n).toList = c :: rest ∧ c ≠ '+' ∧ c ≠ '-' := by
  cases shape : (Nat.repr n).toList with
  | nil =>
    have read := parseDigits_repr n
    rw [shape] at read
    cases read
  | cons c rest =>
    have listed : c ∈ (Nat.repr n).toList := shape ▸ List.mem_cons_self
    refine ⟨c, rest, rfl, ?_, ?_⟩
    · rintro rfl
      exact not_mem_natRepr (by decide) n listed
    · rintro rfl
      exact not_mem_natRepr (by decide) n listed

theorem parseU64_repr (limit : UInt64) : parseU64 (toString limit) = .ok limit := by
  have text : (toString limit).toList = (Nat.repr limit.toNat).toList := rfl
  obtain ⟨wellFormed, value⟩ := repr_decimal limit.toNat
  have small := limit.toNat_lt
  have digits : (Nat.repr limit.toNat).toList.foldlM parseDigit 0 = .ok limit.toNat := by
    rw [foldlM_decimal parseDigit_reads wellFormed (by omega), value]
  obtain ⟨c, rest, shape, noPlus, -⟩ := repr_unsigned limit.toNat
  unfold parseU64
  rw [text]
  rw [shape] at digits ⊢
  split
  · rename_i empty
    cases empty
  · rename_i plus
    exact absurd (List.cons.inj plus).1 noPlus
  · rename_i plus
    exact absurd (List.cons.inj plus).1 noPlus
  · rw [digits]
    exact congrArg Except.ok (UInt64.ofNat_toNat)

theorem i64FromStr_repr {n : Int} (range : minI64 ≤ n ∧ n ≤ maxI64) : i64FromStr (toString n) = .ok n := by
  obtain ⟨low, high⟩ := range
  unfold minI64 at low
  unfold maxI64 at high
  obtain ⟨wellFormed, value⟩ := repr_decimal n.natAbs
  obtain ⟨c, rest, shape, noPlus, noMinus⟩ := repr_unsigned n.natAbs
  by_cases nonneg : 0 ≤ n
  · have written : (toString n).toList = (Nat.repr n.natAbs).toList := by
      have same : n.toNat = n.natAbs := by omega
      rw [← same]
      exact congrArg String.toList ((Int.repr_eq_if).trans (if_pos nonneg))
    have digits : (Nat.repr n.natAbs).toList.foldlM
        (i64Digit (2 ^ 63 - 1) "number too large to fit in target type") 0 = .ok n.natAbs := by
      rw [foldlM_decimal (i64Digit_reads _ _) wellFormed (by omega), value]
    unfold i64FromStr
    rw [written]
    rw [shape] at digits ⊢
    have back : Int.ofNat n.natAbs = n := by
      rw [Int.ofNat_eq_natCast]
      omega
    split
    · rename_i empty
      cases empty
    · rename_i plus
      exact absurd (List.cons.inj plus).1 noPlus
    · rename_i minus
      exact absurd (List.cons.inj minus).1 noMinus
    · rename_i plus
      exact absurd (List.cons.inj plus).1 noPlus
    · rename_i minus
      exact absurd (List.cons.inj minus).1 noMinus
    · dsimp only
      rw [digits]
      exact congrArg Except.ok back
  · have written : (toString n).toList = '-' :: (Nat.repr n.natAbs).toList := by
      have same : (-n).toNat = n.natAbs := by omega
      rw [← same]
      exact (congrArg String.toList ((Int.repr_eq_if).trans (if_neg nonneg))).trans (String.toList_append)
    have digits : (Nat.repr n.natAbs).toList.foldlM
        (i64Digit (2 ^ 63) "number too small to fit in target type") 0 = .ok n.natAbs := by
      rw [foldlM_decimal (i64Digit_reads _ _) wellFormed (by omega), value]
    unfold i64FromStr
    rw [written]
    rw [shape] at digits ⊢
    have back : -Int.ofNat n.natAbs = n := by
      rw [Int.ofNat_eq_natCast]
      omega
    split
    · rename_i empty
      cases empty
    · rename_i plus
      exact absurd (List.cons.inj plus).1 (by decide)
    · rename_i sign
      cases (List.cons.inj sign).2
    · rename_i plus
      exact absurd (List.cons.inj plus).1 (by decide)
    · rename_i signed
      cases signed
      rw [digits]
      exact congrArg Except.ok back
    · rename_i signed
      exact (signed _ rfl).elim

/-! The requests of `transport`. -/

namespace Transport

structure PushResponse where
  ok : Bool
  inserted : UInt64
  ignored : UInt64
  deriving DecidableEq

inductive EntriesRequest
  | array (entries : List Entry)
  | object (entries : List Entry)
  deriving DecidableEq

def EntriesRequest.entries : EntriesRequest → List Entry
  | .array entries => entries
  | .object entries => entries

/-- What the crates do: `serde_json` at the types sent and read, and the target that `ureq` asks a server for
    when it is given a URL. -/
structure TransportLibs where
  entriesResponse : SerdeJson EntriesResponse
  pushResponse : SerdeJson PushResponse
  entries : SerdeJson (List Entry)
  entriesRequest : ByteVec → Except String EntriesRequest
  target : String → String

/-- One turn of the loop in `parse_cursor_limit`. -/
def readPart (sofar : Int × UInt64) (part : List Char) : Except Error (Int × UInt64) :=
  match splitOnce '=' (.ofList part) with
  | none => .ok sofar
  | some (k, v) =>
    if k = "cursor" then
      match i64FromStr v with
      | .error text => .error [.message "parse cursor", .message text]
      | .ok cursor => .ok (cursor, sofar.2)
    else if k = "limit" then
      match parseU64 v with
      | .error text => .error [.message "parse limit", .message text]
      | .ok limit => .ok (sofar.1, limit)
    else
      .ok sofar

def parseCursorLimit (query : Option String) : Except Error (Int × UInt64) :=
  match query with
  | none => .ok (0, 1000)
  | some query => (query.toList.splitOn '&').foldlM readPart (0, 1000)

section

variable (libs : TransportLibs)

def routeEntries (store : LocalStore) (req : HttpRequest) : Except Error HttpResponse :=
  match parseCursorLimit (urlQuery req.url) with
  | .error err => .error err
  | .ok (cursor, limit) => getEntries libs.entriesResponse store cursor limit

theorem body_fits {buf : List UInt8} (within : buf.length ≤ maxRequestBodyBytes) : buf.length ≤ isizeMax := by
  have room : maxRequestBodyBytes ≤ isizeMax := by decide
  exact within.trans room

/-- A POST before the store is asked: an error, an answer, or the entries to insert. -/
def readPush (req : HttpRequest) : Except Error (HttpResponse ⊕ List Entry) :=
  match req.body with
  | .error text => .error [.message "read request body", .message text]
  | .ok buf =>
    if within : buf.length ≤ maxRequestBodyBytes then
      match libs.entriesRequest ⟨buf, body_fits within⟩ with
      | .error text => .error [.message "parse entries request json", .message text]
      | .ok reqBody => .ok (.inr reqBody.entries)
    else
      .ok (.inl (respondText 413 "payload too large\n"))

def routePush (store : LocalStore) (faults : TxFaults) (req : HttpRequest) : Except Error HttpResponse × LocalStore :=
  match readPush libs req with
  | .error err => (.error err, store)
  | .ok (.inl response) => (.ok response, store)
  | .ok (.inr entries) =>
    match store.insertEntriesWithStats entries faults with
    | (.error err, store) => (.error err, store)
    | (.ok stats, store) =>
      (respondJson libs.pushResponse 200 ⟨true, .ofNat stats.inserted, .ofNat stats.ignored⟩, store)

def routeHttpRequest (store : LocalStore) (faults : TxFaults) (req : HttpRequest) :
    Except Error HttpResponse × LocalStore :=
  if asks req "GET" "/api/v1/ping" then
    (.ok (respondText 200 "ok\n"), store)
  else if asks req "GET" "/api/v1/entries" then
    (routeEntries libs store req, store)
  else if asks req "POST" "/api/v1/entries" then
    routePush libs store faults req
  else
    (.ok (respondText 404 "not found\n"), store)

/-- One turn of the loop in `serve_http`. -/
def serveHttp (store : LocalStore) (faults : TxFaults) (req : HttpRequest) : HttpResponse × LocalStore :=
  let (result, store) := routeHttpRequest libs store faults req
  match result with
  | .ok response => (response, store)
  | .error err => (respondText 500 ("error: " ++ displayChain err ++ "\n"), store)

/-- The request of `http_pull_batch`, as the server sees it. -/
def pullRequest (peerBaseUrl : String) (cursor : Int) (limit : UInt64) : HttpRequest where
  method := "GET"
  url := libs.target (entriesUrl peerBaseUrl cursor limit)
  headers := []
  body := .ok []

def pushUrl (peerBaseUrl : String) : String := trimEndMatches (· == '/') peerBaseUrl ++ "/api/v1/entries"

/-- The request of `http_push_batch`, as the server sees it. -/
def pushRequest (peerBaseUrl : String) (body : ByteVec) : HttpRequest where
  method := "POST"
  url := libs.target (pushUrl peerBaseUrl)
  headers := [("Content-Type", "application/json")]
  body := .ok body.bytes

end

section

variable {libs : TransportLibs} {store after : LocalStore} {faults : TxFaults} {req : HttpRequest}

/-! What `http_pull_batch` asks for is what the server reads. -/

theorem readPart_cursor (sofar : Int × UInt64) {v : String} {cursor : Int} (read : i64FromStr v = .ok cursor) :
    readPart sofar ("cursor=" ++ v).toList = .ok (cursor, sofar.2) := by
  have split : splitOnce '=' (.ofList ("cursor=" ++ v).toList) = some ("cursor", v) := by
    rw [String.ofList_toList]
    exact splitOnce_some.mpr ⟨by simp, by decide⟩
  simp only [readPart, split, if_true, read]

theorem readPart_limit (sofar : Int × UInt64) {v : String} {limit : UInt64} (read : parseU64 v = .ok limit) :
    readPart sofar ("limit=" ++ v).toList = .ok (sofar.1, limit) := by
  have split : splitOnce '=' (.ofList ("limit=" ++ v).toList) = some ("limit", v) := by
    rw [String.ofList_toList]
    exact splitOnce_some.mpr ⟨by simp, by decide⟩
  have other : ¬ "limit" = "cursor" := by decide
  simp only [readPart, split, other, if_false, if_true, read]

theorem query_parts (cursor : Int) (limit : UInt64) :
    ("cursor=" ++ toString cursor ++ "&limit=" ++ toString limit).toList.splitOn '&' =
      [("cursor=" ++ toString cursor).toList, ("limit=" ++ toString limit).toList] := by
  have first : '&' ∉ ("cursor=" ++ toString cursor).toList := by
    rw [String.toList_append, List.mem_append, not_or]
    exact ⟨by decide, not_mem_intRepr (by decide) (by decide) cursor⟩
  have second : '&' ∉ ("limit=" ++ toString limit).toList := by
    rw [String.toList_append, List.mem_append, not_or]
    exact ⟨by decide, not_mem_natRepr (by decide) limit.toNat⟩
  have text : ("cursor=" ++ toString cursor ++ "&limit=" ++ toString limit).toList =
      ("cursor=" ++ toString cursor).toList ++ '&' :: ("limit=" ++ toString limit).toList := by
    have amp : "&limit=".toList = '&' :: "limit=".toList := by decide
    rw [String.toList_append, String.toList_append, amp, List.append_assoc, List.cons_append,
      @String.toList_append "limit="]
  rw [text, List.splitOn_append_cons_self_of_not_mem first, List.splitOn_eq_singleton second]

theorem parseCursorLimit_of_pull {cursor : Int} (range : minI64 ≤ cursor ∧ cursor ≤ maxI64) (limit : UInt64) :
    parseCursorLimit (some ("cursor=" ++ toString cursor ++ "&limit=" ++ toString limit)) = .ok (cursor, limit) := by
  have cursorPart := readPart_cursor (0, 1000) (i64FromStr_repr range)
  have limitPart := readPart_limit (cursor, 1000) (parseU64_repr limit)
  unfold parseCursorLimit
  dsimp only
  rw [query_parts, List.foldlM_cons, cursorPart]
  dsimp only [bind, Except.bind]
  rw [List.foldlM_cons, limitPart]
  rfl

/-- The peer's URL names a server, and no path on it. -/
structure NamesServer (libs : TransportLibs) (peerBaseUrl : String) : Prop where
  pull : ∀ cursor limit, libs.target (entriesUrl peerBaseUrl cursor limit) =
    "/api/v1/entries?cursor=" ++ toString cursor ++ "&limit=" ++ toString limit
  push : libs.target (pushUrl peerBaseUrl) = "/api/v1/entries"

theorem split_pullTarget (cursor : Int) (limit : UInt64) :
    splitOnce '?' ("/api/v1/entries?cursor=" ++ toString cursor ++ "&limit=" ++ toString limit) =
      some ("/api/v1/entries", "cursor=" ++ toString cursor ++ "&limit=" ++ toString limit) := by
  apply splitOnce_some.mpr
  refine ⟨?_, by decide⟩
  have mark : "/api/v1/entries?cursor=".toList = "/api/v1/entries".toList ++ '?' :: "cursor=".toList := by decide
  simp only [String.toList_append, mark, List.append_assoc, List.cons_append]

theorem serveHttp_pull {peerBaseUrl : String} (named : NamesServer libs peerBaseUrl) {cursor : Int}
    (range : minI64 ≤ cursor ∧ cursor ≤ maxI64) (limit : UInt64) :
    serveHttp libs store faults (pullRequest libs peerBaseUrl cursor limit) =
      (serveEntries libs.entriesResponse store cursor limit, store) := by
  have split := split_pullTarget cursor limit
  have path : urlPath (pullRequest libs peerBaseUrl cursor limit).url = "/api/v1/entries" := by
    simp only [pullRequest, named.pull, urlPath, split]
  have query : urlQuery (pullRequest libs peerBaseUrl cursor limit).url =
      some ("cursor=" ++ toString cursor ++ "&limit=" ++ toString limit) := by
    simp only [pullRequest, named.pull, urlQuery, split, Option.map_some]
  have method : (pullRequest libs peerBaseUrl cursor limit).method = "GET" := rfl
  have ping : asks (pullRequest libs peerBaseUrl cursor limit) "GET" "/api/v1/ping" = false := by
    simp only [asks, path, method]
    decide
  have entries : asks (pullRequest libs peerBaseUrl cursor limit) "GET" "/api/v1/entries" = true := by
    simp only [asks, path, method]
    decide
  have routed : routeEntries libs store (pullRequest libs peerBaseUrl cursor limit) =
      getEntries libs.entriesResponse store cursor limit := by
    simp only [routeEntries, query, parseCursorLimit_of_pull range]
  simp only [serveHttp, routeHttpRequest, ping, entries, routed, if_true, Bool.false_eq_true, if_false, serveEntries]
  cases getEntries libs.entriesResponse store cursor limit <;> rfl

end

end Transport

end Rustory
