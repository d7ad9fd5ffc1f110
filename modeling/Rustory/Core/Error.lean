import Mathlib.Data.List.Infix
import Mathlib.Tactic.TypeStar

namespace Rustory

/-- `libp2p_request_response::OutboundFailure`; an I/O error is known by its text. -/
inductive OutboundFailure
  | dialFailure
  | timeout
  | connectionClosed
  | unsupportedProtocols
  | io (text : String)
  deriving DecidableEq, Repr

/-- One error of an `anyhow` chain. Errors that no code downcasts are known by their text. -/
inductive Cause
  | ureqStatus (code : Nat) (url : String)
  | ureqTransport (text : String)
  | outbound (failure : OutboundFailure)
  | message (text : String)
  deriving DecidableEq, Repr

def Cause.display : Cause → String
  | .ureqStatus code url => s!"{url}: status code {code}"
  | .ureqTransport text => text
  | .outbound .dialFailure => "Failed to dial the requested peer"
  | .outbound .timeout => "Timeout while waiting for a response"
  | .outbound .connectionClosed => "Connection was closed before a response was received"
  | .outbound .unsupportedProtocols => "The remote supports none of the requested protocols"
  | .outbound (.io text) => "IO error on outbound stream: " ++ text
  | .message text => text

/-- `anyhow::Error` as its chain, the outermost context first. -/
abbrev Error := List Cause

def Error.context (err : Error) (text : String) : Error := .message text :: err

def bail (text : String) : Error := [.message text]

/-- `str::contains` -/
def contains (text pattern : String) : Bool := decide (pattern.toList <:+: text.toList)

/-- `str::starts_with` -/
def startsWith (text pattern : String) : Bool := pattern.toList.isPrefixOf text.toList

/-! Results that are `Ok`. -/

theorem bind_ok {ε α β : Type} {first : Except ε α} {next : α → Except ε β} {b : β} :
    (first >>= next) = .ok b ↔ ∃ a, first = .ok a ∧ next a = .ok b := by
  cases first <;> simp [bind, Except.bind]

theorem exists_of_isOk {ε α : Type} {result : Except ε α} (fine : result.isOk = true) :
    ∃ value, result = .ok value := by
  cases result with
  | error err => cases fine
  | ok value => exact ⟨value, rfl⟩

theorem mapError_ok {ε ε' α : Type*} {result : Except ε α} {f : ε → ε'} {a : α} :
    result.mapError f = .ok a ↔ result = .ok a := by
  cases result <;> simp [Except.mapError]

end Rustory
