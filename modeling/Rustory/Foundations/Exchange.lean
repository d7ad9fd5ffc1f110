import Mathlib.Data.List.Nodup
import Mathlib.Tactic.TypeStar

namespace Foundations

variable {κ Req Resp : Type*}

/-- The requests sent so far, each under its key, and the replies made to them. -/
structure Wire (κ Req Resp : Type*) where
  requests : List (κ × Req)
  replies : List (κ × Resp)

namespace Wire

def empty : Wire κ Req Resp := ⟨[], []⟩

def send (wire : Wire κ Req Resp) (key : κ) (request : Req) : Wire κ Req Resp :=
  { wire with requests := (key, request) :: wire.requests }

def reply (wire : Wire κ Req Resp) (key : κ) (response : Resp) : Wire κ Req Resp :=
  { wire with replies := (key, response) :: wire.replies }

/-- Nothing was sent under this key before. -/
def Fresh (wire : Wire κ Req Resp) (key : κ) : Prop := ∀ sent ∈ wire.requests, sent.1 ≠ key

/-- Keys are used once, and a reply answers the request whose key it has. -/
structure Matched (answers : Req → Resp → Prop) (wire : Wire κ Req Resp) : Prop where
  keys : (wire.requests.map Prod.fst).Nodup
  asked : ∀ key response, (key, response) ∈ wire.replies →
    ∃ request, (key, request) ∈ wire.requests ∧ answers request response

variable {answers : Req → Resp → Prop} {wire : Wire κ Req Resp} {key : κ} {request : Req} {response : Resp}

theorem matched_empty : Matched answers (empty : Wire κ Req Resp) where
  keys := List.nodup_nil
  asked := by
    intro key response none
    cases none

theorem Matched.request_eq (matched : Matched answers wire) {other : Req} (sent : (key, request) ∈ wire.requests)
    (again : (key, other) ∈ wire.requests) : request = other := by
  have same := List.inj_on_of_nodup_map matched.keys sent again rfl
  exact congrArg Prod.snd same

/-- What comes back under the key of a request answers that request and no other. -/
theorem Matched.answered (matched : Matched answers wire) (sent : (key, request) ∈ wire.requests)
    (back : (key, response) ∈ wire.replies) : answers request response := by
  obtain ⟨other, asked, answer⟩ := matched.asked key response back
  rw [matched.request_eq sent asked]
  exact answer

theorem Matched.mono {answers' : Req → Resp → Prop} (matched : Matched answers wire)
    (weaker : ∀ request response, answers request response → answers' request response) : Matched answers' wire where
  keys := matched.keys
  asked := by
    intro key response back
    obtain ⟨request, sent, answer⟩ := matched.asked key response back
    exact ⟨request, sent, weaker request response answer⟩

theorem Matched.send (matched : Matched answers wire) (fresh : wire.Fresh key) (request : Req) :
    Matched answers (wire.send key request) where
  keys := by
    apply List.nodup_cons.mpr
    apply And.intro _ matched.keys
    intro used
    obtain ⟨sent, listed, same⟩ := List.mem_map.mp used
    exact fresh sent listed same
  asked := by
    intro key response back
    obtain ⟨request, sent, answer⟩ := matched.asked key response back
    exact ⟨request, List.mem_cons_of_mem _ sent, answer⟩

theorem Matched.reply (matched : Matched answers wire) (sent : (key, request) ∈ wire.requests)
    (answer : answers request response) : Matched answers (wire.reply key response) where
  keys := matched.keys
  asked := by
    intro key response back
    rcases List.mem_cons.mp back with same | back
    · cases same
      exact ⟨request, sent, answer⟩
    · exact matched.asked key response back

end Wire

end Foundations
