import Handoff.Fault

/-!
# The design service

Tokens that can be sent to the service, and what its answers mean when they are refusals.
-/

namespace Handoff.Service

/-- a token is sent as one line, so that tabs are the only controls in it -/
def isUsableToken (token : String) : Bool :=
  token ≠ "" && Text.all (fun c => c == '\t' || (0x20 ≤ c.toNat && c.toNat ≠ 0x7F)) token

def checkToken (token : String) : Except Fault Unit :=
  if isUsableToken token then .ok () else .error (.config .tokenRejected)

/-- a status has three digits -/
def status? (n : Nat) : Option Nat := if 100 ≤ n && n < 1000 then some n else none

def internalError : Nat := 500

def tooManyRequests : Nat := 429

/-- a refusal; what is no status counts as an internal error -/
def refused (status : Nat) (message : String) : Fault :=
  .service (some ((status? status).getD internalError)) (.other message)

def nodeNotFound (id : String) : Fault := .service none (.nodeNotFound id)

def rateLimited (seconds : Nat) : Fault := .service (some tooManyRequests) (.rateLimited seconds)

end Handoff.Service
