import SignOn.Directory.Basic
import SignOn.Event
import SignOn.Fault
import SignOn.Settings

/-!
# Repeated searches

A search is sent again, after a pause, while the directory is unavailable and
the policy allows one more attempt. Any other answer ends the search at once.
-/

set_option autoImplicit false

namespace SignOn

/-- Whether another attempt may follow attempt number `attempt`. -/
def RetryPolicy.allowsRetryAfter (policy : RetryPolicy) (attempt : UInt32) : Bool :=
  policy.maxAttempts.all (attempt < ·)

/-- The default pause between attempts, in milliseconds. -/
def RetryPolicy.defaultDelayMs : UInt64 := 500

namespace Directory

/-- The number after `attempt`; the greatest number stays. -/
def nextAttempt (attempt : UInt32) : UInt32 :=
  if attempt = 4294967295 then attempt else attempt + 1

/-- What came of a search: the answer, the steps made for it, what was logged,
and the answers of the directory that are left. -/
structure Outcome where
  answer : Except Fault (List Entry)
  steps : List Step
  events : List Event
  left : List Answer

/-- The search ends with the entries `entries`. -/
def Outcome.found (search : Search) (attempt : UInt32) (entries : List Entry)
    (left : List Answer) : Outcome :=
  { answer := .ok entries, steps := [.search search]
    events := [.searchAnswered attempt.toNat entries.length], left := left }

/-- The search ends with a refusal. -/
def Outcome.refused (search : Search) (reason : String) (left : List Answer) : Outcome :=
  { answer := .error (.directoryRefused reason), steps := [.search search]
    events := [.searchFailed reason], left := left }

/-- The search ends because no attempt is left. -/
def Outcome.givenUp (search : Search) (attempt : UInt32) (reason : String)
    (left : List Answer) : Outcome :=
  { answer := .error (.directoryUnavailable reason), steps := [.search search]
    events := [.searchGivenUp attempt.toNat reason], left := left }

/-- An attempt failed and `rest` came after it. -/
def Outcome.retried (search : Search) (policy : RetryPolicy) (attempt : UInt32) (reason : String)
    (rest : Outcome) : Outcome :=
  { rest with
    steps := .search search :: .pause policy.delayMs :: rest.steps
    events := .searchRetried attempt.toNat reason policy.delayMs.toNat :: rest.events }

/-- Sends `search` as attempt number `attempt` and repeats it as the policy says. -/
def attemptFrom (policy : RetryPolicy) (search : Search)
    (settled : Search → Except String (List Entry)) (attempt : UInt32) : List Answer → Outcome
  | [] =>
    match settled search with
    | .ok entries => .found search attempt entries []
    | .error reason => .refused search reason []
  | .entries entries :: left => .found search attempt entries left
  | .refused reason :: left => .refused search reason left
  | .unavailable reason :: left =>
    if policy.allowsRetryAfter attempt then
      .retried search policy attempt reason
        (attemptFrom policy search settled (nextAttempt attempt) left)
    else .givenUp search attempt reason left

/-- Sends `search` to the directory until it is answered or given up. -/
def send (policy : RetryPolicy) (search : Search) (script : Script) : Outcome :=
  attemptFrom policy search script.settled 1 script.opening

end Directory

end SignOn
