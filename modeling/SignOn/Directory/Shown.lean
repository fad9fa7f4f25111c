import SignOn.Directory.Client
import SignOn.Text.Quoted

/-!
# The directory client as shown to a developer
-/

set_option autoImplicit false

namespace SignOn

namespace Duration

/-- A span of milliseconds in seconds, with the thousandths it needs. -/
def secondsText (ms : Nat) : String :=
  let thousandths := Nat.toDigits 10 (1000 + ms % 1000) |>.drop 1
  let places := (thousandths.reverse.dropWhile (· = '0')).reverse
  toString (ms / 1000) ++ (if places = [] then "" else "." ++ String.ofList places) ++ "s"

/-- A span of milliseconds: in seconds from one second up, in milliseconds
below, and no span at all as nanoseconds. -/
def text (ms : Nat) : String :=
  if 1000 ≤ ms then secondsText ms else if ms = 0 then "0ns" else toString ms ++ "ms"

end Duration

/-- A policy as shown to a developer. -/
def RetryPolicy.debugText (policy : RetryPolicy) : String :=
  "RetryPolicy \x7b max_attempts: " ++
    Text.Quoted.optional (fun attempts => toString attempts.toNat) policy.maxAttempts ++
    ", delay: " ++ Duration.text policy.delayMs.toNat ++ " \x7d"

/-- A client as shown to a developer. -/
def Directory.Client.debugText (client : Directory.Client) : String :=
  "DirectoryClient \x7b search_base: " ++ Text.Quoted.encode client.base ++ ", retry: " ++
    client.policy.debugText ++ ", .. \x7d"

end SignOn
