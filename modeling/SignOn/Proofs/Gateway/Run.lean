import SignOn.Gateway

/-!
# Runs of a gateway

Sessions visit one gateway over one store. A `Visit` is one call by one session,
with the moment and the answers of the directory that the call meets; a `Run`
keeps the store, the sessions and what was answered to whom.

`lastLogin?` reads from the answers alone who a session has logged in as. It misses no logout,
because a logout is always answered as one.
-/

set_option autoImplicit false

namespace SignOn.Gateway

/-! ## Calls and answers -/

/-- What a session asks of a gateway. -/
inductive Action where
  /-- Where to log in, on the way to `next`. -/
  | login (kind : MechanismKind) (next : String)
  | logout
  | currentUser
  /-- Finish a federated login with confirmed claims. -/
  | completeFederated (claims : Claims)
  /-- Finish a Kerberos login of the user whom the server in front names. -/
  | completeKerberos (remoteUser : Option String)
deriving Repr, DecidableEq

/-- What a gateway answers when it does not fail. -/
inductive Answer where
  | sentTo (url : String)
  | loggedOut
  | current (user : Option User)
  | loggedIn (user : User)
deriving Repr, DecidableEq

/-- Does what is asked. -/
def perform (gateway : Gateway) (moment : Moment) : Action → Call Store Answer
  | .login kind next => do
    let url ← gateway.login kind next
    return .sentTo url
  | .logout => do
    gateway.logout
    return .loggedOut
  | .currentUser => do
    let user ← gateway.currentUser
    return .current user
  | .completeFederated claims => do
    let user ← gateway.completeFederated moment claims
    return .loggedIn user
  | .completeKerberos remoteUser => do
    let user ← gateway.completeKerberos moment remoteUser
    return .loggedIn user

/-! ## Visits -/

/-- One call by one session. -/
structure Visit (κ : Type) where
  session : κ
  action : Action
  /-- The time of the call and the identifier that a new record would get. -/
  moment : Moment
  /-- What the directory is about to answer. -/
  directory : Directory.Script

/-- A store with its sessions, and the answers given so far, the latest first. -/
structure Run (κ : Type) where
  store : Store
  sessions : κ → Session
  answers : List (κ × Except Fault Answer)

namespace Run

variable {κ : Type}

/-- The run before the first visit. -/
def start (store : Store) (sessions : κ → Session) : Run κ := ⟨store, sessions, []⟩

/-- What a call by a session works on. -/
def context (run : Run κ) (session : κ) (directory : Directory.Script) : Context Store :=
  { store := run.store, session := run.sessions session, directory := directory, reply := none
    trace := .empty }

variable [DecidableEq κ]

/-- The run after one more visit. -/
def visit (gateway : Gateway) (run : Run κ) (visit : Visit κ) : Run κ :=
  let (answer, after) :=
    gateway.perform visit.moment visit.action (run.context visit.session visit.directory)
  { store := after.store
    sessions := fun session =>
      if session = visit.session then after.session else run.sessions session
    answers := (visit.session, answer) :: run.answers }

/-- The run after more visits. -/
def visits (gateway : Gateway) (run : Run κ) (visits : List (Visit κ)) : Run κ :=
  visits.foldl (Run.visit gateway) run

/-- The identifier of every visit is unused when the visit is made. -/
def FreshIds (gateway : Gateway) (run : Run κ) : List (Visit κ) → Prop
  | [] => True
  | visit :: later =>
    run.store.users.get? visit.moment.id = none ∧ FreshIds gateway (run.visit gateway visit) later

instance decidableFreshIds (gateway : Gateway) :
    (visits : List (Visit κ)) → (run : Run κ) → Decidable (FreshIds gateway run visits)
  | [], _ => .isTrue trivial
  | visit :: later, run =>
    have := decidableFreshIds gateway later (run.visit gateway visit)
    inferInstanceAs (Decidable (run.store.users.get? visit.moment.id = none ∧
      FreshIds gateway (run.visit gateway visit) later))

end Run

/-! ## Who logged in last -/

/-- Who is logged in after an answer, when `before` was. -/
def loginAfter (before : Option User) : Except Fault Answer → Option User
  | .ok (.loggedIn user) => some user
  | .ok .loggedOut => none
  | .ok (.sentTo _) | .ok (.current _) | .error _ => before

/-- The user of the latest login of a session since its latest logout. -/
def lastLogin? {κ : Type} [DecidableEq κ] (session : κ) :
    List (κ × Except Fault Answer) → Option User
  | [] => none
  | (other, answer) :: earlier =>
    if other = session then loginAfter (lastLogin? session earlier) answer
    else lastLogin? session earlier

end SignOn.Gateway
