import SignOn.Proofs.Gateway.FederatedAtomicity
import SignOn.Proofs.Gateway.Footprint
import SignOn.Proofs.Gateway.History

/-!
# Runs of all calls of a gateway

Besides the calls that sessions make, a gateway answers questions on which logins rest:
for the user behind a login, for the groups of one, and for the claims of an assertion. A
`Request` is either of the two, and `Run.requests` runs them over one store.

A question over a well-formed store leaves it as it was or adds the record of a new user, and
no fault of it is internal (`Gateway.provisions_ask`).
-/

set_option autoImplicit false

namespace SignOn

open Call Contract

/-! ## What a question leaves -/

/-- Ways in which a question ends, with its fault, if it fails, and the store it leaves: the
store stays, or a record is added for a name that was free. -/
inductive Provisioned (moment : Moment) (store : Store) : Option Fault → Store → Prop
  | same {fault? : Option Fault} (h : ∀ fault, fault? = some fault → fault.isInternal = false) :
      Provisioned moment store fault? store
  | added {new : NewUser} (hfree : store.names.get? new.name = none) :
      Provisioned moment store none (store.insert moment new)

namespace Provisioned

variable {moment : Moment} {store after : Store} {fault? : Option Fault}

theorem wellFormed (h : Provisioned moment store fault? after) (hstore : store.WellFormed)
    (hfresh : store.users.get? moment.id = none) : after.WellFormed := by
  cases h with
  | same => exact hstore
  | added hfree => exact Store.wellFormed_insert hstore hfresh hfree

theorem grows (h : Provisioned moment store fault? after) : Store.Grows store after := by
  cases h with
  | same => exact Store.Grows.refl store
  | added hfree => exact Store.grows_insert hfree

theorem bindings_eq (h : Provisioned moment store fault? after) :
    after.bindings = store.bindings := by
  cases h with
  | same | added => rfl

theorem isInternal_eq_false {fault : Fault} (h : Provisioned moment store (some fault) after) :
    fault.isInternal = false := by
  cases h with
  | same hexternal => exact hexternal fault rfl

/-- An outcome that no store is to blame for may leave the store as it was. -/
theorem of_blameless {outcome : Except Fault User} (h : Blameless outcome) :
    Provisioned moment store (Fault.of? outcome) store :=
  .same fun fault hfault => h fault (Fault.of?_eq_some_iff.mp hfault)

end Provisioned

/-- A question over a well-formed store ends in one of these ways. -/
def Provisions (moment : Moment) : Contract Store := fun before fault? after =>
  before.store.WellFormed → Provisioned moment before.store fault? after.store

/-- The store stays, and no fault is internal. -/
def SparesStore : Contract Store := fun before fault? after =>
  after.store = before.store ∧ ∀ fault, fault? = some fault → fault.isInternal = false

theorem lenient_sparesStore : Lenient SparesStore where
  refl _ := ⟨rfl, nofun⟩
  failed := id
  trans hfirst hthen := ⟨hthen.1.trans hfirst.1, hthen.2⟩
  logging _ _ := ⟨rfl, nofun⟩
  posting _ _ := ⟨rfl, nofun⟩
  others hexternal _ _ := by
    refine ⟨rfl, fun fault hfault => ?_⟩
    rw [← Option.some.inj hfault]
    exact hexternal

/-- What spares the store provisions at most. -/
theorem provisions_of_sparesStore {α : Type} {call : Call Store α} (h : Keeps SparesStore call)
    (moment : Moment) : Keeps (Provisions moment) call := by
  refine h.of_imp ?_
  intro before fault? after hspares _
  rw [hspares.1]
  exact .same hspares.2

namespace Gateway

/-! ## Users -/

section Users

variable (gateway : Gateway) (moment : Moment)

/-- An unknown identity gets a record, or is refused without an e-mail. -/
theorem provisions_ofClaims (provisioner : Provisioner) (claims : Claims) :
    Keeps (Provisions moment) (provisioner.ofClaims moment claims) := by
  intro context h
  rw [← context.logging_nil]
  cases hfound : context.store.userNamed? (provisioner.nameOf claims.identityUrl) with
  | some user =>
      obtain ⟨events, hend⟩ := ofClaims_of_known moment [] hfound
      rw [hend]
      exact .of_blameless (blameless_ok _)
  | none =>
      cases hmail : claims.email with
      | none =>
          obtain ⟨events, hend⟩ := ofClaims_of_mailless moment [] hfound hmail
          rw [hend]
          exact .of_blameless ((blameless_error_iff _).mpr rfl)
      | some mail =>
          obtain ⟨events, hend⟩ := ofClaims_of_new moment [] h hfound hmail rfl
          rw [hend]
          exact .added ((Store.userNamed?_eq_none_iff h).mp hfound)

/-- A new user of a ticket gets a record, or is refused. -/
theorem provisions_ofUsername (provisioner : Provisioner) (username : String) :
    Keeps (Provisions moment) (provisioner.ofUsername moment username) := by
  intro context h
  obtain ⟨outcome, store, events, hsought, hend⟩ := ofUsername_apply provisioner moment username h
  rw [hend]
  cases hsought with
  | found => exact .of_blameless (blameless_ok _)
  | unknown | domainless => exact .of_blameless ((blameless_error_iff _).mpr rfl)
  | new hunknown _ _ huser =>
      subst huser
      exact .added ((Store.userNamed?_eq_none_iff h).mp hunknown)

theorem provisions_userBehind (claims : Option Claims) (username : Option String) :
    Keeps (Provisions moment) (gateway.userBehind moment claims username) := by
  rw [userBehind]
  split
  · exact provisions_ofClaims moment gateway.provisioner _
  · exact provisions_ofUsername moment gateway.provisioner _
  · exact fun context _ => .same fun fault hfault => Option.some.inj hfault ▸ rfl

end Users

/-! ## Questions -/

/-- What is asked of a gateway apart from sessions. -/
inductive Question where
  /-- The user behind a login, created when needed. -/
  | user (claims : Option Claims) (username : Option String)
  /-- The groups to keep on the user of a login. -/
  | groups (claims : Option Claims) (username : Option String)
  /-- The names of the groups of a login. -/
  | groupNames (claims : Option Claims) (username : Option String)
  /-- The claims of an assertion that the provider confirms. -/
  | claims (params : Assertion.Params)

/-- Answers a question; the answer goes to who asked. -/
def ask (gateway : Gateway) (moment : Moment) : Question → Call Store Unit
  | .user claims username => do
    let _ ← gateway.userBehind moment claims username
    return ()
  | .groups claims username => do
    let _ ← gateway.groups.groups claims username
    return ()
  | .groupNames claims username => do
    let _ ← gateway.groups.names claims username
    return ()
  | .claims params => do
    let _ ← gateway.verify params
    return ()

/-- A question at most adds the record of a new user. -/
theorem provisions_ask (gateway : Gateway) (moment : Moment) (question : Question) :
    Keeps (Provisions moment) (gateway.ask moment question) := by
  cases question with
  | user claims username =>
      exact keeps_map_iff.mpr (provisions_userBehind gateway moment claims username)
  | groups claims username =>
      exact provisions_of_sparesStore (keeps_map_iff.mpr
        (gateway.groups.keeps_groups lenient_sparesStore claims username
          fun _ _ _ _ => ⟨rfl, nofun⟩)) moment
  | groupNames claims username =>
      exact provisions_of_sparesStore (keeps_map_iff.mpr
        (gateway.groups.keeps_names lenient_sparesStore claims username
          fun _ _ _ _ => ⟨rfl, nofun⟩)) moment
  | claims params =>
      refine provisions_of_sparesStore (keeps_map_iff.mpr
        (gateway.keeps_verify lenient_sparesStore ?_ params)) moment
      exact fun context => ⟨rfl, fun fault hfault => Option.some.inj hfault ▸ rfl⟩

/-! ## Requests -/

/-- One call of a gateway: by a session, or a question with the moment and the answers of
the directory and of the provider that it meets. -/
inductive Request (κ : Type) where
  | visit (visit : Visit κ)
  | question (question : Question) (moment : Moment) (directory : Directory.Script)
      (reply : Option Provider.Reply)

/-- The moment of a request. -/
def Request.moment {κ : Type} : Request κ → Moment
  | .visit made => made.moment
  | .question _ moment _ _ => moment

namespace Run

variable {κ : Type}

/-- What a question works on. -/
def aside (run : Run κ) (directory : Directory.Script) (reply : Option Provider.Reply) :
    Context Store :=
  { store := run.store, session := Table.empty, directory := directory, reply := reply
    trace := .empty }

variable [DecidableEq κ]

/-- The run after one more request. -/
def request (gateway : Gateway) (run : Run κ) : Request κ → Run κ
  | .visit visit => run.visit gateway visit
  | .question question moment directory reply =>
    { run with store := (gateway.ask moment question (run.aside directory reply)).2.store }

/-- The run after more requests. -/
def requests (gateway : Gateway) (run : Run κ) (requests : List (Request κ)) : Run κ :=
  requests.foldl (Run.request gateway) run

/-- The identifier of every request is unused when the request is made. -/
def FreshRequests (gateway : Gateway) (run : Run κ) : List (Request κ) → Prop
  | [] => True
  | request :: later =>
    run.store.users.get? request.moment.id = none ∧
      FreshRequests gateway (run.request gateway request) later

instance decidableFreshRequests (gateway : Gateway) :
    (requests : List (Request κ)) → (run : Run κ) →
      Decidable (FreshRequests gateway run requests)
  | [], _ => .isTrue trivial
  | request :: later, run =>
    have := decidableFreshRequests gateway later (run.request gateway request)
    inferInstanceAs (Decidable (run.store.users.get? request.moment.id = none ∧
      FreshRequests gateway (run.request gateway request) later))

variable {gateway : Gateway}

/-- A run of requests goes on from where their first part leaves it. -/
theorem requests_append (run : Run κ) (earlier later : List (Request κ)) :
    run.requests gateway (earlier ++ later) =
      (run.requests gateway earlier).requests gateway later :=
  List.foldl_append

/-- Both parts of fresh requests are fresh. -/
theorem freshRequests_append {earlier later : List (Request κ)} {run : Run κ} :
    FreshRequests gateway run (earlier ++ later) ↔
      FreshRequests gateway run earlier ∧
        FreshRequests gateway (run.requests gateway earlier) later := by
  induction earlier generalizing run with
  | nil => exact ⟨fun h => ⟨trivial, h⟩, And.right⟩
  | cons request earlier ih => exact (and_congr_right fun _ => ih).trans and_assoc.symm

end Run

end Gateway

end SignOn
