import SignOn.Gateway
import SignOn.Proofs.Contract

/-!
# Contracts that logins keep

What a call of a gateway may do is said here once, for every contract and any store, also one
whose operations fail. Finding out who is logged in and finding the user behind a login keep
each contract that is `StoreLenient`; taking an assertion to the provider and asking for groups
keep each that is `Lenient` and agrees to the steps towards the directory.

A login keeps such a contract until it is settled, and settling is the last thing it does. So
with a contract that settling keeps (`Concludes`) the whole login keeps it
(`keeps_completeFederated`, `keeps_completeKerberos`).
-/

set_option autoImplicit false

namespace SignOn

open Call Contract

variable {σ : Type} {contract first whole : Contract σ}

/-! ## Groups -/

/-- Asking for groups keeps a contract that agrees to the steps made for them. -/
theorem GroupAuthority.keeps_groups (h : Lenient contract) (authority : GroupAuthority)
    (claims : Option Claims) (username : Option String)
    (hasked : ∀ name, username = some name → ∀ context left, contract context none
      (context.asking (authority.asked name context.directory) left)) :
    Keeps contract (authority.groups claims username : Call σ GroupSet) := by
  cases claims with
  | some claims => exact h.refl
  | none =>
      cases username with
      | none => exact h.others rfl nofun
      | some name =>
          intro context
          obtain ⟨events, left, hend⟩ := authority.groups_asking name context
          rw [hend]
          -- the steps come first, then the log, then the fault if there is one
          refine h.trans (hasked name rfl context left) (h.trans (h.logging events _) ?_)
          cases htold : authority.told name context.directory with
          | ok groups => exact h.refl _
          | error fault =>
              have hallowed : contract.Allows fault := by
                rcases told_fault htold with rfl | ⟨reason, rfl | rfl⟩ <;>
                  exact h.others rfl nofun
              exact hallowed _

/-- So does asking for their names. -/
theorem GroupAuthority.keeps_names (h : Lenient contract) (authority : GroupAuthority)
    (claims : Option Claims) (username : Option String)
    (hasked : ∀ name, username = some name → ∀ context left, contract context none
      (context.asking (authority.asked name context.directory) left)) :
    Keeps contract (authority.names claims username : Call σ (Option (List String))) :=
  keeps_map_iff.mp (authority.keeps_groups h claims username hasked)

/-! ## Users -/

namespace Provisioner

variable [UserStore σ] (h : StoreLenient contract) (provisioner : Provisioner) (moment : Moment)

include h

omit provisioner in
theorem keeps_create (new : NewUser) : Keeps contract (create moment new : Call σ User) :=
  keeps_bind h.toPrecedes (keeps_onStore h _) fun user =>
    keeps_bind h.toPrecedes (keeps_log h.toLenient _) fun _ => keeps_pure h.toPrecedes user

omit provisioner in
theorem keeps_createFederated (username : String) (claims : Claims) :
    Keeps contract (createFederated moment username claims : Call σ User) := by
  refine keeps_bind h.toPrecedes (keeps_log h.toLenient _) fun _ => ?_
  cases claims.email with
  | none => exact keeps_fail (h.allows nofun)
  | some mail => exact keeps_create h moment _

theorem keeps_ofClaims (claims : Claims) :
    Keeps contract (provisioner.ofClaims moment claims : Call σ User) := by
  refine keeps_bind h.toPrecedes (keeps_log h.toLenient _) fun _ =>
    keeps_bind h.toPrecedes (keeps_onStore h _) fun found => ?_
  cases found with
  | some user => exact keeps_map_iff.mpr (keeps_pure h.toPrecedes user)
  | none => exact keeps_map_iff.mpr (keeps_createFederated h moment _ claims)

theorem keeps_createKerberos (username : String) :
    Keeps contract (provisioner.createKerberos moment username : Call σ User) := by
  rw [createKerberos]
  split
  · exact keeps_fail (h.allows nofun)
  · cases provisioner.emailDomain with
    | none => exact keeps_fail (h.allows nofun)
    | some domain =>
        exact keeps_bind h.toPrecedes (keeps_log h.toLenient _) fun _ => keeps_create h moment _

theorem keeps_ofUsername (username : String) :
    Keeps contract (provisioner.ofUsername moment username : Call σ User) := by
  refine keeps_bind h.toPrecedes (keeps_onStore h _) fun found => ?_
  cases found with
  | some user => exact keeps_pure h.toPrecedes user
  | none => exact keeps_createKerberos h provisioner moment username

end Provisioner

namespace Gateway

variable (gateway : Gateway) (moment : Moment)

/-- Taking an assertion to the provider fails for others' reasons, or for want of a mechanism. -/
theorem keeps_verify (h : Lenient contract) (hmissing : contract.Allows .noMechanism)
    (params : Assertion.Params) : Keeps contract (gateway.verify params : Call σ Claims) := by
  rw [verify]
  split
  · next provider origin _ =>
      refine keeps_bind h.toPrecedes (keeps_log h _) fun _ => keeps_bind h.toPrecedes ?_
        fun claims => keeps_bind h.toPrecedes (keeps_post h _) fun reply =>
          keeps_bind h.toPrecedes (keeps_log h _) fun _ => ?_
      · exact keeps_ofExcept h.toPrecedes fun fault hfault =>
          h.allows_external hmissing (provider.blameless_accept _ params fault hfault)
      · exact keeps_ofExcept h.toPrecedes fun fault hfault =>
          h.allows_external hmissing (Provider.blameless_judge claims reply fault hfault)
  · exact keeps_fail hmissing

section Users

variable [UserStore σ] (h : StoreLenient contract)

include h

theorem keeps_currentUser : Keeps contract (gateway.currentUser : Call σ (Option User)) := by
  have hname : Keeps contract (gateway.currentName : Call σ (Option String)) :=
    keeps_bind h.toPrecedes h.refl fun _ =>
      keeps_bind h.toPrecedes (keeps_log h.toLenient _) fun _ => keeps_pure h.toPrecedes _
  refine keeps_bind h.toPrecedes hname fun name => ?_
  cases name with
  | none => exact keeps_pure h.toPrecedes none
  | some name =>
      refine keeps_bind h.toPrecedes (keeps_onStore h _) fun found => ?_
      cases found with
      | some user => exact keeps_pure h.toPrecedes _
      | none =>
          exact keeps_bind h.toPrecedes (keeps_log h.toLenient _) fun _ =>
            keeps_pure h.toPrecedes none

/-- The user behind a login is missed for want of a mechanism only where none that is on takes
what is told. -/
theorem keeps_userBehind (claims : Option Claims) (username : Option String)
    (hmissing : (claims.filter fun _ => gateway.isEnabled .federated) = none →
      (username.filter fun _ => gateway.isEnabled .directory) = none →
      contract.Allows .noMechanism) :
    Keeps contract (gateway.userBehind moment claims username : Call σ User) := by
  rw [userBehind]
  split
  · exact Provisioner.keeps_ofClaims h gateway.provisioner moment _
  · exact Provisioner.keeps_ofUsername h gateway.provisioner moment _
  · next hclaims hname => exact keeps_fail (hmissing hclaims hname)

theorem keeps_boundUser (principal username : String)
    (hmissing : gateway.isEnabled .directory = false → contract.Allows .noMechanism) :
    Keeps contract (gateway.boundUser moment principal username : Call σ User) := by
  refine keeps_bind h.toPrecedes (keeps_onStore h _) fun found => ?_
  cases found with
  | some binding =>
      refine keeps_bind h.toPrecedes (keeps_onStore h _) fun found => ?_
      cases found with
      | some user => exact keeps_pure h.toPrecedes user
      | none => exact keeps_fail (h.allows nofun)
  | none =>
      refine keeps_bind h.toPrecedes (keeps_userBehind gateway moment h _ _ ?_) fun user =>
        keeps_bind h.toPrecedes (keeps_log h.toLenient _) fun _ =>
          keeps_bind h.toPrecedes (keeps_onStore h _) fun _ => keeps_pure h.toPrecedes user
      intro _ hnone
      exact hmissing (by simpa [Option.filter] using hnone)

end Users

/-! ## Logins -/

variable [UserStore σ]

/-- Contracts of a login: what keeps `first` until it is settled keeps `whole` in the end, also
when its fault is told in the words of a Kerberos login. -/
structure Concludes (first whole : Contract σ) : Prop extends Precedes first whole where
  lenient : StoreLenient first
  settled : ∀ moment kind user groups marker,
    Keeps whole (settle moment kind user groups marker : Call σ User)
  reworded : ∀ {before fault after}, whole before (some fault) after →
    whole before (some (kerberosFault fault)) after

/-- A contract that markers keep is kept to the end. -/
theorem concludes_of_storeLenient (h : StoreLenient contract)
    (hmarked : ∀ session context, contract context none (context.withSession session))
    (hreworded : ∀ {before fault after}, contract before (some fault) after →
      contract before (some (kerberosFault fault)) after) : Concludes contract contract where
  toPrecedes := h.toPrecedes
  lenient := h
  settled := fun _ _ _ _ _ =>
    keeps_bind h.toPrecedes (keeps_onStore h _) fun saved =>
      keeps_bind h.toPrecedes (fun context => hmarked _ context) fun _ =>
        keeps_bind h.toPrecedes (keeps_log h.toLenient _) fun _ => keeps_pure h.toPrecedes saved
  reworded := hreworded

variable (h : Concludes first whole)

include h

theorem keeps_completeFederated (claims : Claims)
    (hmissing : gateway.isEnabled .federated = false → first.Allows .noMechanism) :
    Keeps whole (gateway.completeFederated moment claims : Call σ User) := by
  have hfirst := h.lenient.toLenient
  refine keeps_bind h.toPrecedes (keeps_log hfirst _) fun _ => ?_
  split
  · refine keeps_bind h.toPrecedes (keeps_userBehind gateway moment h.lenient _ _ ?_) fun user =>
      keeps_bind h.toPrecedes (gateway.groups.keeps_groups hfirst _ _ nofun) fun groups =>
        h.settled moment _ user groups _
    intro hnone _
    exact hmissing (by simpa [Option.filter] using hnone)
  · exact keeps_bind h.toPrecedes (keeps_log hfirst _) fun _ =>
      keeps_fail (h.toPrecedes.allows (h.lenient.allows nofun))

/-- A Kerberos login asks for the groups of the name that its principal presents. -/
theorem keeps_completeKerberos (remoteUser : Option String)
    (hmissing : gateway.isEnabled .directory = false → first.Allows .noMechanism)
    (hasked : ∀ principal name, remoteUser.filter (· ≠ "") = some principal →
      Username.ofPrincipal? principal = some name → ∀ context left, first context none
        (context.asking (gateway.groups.asked name context.directory) left)) :
    Keeps whole (gateway.completeKerberos moment remoteUser : Call σ User) := by
  have hfirst := h.lenient.toLenient
  refine keeps_mapFault ?_ h.reworded
  rw [tryKerberos]
  cases hon : gateway.isEnabled .directory with
  | false => exact keeps_fail (h.toPrecedes.allows (hmissing hon))
  | true =>
      refine keeps_bind h.toPrecedes (keeps_currentUser gateway h.lenient) fun found => ?_
      cases found with
      -- the session is logged in
      | some user =>
          exact keeps_bind h.toPrecedes (keeps_log hfirst _) fun _ => keeps_pure h.toPrecedes user
      | none =>
          cases hprincipal : remoteUser.filter (· ≠ "") with
          | none => exact keeps_fail (h.toPrecedes.allows (h.lenient.allows nofun))
          | some principal =>
              simp only [loginPrincipal]
              cases hname : Username.ofPrincipal? principal with
              | none => exact keeps_fail (h.toPrecedes.allows (h.lenient.allows nofun))
              | some name =>
                  refine keeps_bind h.toPrecedes
                    (keeps_boundUser gateway moment h.lenient _ _ hmissing) fun user =>
                      keeps_bind h.toPrecedes (gateway.groups.keeps_groups hfirst _ _ ?_)
                        fun groups => h.settled moment _ user groups _
                  intro asked hasks
                  obtain rfl := Option.some.inj hasks
                  exact hasked principal name hprincipal hname

end Gateway

end SignOn
