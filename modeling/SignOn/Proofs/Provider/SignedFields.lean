import SignOn.Proofs.Provider.Acceptance

/-!
# Signed fields of an assertion

The provider vouches only for the fields that `openid.signed` lists. Of an assertion
with such a list no claim of an extension is believed that the list does not name
(`isSigned_of_extensionValue?`), but the identity is read without a look at it, and
without a list everything is believed. So all that is accepted is signed exactly when
the field of the identity is (`signed_of_verify`).
-/

set_option autoImplicit false

namespace SignOn.Assertion

open SignOn.Text

/-- The assertion lists the field as signed. -/
def IsSigned (params : Params) (field : String) : Prop :=
  ∃ list, params.get? "openid.signed" = some list ∧ field ∈ (pieces ',' list).map trim

instance (params : Params) (field : String) : Decidable (IsSigned params field) :=
  match h : params.get? "openid.signed" with
  | none => .isFalse fun ⟨_, hget, _⟩ => nomatch h.symm.trans hget
  | some list =>
    decidable_of_iff (field ∈ (pieces ',' list).map trim)
      ⟨fun hmem => ⟨list, h, hmem⟩,
        fun ⟨_, hget, hmem⟩ => Option.some.inj (h.symm.trans hget) ▸ hmem⟩

/-- The field an identity is read from. -/
def identityField (params : Params) : String :=
  if (params.get? "openid.claimed_id").isSome then "claimed_id" else "identity"

/-- The fields behind the values of extensions are signed. -/
structure ExtensionsSigned (params : Params) (claims : Claims) : Prop where
  email : claims.email ≠ none → IsSigned params (fieldName (registration params) "email")
  timezone : claims.timezone ≠ none → IsSigned params (fieldName (registration params) "timezone")
  teams : claims.teams ≠ none → IsSigned params (fieldName (teams params) "is_member")

/-- The fields behind everything that the claims say are signed. -/
structure AllSigned (params : Params) (claims : Claims) : Prop where
  identity : IsSigned params (identityField params)
  extensions : ExtensionsSigned params claims

section Reading

variable {params : Params} {claims : Claims}

/-- The claims that are read from an assertion. -/
theorem parse_eq_ok_iff : parse params = .ok claims ↔
    checkMode params = .ok () ∧ ∃ identity, identity? params = some identity ∧
      claims = claimsOf params identity := by
  rw [parse]
  cases hmode : checkMode params with
  | error fault => simp [bind, Except.bind]
  | ok _ =>
      cases hidentity : identity? params with
      | none => simp [bind, Except.bind]
      | some identity => simp [bind, Except.bind, eq_comm]

/-- An identity is read from its field, and is not empty. -/
theorem get?_identityField {identity : String} (h : identity? params = some identity) :
    params.get? ("openid." ++ identityField params) = some identity ∧ identity ≠ "" := by
  obtain ⟨hread, hne⟩ := Option.filter_eq_some_iff.mp h
  refine ⟨?_, by simpa using hne⟩
  -- the second field counts only where the first is missing
  cases hclaimed : params.get? "openid.claimed_id" with
  | none =>
      rw [hclaimed] at hread
      rw [identityField, hclaimed]
      exact hread
  | some claimed =>
      rw [hclaimed] at hread
      rw [identityField, hclaimed]
      exact hclaimed.trans hread

/-- With a list of signed fields only these are believed. -/
theorem isSigned_of_isBelieved {list field : String}
    (hlist : params.get? "openid.signed" = some list) (h : isBelieved params field = true) :
    IsSigned params field := by
  refine ⟨list, hlist, ?_⟩
  simpa [isBelieved, signedFields?, hlist] using h

/-- With a list of signed fields only these give an extension its values. -/
theorem isSigned_of_extensionValue? {list name field : String}
    (hlist : params.get? "openid.signed" = some list)
    (h : extensionValue? params name field ≠ none) : IsSigned params (fieldName name field) := by
  cases hbelieved : isBelieved params (fieldName name field) with
  | true => exact isSigned_of_isBelieved hlist hbelieved
  | false =>
      rw [extensionValue?, hbelieved] at h
      exact absurd rfl h

/-- With a list of signed fields the values of extensions are signed. -/
theorem extensionsSigned_of_list {list : String} (h : parse params = .ok claims)
    (hlist : params.get? "openid.signed" = some list) : ExtensionsSigned params claims := by
  obtain ⟨-, identity, -, rfl⟩ := parse_eq_ok_iff.mp h
  refine ⟨isSigned_of_extensionValue? hlist, isSigned_of_extensionValue? hlist, ?_⟩
  intro hteams
  apply isSigned_of_extensionValue? hlist
  intro hnone
  rw [claimsOf, hnone] at hteams
  exact hteams rfl

/-- What is read is signed exactly when the field of the identity is. -/
theorem allSigned_iff (h : parse params = .ok claims) :
    AllSigned params claims ↔ IsSigned params (identityField params) := by
  constructor
  · intro hall
    exact hall.identity
  · intro hidentity
    obtain ⟨list, hlist, hmem⟩ := hidentity
    exact ⟨⟨list, hlist, hmem⟩, extensionsSigned_of_list h hlist⟩

end Reading

end SignOn.Assertion

namespace SignOn.Provider

open SignOn.Assertion

/-- An accepted identity is the value of its field. With a list of signed fields the
accepted values of extensions are signed, and everything that is accepted is signed
exactly when the list names the field of the identity. -/
theorem signed_of_verify {σ : Type} (provider : Provider) (base : String) (params : Params)
    (context : Context σ) (claims : Claims)
    (h : (provider.verify base params context).1 = .ok claims) :
    params.get? ("openid." ++ identityField params) = some claims.identityUrl ∧
      (params.get? "openid.signed" ≠ none → ExtensionsSigned params claims) ∧
      (AllSigned params claims ↔ IsSigned params (identityField params)) := by
  obtain ⟨hparse, -, -, -⟩ := verify_eq_ok_iff.mp h
  obtain ⟨-, identity, hidentity, hclaims⟩ := parse_eq_ok_iff.mp hparse
  refine ⟨?_, ?_, allSigned_iff hparse⟩
  · rw [hclaims]
    exact (get?_identityField hidentity).1
  · intro hlist
    obtain ⟨list, hlist⟩ := Option.ne_none_iff_exists'.mp hlist
    exact extensionsSigned_of_list hparse hlist

/-! ## An assertion about somebody else -/

/-- A provider on the same machine. -/
def loopback : Provider :=
  ⟨{ scheme := "http", authority := some ⟨"", none, some (.ipv6 [0, 0, 0, 0, 0, 0, 0, 1]), none⟩
     path := .segments [""], query := none, fragment := none }⟩

/-- Return URL of the service that is asked. -/
def callback : String := "https://kiln.example.com/openid/callback/"

/-- An assertion about Alice with an e-mail and a list of signed fields. -/
def aboutAlice (signed : String) : Params :=
  Table.ofList
    [("openid.mode", "id_res"), ("openid.op_endpoint", "http://[::1]/"),
      ("openid.return_to", callback), ("openid.claimed_id", "http://[::1]/alice"),
      ("openid.sreg.email", "alice@example.org"), ("openid.signed", signed)]

/-- A provider that confirms what it is asked about. -/
def confirming : Context Store :=
  { store := Store.empty, session := Table.empty, directory := ⟨[], fun _ => .ok []⟩
    reply := some ⟨200, "is_valid:true\n"⟩, trace := .empty }

/-- The claims about Alice. -/
def alice : Claims :=
  { identityUrl := "http://[::1]/alice", email := some "alice@example.org", timezone := none
    teams := none }

/-- With the identity on the list everything about Alice is signed. -/
theorem signed_aboutAlice :
    let params := aboutAlice "op_endpoint, claimed_id, return_to, sreg.email"
    (loopback.verify callback params confirming).1 = .ok alice ∧ AllSigned params alice := by
  intro params
  have hverify : (loopback.verify callback params confirming).1 = .ok alice := rfl
  obtain ⟨-, -, hall⟩ := signed_of_verify loopback callback params confirming alice hverify
  exact ⟨hverify, hall.mpr (by decide +kernel)⟩

/-- Alice is believed in an assertion whose list names her e-mail only. -/
theorem alice_unsigned :
    let params := aboutAlice "op_endpoint,return_to,sreg.email"
    (loopback.verify callback params confirming).1 = .ok alice ∧ ¬ AllSigned params alice := by
  intro params
  refine ⟨rfl, ?_⟩
  intro hall
  have hout : ¬ IsSigned params (identityField params) := by decide +kernel
  exact hout hall.identity

end SignOn.Provider
