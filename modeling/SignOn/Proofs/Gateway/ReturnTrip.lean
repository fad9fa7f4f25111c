import SignOn.Gateway
import SignOn.Proofs.Provider.Acceptance
import SignOn.Proofs.Url.Delimited
import SignOn.Web.Request

/-!
# The way to a login and back

A login carries the destination along in form coding: once in the query of the page that
the browser comes back to, and that whole URL once more in the query of the provider. What
is written is what is read (`Carries`), whatever the destination and the origin are and
whatever query or fragment the URL of the provider has; and an assertion that comes back
with the URL it was sent out with passes the check of its address
(`loginUrl_roundTrip`).
-/

set_option autoImplicit false

namespace SignOn

open SignOn.Text

namespace Mechanism

/-- A query carries one destination and nothing else: a page that is asked for with it goes
to the destination, made local, also when more parameters follow. -/
structure Carries (query next : String) : Prop where
  pairs : Form.decodeAll query = [("next", next)]
  next_eq : ∀ request : Web.Request, request.query = some query →
    request.next = Web.safeNext (some next)
  next_eq_of_more : ∀ (request : Web.Request) (more : String),
    request.query = some (query ++ "&" ++ more) → request.next = Web.safeNext (some next)

/-- The query that is written for a destination. -/
def nextQuery (next : String) : String := Form.encodePair "next" next

theorem next_of_pairs {request : Web.Request} {next : String} {later : List (String × String)}
    (h : request.pairs = ("next", next) :: later) :
    request.next = Web.safeNext (some next) := by
  have hvalue : request.firstValue? Route.nextParameter = some next := by
    simp [Web.Request.firstValue?, h, Route.nextParameter]
  rw [Web.Request.next, hvalue]

theorem carries_nextQuery (next : String) : Carries (nextQuery next) next where
  pairs := Form.decodeAll_encodePair "next" next
  next_eq := by
    intro request hquery
    apply next_of_pairs
    rw [Web.Request.pairs, hquery, Option.elim_some, nextQuery, Form.decodeAll_encodePair]
  next_eq_of_more := by
    intro request more hquery
    apply next_of_pairs
    rw [Web.Request.pairs, hquery, Option.elim_some, Form.decodeAll_append, nextQuery,
      Form.decodeAll_encodePair, List.singleton_append]

theorem withNext_eq (path next : String) : withNext path next = path ++ "?" ++ nextQuery next := by
  have hname : Form.encode "next" = Route.nextParameter := by decide
  simp only [withNext, nextQuery, Form.encodePair, hname, String.append_assoc]

/-- The text after the last question mark of a location. -/
def lastQuery? (location : String) : Option String :=
  (splitFirst? '?' location.toList.reverse).map fun parts => String.ofList parts.1.reverse

/-- What carries a destination stands after the last question mark. -/
theorem lastQuery?_withNext (path next : String) :
    lastQuery? (withNext path next) = some (nextQuery next) := by
  have hout : '?' ∉ (nextQuery next).toList := by
    have hencode (text : String) : '?' ∉ (Form.encode text).toList :=
      fun hmem => Form.not_mem_delimiters hmem (by decide)
    simp [nextQuery, Form.encodePair, hencode]
  have hcut : splitFirst? '?' (withNext path next).toList.reverse =
      some ((nextQuery next).toList.reverse, path.toList.reverse) := by
    apply splitFirst?_eq_some_iff.mpr
    simp [withNext_eq, hout]
  simp [lastQuery?, hcut]

/-- The URL a login comes back to begins with the callback and with the service. -/
theorem startsWith_returnBase (origin next : String) :
    startsWith (returnBase origin) (withNext (returnBase origin) next) = true := by
  apply startsWith_iff.mpr
  simp [withNext_eq]

theorem startsWith_realm (origin next : String) :
    startsWith (realm origin) (withNext (returnBase origin) next) = true := by
  apply startsWith_iff.mpr
  have hpath : Route.callbackPath = "/" ++ "openid/callback/" := by decide
  simp [withNext_eq, realm, returnBase, hpath]

end Mechanism

namespace Web

/-- A destination is its own destination. -/
theorem safeNext_safeNext (raw : Option String) : safeNext (some (safeNext raw)) = safeNext raw := by
  have hroot : safeNext (some "/") = "/" := by decide
  cases raw with
  | none => exact hroot
  | some next =>
      by_cases hlocal : (startsWith "/" next && !startsWith "//" next &&
        !next.toList.contains '\\') = true
      · have hkept : safeNext (some next) = next := by rw [safeNext, if_pos hlocal]
        rw [hkept, hkept]
      · have hdropped : safeNext (some next) = "/" := by rw [safeNext, if_neg hlocal]
        rw [hdropped, hroot]

end Web

namespace Provider

/-- The query of the page that starts a login at the provider. -/
theorem queryIn?_setupUrl {text : String} {provider : Provider} (h : ofText text = .ok provider)
    (returnTo realm : String) : ∃ query,
      Url.queryIn? (provider.setupUrl returnTo realm) = some query ∧
      Form.decodeAll query =
        Form.decodeAll (provider.url.query.getD "") ++ setupPairs returnTo realm := by
  have hurl : provider.url.Delimited := by
    rw [ofText] at h
    split at h
    · next url hparse =>
        obtain rfl := Except.ok.inj h
        exact Url.delimited_of_parse hparse
    · cases h
  have hdelimited : (provider.url.appendPairs (setupPairs returnTo realm)).Delimited :=
    Url.delimited_appendPairs hurl _
  refine ⟨_, Url.queryIn?_text hdelimited, ?_⟩
  exact Url.decodeAll_extendQuery _ _

end Provider

namespace Gateway

open Mechanism Web

/-- An assertion with the URL that a login was sent out with passes the check of its address,
and the other checks alone decide. -/
theorem verify_of_returned {gateway : Gateway} {provider : Provider} {origin : String}
    (hmechanism : gateway.mechanism? .federated = some (.federated provider origin))
    {params : Assertion.Params} {next : String}
    (hreturned : params.get? "openid.return_to" = some (withNext (returnBase origin) next))
    {σ : Type} (context : Context σ) (claims : Claims) :
    (gateway.verify params context).1 = .ok claims ↔
      Assertion.parse params = .ok claims ∧ provider.IssuedBy params ∧
        Provider.Confirmed context.reply := by
  have haddressed : Provider.AddressedTo (returnBase origin) params :=
    ⟨_, hreturned, startsWith_iff.mp (startsWith_returnBase origin next)⟩
  rw [verify, hmechanism, Provider.verify_eq_ok_iff]
  exact and_congr_right fun _ => and_congr_right fun _ => and_iff_right haddressed

/-- For every destination, every provider and every origin: the Kerberos login is the route
of the browser with a query that carries the destination; the query of the federated login
is read as the pairs of the provider's own URL and the ten pairs of the request; the URL in
it begins with the callback and with the service, carries the destination after its last
question mark, and passes the check of its address when it comes back. A destination is
its own destination, so the page that ends a login goes where the login was started for. -/
theorem loginUrl_roundTrip {text : String} {provider : Provider}
    (h : Provider.ofText text = .ok provider) (origin next : String) :
    let returnTo := withNext (returnBase origin) next
    (∃ query, Mechanism.directory.loginUrl next = "/api_3/gssapi_login/web-ui/" ++ "?" ++ query ∧
      Carries query next) ∧
    (∃ query, Url.queryIn? ((Mechanism.federated provider origin).loginUrl next) = some query ∧
      Form.decodeAll query = Form.decodeAll (provider.url.query.getD "") ++
        [("openid.ns", "http://specs.openid.net/auth/2.0"),
          ("openid.mode", "checkid_setup"),
          ("openid.claimed_id", "http://specs.openid.net/auth/2.0/identifier_select"),
          ("openid.identity", "http://specs.openid.net/auth/2.0/identifier_select"),
          ("openid.return_to", returnTo),
          ("openid.realm", realm origin),
          ("openid.ns.sreg", "http://openid.net/extensions/sreg/1.1"),
          ("openid.sreg.required", "email,timezone"),
          ("openid.ns.lp", "http://ns.launchpad.net/2007/openid-teams"),
          ("openid.lp.query_membership", "_FAS_ALL_GROUPS_")]) ∧
    startsWith (returnBase origin) returnTo = true ∧ startsWith (realm origin) returnTo = true ∧
    (∃ query, lastQuery? returnTo = some query ∧ Carries query next) ∧
    (∀ params : Assertion.Params, params.get? "openid.return_to" = some returnTo →
      Provider.checkAddress (returnBase origin) params = .ok () ∧
        ∀ gateway : Gateway,
          gateway.mechanism? .federated = some (.federated provider origin) →
            ∀ (σ : Type) (context : Context σ) (claims : Claims),
              (gateway.verify params context).1 = .ok claims ↔
                Assertion.parse params = .ok claims ∧ provider.IssuedBy params ∧
                  Provider.Confirmed context.reply) ∧
    ∀ raw, safeNext (some (safeNext raw)) = safeNext raw := by
  intro returnTo
  refine ⟨?_, ?_, startsWith_returnBase origin next, startsWith_realm origin next, ?_, ?_,
    safeNext_safeNext⟩
  · have hroute : Route.kerberosWebPath = "/api_3/gssapi_login/web-ui/" := by decide
    refine ⟨nextQuery next, ?_, carries_nextQuery next⟩
    rw [← hroute]
    exact withNext_eq Route.kerberosWebPath next
  · obtain ⟨query, hquery, hpairs⟩ := Provider.queryIn?_setupUrl h returnTo (realm origin)
    exact ⟨query, hquery, hpairs⟩
  · exact ⟨nextQuery next, lastQuery?_withNext _ next, carries_nextQuery next⟩
  · intro params hreturned
    refine ⟨?_, ?_⟩
    · apply Provider.checkAddress_eq_ok_iff.mpr
      exact ⟨returnTo, hreturned, startsWith_iff.mp (startsWith_returnBase origin next)⟩
    · intro gateway hmechanism σ context claims
      exact verify_of_returned hmechanism hreturned context claims

/-! ### A provider whose URL has a query -/

/-- A provider whose URL has a query and a fragment of its own. -/
def germanProvider : Provider :=
  ⟨{ scheme := "http"
     authority := some ⟨"", none, some (.ipv6 [0, 0, 0, 0, 0, 0, 0, 1]), none⟩
     path := .segments ["login"], query := some "lang=de", fragment := some "top" }⟩

/-- The destination goes to this provider with the pairs of its URL before it. -/
theorem loginUrl_germanProvider :
    Provider.ofText "http://[::1]/login?lang=de#top" = .ok germanProvider ∧
      ∃ query,
        Url.queryIn? ((Mechanism.federated germanProvider "https://kiln.example.com/").loginUrl
          "/coprs/?q=a&b#c") = some query ∧
        ("lang", "de") ∈ Form.decodeAll query ∧
        ("openid.return_to", "https://kiln.example.com/openid/callback/?next=" ++
          "%2Fcoprs%2F%3Fq%3Da%26b%23c") ∈ Form.decodeAll query := by
  have hprovider : Provider.ofText "http://[::1]/login?lang=de#top" = .ok germanProvider := rfl
  have hown : ("lang", "de") ∈ Form.decodeAll "lang=de" := by decide +kernel
  have hreturn : withNext (returnBase "https://kiln.example.com/") "/coprs/?q=a&b#c" =
      "https://kiln.example.com/openid/callback/?next=" ++ "%2Fcoprs%2F%3Fq%3Da%26b%23c" := by
    decide +kernel
  obtain ⟨-, ⟨query, hquery, hpairs⟩, -⟩ :=
    loginUrl_roundTrip hprovider "https://kiln.example.com/" "/coprs/?q=a&b#c"
  rw [hreturn] at hpairs
  refine ⟨hprovider, query, hquery, ?_, ?_⟩
  · rw [hpairs]
    exact List.mem_append_left _ hown
  · rw [hpairs]
    apply List.mem_append_right
    simp

end Gateway

end SignOn
