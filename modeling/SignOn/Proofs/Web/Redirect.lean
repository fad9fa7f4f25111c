import SignOn.Proofs.Web.Destination

/-!
# Where the service sends a browser

Every redirect of the service leads to the login that a mechanism of the gateway
asks for, or to the destination of the request (`leads_handle`). The destination
stays on the origin of the service unless tabs hide its second slash
(`location_of_redirect`).
-/

set_option autoImplicit false

namespace SignOn.Web

/-- The location is where a mechanism of the gateway sends a browser to log in: the
page of the provider, or the Kerberos login with the destination in its query. -/
def FromMechanism (gateway : Gateway) (next location : String) : Prop :=
  (∃ provider origin, .federated provider origin ∈ gateway.mechanisms ∧
    location = provider.setupUrl (Mechanism.withNext (Mechanism.returnBase origin) next)
      (Mechanism.realm origin)) ∨
  (.directory ∈ gateway.mechanisms ∧ location = Mechanism.withNext Route.kerberosWebPath next)

/-- A redirect carries a location, which a mechanism asks for or which is `next`. -/
def Leads (gateway : Gateway) (next : String) (response : Response) : Prop :=
  response.status = 302 → ∃ location, response.location = some location ∧
    isSendable location = true ∧ (FromMechanism gateway next location ∨ location = next)

section Answers

variable {σ α : Type} {gateway : Gateway} {next : String}

/-- An answer of another status is no redirect. -/
theorem leads_answer {status : Nat} {body : Option Body} (h : status ≠ 302) :
    Leads gateway next (answer status body) := by
  intro hstatus
  exact absurd hstatus h

/-- A failure is no redirect. -/
theorem leads_failed (failure : Failure) (context : Context σ) :
    Leads gateway next (failed failure context).1 := by
  apply leads_answer
  have hfailure := failure.status_ge_400
  omega

/-- A redirect to a permitted location leads there, or fails. -/
theorem leads_redirect {location : String} (context : Context σ)
    (h : FromMechanism gateway next location ∨ location = next) :
    Leads gateway next (redirect location context).1 := by
  rw [redirect]
  split
  · next hsend =>
      intro _
      exact ⟨location, rfl, hsend, h⟩
  · exact leads_failed _ _

/-- The answer to a call leads where the answers to its values lead. -/
theorem leads_onCall {call : Call σ α} {answered : α → Handler σ} {context : Context σ}
    (h : ∀ value after, call context = (.ok value, after) →
      Leads gateway next (answered value after).1) :
    Leads gateway next (onCall call answered context).1 := by
  rw [onCall]
  split
  · next value after hcall => exact h value after hcall
  · next fault after _ => exact leads_failed _ _

/-- Nothing but the gateway is supplied as one. -/
def Supplied (gateway : Gateway) (supplies : Supplies) : Prop :=
  ∀ other, supplies.gateway = some other → other = gateway

theorem leads_withGateway {supplies : Supplies} {use : Gateway → Handler σ} {context : Context σ}
    (hsupplied : Supplied gateway supplies) (h : Leads gateway next (use gateway context).1) :
    Leads gateway next (withGateway supplies use context).1 := by
  rw [withGateway]
  cases hgateway : supplies.gateway with
  | none => exact leads_failed _ _
  | some other =>
      obtain rfl := hsupplied other hgateway
      exact h

theorem leads_authCheck {supplies : Supplies} {context : Context σ} :
    Leads gateway next (authCheck supplies context).1 := by
  rw [authCheck]
  split
  · exact leads_answer (by decide)
  · exact leads_failed _ _
  · exact leads_failed _ _

end Answers

section Pages

variable {σ : Type} [UserStore σ] {gateway : Gateway} {next : String}

/-- The start of a login goes on to the destination, or asks a mechanism. -/
theorem of_login_eq_ok {kind : MechanismKind} {location : String} {context after : Context σ}
    (h : gateway.login kind next context = (.ok location, after)) :
    FromMechanism gateway next location ∨ location = next := by
  rw [Gateway.login, Call.bind_apply] at h
  split at h
  · next found middle hcurrent =>
      cases found with
      | some user =>
          cases h
          exact Or.inr rfl
      -- nobody is logged in, so the mechanism is asked
      | none =>
          cases hmechanism : gateway.mechanism? kind with
          | none =>
              rw [hmechanism] at h
              cases h
          | some mechanism =>
              rw [hmechanism] at h
              cases h
              have hmem := List.mem_of_find?_eq_some hmechanism
              cases mechanism with
              | federated provider origin => exact Or.inl (Or.inl ⟨provider, origin, hmem, rfl⟩)
              | directory => exact Or.inl (Or.inr ⟨hmem, rfl⟩)
  · cases h

variable {supplies : Supplies} {moment : Moment} {request : Request} {context : Context σ}

theorem leads_startLogin (hsupplied : Supplied gateway supplies) (kind : MechanismKind) :
    Leads gateway next (startLogin supplies kind next context).1 := by
  refine leads_withGateway hsupplied (leads_onCall ?_)
  intro location after hlogin
  exact leads_redirect _ (of_login_eq_ok hlogin)

theorem leads_kerberosLogin (hsupplied : Supplied gateway supplies)
    {answered : User → Handler σ}
    (h : ∀ user after, Leads gateway next (answered user after).1) :
    Leads gateway next (kerberosLogin supplies moment request answered context).1 := by
  rw [kerberosLogin]
  cases supplies.settings with
  | none => exact leads_failed _ _
  | some settings =>
      exact leads_withGateway hsupplied (leads_onCall fun user after _ => h user after)

/-- The redirects of a page lead to a login or to the destination of the request. -/
theorem leads_serve (hsupplied : Supplied gateway supplies) (page : Page) :
    Leads gateway request.next (serve supplies moment request page context).1 := by
  cases page with
  | apiRoot => exact leads_answer (by decide)
  | kerberosApi =>
      exact leads_kerberosLogin hsupplied fun user after => leads_answer (by decide)
  | kerberosWeb =>
      exact leads_kerberosLogin hsupplied fun user after => leads_redirect after (Or.inr rfl)
  | authCheck => exact leads_authCheck
  | login => exact leads_startLogin hsupplied .federated
  | kerberosLogin => exact leads_startLogin hsupplied .directory
  | callback =>
      exact leads_withGateway hsupplied
        (leads_onCall fun user after _ => leads_redirect after (Or.inr rfl))
  | logout =>
      exact leads_withGateway hsupplied
        (leads_onCall fun _ after _ => leads_redirect after (Or.inr rfl))

/-- Layers around a page change no redirect. -/
theorem leads_serveInside {service : Service} (page : Page) (layers : List Layer)
    (hsupplied : Supplied service.gateway supplies) :
    Leads service.gateway request.next
      (serveInside service moment request page layers supplies context).1 := by
  -- a layer changes what is supplied and the context, and hands on the answer
  induction layers generalizing supplies context with
  | nil => exact leads_serve hsupplied page
  | cons layer layers ih =>
      cases layer with
      | settings => exact ih hsupplied
      | gateway =>
          apply ih
          intro other hother
          exact (Option.some.inj hother).symm
      | session => exact ih hsupplied
      | currentUser =>
          rw [serveInside, withCurrentUser]
          split
          · exact leads_failed _ _
          · split
            · exact leads_failed _ _
            · exact ih hsupplied

/-- Every redirect of the service leads to a login that a mechanism asks for or to the
destination of the request. -/
theorem leads_handle (service : Service) (layers : List Layer) (moment : Moment)
    (request : Request) (context : Context σ) :
    Leads service.gateway request.next (handle service layers moment request context).1 := by
  rw [handle]
  split
  · exact leads_answer (by decide)
  · exact leads_answer (by decide)
  · apply leads_serveInside
    intro other hother
    cases hother

end Pages

/-- A redirect of the service goes to the login that a mechanism asks for, or to the
destination of the request; and there a browser stays on the origin of the service
exactly when no tabs stand between the first two slashes of the destination. -/
theorem location_of_redirect {σ : Type} [UserStore σ] (service : Service) (layers : List Layer)
    (moment : Moment) (request : Request) (context : Context σ)
    (h : (handle service layers moment request context).1.status = 302) :
    ∃ location, (handle service layers moment request context).1.location = some location ∧
      (FromMechanism service.gateway request.next location ∨
        (location = request.next ∧ (StaysOnOrigin location ↔ ¬ HidesSlash location))) := by
  obtain ⟨location, hlocation, hsend, hmechanism | rfl⟩ :=
    leads_handle service layers moment request context h
  · exact ⟨location, hlocation, Or.inl hmechanism⟩
  · exact ⟨request.next, hlocation, Or.inr ⟨rfl, staysOnOrigin_next_iff hsend⟩⟩

/-! ## Redirects after a logout -/

/-- A service with Kerberos login only. -/
def kerberosService : Service :=
  { settings :=
      { auth := { kerberos := .table "example.com" }, server := ⟨"localhost", 8000, "", none⟩
        logLevel := "info" }
    gateway :=
      { provisioner := ⟨false, none, some "example.com", false, []⟩, groups := ⟨false, none⟩
        mechanisms := [.directory] } }

/-- A request to log out and go on to the destination that is written `next`. -/
def logoutTo (next : String) : Request :=
  { method := "GET", components := ["logout"], query := some ("next=" ++ next), headers := []
    cookie := none }

/-- The service before anybody logs in. -/
def idle : Context Store :=
  { store := Store.empty, session := Table.empty, directory := ⟨[], fun _ => .ok []⟩
    reply := none, trace := .empty }

/-- What is answered to a logout on the way to `next`. -/
def afterLogout (next : String) : Response :=
  (handle kerberosService allLayers ⟨⟨"1"⟩, 0⟩ (logoutTo next) idle).1

/-- A logout on the way to a local page goes there. -/
theorem afterLogout_local : (afterLogout "%2Fcoprs%2F").status = 302 ∧
    (afterLogout "%2Fcoprs%2F").location = some "/coprs/" ∧ StaysOnOrigin "/coprs/" := by
  have hstatus : (afterLogout "%2Fcoprs%2F").status = 302 := by decide +kernel
  have hsent : (afterLogout "%2Fcoprs%2F").location = some "/coprs/" := by decide +kernel
  refine ⟨hstatus, hsent, ?_⟩
  obtain ⟨location, hlocation, hcase⟩ := location_of_redirect kerberosService allLayers
    ⟨⟨"1"⟩, 0⟩ (logoutTo "%2Fcoprs%2F") idle hstatus
  obtain rfl : "/coprs/" = location := Option.some.inj (hsent.symm.trans hlocation)
  rcases hcase with hmechanism | ⟨-, hstays⟩
  · rcases hmechanism with ⟨provider, origin, hmem, -⟩ | ⟨-, hurl⟩
    · simp [kerberosService] at hmem
    · exact absurd hurl (by decide)
  · apply hstays.mpr
    rintro ⟨n, rest, h⟩
    cases n with
    | zero => simp at h
    | succ n => simp [List.replicate_succ] at h

/-- A tab between two slashes passes, and a browser goes on to another service. -/
theorem afterLogout_tab : (afterLogout "%2F%09%2Fevil.example%2F").status = 302 ∧
    (afterLogout "%2F%09%2Fevil.example%2F").location = some "/\t/evil.example/" ∧
    ¬ FromMechanism kerberosService.gateway "/\t/evil.example/" "/\t/evil.example/" ∧
    ¬ StaysOnOrigin "/\t/evil.example/" := by
  refine ⟨by decide +kernel, by decide +kernel, ?_, ?_⟩
  · rintro (⟨provider, origin, hmem, -⟩ | ⟨-, hurl⟩)
    · simp [kerberosService] at hmem
    · exact absurd hurl (by decide)
  · rintro ⟨rest, hread, hslash, -⟩
    have hcleaned : Url.cleaned "/\t/evil.example/".toList = "//evil.example/".toList := by decide
    rw [hcleaned] at hread
    obtain rfl := (List.cons.inj hread).2
    exact hslash rfl

end SignOn.Web
