import SignOn.Proofs.Gateway.Footprint
import SignOn.Proofs.Gateway.Session
import SignOn.Proofs.Web.Redirect

/-!
# What an answer tells of the session

Three pages log a session in or out and then send the browser on (`Passage`). What they ask
of the gateway is one call, and a call that fails spares the session (`SparesSession`). So
a failed call is answered with an error and the session of the request. A call that
succeeds is answered with a redirect exactly when the destination can be sent in a header;
otherwise the answer is an error although the session has changed (`answer_passage`).
-/

set_option autoImplicit false

namespace SignOn

variable {σ α β : Type}

/-! ## Calls that spare the session -/

open Call Contract

/-- The session is the same. -/
def SameSession : Contract σ := fun before _ after => after.session = before.session

/-- After a fault the session is the same. -/
def SparesSession : Contract σ := fun before fault? after =>
  fault? ≠ none → after.session = before.session

theorem storeLenient_sameSession : StoreLenient (SameSession : Contract σ) where
  refl _ := rfl
  failed := id
  trans hfirst hthen := hthen.trans hfirst
  logging _ _ := rfl
  posting _ _ := rfl
  others _ _ _ := rfl
  storing _ _ := rfl
  internal _ _ _ := rfl

/-- What leaves the session alone may go before what spares it. -/
theorem precedes_sparesSession : Precedes (SameSession : Contract σ) SparesSession where
  refl _ hfault := absurd rfl hfault
  failed hsame _ := hsame
  trans hsame hspares hfault := (hspares hfault).trans hsame

/-- A call that never fails spares the session. -/
theorem sparesSession_of_ok {call : Call σ α}
    (h : ∀ context, ∃ value, (call context).1 = .ok value) : Keeps SparesSession call := by
  intro context hfault
  obtain ⟨value, hvalue⟩ := h context
  rw [hvalue] at hfault
  exact absurd rfl hfault

/-- A login that is settled marks the session last of all. -/
theorem Gateway.concludes_sparesSession [UserStore σ] :
    Concludes (SameSession : Contract σ) SparesSession where
  toPrecedes := precedes_sparesSession
  lenient := storeLenient_sameSession
  settled := fun _ _ _ _ _ =>
    keeps_bind precedes_sparesSession (keeps_onStore storeLenient_sameSession _) fun saved =>
      sparesSession_of_ok fun _ => ⟨saved, rfl⟩
  reworded hspares _ := hspares nofun

namespace Web

/-! ## Answers to calls -/

theorem onCall_of_ok {call : Call σ α} {context after : Context σ} {value : α}
    (h : call context = (.ok value, after)) (answered : α → Handler σ) :
    onCall call answered context = answered value after := by
  rw [onCall, h]

theorem onCall_of_error {call : Call σ α} {context after : Context σ} {fault : Fault}
    (h : call context = (.error fault, after)) (answered : α → Handler σ) :
    onCall call answered context = failed (.service fault) after := by
  rw [onCall, h]

/-- The answer to a call that goes on is the answer to what it goes on with. -/
theorem onCall_bind (first : Call σ α) (next : α → Call σ β) (answered : β → Handler σ) :
    onCall (first >>= next) answered = onCall first fun value => onCall (next value) answered := by
  funext context
  cases hfirst : first context with
  | mk outcome after =>
      cases outcome with
      | ok value => rw [onCall_of_ok hfirst, onCall, bind_of_ok hfirst, onCall]
      | error fault => rw [onCall_of_error hfirst, onCall_of_error (bind_of_error hfirst)]

theorem onCall_pure (value : α) (answered : α → Handler σ) :
    onCall (pure value : Call σ α) answered = answered value := rfl

/-- Sending the browser on changes no session. -/
theorem session_redirect (location : String) (context : Context σ) :
    (redirect location context).2.session = context.session := by
  rw [redirect]
  split
  · rfl
  · rfl

theorem status_redirect (location : String) (context : Context σ) :
    (redirect location context).1.status = if isSendable location then 302 else 500 := by
  cases hsend : isSendable location with
  | true => rw [redirect, hsend, if_pos rfl, if_pos rfl]
  | false =>
      rw [redirect, hsend, if_neg Bool.false_ne_true, if_neg Bool.false_ne_true]
      rfl

/-- A call on the way to `next` is answered with a redirect exactly when it succeeds and
`next` can be sent, and otherwise with an error; the cookie holds the session it leaves. -/
theorem answer_onCall (cookie : Option Session) (call : Call σ Unit) (next : String)
    (context : Context σ) :
    let response := (withSession cookie (onCall call fun _ => redirect next) context).1
    let ending := call (context.withSession (cookie.getD Table.empty))
    (response.status = 302 ↔ ending.1 = .ok () ∧ isSendable next = true) ∧
      (response.status = 302 ∨ 400 ≤ response.status) ∧
      response.cookie = some ending.2.session := by
  intro response ending
  have hstatus : response.status =
      (onCall call (fun _ => redirect next)
        (context.withSession (cookie.getD Table.empty))).1.status := rfl
  have hcookie : response.cookie =
      some (onCall call (fun _ => redirect next)
        (context.withSession (cookie.getD Table.empty))).2.session := rfl
  cases hcall : ending with
  | mk outcome after =>
      cases outcome with
      | error fault =>
          rw [onCall_of_error hcall] at hstatus hcookie
          have hfailure : 400 ≤ response.status :=
            hstatus ▸ (Failure.service fault).status_ge_400
          refine ⟨⟨fun hfound => by omega, ?_⟩, Or.inr hfailure, hcookie⟩
          rintro ⟨hok, -⟩
          cases hok
      | ok =>
          rw [onCall_of_ok hcall] at hstatus hcookie
          rw [status_redirect] at hstatus
          rw [session_redirect] at hcookie
          cases hsend : isSendable next with
          | true =>
              rw [hsend, if_pos rfl] at hstatus
              exact ⟨by simp [hstatus], Or.inl hstatus, hcookie⟩
          | false =>
              rw [hsend, if_neg Bool.false_ne_true] at hstatus
              exact ⟨by simp [hstatus], Or.inr (by omega), hcookie⟩

variable [UserStore σ]

/-! ## Pages that log in or out and send the browser on -/

/-- Pages that log a session in or out and then send the browser on. -/
inductive Passage where
  /-- The end of a federated login. -/
  | callback
  /-- A Kerberos login in a browser. -/
  | ticket
  | logout
deriving Repr, DecidableEq

namespace Passage

/-- The page itself. -/
def page : Passage → Page
  | callback => .callback
  | ticket => .kerberosWeb
  | logout => .logout

/-- What the page asks of the gateway. -/
def call (service : Service) (moment : Moment) (request : Request) : Passage → Call σ Unit
  | callback => do
    let claims ← service.gateway.verify request.params
    let _ ← service.gateway.completeFederated moment claims
    return ()
  | ticket => do
    let _ ← service.gateway.completeKerberos moment
      (request.header? service.settings.auth.remoteUserHeader)
    return ()
  | logout => service.gateway.logout

/-- All that is asked of the gateway: who is logged in, and then what the page asks. -/
def asked (passage : Passage) (service : Service) (moment : Moment) (request : Request) :
    Call σ Unit := do
  let found ← service.gateway.currentUser
  Call.log (found.elim [] fun user => [.sessionUserResolved user.name])
  passage.call service moment request

/-- What a page asks leaves the session as it was when it fails. -/
theorem sparesSession_call (passage : Passage) (service : Service) (moment : Moment)
    (request : Request) :
    Keeps SparesSession (passage.call service moment request : Call σ Unit) := by
  have hlenient := storeLenient_sameSession (σ := σ)
  have hconcludes := Gateway.concludes_sparesSession (σ := σ)
  cases passage with
  | callback =>
      exact keeps_bind precedes_sparesSession
        (Gateway.keeps_verify _ hlenient.toLenient (fun _ => rfl) _) fun claims =>
          keeps_map_iff.mpr
            (Gateway.keeps_completeFederated _ moment hconcludes claims fun _ _ => rfl)
  | ticket =>
      exact keeps_map_iff.mpr (Gateway.keeps_completeKerberos _ moment hconcludes _
        (fun _ _ => rfl) fun _ _ _ _ _ _ => rfl)
  | logout => exact sparesSession_of_ok fun context => ⟨(), service.gateway.logout_eq_ok context⟩

theorem sparesSession_asked (passage : Passage) (service : Service) (moment : Moment)
    (request : Request) :
    Keeps SparesSession (passage.asked service moment request : Call σ Unit) :=
  keeps_bind precedes_sparesSession (Gateway.keeps_currentUser _ storeLenient_sameSession) fun _ =>
    keeps_bind precedes_sparesSession (keeps_log storeLenient_sameSession.toLenient _) fun _ =>
      passage.sparesSession_call service moment request

/-- A logout fails only with the look-up of who is logged in. -/
theorem asked_logout_eq_ok_iff (service : Service) (moment : Moment) (request : Request)
    (context : Context σ) :
    (Passage.logout.asked service moment request context).1 = .ok () ↔
      ∃ found, (service.gateway.currentUser context).1 = .ok found := by
  rw [asked]
  cases hcurrent : service.gateway.currentUser context with
  | mk outcome after =>
      cases outcome with
      | error fault => simp [bind_of_error hcurrent]
      | ok found =>
          rw [bind_of_ok hcurrent]
          exact ⟨fun _ => ⟨found, rfl⟩, fun _ => rfl⟩

end Passage

/-! ## Answers of these pages -/

section Answers

variable {passage : Passage} {service : Service} {moment : Moment} {request : Request}

/-- The page answers with the outcome of its call. -/
theorem serve_passage {supplies : Supplies} (hsettings : supplies.settings = some service.settings)
    (hgateway : supplies.gateway = some service.gateway) :
    (serve supplies moment request passage.page : Handler σ) =
      onCall (passage.call service moment request) fun _ => redirect request.next := by
  cases passage with
  | callback =>
      simp only [Passage.page, Passage.call, serve, callback, withGateway, hgateway, onCall_bind,
        onCall_pure]
  | ticket =>
      simp only [Passage.page, Passage.call, serve, kerberosLogin, withGateway, hsettings,
        hgateway, onCall_bind, onCall_pure]
  | logout => simp only [Passage.page, Passage.call, serve, logout, withGateway, hgateway]

/-- Inside all layers the answer is that to everything that is asked, with the session that
is left in the cookie. -/
theorem handle_passage (htarget : request.target = .page passage.page) (context : Context σ) :
    (handle service allLayers moment request context).1 =
      (withSession request.cookie
        (onCall (passage.asked service moment request) fun _ => redirect request.next)
        context).1 := by
  simp only [handle, htarget, allLayers, serveInside, withSession, withCurrentUser,
    Passage.asked, onCall_bind]
  rw [onCall]
  -- the layer that finds out who is logged in answers for a store that fails
  split
  · next fault after hcurrent =>
      rw [hcurrent]
      rfl
  · next found after hcurrent =>
      rw [hcurrent, serve_passage rfl rfl]
      rfl

end Answers

/-- The answer of a page that logs a session in or out: a redirect exactly when everything
that was asked succeeded and the destination can be sent, and an error otherwise. What
failed has spared the session, and a logout fails only with the look-up of who is logged
in. So the answer tells what happened to the session exactly when success implies that the
destination can be sent. -/
theorem answer_passage (passage : Passage) (service : Service) (moment : Moment)
    {request : Request} (htarget : request.target = .page passage.page) (context : Context σ) :
    let response := (handle service allLayers moment request context).1
    let session := request.cookie.getD Table.empty
    let met := context.withSession session
    let ending := passage.asked service moment request met
    response.cookie = some ending.2.session ∧
      (response.status = 302 ↔ ending.1 = .ok () ∧ isSendable request.next = true) ∧
      (response.status = 302 ∨ 400 ≤ response.status) ∧
      (ending.1 ≠ .ok () → response.cookie = some session) ∧
      (passage = .logout →
        (ending.1 = .ok () ↔ ∃ found, (service.gateway.currentUser met).1 = .ok found)) ∧
      (((response.status = 302 ↔ ending.1 = .ok ()) ∧
          (400 ≤ response.status → response.cookie = some session)) ↔
        (ending.1 = .ok () → isSendable request.next = true)) := by
  intro response session met ending
  have hresponse : response = (withSession request.cookie
      (onCall (passage.asked service moment request) fun _ => redirect request.next) context).1 :=
    handle_passage htarget context
  obtain ⟨hstatus, hany, hcookie⟩ := answer_onCall request.cookie
    (passage.asked service moment request) request.next context
  rw [← hresponse] at hstatus hany hcookie
  have hspared : ending.1 ≠ .ok () → response.cookie = some session := by
    intro hfailed
    rw [hcookie]
    refine congrArg some (passage.sparesSession_asked service moment request met ?_)
    cases hend : ending.1 with
    | ok => exact absurd hend hfailed
    | error fault => exact nofun
  refine ⟨hcookie, hstatus, hany, hspared, ?_, ?_⟩
  · rintro rfl
    exact Passage.asked_logout_eq_ok_iff service moment request met
  · constructor
    · rintro ⟨htells, -⟩ hok
      exact (hstatus.mp (htells.mpr hok)).2
    · intro hsend
      refine ⟨⟨fun hfound => (hstatus.mp hfound).1, fun hok => hstatus.mpr ⟨hok, hsend hok⟩⟩, ?_⟩
      intro herror
      apply hspared
      intro hok
      have hfound := hstatus.mpr ⟨hok, hsend hok⟩
      omega

/-! ### Jane's logout -/

/-- Jane, logged in by a ticket, logs out on the way to the destination that is written
`next`. -/
def janeLogout (next : String) : Request :=
  { logoutTo next with cookie := some (Table.empty.put MechanismKind.directory.sessionKey "jane") }

/-- The service when it has Jane for a user. -/
def janeContext : Context Store := { idle with store := Gateway.janeStore }

/-- What comes of a logout by Jane. -/
def janeAnswer (next : String) : Response :=
  (handle kerberosService allLayers ⟨⟨"2"⟩, 20⟩ (janeLogout next) janeContext).1

/-- On the way to a local page the logout is answered with a redirect. -/
theorem answer_janeLogout :
    (janeLogout "%2Fcoprs%2F").target = .page Passage.logout.page ∧
      (Passage.logout.asked kerberosService ⟨⟨"2"⟩, 20⟩ (janeLogout "%2Fcoprs%2F")
        (janeContext.withSession ((janeLogout "%2Fcoprs%2F").cookie.getD Table.empty))).1 = .ok () ∧
      isSendable (janeLogout "%2Fcoprs%2F").next = true ∧
      (janeAnswer "%2Fcoprs%2F").status = 302 := by
  have htarget : (janeLogout "%2Fcoprs%2F").target = .page Passage.logout.page := by
    decide +kernel
  have hsend : isSendable (janeLogout "%2Fcoprs%2F").next = true := by decide +kernel
  obtain ⟨-, hstatus, -⟩ := answer_passage .logout kerberosService ⟨⟨"2"⟩, 20⟩ htarget janeContext
  exact ⟨htarget, rfl, hsend, hstatus.mpr ⟨rfl, hsend⟩⟩

/-- A destination with a control character passes, and Jane is logged out with an internal
error for an answer. -/
theorem answer_janeControl :
    let asked := Passage.logout.asked kerberosService ⟨⟨"2"⟩, 20⟩ (janeLogout "%2F%01")
      (janeContext.withSession ((janeLogout "%2F%01").cookie.getD Table.empty))
    (janeLogout "%2F%01").target = .page Passage.logout.page ∧ asked.1 = .ok () ∧
      (janeAnswer "%2F%01").status = 500 ∧
      ((janeLogout "%2F%01").cookie.bind fun session => session.marker? .directory) = some "jane" ∧
      ((janeAnswer "%2F%01").cookie.bind fun session => session.marker? .directory) = none ∧
      ¬ (((janeAnswer "%2F%01").status = 302 ↔ asked.1 = .ok ()) ∧
        (400 ≤ (janeAnswer "%2F%01").status →
          (janeAnswer "%2F%01").cookie = (janeLogout "%2F%01").cookie)) := by
  intro asked
  have hstatus : (janeAnswer "%2F%01").status = 500 := by decide +kernel
  refine ⟨by decide +kernel, rfl, hstatus, by decide +kernel, by decide +kernel, ?_⟩
  rintro ⟨htells, -⟩
  have hfound := htells.mpr rfl
  rw [hstatus] at hfound
  cases hfound

end Web

end SignOn
