import SignOn.Proofs.Gateway.Footprint
import SignOn.Proofs.Gateway.GroupSource
import SignOn.Proofs.Username

/-!
# Searches a login sends to the directory

The only text of a search that a request has a say in is the name its principal presents.
A name is a username, and no character of a username means anything in a filter
(`userSearch_of_isValid`), so the search is one for the entry with this `uid` and for
nothing else. `asking_completeKerberos` says so of a Kerberos login over any store, whatever
the directory answers and however often it is asked, and `searches_ticketSteps` of rows of
such logins.
-/

set_option autoImplicit false

namespace SignOn

/-! ## Usernames in filters -/

namespace Directory

namespace Filter

/-- Characters that have a meaning of their own in filters, escaped or not. -/
def marks : List Char :=
  ['(', ')', '*', '\\', Char.ofNat 0, '&', '|', '!', '=', '<', '>', '~', ':']

/-- No character of a username is a mark. -/
theorem not_mem_marks {name : String} (h : Username.isValid name = true) {c : Char}
    (hc : c ∈ name.toList) : c ∉ marks := by
  have hmarks : marks.all (fun mark => Username.isChar mark = false) = true := by decide
  have hchar := Username.isChar_of_mem h hc
  intro hmark
  rw [of_decide_eq_true (List.all_eq_true.mp hmarks c hmark)] at hchar
  cases hchar

/-- A character that is escaped is a mark. -/
theorem mem_marks_of_isSpecial {c : Char} (h : isSpecial c = true) : c ∈ marks := by
  have hall : specials.all (· ∈ marks) = true := by decide
  exact of_decide_eq_true (List.all_eq_true.mp hall c (mem_specials_of_isSpecial h))

/-- A username is written in a filter as it is. -/
theorem encode_of_isValid {name : String} (h : Username.isValid name = true) :
    encode name = name := by
  have hchar (c : Char) (hc : c ∈ name.toList) : encodeChar c = [c] := by
    rw [encodeChar, if_neg]
    intro hspecial
    exact not_mem_marks h hc (mem_marks_of_isSpecial hspecial)
  rw [encode, List.flatMap_def, List.map_congr_left hchar, ← List.flatMap_def,
    List.flatMap_singleton', String.ofList_toList]

/-- A username does not ask for the presence of a key. -/
theorem ne_star_of_isValid {name : String} (h : Username.isValid name = true) : name ≠ "*" := by
  rintro rfl
  exact not_mem_marks h (List.mem_singleton_self '*') (by decide)

end Filter

/-- The search for a username is the one for its entry. -/
theorem Client.userSearch_of_isValid (client : Client) {name : String}
    (h : Username.isValid name = true) : client.userSearch name =
      ⟨client.base, "(&(objectclass=*)(uid=" ++ name ++ "))", ["cn", "uid", "memberOf", "mail"]⟩ := by
  have hfilter : Filter.build (userCriteria name) = "(&(objectclass=*)(uid=" ++ name ++ "))" := by
    apply String.toList_injective
    simp [Filter.build, userCriteria, Filter.component, Filter.ne_star_of_isValid h,
      Filter.encode_of_isValid h, String.join]
  rw [userSearch, search, hfilter]
  rfl

/-- However often a search is repeated, it is the same search. -/
theorem eq_of_search_mem_attemptFrom {policy : RetryPolicy} {search other : Search}
    {settled : Search → Except String (List Entry)} {attempt : UInt32} {answers : List Answer}
    (h : .search other ∈ (attemptFrom policy search settled attempt answers).steps) :
    other = search := by
  induction answers generalizing attempt with
  | nil =>
      rw [attemptFrom] at h
      split at h
      · exact Step.search.inj (List.mem_singleton.mp h)
      · exact Step.search.inj (List.mem_singleton.mp h)
  | cons answer answers ih =>
      cases answer with
      | entries entries => exact Step.search.inj (List.mem_singleton.mp h)
      | refused reason => exact Step.search.inj (List.mem_singleton.mp h)
      | unavailable reason =>
          rw [attemptFrom] at h
          split at h
          -- the search, the pause, and what came after it
          · rcases List.mem_cons.mp h with hfirst | hlater
            · exact Step.search.inj hfirst
            · rcases List.mem_cons.mp hlater with hpause | hrest
              · cases hpause
              · exact ih hrest
          · exact Step.search.inj (List.mem_singleton.mp h)

end Directory

/-- What is asked for the groups of a user is the search for the user. -/
theorem GroupAuthority.eq_of_search_mem_asked {authority : GroupAuthority} {username : String}
    {script : Directory.Script} {search : Directory.Search}
    (h : .search search ∈ authority.asked username script) :
    ∃ client, authority.directory = some client ∧ search = client.userSearch username := by
  rw [asked] at h
  split at h
  · cases h
  · split at h
    · cases h
    · next client hclient => exact ⟨client, hclient, Directory.eq_of_search_mem_attemptFrom h⟩

namespace Gateway

open Call Contract

variable {σ : Type}

/-! ## Searches of calls -/

/-- All searches that are sent in between are permitted. -/
def Asking (permitted : Directory.Search → Prop) : Contract σ := fun before _ after =>
  ∃ steps, after.trace.steps = before.trace.steps ++ steps ∧
    ∀ search, .search search ∈ steps → permitted search

/-- Where no step is made, no search is sent. -/
theorem asking_of_steps_eq (permitted : Directory.Search → Prop) {before after : Context σ}
    {fault? : Option Fault} (h : after.trace.steps = before.trace.steps) :
    Asking permitted before fault? after :=
  ⟨[], by rw [h, List.append_nil], fun search hsearch => by cases hsearch⟩

theorem storeLenient_asking (permitted : Directory.Search → Prop) :
    StoreLenient (Asking permitted : Contract σ) where
  refl _ := asking_of_steps_eq permitted rfl
  failed := id
  trans := by
    rintro before middle fault? after ⟨steps, hsteps, hsearches⟩ ⟨more, hmore, hlater⟩
    refine ⟨steps ++ more, by rw [hmore, hsteps, List.append_assoc], ?_⟩
    intro search hsearch
    rcases List.mem_append.mp hsearch with hfirst | hthen
    · exact hsearches search hfirst
    · exact hlater search hthen
  logging _ _ := asking_of_steps_eq permitted rfl
  posting _ _ := asking_of_steps_eq permitted rfl
  others _ _ _ := asking_of_steps_eq permitted rfl
  storing _ _ := asking_of_steps_eq permitted rfl
  internal _ _ _ := asking_of_steps_eq permitted rfl

variable [UserStore σ]

theorem concludes_asking (permitted : Directory.Search → Prop) :
    Concludes (Asking permitted : Contract σ) (Asking permitted) :=
  concludes_of_storeLenient (storeLenient_asking permitted)
    (fun _ _ => asking_of_steps_eq permitted rfl) id

/-- The search that a Kerberos login may send: for the name its principal presents. -/
def Named (gateway : Gateway) (remoteUser : Option String) (search : Directory.Search) : Prop :=
  ∃ client name, gateway.groups.directory = some client ∧ presented? remoteUser = some name ∧
    search = client.userSearch name

/-- A Kerberos login searches only for the name its principal presents. -/
theorem asking_completeKerberos (gateway : Gateway) (moment : Moment)
    (remoteUser : Option String) :
    Call.Keeps (Asking (gateway.Named remoteUser))
      (gateway.completeKerberos moment remoteUser : Call σ User) := by
  refine keeps_completeKerberos gateway moment (concludes_asking _) remoteUser
    (fun _ _ => asking_of_steps_eq _ rfl) ?_
  intro principal name hprincipal hname context left
  refine ⟨_, rfl, fun search hsearch => ?_⟩
  obtain ⟨client, hclient, rfl⟩ := GroupAuthority.eq_of_search_mem_asked hsearch
  refine ⟨client, name, hclient, ?_, rfl⟩
  rw [presented?, hprincipal]
  exact hname

/-! ## Rows of tickets -/

/-- A request to log in by a ticket, in one of the sessions, with the answers of the
directory that it meets. -/
structure Ticket (κ : Type) where
  session : κ
  remoteUser : Option String
  moment : Moment
  directory : Directory.Script

section Rows

variable {κ : Type} [DecidableEq κ]

/-- What comes of a ticket that is presented over a store with sessions. -/
def present (gateway : Gateway) (store : σ) (sessions : κ → Session) (ticket : Ticket κ) :
    Except Fault User × Context σ :=
  gateway.completeKerberos ticket.moment ticket.remoteUser
    { store := store, session := sessions ticket.session, directory := ticket.directory
      reply := none, trace := .empty }

/-- The tickets of a row, each with the steps it makes towards the directory. -/
def ticketSteps (gateway : Gateway) :
    List (Ticket κ) → σ → (κ → Session) → List (Ticket κ × List Directory.Step)
  | [], _, _ => []
  | ticket :: later, store, sessions =>
    let after := (gateway.present store sessions ticket).2
    (ticket, after.trace.steps) ::
      ticketSteps gateway later after.store fun session =>
        if session = ticket.session then after.session else sessions session

omit [DecidableEq κ] in
/-- A ticket searches only for the name it presents. -/
theorem named_of_mem_present {gateway : Gateway} {store : σ} {sessions : κ → Session}
    {ticket : Ticket κ} {search : Directory.Search}
    (h : .search search ∈ (gateway.present store sessions ticket).2.trace.steps) :
    gateway.Named ticket.remoteUser search := by
  obtain ⟨steps, hsteps, hnamed⟩ :=
    gateway.asking_completeKerberos ticket.moment ticket.remoteUser
      { store := store, session := sessions ticket.session, directory := ticket.directory
        reply := none, trace := .empty }
  apply hnamed
  rw [present, hsteps] at h
  exact h

/-- So does each ticket of a row. -/
theorem named_of_mem_ticketSteps {gateway : Gateway} {ticket : Ticket κ}
    {steps : List Directory.Step} {search : Directory.Search} (row : List (Ticket κ)) {store : σ}
    {sessions : κ → Session} (h : (ticket, steps) ∈ gateway.ticketSteps row store sessions)
    (hsearch : .search search ∈ steps) : gateway.Named ticket.remoteUser search := by
  induction row generalizing store sessions with
  | nil => cases h
  | cons first later ih =>
      rcases List.mem_cons.mp h with hfirst | hlater
      · obtain ⟨rfl, rfl⟩ := Prod.mk.inj hfirst
        exact named_of_mem_present hsearch
      · exact ih hlater

end Rows

/-- Whatever the texts that a row of tickets presents, the store, the sessions and the
answers of the directory: every search that a ticket sends is the one for the entry of its
name below the base of the directory. The name is a username, which stands in the filter as
it is. All searches of one ticket are the same. -/
theorem searches_ticketSteps (gateway : Gateway) {κ : Type} [DecidableEq κ]
    (row : List (Ticket κ)) (store : σ) (sessions : κ → Session) :
    ∀ ticket steps, (ticket, steps) ∈ gateway.ticketSteps row store sessions →
      (∀ search, .search search ∈ steps → ∃ client principal name,
        gateway.groups.directory = some client ∧ ticket.remoteUser = some principal ∧
          Username.ofPrincipal? principal = some name ∧
          search = ⟨client.base, "(&(objectclass=*)(uid=" ++ name ++ "))",
            ["cn", "uid", "memberOf", "mail"]⟩ ∧
          Username.isValid name = true ∧ Directory.Filter.encode name = name ∧
          (∀ c ∈ name.toList, c ∉ Directory.Filter.marks) ∧ name ≠ "*") ∧
      ∀ first second, .search first ∈ steps → .search second ∈ steps → first = second := by
  intro ticket steps hticket
  refine ⟨?_, ?_⟩
  · intro search hsearch
    obtain ⟨client, name, hclient, hname, rfl⟩ := named_of_mem_ticketSteps row hticket hsearch
    obtain ⟨principal, hremote, -, hprincipal⟩ := presented?_eq_some_iff.mp hname
    have hvalid := Username.isValid_of_ofPrincipal? hprincipal
    exact ⟨client, principal, name, hclient, hremote, hprincipal,
      client.userSearch_of_isValid hvalid, hvalid, Directory.Filter.encode_of_isValid hvalid,
      fun c hc => Directory.Filter.not_mem_marks hvalid hc,
      Directory.Filter.ne_star_of_isValid hvalid⟩
  · intro first second hfirst hsecond
    obtain ⟨client, name, hclient, hname, rfl⟩ := named_of_mem_ticketSteps row hticket hfirst
    obtain ⟨other, again, hother, hagain, rfl⟩ := named_of_mem_ticketSteps row hticket hsecond
    obtain rfl := Option.some.inj (hclient.symm.trans hother)
    obtain rfl := Option.some.inj (hname.symm.trans hagain)
    rfl

/-! ### Carol's ticket and another one -/

/-- Carol's ticket as an administrator, while the directory is away for a moment. -/
def administratorTicket : Ticket String :=
  ⟨"desk", some "carol/admin@EXAMPLE.COM", ⟨⟨"1"⟩, 10⟩,
    { packagers with opening := [.unavailable "server down"] }⟩

/-- A ticket that presents the end of one filter and the start of another. -/
def bentTicket : Ticket String := ⟨"door", some "*)(uid=carol", ⟨⟨"2"⟩, 20⟩, packagers⟩

/-- The search for Carol's entry as an administrator. -/
def administratorSearch : Directory.Search :=
  ⟨"ou=users,dc=example,dc=com", "(&(objectclass=*)(uid=carol_admin))",
    ["cn", "uid", "memberOf", "mail"]⟩

/-- Carol's ticket sends its search twice, the other ticket sends none. -/
theorem searches_administratorTicket :
    let steps : List Directory.Step :=
      [.search administratorSearch, .pause 500, .search administratorSearch]
    let row := ticketOnlyGateway.ticketSteps [administratorTicket, bentTicket] Store.empty
      fun _ => Table.empty
    row = [(administratorTicket, steps), (bentTicket, [])] ∧
      ∃ client principal name, ticketOnlyGateway.groups.directory = some client ∧
        administratorTicket.remoteUser = some principal ∧
        Username.ofPrincipal? principal = some name ∧
        administratorSearch = ⟨client.base, "(&(objectclass=*)(uid=" ++ name ++ "))",
          ["cn", "uid", "memberOf", "mail"]⟩ ∧
        ∀ c ∈ name.toList, c ∉ Directory.Filter.marks := by
  intro steps row
  have hrow : row = [(administratorTicket, steps), (bentTicket, [])] := rfl
  have hmem : (administratorTicket, steps) ∈ row := hrow ▸ List.mem_cons_self ..
  obtain ⟨hsearches, -⟩ := searches_ticketSteps ticketOnlyGateway
    [administratorTicket, bentTicket] Store.empty (fun _ => Table.empty) _ steps hmem
  obtain ⟨client, principal, name, hclient, hremote, hname, hsearch, -, -, hmarks, -⟩ :=
    hsearches administratorSearch (List.mem_cons_self ..)
  exact ⟨hrow, client, principal, name, hclient, hremote, hname, hsearch, hmarks⟩

end Gateway

end SignOn
