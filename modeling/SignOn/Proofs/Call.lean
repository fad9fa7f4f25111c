import SignOn.Call

/-!
# Contexts after calls

A call leaves the context it found, with events added to the log, steps made
towards the directory, and whatever it did to the store and the session. The
equations here compute the primitive calls in these terms.
-/

set_option autoImplicit false

namespace SignOn

variable {σ α : Type}

namespace Context

/-- The context after more steps towards the directory, which has the answers
`left` to give. -/
def asking (steps : List Directory.Step) (left : List Directory.Answer) (context : Context σ) :
    Context σ :=
  { context with
    directory := { context.directory with opening := left }
    trace := { context.trace with steps := context.trace.steps ++ steps } }

/-- The context after a post, which uses up the answer of the provider. -/
def posting (form : Provider.Post) (context : Context σ) : Context σ :=
  { context with
    reply := none
    trace := { context.trace with posts := context.trace.posts ++ [form] } }

/-- The context with another store. -/
def withStore (store : σ) (context : Context σ) : Context σ := { context with store := store }

/-- The context with another session. -/
def withSession (session : Session) (context : Context σ) : Context σ :=
  { context with session := session }

/-- The context with another script of the directory. -/
def withDirectory (script : Directory.Script) (context : Context σ) : Context σ :=
  { context with directory := script }

@[simp]
theorem logging_nil (context : Context σ) : context.logging [] = context := by
  simp [logging]

@[simp]
theorem logging_logging (first second : List Event) (context : Context σ) :
    (context.logging first).logging second = context.logging (first ++ second) := by
  simp [logging]

@[simp]
theorem asking_nil (context : Context σ) :
    context.asking [] context.directory.opening = context := by
  simp [asking]

@[simp]
theorem logging_asking (events : List Event) (steps : List Directory.Step)
    (left : List Directory.Answer) (context : Context σ) :
    (context.logging events).asking steps left = (context.asking steps left).logging events := rfl

@[simp]
theorem withStore_asking (steps : List Directory.Step) (left : List Directory.Answer) (store : σ)
    (context : Context σ) :
    (context.withStore store).asking steps left = (context.asking steps left).withStore store := rfl

@[simp]
theorem logging_withStore (events : List Event) (store : σ) (context : Context σ) :
    (context.logging events).withStore store = (context.withStore store).logging events := rfl

@[simp]
theorem logging_withSession (events : List Event) (session : Session) (context : Context σ) :
    (context.logging events).withSession session =
      (context.withSession session).logging events := rfl

@[simp]
theorem withStore_self (context : Context σ) : context.withStore context.store = context := rfl

@[simp]
theorem withStore_withStore (first second : σ) (context : Context σ) :
    (context.withStore first).withStore second = context.withStore second := rfl

@[simp]
theorem withSession_self (context : Context σ) :
    context.withSession context.session = context := rfl

@[simp]
theorem store_logging (events : List Event) (context : Context σ) :
    (context.logging events).store = context.store := rfl

@[simp]
theorem session_logging (events : List Event) (context : Context σ) :
    (context.logging events).session = context.session := rfl

@[simp]
theorem directory_logging (events : List Event) (context : Context σ) :
    (context.logging events).directory = context.directory := rfl

@[simp]
theorem store_withStore (store : σ) (context : Context σ) :
    (context.withStore store).store = store := rfl

@[simp]
theorem session_withStore (store : σ) (context : Context σ) :
    (context.withStore store).session = context.session := rfl

@[simp]
theorem directory_withStore (store : σ) (context : Context σ) :
    (context.withStore store).directory = context.directory := rfl

end Context

namespace Call

@[simp]
theorem log_apply (events : List Event) (context : Context σ) :
    log events context = (.ok (), context.logging events) := rfl

@[simp]
theorem changeSession_apply (change : Session → Session) (context : Context σ) :
    changeSession change context = (.ok (), context.withSession (change context.session)) := rfl

@[simp]
theorem post_apply (form : Provider.Post) (context : Context σ) :
    post form context = (.ok context.reply, context.posting form) := rfl

theorem onStore_of_ok {operation : σ → Store.Reply σ α} {context : Context σ} {value : α}
    {store : σ} (h : operation context.store = (.ok value, store)) :
    onStore operation context = (.ok value, context.withStore store) := by
  rw [onStore, h]
  rfl

/-- A call whose answer is put into another form. -/
theorem bind_pure_of_eq {β : Type} {call : Call σ α} {context after : Context σ}
    {outcome : Except Fault α} (h : call context = (outcome, after)) (form : α → β) :
    (call >>= fun value => pure (form value)) context = (outcome.map form, after) := by
  cases outcome with
  | error fault => exact bind_of_error h
  | ok value => exact bind_of_ok h

/-! ## Look-ups in a store -/

@[simp]
theorem onStore_findByName (name : String) (context : Context Store) :
    onStore (UserStore.findByName name) context =
      (.ok (context.store.userNamed? name), context) := rfl

@[simp]
theorem onStore_findById (id : UserId) (context : Context Store) :
    onStore (UserStore.findById id) context = (.ok (context.store.users.get? id), context) := rfl

@[simp]
theorem onStore_findBinding (principal : String) (context : Context Store) :
    onStore (UserStore.findBinding principal) context =
      (.ok (context.store.bindings.get? principal), context) := rfl

/-! ## Changed faults -/

theorem mapFault_of_eq {change : Fault → Fault} {call : Call σ α} {context after : Context σ}
    {outcome : Except Fault α} (h : call context = (outcome, after)) :
    mapFault change call context = (outcome.mapError change, after) := by
  rw [mapFault, h]

end Call

end SignOn
