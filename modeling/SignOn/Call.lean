import SignOn.Directory.Retry
import SignOn.Provider.Message
import SignOn.Session
import SignOn.Store.Basic

/-!
# Calls

A call of the service reads and changes a store, a session and the answers its
peers are about to give, and leaves a trace. It answers or fails; what it did
before it failed stays done. `Call.bind_apply` and its neighbours compute a call
step by step.
-/

set_option autoImplicit false

namespace SignOn

/-- What calls leave behind besides their answers. -/
structure Trace where
  events : List Event
  /-- Steps made towards answers of the directory. -/
  steps : List Directory.Step
  posts : List Provider.Post

/-- The trace of no call. -/
def Trace.empty : Trace := ⟨[], [], []⟩

/-- What a call works on. -/
structure Context (σ : Type) where
  store : σ
  session : Session
  directory : Directory.Script
  /-- The provider's answer to the next post, if it gives one. -/
  reply : Option Provider.Reply
  trace : Trace

/-- The context with more events in its log. -/
def Context.logging {σ : Type} (events : List Event) (context : Context σ) : Context σ :=
  { context with trace := { context.trace with events := context.trace.events ++ events } }

/-- A call that answers with an `α`. -/
def Call (σ α : Type) : Type := Context σ → Except Fault α × Context σ

namespace Call

variable {σ α β : Type}

/-- A call that answers at once. -/
protected def pure (value : α) : Call σ α := fun context => (.ok value, context)

/-- A call followed by one that uses its answer. -/
protected def bind (call : Call σ α) (next : α → Call σ β) : Call σ β := fun context =>
  match call context with
  | (.ok value, after) => next value after
  | (.error fault, after) => (.error fault, after)

instance : Monad (Call σ) where
  pure := Call.pure
  bind := Call.bind

/-- A call that fails. -/
def fail (fault : Fault) : Call σ α := fun context => (.error fault, context)

/-- A call with a known outcome. -/
def ofExcept (outcome : Except Fault α) : Call σ α := fun context => (outcome, context)

/-- Logs events. -/
def log (events : List Event) : Call σ Unit := fun context => (.ok (), context.logging events)

/-- The session. -/
def session : Call σ Session := fun context => (.ok context.session, context)

/-- Changes the session. -/
def changeSession (change : Session → Session) : Call σ Unit := fun context =>
  (.ok (), { context with session := change context.session })

/-- An operation of the store. -/
def onStore (operation : σ → Store.Reply σ α) : Call σ α := fun context =>
  let (answer, store) := operation context.store
  (answer.mapError .store, { context with store := store })

/-- Sends a search to the directory. -/
def onDirectory (policy : RetryPolicy) (search : Directory.Search) :
    Call σ (List Directory.Entry) := fun context =>
  let outcome := Directory.send policy search context.directory
  (outcome.answer,
    { context with
      directory := { context.directory with opening := outcome.left }
      trace :=
        { context.trace with
          events := context.trace.events ++ outcome.events
          steps := context.trace.steps ++ outcome.steps } })

/-- Posts a form to the provider; its answer, if it gives one. -/
def post (form : Provider.Post) : Call σ (Option Provider.Reply) := fun context =>
  (.ok context.reply,
    { context with
      reply := none
      trace := { context.trace with posts := context.trace.posts ++ [form] } })

/-- A call whose fault is changed. -/
def mapFault (change : Fault → Fault) (call : Call σ α) : Call σ α := fun context =>
  let (outcome, after) := call context
  (outcome.mapError change, after)

/-! ## Computing calls -/

@[simp]
theorem pure_apply (value : α) (context : Context σ) :
    (pure value : Call σ α) context = (.ok value, context) := rfl

theorem bind_apply (call : Call σ α) (next : α → Call σ β) (context : Context σ) :
    (call >>= next) context =
      match call context with
      | (.ok value, after) => next value after
      | (.error fault, after) => (.error fault, after) := rfl

theorem bind_of_ok {call : Call σ α} {next : α → Call σ β} {context after : Context σ} {value : α}
    (h : call context = (.ok value, after)) : (call >>= next) context = next value after := by
  simp [bind_apply, h]

theorem bind_of_error {call : Call σ α} {next : α → Call σ β} {context after : Context σ}
    {fault : Fault} (h : call context = (.error fault, after)) :
    (call >>= next) context = (.error fault, after) := by
  simp [bind_apply, h]

@[simp]
theorem fail_apply (fault : Fault) (context : Context σ) :
    (fail fault : Call σ α) context = (.error fault, context) := rfl

@[simp]
theorem ofExcept_apply (outcome : Except Fault α) (context : Context σ) :
    ofExcept outcome context = (outcome, context) := rfl

@[simp]
theorem session_apply (context : Context σ) : session context = (.ok context.session, context) :=
  rfl

end Call

end SignOn
