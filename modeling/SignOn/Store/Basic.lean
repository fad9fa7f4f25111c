import SignOn.Table
import SignOn.User
import SignOn.Fault

/-!
# The user store

`UserStore` is what the sign-on service asks of a store of users; `Store` keeps
the records in three tables: users by identifier, identifiers by name, and
bindings by principal. Every operation answers or fails, and leaves a store
behind in both cases.
-/

set_option autoImplicit false

namespace SignOn

/-- Answer of a store operation, with the store it leaves behind. -/
abbrev Store.Reply (σ α : Type) : Type := Except StoreFault α × σ

/-- Operations that a login needs of a store. -/
class UserStore (σ : Type) where
  /-- The user with a name. -/
  findByName : String → σ → Store.Reply σ (Option User)
  /-- The user with an identifier. -/
  findById : UserId → σ → Store.Reply σ (Option User)
  /-- Inserts a new user; fails when the name is taken. -/
  create : Moment → NewUser → σ → Store.Reply σ User
  /-- Replaces the record with the user's identifier and returns the saved copy. -/
  save : Int → User → σ → Store.Reply σ User
  /-- The binding of a principal. -/
  findBinding : String → σ → Store.Reply σ (Option Binding)
  /-- Binds a principal to an existing user; fails when it is bound already. -/
  bind : Binding → σ → Store.Reply σ Binding

/-- Users, their names and their bindings, kept in tables. -/
structure Store where
  users : Table UserId User
  names : Table String UserId
  bindings : Table String Binding
deriving Repr, DecidableEq

namespace Store

/-- The store without records. -/
def empty : Store := ⟨Table.empty, Table.empty, Table.empty⟩

/-- Number of users. -/
def userCount (store : Store) : Nat :=
  store.users.size

/-- The user named `name`. -/
def userNamed? (store : Store) (name : String) : Option User :=
  (store.names.get? name).bind store.users.get?

/-- Fault of taking a name twice. -/
def nameTaken (name : String) : StoreFault :=
  .conflict ("user '" ++ name ++ "' already exists")

/-- Fault of naming no record. -/
def noSuchUser (id : UserId) : StoreFault :=
  .notFound ("user id " ++ id.text)

/-- Fault of binding a principal twice. -/
def alreadyBound (principal : String) : StoreFault :=
  .conflict ("principal '" ++ principal ++ "' is already bound")

/-- Record of a user created at `moment`. -/
def newRecord (moment : Moment) (new : NewUser) : User :=
  { id := moment.id, name := new.name, mail := new.mail, timezone := new.timezone
    admin := false, groups := none, updatedAt := moment.time }

/-- Inserts a new user. -/
def create (moment : Moment) (new : NewUser) (store : Store) : Reply Store User :=
  if store.names.contains new.name then (.error (nameTaken new.name), store)
  else
    (.ok (newRecord moment new),
      { store with
        users := store.users.put moment.id (newRecord moment new)
        names := store.names.put new.name moment.id })

/-- Moves the name of a record from `old` to `user`'s. -/
def rename (old : String) (user : User) (store : Store) : Store :=
  if old = user.name then store
  else { store with names := (store.names.erase old).put user.name user.id }

/-- Replaces the record with `user`'s identifier. -/
def save (time : Int) (user : User) (store : Store) : Reply Store User :=
  match store.users.get? user.id with
  | none => (.error (noSuchUser user.id), store)
  | some stored =>
    if stored.name ≠ user.name ∧ store.names.contains user.name then
      (.error (nameTaken user.name), store)
    else
      let saved := { user with updatedAt := time }
      let renamed := rename stored.name user store
      (.ok saved, { renamed with users := renamed.users.put user.id saved })

/-- Binds a principal to an existing user. -/
def bind (binding : Binding) (store : Store) : Reply Store Binding :=
  if ¬ store.users.contains binding.user then (.error (noSuchUser binding.user), store)
  else if store.bindings.contains binding.principal then
    (.error (alreadyBound binding.principal), store)
  else (.ok binding, { store with bindings := store.bindings.put binding.principal binding })

instance : UserStore Store where
  findByName name store := (.ok (store.userNamed? name), store)
  findById id store := (.ok (store.users.get? id), store)
  create := create
  save := save
  findBinding principal store := (.ok (store.bindings.get? principal), store)
  bind := bind

end Store

end SignOn
