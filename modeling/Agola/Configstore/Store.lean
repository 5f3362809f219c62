import Mathlib

/-!
# The user tables of the configuration store

The configuration store keeps users, the project groups they own, the linked
accounts that tie a user to a remote source, user tokens, and org memberships
and invitations. Every action runs in one database transaction: it either
commits all its writes or, on an error, none.

The database layer is not part of the source. Each query the actions call is
modelled as the SQL its name describes: a lookup by a column, an insert, an
update or a delete by ID or by user. Object IDs are UUIDs in the store; the
model draws them from a counter, and a reference that `db.GetUser` parses as an
ID or a name is given already parsed.
-/

namespace Agola.Configstore

/-- `types.User`, without the secret, which no action reads. -/
structure User where
  id : Nat
  name : String
  deriving DecidableEq, Repr

inductive ObjectKind
  | user
  | org
  | projectGroup
  deriving DecidableEq, Repr

/-- `types.Parent`. -/
structure Parent where
  kind : ObjectKind
  id : Nat
  deriving DecidableEq, Repr

inductive Visibility
  | public
  | «private»
  deriving DecidableEq, Repr

/-- `types.ProjectGroup`, with the fields `CreateUser` sets. -/
structure ProjectGroup where
  id : Nat
  parent : Parent
  visibility : Visibility
  deriving DecidableEq, Repr

/-- `types.RemoteSource`, with the fields the user actions read. -/
structure RemoteSource where
  id : Nat
  name : String
  deriving DecidableEq, Repr

/-- `types.LinkedAccount`. -/
structure LinkedAccount where
  id : Nat
  userID : Nat
  remoteSourceID : Nat
  remoteUserID : String
  remoteUserName : String
  userAccessToken : String
  oauth2AccessToken : String
  oauth2RefreshToken : String
  oauth2AccessTokenExpiresAt : Nat
  deriving DecidableEq, Repr

/-- `types.UserToken`, without its random value. -/
structure UserToken where
  id : Nat
  userID : Nat
  name : String
  deriving DecidableEq, Repr

/-- An org membership, with the columns `DeleteOrgMembersByUserID` reads. -/
structure OrgMember where
  orgID : Nat
  userID : Nat
  deriving DecidableEq, Repr

/-- An org invitation, with the columns `DeleteOrgInvitationsByUserID` reads. -/
structure OrgInvitation where
  id : Nat
  orgID : Nat
  userID : Nat
  deriving DecidableEq, Repr

structure Store where
  users : List User
  projectGroups : List ProjectGroup
  remoteSources : List RemoteSource
  linkedAccounts : List LinkedAccount
  userTokens : List UserToken
  orgMembers : List OrgMember
  orgInvitations : List OrgInvitation
  nextId : Nat
  deriving DecidableEq, Repr

/-- A user reference, as `db.GetUser` parses it: an ID or a name. -/
inductive UserRef
  | id (id : Nat)
  | name (name : String)
  deriving DecidableEq, Repr

/-- The message of `util.NewAPIError`, with its kind. -/
inductive ErrorKind
  | badRequest
  | notExist
  deriving DecidableEq, Repr

structure APIError where
  kind : ErrorKind
  msg : String
  deriving DecidableEq, Repr

/-! ## The action monad

An action returns its result or an API error. These equations let `simp` run the
`do` block of an action once its checks are decided. -/

section ActionMonad

variable {α β : Type} (e : APIError)

@[simp] theorem throw_eq_error : (throw e : Except APIError α) = .error e := rfl
@[simp] theorem pure_eq_ok (a : α) : (pure a : Except APIError α) = .ok a := rfl
@[simp] theorem error_bind (f : α → Except APIError β) : (Except.error e >>= f) = .error e := rfl
@[simp] theorem ok_bind (a : α) (f : α → Except APIError β) : (Except.ok a >>= f) = f a := rfl
@[simp] theorem map_error (f : α → β) : (f <$> (Except.error e : Except APIError α)) = .error e := rfl
@[simp] theorem map_ok (f : α → β) (a : α) : (f <$> (Except.ok a : Except APIError α)) = .ok (f a) :=
  rfl

end ActionMonad

/-- `util.NewAPIError(util.ErrBadRequest, errors.Errorf(msg))`. -/
def badRequest (msg : String) : APIError := ⟨.badRequest, msg⟩

/-- Go's `%q` of a string without quotes or escapes in it. -/
def quote (s : String) : String := "\"" ++ s ++ "\""

/-- Go's `%q` of a user reference. -/
def UserRef.quote : UserRef → String
  | .id n => Agola.Configstore.quote (toString n)
  | .name n => Agola.Configstore.quote n

namespace Store

variable (s : Store)

/-! ## Queries -/

def getUserByID (id : Nat) : Option User := s.users.find? (·.id = id)

def getUserByName (name : String) : Option User := s.users.find? (·.name = name)

/-- `db.GetUser`. -/
def getUser : UserRef → Option User
  | .id id => s.getUserByID id
  | .name name => s.getUserByName name

def getRemoteSource (id : Nat) : Option RemoteSource := s.remoteSources.find? (·.id = id)

def getRemoteSourceByName (name : String) : Option RemoteSource :=
  s.remoteSources.find? (·.name = name)

/-- `db.GetLinkedAccount`, by the ID's text. -/
def getLinkedAccount (id : String) : Option LinkedAccount :=
  s.linkedAccounts.find? (toString ·.id = id)

def getLinkedAccountByRemoteUserIDandSource (remoteUserID : String) (remoteSourceID : Nat) :
    Option LinkedAccount :=
  s.linkedAccounts.find? fun la => la.remoteUserID = remoteUserID ∧ la.remoteSourceID = remoteSourceID

def getUserToken (userID : Nat) (tokenName : String) : Option UserToken :=
  s.userTokens.find? fun t => t.userID = userID ∧ t.name = tokenName

/-! ## Writes -/

/-- A new object ID, as `types.NewUser(tx)` and its siblings draw one. -/
def newID : Nat × Store := (s.nextId, { s with nextId := s.nextId + 1 })

def insertUser (u : User) : Store := { s with users := s.users ++ [u] }

def updateUser (u : User) : Store :=
  { s with users := s.users.map fun v => if v.id = u.id then u else v }

def deleteUser (id : Nat) : Store := { s with users := s.users.filter (·.id ≠ id) }

def insertProjectGroup (pg : ProjectGroup) : Store :=
  { s with projectGroups := s.projectGroups ++ [pg] }

def insertLinkedAccount (la : LinkedAccount) : Store :=
  { s with linkedAccounts := s.linkedAccounts ++ [la] }

def updateLinkedAccount (la : LinkedAccount) : Store :=
  { s with linkedAccounts := s.linkedAccounts.map fun l => if l.id = la.id then la else l }

def deleteLinkedAccount (id : Nat) : Store :=
  { s with linkedAccounts := s.linkedAccounts.filter (·.id ≠ id) }

def deleteLinkedAccountsByUserID (userID : Nat) : Store :=
  { s with linkedAccounts := s.linkedAccounts.filter (·.userID ≠ userID) }

def insertUserToken (t : UserToken) : Store := { s with userTokens := s.userTokens ++ [t] }

def deleteUserToken (id : Nat) : Store := { s with userTokens := s.userTokens.filter (·.id ≠ id) }

def deleteUserTokensByUserID (userID : Nat) : Store :=
  { s with userTokens := s.userTokens.filter (·.userID ≠ userID) }

def deleteOrgMembersByUserID (userID : Nat) : Store :=
  { s with orgMembers := s.orgMembers.filter (·.userID ≠ userID) }

def deleteOrgInvitationsByUserID (userID : Nat) : Store :=
  { s with orgInvitations := s.orgInvitations.filter (·.userID ≠ userID) }

end Store

end Agola.Configstore
