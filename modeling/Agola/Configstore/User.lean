import Agola.Configstore.Store

/-!
# The user actions

`ActionHandler`'s actions on users, linked accounts and user tokens, each the
body of its transaction: it reads the store, checks, and returns its result with
the store it writes, or an API error. `util.ValidateName` is not part of the
source and is a parameter.
-/

namespace Agola.Configstore

open Store

/-- `CreateUserLARequest`. -/
structure CreateUserLARequest where
  userRef : UserRef
  remoteSourceName : String
  remoteUserID : String
  remoteUserName : String
  userAccessToken : String
  oauth2AccessToken : String
  oauth2RefreshToken : String
  oauth2AccessTokenExpiresAt : Nat
  deriving DecidableEq, Repr

structure CreateUserRequest where
  userName : String
  createUserLARequest : Option CreateUserLARequest
  deriving DecidableEq, Repr

structure UpdateUserRequest where
  userRef : UserRef
  userName : String
  deriving DecidableEq, Repr

structure UpdateUserLARequest where
  userRef : UserRef
  linkedAccountID : String
  remoteUserID : String
  remoteUserName : String
  userAccessToken : String
  oauth2AccessToken : String
  oauth2RefreshToken : String
  oauth2AccessTokenExpiresAt : Nat
  deriving DecidableEq, Repr

/-- The message of a missing user. -/
def userNotFound (userRef : UserRef) : APIError :=
  badRequest ("user " ++ userRef.quote ++ " doesn't exist")

/-- The message of a linked account that is missing or belongs to another user. -/
def linkedAccountNotFound (laID : String) (userRef : UserRef) : APIError :=
  badRequest ("linked account id " ++ quote laID ++ " for user " ++ userRef.quote ++ " doesn't exist")

/-- The linked account `CreateUser` and `CreateUserLA` insert. -/
def newLinkedAccount (id userID remoteSourceID : Nat) (req : CreateUserLARequest) : LinkedAccount where
  id := id
  userID := userID
  remoteSourceID := remoteSourceID
  remoteUserID := req.remoteUserID
  remoteUserName := req.remoteUserName
  userAccessToken := req.userAccessToken
  oauth2AccessToken := req.oauth2AccessToken
  oauth2RefreshToken := req.oauth2RefreshToken
  oauth2AccessTokenExpiresAt := req.oauth2AccessTokenExpiresAt

variable (validateName : String → Bool)

/-- The remote source of a `CreateUserLARequest`, checked as `CreateUser` and
`CreateUserLA` check it: it exists and no linked account has the pair yet. -/
def checkRemoteSource (s : Store) (req : CreateUserLARequest) : Except APIError RemoteSource := do
  let some rs := s.getRemoteSourceByName req.remoteSourceName
    | throw (badRequest ("remote source " ++ quote req.remoteSourceName ++ " doesn't exist"))
  if (s.getLinkedAccountByRemoteUserIDandSource req.remoteUserID rs.id).isSome then
    throw (badRequest ("linked account for remote user id " ++ quote req.remoteUserID ++
      " for remote source " ++ quote req.remoteSourceName ++ " already exists"))
  pure rs

/-- `ActionHandler.CreateUser`: the user, its root project group, and the linked
account of the request if it has one. -/
def createUser (req : CreateUserRequest) (s : Store) : Except APIError (User × Store) := do
  if req.userName = "" then throw (badRequest "user name required")
  if !validateName req.userName then throw (badRequest ("invalid user name " ++ quote req.userName))
  if let some u := s.getUserByName req.userName then
    throw (badRequest ("user with name " ++ quote u.name ++ " already exists"))
  let rs? ← match req.createUserLARequest with
    | some laReq => some <$> checkRemoteSource s laReq
    | none => pure none
  let (userID, s) := s.newID
  let user : User := ⟨userID, req.userName⟩
  let s := s.insertUser user
  -- create root user project group
  let (pgID, s) := s.newID
  let s := s.insertProjectGroup ⟨pgID, ⟨.user, user.id⟩, .public⟩
  match req.createUserLARequest, rs? with
  | some laReq, some rs =>
    let (laID, s) := s.newID
    pure (user, s.insertLinkedAccount (newLinkedAccount laID user.id rs.id laReq))
  | _, _ => pure (user, s)

/-- `ActionHandler.DeleteUser`. -/
def deleteUser (userRef : UserRef) (s : Store) : Except APIError (Unit × Store) := do
  let some user := s.getUser userRef | throw (userNotFound userRef)
  let s := s.deleteOrgMembersByUserID user.id
  let s := s.deleteOrgInvitationsByUserID user.id
  let s := s.deleteLinkedAccountsByUserID user.id
  let s := s.deleteUserTokensByUserID user.id
  pure ((), s.deleteUser user.id)

/-- `ActionHandler.UpdateUser`. -/
def updateUser (req : UpdateUserRequest) (s : Store) : Except APIError (User × Store) := do
  let some user := s.getUser req.userRef | throw (userNotFound req.userRef)
  let user ← if req.userName ≠ "" then do
      if let some u := s.getUserByName req.userName then
        throw (badRequest ("user with name " ++ quote u.name ++ " already exists"))
      pure { user with name := req.userName }
    else pure user
  pure (user, s.updateUser user)

/-- `ActionHandler.CreateUserLA`. -/
def createUserLA (req : CreateUserLARequest) (s : Store) : Except APIError (LinkedAccount × Store) := do
  if req.userRef = .name "" then throw (badRequest "user ref required")
  if req.remoteSourceName = "" then throw (badRequest "remote source name required")
  let some user := s.getUser req.userRef | throw (userNotFound req.userRef)
  let rs ← checkRemoteSource s req
  let (laID, s) := s.newID
  let la := newLinkedAccount laID user.id rs.id req
  pure (la, s.insertLinkedAccount la)

/-- `ActionHandler.DeleteUserLA`. -/
def deleteUserLA (userRef : UserRef) (laID : String) (s : Store) : Except APIError (Unit × Store) := do
  if userRef = .name "" then throw (badRequest "user ref  required")
  if laID = "" then throw (badRequest "user linked account id required")
  let some user := s.getUser userRef | throw (userNotFound userRef)
  let some la := s.getLinkedAccount laID | throw (linkedAccountNotFound laID userRef)
  -- check that the linked account belongs to the right user
  if user.id ≠ la.userID then throw (linkedAccountNotFound laID userRef)
  pure ((), s.deleteLinkedAccount la.id)

/-- `ActionHandler.UpdateUserLA`. -/
def updateUserLA (req : UpdateUserLARequest) (s : Store) :
    Except APIError (LinkedAccount × Store) := do
  if req.userRef = .name "" then throw (badRequest "user ref required")
  let some user := s.getUser req.userRef | throw (userNotFound req.userRef)
  let some la := s.getLinkedAccount req.linkedAccountID
    | throw (linkedAccountNotFound req.linkedAccountID req.userRef)
  -- check that the linked account belongs to the right user
  if user.id ≠ la.userID then throw (linkedAccountNotFound req.linkedAccountID req.userRef)
  let some _ := s.getRemoteSource la.remoteSourceID
    | throw (badRequest ("remote source with id " ++ quote (toString la.remoteSourceID) ++
        " doesn't exist"))
  let la := { la with
    remoteUserID := req.remoteUserID
    remoteUserName := req.remoteUserName
    userAccessToken := req.userAccessToken
    oauth2AccessToken := req.oauth2AccessToken
    oauth2RefreshToken := req.oauth2RefreshToken
    oauth2AccessTokenExpiresAt := req.oauth2AccessTokenExpiresAt }
  pure (la, s.updateLinkedAccount la)

/-- `ActionHandler.CreateUserToken`. -/
def createUserToken (userRef : UserRef) (tokenName : String) (s : Store) :
    Except APIError (UserToken × Store) := do
  if userRef = .name "" then throw (badRequest "user ref required")
  if tokenName = "" then throw (badRequest "token name required")
  let some user := s.getUser userRef | throw (userNotFound userRef)
  if (s.getUserToken user.id tokenName).isSome then
    throw (badRequest ("token " ++ quote tokenName ++ " for user " ++ userRef.quote ++ " already exists"))
  let (id, s) := s.newID
  let token : UserToken := ⟨id, user.id, tokenName⟩
  pure (token, s.insertUserToken token)

/-- `ActionHandler.DeleteUserToken`. -/
def deleteUserToken (userRef : UserRef) (tokenName : String) (s : Store) :
    Except APIError (Unit × Store) := do
  if userRef = .name "" then throw (badRequest "user ref required")
  if tokenName = "" then throw (badRequest "token name required")
  let some user := s.getUser userRef | throw (userNotFound userRef)
  let some userToken := s.getUserToken user.id tokenName
    | throw (badRequest ("token " ++ quote tokenName ++ " for user " ++ userRef.quote ++ " doesn't exist"))
  pure ((), s.deleteUserToken userToken.id)

/-! ## Transactions -/

/-- The actions that write the user tables. -/
inductive Op
  | createUser (req : CreateUserRequest)
  | deleteUser (userRef : UserRef)
  | updateUser (req : UpdateUserRequest)
  | createUserLA (req : CreateUserLARequest)
  | deleteUserLA (userRef : UserRef) (laID : String)
  | updateUserLA (req : UpdateUserLARequest)
  | createUserToken (userRef : UserRef) (tokenName : String)
  | deleteUserToken (userRef : UserRef) (tokenName : String)
  deriving DecidableEq, Repr

/-- A transaction's outcome: what the action wrote if it succeeded, the store as
it was if it failed. -/
def commit {α : Type} (s : Store) : Except APIError (α × Store) → Store
  | .ok (_, s') => s'
  | .error _ => s

/-- The store after one action in its own transaction. -/
def Op.apply (s : Store) : Op → Store
  | .createUser req => commit s (Configstore.createUser validateName req s)
  | .deleteUser userRef => commit s (Configstore.deleteUser userRef s)
  | .updateUser req => commit s (Configstore.updateUser req s)
  | .createUserLA req => commit s (Configstore.createUserLA req s)
  | .deleteUserLA userRef laID => commit s (Configstore.deleteUserLA userRef laID s)
  | .updateUserLA req => commit s (Configstore.updateUserLA req s)
  | .createUserToken userRef tokenName => commit s (Configstore.createUserToken userRef tokenName s)
  | .deleteUserToken userRef tokenName => commit s (Configstore.deleteUserToken userRef tokenName s)

/-- The store after a sequence of actions. -/
def runOps (s : Store) (ops : List Op) : Store := ops.foldl (Op.apply validateName) s

end Agola.Configstore
