import Agola.Configstore.Frame
import Agola.Configstore.Listing
import Agola.Driver.Labels

/-!
# The read actions, and what the user rows look like along every run

`GetUserLinkedAccounts`, `GetUserTokens`, `GetUserOrgInvitations` and `GetUserOrg`
read the rows of one user. Along every run every such row names an existing user,
no user has two tokens of one name, a new user starts with no rows but its own
linked account, and a token or linked account created and deleted again leaves the
store as it was but for the ID counter.
-/

namespace Agola.Configstore

open Store

namespace Store

variable (s : Store) (userID : Nat)

/-- `db.GetUserLinkedAccounts`. -/
def getUserLinkedAccounts : List LinkedAccount := s.linkedAccounts.filter (·.userID = userID)

/-- `db.GetUserTokens`. -/
def getUserTokens : List UserToken := s.userTokens.filter (·.userID = userID)

/-- `db.GetOrgInvitationByUserID`. -/
def getOrgInvitationByUserID : List OrgInvitation := s.orgInvitations.filter (·.userID = userID)

end Store

/-- `ActionHandler.GetUserLinkedAccounts`. -/
def getUserLinkedAccounts (userRef : UserRef) (s : Store) : Except APIError (List LinkedAccount) := do
  if userRef = .name "" then throw (badRequest "user ref required")
  let some user := s.getUser userRef | throw (userNotFound userRef)
  pure (s.getUserLinkedAccounts user.id)

/-- `ActionHandler.GetUserTokens`. -/
def getUserTokens (userRef : UserRef) (s : Store) : Except APIError (List UserToken) := do
  if userRef = .name "" then throw (badRequest "user ref required")
  let some user := s.getUser userRef | throw (userNotFound userRef)
  pure (s.getUserTokens user.id)

/-- `ActionHandler.GetUserOrgInvitations`: unlike the other reads it does not
check for an empty reference. -/
def getUserOrgInvitations (userRef : UserRef) (s : Store) : Except APIError (List OrgInvitation) := do
  let some user := s.getUser userRef | throw (userNotFound userRef)
  pure (s.getOrgInvitationByUserID user.id)

/-- `ActionHandler.GetUserOrg`, over the database's `GetOrg` and `GetUserOrg`
queries; its errors are of kind `ErrNotExist`. -/
def getUserOrg (dbGetOrg : String → Option Organization)
    (dbGetUserOrg : Nat → Nat → Option DBUserOrg) (s : Store) (userRef : UserRef) (orgRef : String) :
    Except APIError UserOrg := do
  let some user := s.getUser userRef
    | throw ⟨.notExist, "user " ++ userRef.quote ++ " doesn't exist"⟩
  let some org := dbGetOrg orgRef
    | throw ⟨.notExist, "org " ++ quote orgRef ++ " doesn't exist"⟩
  let some dbUserOrg := dbGetUserOrg user.id org.id
    | throw ⟨.notExist, "user " ++ userRef.quote ++ " is not member of org " ++ quote orgRef⟩
  pure (userOrgResponse dbUserOrg)

variable {validateName : String → Bool} {s s' : Store} {userRef : UserRef} {user : User}

theorem getUserLinkedAccounts_eq (h1 : userRef ≠ .name "") (hu : s.getUser userRef = some user) :
    getUserLinkedAccounts userRef s = .ok (s.getUserLinkedAccounts user.id) := by
  simp [getUserLinkedAccounts, h1, hu]

theorem getUserTokens_eq (h1 : userRef ≠ .name "") (hu : s.getUser userRef = some user) :
    getUserTokens userRef s = .ok (s.getUserTokens user.id) := by
  simp [getUserTokens, h1, hu]

theorem getUserOrgInvitations_eq (hu : s.getUser userRef = some user) :
    getUserOrgInvitations userRef s = .ok (s.getOrgInvitationByUserID user.id) := by
  simp [getUserOrgInvitations, hu]

theorem getUserTokens_ok {ts : List UserToken} (h : getUserTokens userRef s = .ok ts) :
    ∃ user, s.getUser userRef = some user ∧ ts = s.getUserTokens user.id := by
  by_cases h1 : userRef = .name ""
  · simp [getUserTokens, h1] at h
  cases hu : s.getUser userRef with
  | none => simp [getUserTokens, h1, hu] at h
  | some user => exact ⟨user, rfl, by simpa [getUserTokens_eq h1 hu] using h.symm⟩

/-! ## Rows name existing users -/

/-- Every row that names a user names an existing one, and user IDs are below
the counter. -/
structure OwnersExist (s : Store) : Prop where
  linkedAccounts : ∀ la ∈ s.linkedAccounts, ∃ u ∈ s.users, u.id = la.userID
  userTokens : ∀ t ∈ s.userTokens, ∃ u ∈ s.users, u.id = t.userID
  orgMembers : ∀ m ∈ s.orgMembers, ∃ u ∈ s.users, u.id = m.userID
  orgInvitations : ∀ i ∈ s.orgInvitations, ∃ u ∈ s.users, u.id = i.userID
  ids_lt : ∀ u ∈ s.users, u.id < s.nextId

theorem OwnersExist.of_users (h : OwnersExist s)
    (hu : ∀ x, (∃ u ∈ s.users, u.id = x) → ∃ u ∈ s'.users, u.id = x)
    (hids : ∀ u ∈ s'.users, u.id < s'.nextId)
    (hla : ∀ la ∈ s'.linkedAccounts, la ∈ s.linkedAccounts ∨ ∃ u ∈ s'.users, u.id = la.userID)
    (ht : ∀ t ∈ s'.userTokens, t ∈ s.userTokens ∨ ∃ u ∈ s'.users, u.id = t.userID)
    (hm : s'.orgMembers = s.orgMembers) (hi : s'.orgInvitations = s.orgInvitations) :
    OwnersExist s' where
  linkedAccounts la hl := (hla la hl).elim (fun hl => hu _ (h.linkedAccounts la hl)) id
  userTokens t ht' := (ht t ht').elim (fun ht' => hu _ (h.userTokens t ht')) id
  orgMembers m hm' := hu _ (h.orgMembers m (hm ▸ hm'))
  orgInvitations i hi' := hu _ (h.orgInvitations i (hi ▸ hi'))
  ids_lt := hids

theorem OwnersExist.deleteUser (h : OwnersExist s) (uid : Nat) :
    OwnersExist (((((s.deleteOrgMembersByUserID uid).deleteOrgInvitationsByUserID uid
      ).deleteLinkedAccountsByUserID uid).deleteUserTokensByUserID uid).deleteUser uid) := by
  have hkeep : ∀ x, x ≠ uid → (∃ u ∈ s.users, u.id = x) →
      ∃ u ∈ s.users.filter (·.id ≠ uid), u.id = x := fun x hx ⟨u, hu, he⟩ =>
    ⟨u, List.mem_filter.mpr ⟨hu, by simpa [he] using hx⟩, he⟩
  refine ⟨fun la hl => ?_, fun t ht => ?_, fun m hm => ?_, fun i hi => ?_,
    fun u hu => h.ids_lt u (List.mem_filter.mp hu).1⟩
  all_goals
    simp only [Store.deleteUser, deleteUserTokensByUserID, deleteLinkedAccountsByUserID,
      deleteOrgInvitationsByUserID, deleteOrgMembersByUserID, List.mem_filter, ne_eq,
      decide_eq_true_eq] at *
  · exact hkeep _ hl.2 (h.linkedAccounts la hl.1)
  · exact hkeep _ ht.2 (h.userTokens t ht.1)
  · exact hkeep _ hm.2 (h.orgMembers m hm.1)
  · exact hkeep _ hi.2 (h.orgInvitations i hi.1)

theorem Op.apply_ownersExist (op : Op) (h : OwnersExist s) :
    OwnersExist (op.apply validateName s) := by
  have hsame : ∀ x, (∃ u ∈ s.users, u.id = x) → ∃ u ∈ s.users, u.id = x := fun _ => id
  cases op with
  | createUser req =>
    refine commit_preserves h fun u s' he => ?_
    obtain ⟨-, -, -, rfl, hs'⟩ := createUser_ok he
    have hu : ∀ x, (∃ v ∈ s.users, v.id = x) →
        ∃ v ∈ s.users ++ [⟨s.nextId, req.userName⟩], v.id = x :=
      fun x ⟨v, hv, he⟩ => ⟨v, List.mem_append_left _ hv, he⟩
    have hids (n : Nat) (hn : s.nextId < n) :
        ∀ v ∈ s.users ++ [⟨s.nextId, req.userName⟩], v.id < n :=
      fun v hv => (List.mem_append.mp hv).elim (fun hv => (h.ids_lt v hv).trans hn)
        fun hv => by rw [List.mem_singleton.mp hv]; exact hn
    rcases hs' with ⟨-, rfl⟩ | ⟨laReq, rs, -, -, rfl⟩
    · exact h.of_users hu (hids _ (by show s.nextId < s.nextId + 1 + 1; omega))
        (fun la hl => .inl hl) (fun t ht => .inl ht) rfl rfl
    · refine h.of_users hu (hids _ (by show s.nextId < s.nextId + 1 + 1 + 1; omega))
        (fun la hl => ?_) (fun t ht => .inl ht) rfl rfl
      rcases List.mem_append.mp hl with hl | hl
      · exact .inl hl
      · exact .inr ⟨_, List.mem_append_right _ (List.mem_singleton_self _), by
          rw [List.mem_singleton.mp hl]; rfl⟩
  | deleteUser userRef =>
    refine commit_preserves h fun _ s' he => ?_
    obtain ⟨user, -, rfl⟩ := deleteUser_ok he
    exact h.deleteUser user.id
  | updateUser req =>
    refine commit_preserves h fun u s' he => ?_
    obtain ⟨user, -, rfl, -⟩ := updateUser_ok he
    have hid : ∀ v, (if v.id = u.id then u else v).id = v.id := fun v => by split <;> simp_all
    refine h.of_users (fun x hx => (exists_id_map hid s.users x).mpr hx) (fun v hv => ?_)
      (fun la hl => .inl hl) (fun t ht => .inl ht) rfl rfl
    obtain ⟨v0, hv0, rfl⟩ := List.mem_map.mp hv
    exact (hid v0).symm ▸ h.ids_lt v0 hv0
  | createUserLA req =>
    refine commit_preserves h fun _ s' he => ?_
    obtain ⟨-, -, user, rs, hu, -, rfl, rfl⟩ := createUserLA_ok he
    refine h.of_users hsame (fun v hv => Nat.lt_succ_of_lt (h.ids_lt v hv)) (fun la hl => ?_)
      (fun t ht => .inl ht) rfl rfl
    rcases List.mem_append.mp hl with hl | hl
    · exact .inl hl
    · exact .inr ⟨user, getUser_mem hu, by rw [List.mem_singleton.mp hl]; rfl⟩
  | deleteUserLA userRef laID =>
    refine commit_preserves h fun _ s' he => ?_
    obtain ⟨-, -, user, la, -, -, -, rfl⟩ := deleteUserLA_ok he
    exact h.of_users hsame h.ids_lt (fun la hl => .inl (List.mem_filter.mp hl).1)
      (fun t ht => .inl ht) rfl rfl
  | updateUserLA req =>
    refine commit_preserves h fun _ s' he => ?_
    obtain ⟨-, user, la, rs, -, hla, -, -, rfl, rfl⟩ := updateUserLA_ok he
    refine h.of_users hsame h.ids_lt (fun l hl => ?_) (fun t ht => .inl ht) rfl rfl
    obtain ⟨l0, hl0, rfl⟩ := List.mem_map.mp hl
    split
    · exact .inr (h.linkedAccounts la (getLinkedAccount_mem hla))
    · exact .inl hl0
  | createUserToken userRef tokenName =>
    refine commit_preserves h fun _ s' he => ?_
    obtain ⟨-, -, user, hu, -, rfl, rfl⟩ := createUserToken_ok he
    refine h.of_users hsame (fun v hv => Nat.lt_succ_of_lt (h.ids_lt v hv)) (fun la hl => .inl hl)
      (fun t ht => ?_) rfl rfl
    rcases List.mem_append.mp ht with ht | ht
    · exact .inl ht
    · exact .inr ⟨user, getUser_mem hu, by rw [List.mem_singleton.mp ht]⟩
  | deleteUserToken userRef tokenName =>
    refine commit_preserves h fun _ s' he => ?_
    obtain ⟨-, -, user, t, -, -, rfl⟩ := deleteUserToken_ok he
    exact h.of_users hsame h.ids_lt (fun la hl => .inl hl)
      (fun t ht => .inl (List.mem_filter.mp ht).1) rfl rfl

/-- Along every run, every linked account, token, org membership and
invitation names an existing user: every insert names a user it found, and
`DeleteUser` deletes the user's rows together with it. -/
theorem runOps_ownersExist (ops : List Op) {s : Store} (h : OwnersExist s) :
    OwnersExist (runOps validateName s ops) :=
  runOps_invariant OwnersExist (fun _ => True) (fun op _ _ hs => op.apply_ownersExist hs) ops s
    (fun _ _ => trivial) h

/-- `alice` is created and deleted again: no row is left naming her. -/
theorem runOps_ownersExist_createThenDelete :
    OwnersExist emptyStore ∧ OwnersExist (runOps (fun _ => true) emptyStore createThenDelete) :=
  have h : OwnersExist emptyStore :=
    ⟨(fun _ h => nomatch h), (fun _ h => nomatch h), (fun _ h => nomatch h), (fun _ h => nomatch h),
      (fun _ h => nomatch h)⟩
  ⟨h, runOps_ownersExist createThenDelete h⟩

theorem filter_owner_nextId {α : Type} (h : OwnersExist s) (owner : α → Nat) {l : List α}
    (hl : ∀ r ∈ l, ∃ u ∈ s.users, u.id = owner r) : l.filter (owner · = s.nextId) = [] :=
  List.filter_eq_nil_iff.mpr fun r hr => by
    obtain ⟨u, hu, he⟩ := hl r hr
    have := h.ids_lt u hu
    simp only [decide_eq_true_eq]
    omega

/-- A user `CreateUser` adds starts with no token, no org invitation, and no
linked account but the one its request asked for: no row of a store whose rows
name existing users names the fresh ID, also when the name is that of a user
deleted before. -/
theorem createUser_starts_empty {req : CreateUserRequest} {u : User} (h : OwnersExist s)
    (he : createUser validateName req s = .ok (u, s')) :
    getUserTokens (.name req.userName) s' = .ok [] ∧
      getUserOrgInvitations (.name req.userName) s' = .ok [] ∧
      getUserLinkedAccounts (.name req.userName) s' =
        .ok (s'.linkedAccounts.drop s.linkedAccounts.length) := by
  obtain ⟨hname, -, hnone, rfl, hs'⟩ := createUser_ok he
  have h1 : UserRef.name req.userName ≠ .name "" := fun he => hname (UserRef.name.inj he)
  have hu : ∀ s' : Store, s'.users = s.users ++ [⟨s.nextId, req.userName⟩] →
      s'.getUser (.name req.userName) = some ⟨s.nextId, req.userName⟩ := fun s' hus => by
    simp only [Store.getUser, getUserByName] at hnone ⊢
    simp [hus, List.find?_append, hnone]
  have hT := filter_owner_nextId h UserToken.userID h.userTokens
  have hI := filter_owner_nextId h OrgInvitation.userID h.orgInvitations
  have hL := filter_owner_nextId h LinkedAccount.userID h.linkedAccounts
  rcases hs' with ⟨-, rfl⟩ | ⟨laReq, rs, -, -, rfl⟩
  · rw [getUserTokens_eq h1 (hu _ rfl), getUserOrgInvitations_eq (hu _ rfl),
      getUserLinkedAccounts_eq h1 (hu _ rfl)]
    simp only [Store.getUserTokens, Store.getOrgInvitationByUserID, Store.getUserLinkedAccounts,
      newID, insertUser, insertProjectGroup, hT, hI, hL, List.drop_length]
    trivial
  · rw [getUserTokens_eq h1 (hu _ rfl), getUserOrgInvitations_eq (hu _ rfl),
      getUserLinkedAccounts_eq h1 (hu _ rfl)]
    simp only [Store.getUserTokens, Store.getOrgInvitationByUserID, Store.getUserLinkedAccounts,
      newID, insertUser, insertProjectGroup, insertLinkedAccount, hT, hI, List.filter_append, hL,
      List.drop_left]
    simp [newLinkedAccount]

def aliceDeleted : Store :=
  { users := [⟨2, "bob"⟩], projectGroups := [⟨1, ⟨.user, 0⟩, .public⟩, ⟨3, ⟨.user, 2⟩, .public⟩],
    remoteSources := [], linkedAccounts := [], userTokens := [⟨4, 2, "ci"⟩], orgMembers := [],
    orgInvitations := [], nextId := 5 }

/-- A new `alice` does not get the rows of the deleted one, nor `bob`'s. -/
theorem createUser_starts_empty_aliceDeleted :
    OwnersExist aliceDeleted ∧ (∃ u s', createUser (fun _ => true) ⟨"alice", none⟩ aliceDeleted =
      .ok (u, s') ∧ getUserTokens (.name "alice") s' = .ok [] ∧
        getUserOrgInvitations (.name "alice") s' = .ok [] ∧
        getUserLinkedAccounts (.name "alice") s' = .ok (s'.linkedAccounts.drop 0)) :=
  have h : OwnersExist aliceDeleted := ⟨by decide, by decide, by decide, by decide, by decide⟩
  ⟨h, _, _, rfl, @createUser_starts_empty (fun _ => true) aliceDeleted _ ⟨"alice", none⟩ _ h rfl⟩

/-! ## Token names -/

/-- No user has two tokens of one name: the pair `GetUserToken` finds a token by
is a key. -/
def TokenNamesUnique (s : Store) : Prop := (s.userTokens.map fun t => (t.userID, t.name)).Nodup

theorem TokenNamesUnique.sublist (h : TokenNamesUnique s) (hs : s'.userTokens.Sublist s.userTokens) :
    TokenNamesUnique s' :=
  (hs.map _).nodup h

theorem TokenNamesUnique.insert (h : TokenNamesUnique s) {t : UserToken}
    (hnone : s.getUserToken t.userID t.name = none) (hs : s'.userTokens = s.userTokens ++ [t]) :
    TokenNamesUnique s' := by
  unfold TokenNamesUnique
  rw [hs, List.map_append, List.map_singleton]
  refine List.Nodup.append h (List.nodup_singleton _) (List.disjoint_singleton.mpr fun hm => ?_)
  obtain ⟨t', ht', he⟩ := List.mem_map.mp hm
  simp only [Prod.mk.injEq] at he
  simpa [he.1, he.2] using List.find?_eq_none.mp hnone t' ht'

theorem TokenNamesUnique.names_nodup (h : TokenNamesUnique s) (uid : Nat) :
    ((s.getUserTokens uid).map (·.name)).Nodup := by
  have hl : ((s.getUserTokens uid).map fun t => (t.userID, t.name)).Nodup :=
    ((List.filter_sublist _).map _).nodup h
  rw [List.map_congr_left (g := fun t => (uid, t.name)) fun t ht => by
    rw [of_decide_eq_true (List.mem_filter.mp ht).2]] at hl
  exact List.Nodup.of_map (Prod.mk uid) (by rwa [List.map_map])

theorem Op.apply_tokenNamesUnique (op : Op) (h : TokenNamesUnique s) :
    TokenNamesUnique (op.apply validateName s) := by
  have hrefl := List.Sublist.refl s.userTokens
  cases op with
  | createUser req =>
    refine commit_preserves h fun _ s' he => ?_
    obtain ⟨-, -, -, rfl, ⟨-, rfl⟩ | ⟨laReq, rs, -, -, rfl⟩⟩ := createUser_ok he <;>
      exact h.sublist hrefl
  | deleteUser userRef =>
    refine commit_preserves h fun _ s' he => ?_
    obtain ⟨user, -, rfl⟩ := deleteUser_ok he
    exact h.sublist (List.filter_sublist _)
  | updateUser req =>
    refine commit_preserves h fun _ s' he => ?_
    obtain ⟨user, -, rfl, -⟩ := updateUser_ok he
    exact h.sublist hrefl
  | createUserLA req =>
    refine commit_preserves h fun _ s' he => ?_
    obtain ⟨-, -, user, rs, -, -, rfl, rfl⟩ := createUserLA_ok he
    exact h.sublist hrefl
  | deleteUserLA userRef laID =>
    refine commit_preserves h fun _ s' he => ?_
    obtain ⟨-, -, user, la, -, -, -, rfl⟩ := deleteUserLA_ok he
    exact h.sublist hrefl
  | updateUserLA req =>
    refine commit_preserves h fun _ s' he => ?_
    obtain ⟨-, user, la, rs, -, -, -, -, rfl, rfl⟩ := updateUserLA_ok he
    exact h.sublist hrefl
  | createUserToken userRef tokenName =>
    refine commit_preserves h fun _ s' he => ?_
    obtain ⟨-, -, user, -, hnone, rfl, rfl⟩ := createUserToken_ok he
    exact h.insert hnone rfl
  | deleteUserToken userRef tokenName =>
    refine commit_preserves h fun _ s' he => ?_
    obtain ⟨-, -, user, t, -, -, rfl⟩ := deleteUserToken_ok he
    exact h.sublist (List.filter_sublist _)

/-- Along every run from a store where no user has two tokens of one name, no
user ever has two: `CreateUserToken` refuses a taken name and no action renames
a token. So `GetUserTokens` lists distinct names, and `DeleteUserToken` by name
means one token. -/
theorem runOps_tokenNamesUnique (ops : List Op) {s : Store} (h : TokenNamesUnique s) :
    TokenNamesUnique (runOps validateName s ops) ∧
      ∀ userRef ts, getUserTokens userRef (runOps validateName s ops) = .ok ts →
        (ts.map (·.name)).Nodup := by
  have hrun : TokenNamesUnique (runOps validateName s ops) := runOps_invariant _ (fun _ => True)
    (fun op _ _ hs => op.apply_tokenNamesUnique hs) ops s (fun _ _ => trivial) h
  refine ⟨hrun, fun userRef ts hts => ?_⟩
  obtain ⟨user, -, rfl⟩ := getUserTokens_ok hts
  exact hrun.names_nodup user.id

def tokenTwice : List Op :=
  [.createUser ⟨"alice", none⟩, .createUserToken (.name "alice") "ci",
    .createUserToken (.name "alice") "ci"]

theorem runOps_tokenNamesUnique_tokenTwice :
    TokenNamesUnique emptyStore ∧ TokenNamesUnique (runOps (fun _ => true) emptyStore tokenTwice) ∧
      ∀ userRef ts, getUserTokens userRef (runOps (fun _ => true) emptyStore tokenTwice) = .ok ts →
        (ts.map (·.name)).Nodup :=
  ⟨List.nodup_nil, runOps_tokenNamesUnique tokenTwice List.nodup_nil⟩

/-! ## Create, read, delete -/

theorem deleteUserToken_eq {tokenName : String} {t : UserToken} (h1 : userRef ≠ .name "")
    (h2 : tokenName ≠ "") (hu : s.getUser userRef = some user)
    (ht : s.getUserToken user.id tokenName = some t) :
    deleteUserToken userRef tokenName s = .ok ((), s.deleteUserToken t.id) := by
  simp [deleteUserToken, h1, h2, hu, ht]

theorem deleteUserLA_eq {laID : String} {la : LinkedAccount} (h1 : userRef ≠ .name "")
    (h2 : laID ≠ "") (hu : s.getUser userRef = some user) (hla : s.getLinkedAccount laID = some la)
    (howner : user.id = la.userID) :
    deleteUserLA userRef laID s = .ok ((), s.deleteLinkedAccount la.id) := by
  simp [deleteUserLA, h1, h2, hu, hla, howner]

/-- `CreateUserToken` then `DeleteUserToken` of the same user and name: the
token is listed after the tokens the user had, and the delete finds that token
and gives back the store as it was, with only the ID counter moved on. -/
theorem createUserToken_deleteUserToken {tokenName : String} {t : UserToken}
    (hk : ∀ t ∈ s.userTokens, t.id < s.nextId) (h : createUserToken userRef tokenName s = .ok (t, s')) :
    (∃ ts, getUserTokens userRef s = .ok ts ∧ getUserTokens userRef s' = .ok (ts ++ [t])) ∧
      deleteUserToken userRef tokenName s' = .ok ((), { s with nextId := s.nextId + 1 }) := by
  obtain ⟨h1, h2, user, hu, hnone, rfl, rfl⟩ := createUserToken_ok h
  have hu' : (s.newID.2.insertUserToken ⟨s.nextId, user.id, tokenName⟩).getUser userRef =
      some user := hu
  refine ⟨⟨_, getUserTokens_eq h1 hu, ?_⟩, ?_⟩
  · rw [getUserTokens_eq h1 hu']
    simp [Store.getUserTokens, newID, insertUserToken, List.filter_append]
  · have ht : (s.newID.2.insertUserToken ⟨s.nextId, user.id, tokenName⟩).getUserToken user.id
        tokenName = some ⟨s.nextId, user.id, tokenName⟩ := by
      simp only [getUserToken, Bool.decide_and] at hnone ⊢
      simp [newID, insertUserToken, List.find?_append, hnone]
    rw [deleteUserToken_eq h1 h2 hu' ht]
    simp only [Store.deleteUserToken, newID, insertUserToken, List.filter_append]
    rw [List.filter_eq_self.mpr fun t ht => by simpa using Nat.ne_of_lt (hk t ht)]
    simp

/-- `CreateUserLA` then `DeleteUserLA` of the same user by the new account's ID:
the account is listed after the user's accounts, and the delete finds it by the
text of its ID and gives back the store as it was, with only the ID counter
moved on. -/
theorem createUserLA_deleteUserLA {req : CreateUserLARequest} {la : LinkedAccount}
    (hk : ∀ l ∈ s.linkedAccounts, l.id < s.nextId) (h : createUserLA req s = .ok (la, s')) :
    (∃ las, getUserLinkedAccounts req.userRef s = .ok las ∧
        getUserLinkedAccounts req.userRef s' = .ok (las ++ [la])) ∧
      deleteUserLA req.userRef (toString la.id) s' = .ok ((), { s with nextId := s.nextId + 1 }) := by
  obtain ⟨h1, -, user, rs, hu, -, rfl, rfl⟩ := createUserLA_ok h
  have hu' : (s.newID.2.insertLinkedAccount (newLinkedAccount s.nextId user.id rs.id req)).getUser
      req.userRef = some user := hu
  refine ⟨⟨_, getUserLinkedAccounts_eq h1 hu, ?_⟩, ?_⟩
  · rw [getUserLinkedAccounts_eq h1 hu']
    simp [Store.getUserLinkedAccounts, newID, insertLinkedAccount, List.filter_append,
      newLinkedAccount]
  · have hla : (s.newID.2.insertLinkedAccount (newLinkedAccount s.nextId user.id rs.id req)
        ).getLinkedAccount (toString s.nextId) = some (newLinkedAccount s.nextId user.id rs.id req) := by
      have hnone : ∀ l ∈ s.linkedAccounts, toString l.id ≠ toString s.nextId := fun l hl he =>
        Nat.ne_of_lt (hk l hl) (Agola.Driver.toString_injective he)
      simp only [getLinkedAccount, newID, insertLinkedAccount, List.find?_append]
      rw [List.find?_eq_none.mpr fun l hl => by simpa using hnone l hl]
      simp [newLinkedAccount]
    show deleteUserLA req.userRef (toString s.nextId) _ = _
    rw [deleteUserLA_eq h1 (Agola.Driver.toString_ne_empty _) hu' hla rfl]
    simp only [Store.deleteLinkedAccount, newID, insertLinkedAccount, List.filter_append]
    rw [List.filter_eq_self.mpr fun l hl => by simpa using Nat.ne_of_lt (hk l hl)]
    simp [newLinkedAccount]

def aliceStore : Store :=
  { users := [⟨0, "alice"⟩], projectGroups := [⟨1, ⟨.user, 0⟩, .public⟩],
    remoteSources := [⟨2, "github"⟩], linkedAccounts := [], userTokens := [⟨3, 0, "ci"⟩],
    orgMembers := [], orgInvitations := [], nextId := 4 }

/-- `alice` adds a token `deploy` and deletes it again. -/
theorem createUserToken_deleteUserToken_deploy :
    (∀ t ∈ aliceStore.userTokens, t.id < aliceStore.nextId) ∧
      ∃ t s', createUserToken (.name "alice") "deploy" aliceStore = .ok (t, s') ∧
        (∃ ts, getUserTokens (.name "alice") aliceStore = .ok ts ∧
          getUserTokens (.name "alice") s' = .ok (ts ++ [t])) ∧
        deleteUserToken (.name "alice") "deploy" s' =
          .ok ((), { aliceStore with nextId := aliceStore.nextId + 1 }) :=
  have hk : ∀ t ∈ aliceStore.userTokens, t.id < aliceStore.nextId := by decide
  ⟨hk, _, _, rfl, createUserToken_deleteUserToken hk rfl⟩

/-- `alice` links her remote account and unlinks it again. -/
theorem createUserLA_deleteUserLA_github :
    (∀ l ∈ aliceStore.linkedAccounts, l.id < aliceStore.nextId) ∧
      ∃ la s', createUserLA (githubLogin "alice" "1") aliceStore = .ok (la, s') ∧
        (∃ las, getUserLinkedAccounts (.name "alice") aliceStore = .ok las ∧
          getUserLinkedAccounts (.name "alice") s' = .ok (las ++ [la])) ∧
        deleteUserLA (.name "alice") (toString la.id) s' =
          .ok ((), { aliceStore with nextId := aliceStore.nextId + 1 }) :=
  have hk : ∀ l ∈ aliceStore.linkedAccounts, l.id < aliceStore.nextId := fun _ h => nomatch h
  ⟨hk, _, _, rfl, @createUserLA_deleteUserLA aliceStore _ (githubLogin "alice" "1") _ hk rfl⟩

end Agola.Configstore
