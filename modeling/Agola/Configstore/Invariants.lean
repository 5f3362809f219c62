import Agola.Configstore.UserSpec

/-!
# Invariants of the user tables

Four properties the rest of the system reads the user tables by: a remote login
finds at most one linked account, through the pair of remote source and remote
user ID; user names are distinct, non-empty and valid names; linked accounts,
tokens and root project groups belong to existing users, one root project group
per user; and every linked account's remote source exists.
-/

namespace Agola.Configstore

/-- No two linked accounts share the pair `GetLinkedAccountByRemoteUserIDandSource`
looks a remote login up by. -/
def RemotePairsUnique (s : Store) : Prop :=
  (s.linkedAccounts.map fun la => (la.remoteSourceID, la.remoteUserID)).Nodup

/-- User names are distinct, non-empty and valid. -/
def NamesValid (validateName : String → Bool) (s : Store) : Prop :=
  (s.users.map (·.name)).Nodup ∧ ∀ u ∈ s.users, u.name ≠ "" ∧ validateName u.name = true

/-- Linked accounts and tokens belong to existing users, and each user ID has
one root project group if it is a user's and none otherwise. -/
def RefIntegrity (s : Store) : Prop :=
  (∀ la ∈ s.linkedAccounts, ∃ u ∈ s.users, u.id = la.userID) ∧
    (∀ t ∈ s.userTokens, ∃ u ∈ s.users, u.id = t.userID) ∧
    ∀ uid, (s.projectGroups.filter (·.parent = ⟨.user, uid⟩)).length =
      if ∃ u ∈ s.users, u.id = uid then 1 else 0

/-- Every linked account's remote source exists: the lookup `UpdateUserLA`
makes before it writes finds it. -/
def SourcesExist (s : Store) : Prop :=
  ∀ la ∈ s.linkedAccounts, (s.getRemoteSource la.remoteSourceID).isSome

/-! ## Runs do not depend on the validator beyond the names created -/

variable {validateName : String → Bool}

def createdNames : List Op → List String
  | [] => []
  | .createUser req :: ops => req.userName :: createdNames ops
  | _ :: ops => createdNames ops

theorem createUser_congr {validateName' : String → Bool} (req : CreateUserRequest) (s : Store)
    (h : validateName req.userName = validateName' req.userName) :
    createUser validateName req s = createUser validateName' req s := by
  simp only [createUser, h]

theorem runOps_congr (validateName' : String → Bool) : ∀ (ops : List Op) (s : Store),
    (∀ n ∈ createdNames ops, validateName n = validateName' n) →
      runOps validateName s ops = runOps validateName' s ops
  | [], _, _ => rfl
  | op :: ops, s, h => by
    have hop : op.apply validateName s = op.apply validateName' s := by
      cases op with
      | createUser req =>
        simp only [Op.apply, createUser_congr req s (h _ (List.mem_cons_self _ _))]
      | _ => rfl
    have hrest : ∀ n ∈ createdNames ops, validateName n = validateName' n := fun n hn =>
      h n (by cases op <;> simp [createdNames, hn])
    simp only [runOps, List.foldl_cons] at hop ⊢
    rw [hop]
    exact runOps_congr validateName' ops _ hrest

/-! ## Runs that keep the invariants

Each invariant is kept by every action but one: a step lemma per invariant,
one case per action, and `runOps_invariant` for whole runs. The runs of the next
section show that one action breaking it. -/

/-- A property every allowed action keeps holds after every run of allowed
actions. -/
theorem runOps_invariant (I : Store → Prop) (allowed : Op → Prop)
    (hstep : ∀ op s, allowed op → I s → I (op.apply validateName s)) :
    ∀ (ops : List Op) (s : Store), (∀ op ∈ ops, allowed op) → I s → I (runOps validateName s ops)
  | [], _, _, hs => hs
  | op :: ops, s, hops, hs =>
    runOps_invariant I allowed hstep ops _ (fun o ho => hops o (List.mem_cons_of_mem _ ho))
      (hstep op s (hops op (List.mem_cons_self _ _)) hs)

section Step

variable {s s' : Store}

theorem RemotePairsUnique.sublist (h : RemotePairsUnique s)
    (hs : s'.linkedAccounts.Sublist s.linkedAccounts) : RemotePairsUnique s' :=
  List.Nodup.sublist (hs.map _) h

theorem RemotePairsUnique.insert (la : LinkedAccount) (h : RemotePairsUnique s)
    (hnone : s.getLinkedAccountByRemoteUserIDandSource la.remoteUserID la.remoteSourceID = none)
    (hs : s'.linkedAccounts = s.linkedAccounts ++ [la]) : RemotePairsUnique s' := by
  unfold RemotePairsUnique
  rw [hs, List.map_append, List.map_singleton]
  refine List.Nodup.append h (List.nodup_singleton _) (List.disjoint_singleton.mpr fun hm => ?_)
  obtain ⟨la', hla', he⟩ := List.mem_map.mp hm
  simp only [Prod.mk.injEq] at he
  simpa [he.1, he.2] using List.find?_eq_none.mp hnone la' hla'

theorem Op.apply_remotePairsUnique (op : Op) (hop : ∀ req, op ≠ .updateUserLA req)
    (h : RemotePairsUnique s) : RemotePairsUnique (op.apply validateName s) := by
  cases op with
  | createUser req =>
    refine commit_preserves h fun _ s' he => ?_
    obtain ⟨-, -, -, -, ⟨-, rfl⟩ | ⟨laReq, rs, -, hrs, rfl⟩⟩ := createUser_ok he
    · exact h.sublist (List.Sublist.refl _)
    · exact h.insert (newLinkedAccount _ _ rs.id laReq) (checkRemoteSource_ok hrs).2 rfl
  | deleteUser userRef =>
    refine commit_preserves h fun _ s' he => ?_
    obtain ⟨user, -, rfl⟩ := deleteUser_ok he
    exact h.sublist (List.filter_sublist _)
  | updateUser req =>
    refine commit_preserves h fun _ s' he => ?_
    obtain ⟨user, -, rfl, -⟩ := updateUser_ok he
    exact h.sublist (List.Sublist.refl _)
  | createUserLA req =>
    refine commit_preserves h fun _ s' he => ?_
    obtain ⟨-, -, user, rs, -, hrs, rfl, rfl⟩ := createUserLA_ok he
    exact h.insert (newLinkedAccount _ _ rs.id req) (checkRemoteSource_ok hrs).2 rfl
  | deleteUserLA userRef laID =>
    refine commit_preserves h fun _ s' he => ?_
    obtain ⟨-, -, user, la, -, -, -, rfl⟩ := deleteUserLA_ok he
    exact h.sublist (List.filter_sublist _)
  | updateUserLA req => exact absurd rfl (hop req)
  | createUserToken userRef tokenName =>
    refine commit_preserves h fun _ s' he => ?_
    obtain ⟨-, -, user, -, -, rfl, rfl⟩ := createUserToken_ok he
    exact h.sublist (List.Sublist.refl _)
  | deleteUserToken userRef tokenName =>
    refine commit_preserves h fun _ s' he => ?_
    obtain ⟨-, -, user, t, -, -, rfl⟩ := deleteUserToken_ok he
    exact h.sublist (List.Sublist.refl _)

theorem NamesValid.sublist (h : NamesValid validateName s) (hs : s'.users.Sublist s.users) :
    NamesValid validateName s' :=
  ⟨h.1.sublist (hs.map _), fun u hu => h.2 u (hs.subset hu)⟩

theorem NamesValid.insert (u : User) (h : NamesValid validateName s) (hu : u.name ≠ "")
    (hv : validateName u.name = true) (hn : s.getUserByName u.name = none)
    (hs : s'.users = s.users ++ [u]) : NamesValid validateName s' := by
  refine ⟨?_, fun v hv' => ?_⟩
  · rw [hs, List.map_append, List.map_singleton]
    refine h.1.append (List.nodup_singleton _) (List.disjoint_singleton.mpr fun hm => ?_)
    obtain ⟨w, hw, he⟩ := List.mem_map.mp hm
    exact getUserByName_eq_none hn w hw he
  · rw [hs] at hv'
    rcases List.mem_append.mp hv' with hv' | hv'
    · exact h.2 v hv'
    · rw [List.mem_singleton.mp hv']
      exact ⟨hu, hv⟩

theorem Op.apply_namesValid (op : Op) (hop : ∀ req, op ≠ .updateUser req)
    (h : NamesValid validateName s) : NamesValid validateName (op.apply validateName s) := by
  cases op with
  | createUser req =>
    refine commit_preserves h fun _ s' he => ?_
    obtain ⟨h1, hv, hn, rfl, ⟨-, rfl⟩ | ⟨-, -, -, -, rfl⟩⟩ := createUser_ok he <;>
      exact h.insert ⟨s.nextId, req.userName⟩ h1 hv hn rfl
  | deleteUser userRef =>
    refine commit_preserves h fun _ s' he => ?_
    obtain ⟨user, -, rfl⟩ := deleteUser_ok he
    exact h.sublist (List.filter_sublist _)
  | updateUser req => exact absurd rfl (hop req)
  | createUserLA req =>
    refine commit_preserves h fun _ s' he => ?_
    obtain ⟨-, -, user, rs, -, -, rfl, rfl⟩ := createUserLA_ok he
    exact h.sublist (List.Sublist.refl _)
  | deleteUserLA userRef laID =>
    refine commit_preserves h fun _ s' he => ?_
    obtain ⟨-, -, user, la, -, -, -, rfl⟩ := deleteUserLA_ok he
    exact h.sublist (List.Sublist.refl _)
  | updateUserLA req =>
    refine commit_preserves h fun _ s' he => ?_
    obtain ⟨-, user, la, rs, -, -, -, -, -, rfl⟩ := updateUserLA_ok he
    exact h.sublist (List.Sublist.refl _)
  | createUserToken userRef tokenName =>
    refine commit_preserves h fun _ s' he => ?_
    obtain ⟨-, -, user, -, -, rfl, rfl⟩ := createUserToken_ok he
    exact h.sublist (List.Sublist.refl _)
  | deleteUserToken userRef tokenName =>
    refine commit_preserves h fun _ s' he => ?_
    obtain ⟨-, -, user, t, -, -, rfl⟩ := deleteUserToken_ok he
    exact h.sublist (List.Sublist.refl _)

/-- `RefIntegrity` together with what keeps it inductive: user IDs come from the
counter, so the ID a new user gets has no root project group yet. -/
structure RefsInv (s : Store) : Prop where
  refs : RefIntegrity s
  ids_lt : ∀ u ∈ s.users, u.id < s.nextId

theorem RefsInv.of_users (h : RefsInv s)
    (hu : ∀ x, (∃ u ∈ s'.users, u.id = x) ↔ ∃ u ∈ s.users, u.id = x)
    (hpg : s'.projectGroups = s.projectGroups) (hn : s.nextId ≤ s'.nextId)
    (hla : ∀ la ∈ s'.linkedAccounts, ∃ u ∈ s.users, u.id = la.userID)
    (ht : ∀ t ∈ s'.userTokens, ∃ u ∈ s.users, u.id = t.userID) : RefsInv s' := by
  obtain ⟨⟨-, -, hcount⟩, hids⟩ := h
  refine ⟨⟨fun la hl => (hu _).mpr (hla la hl), fun t ht' => (hu _).mpr (ht t ht'),
    fun uid => ?_⟩, fun u hu' => ?_⟩
  · rw [hpg, hcount uid]
    exact if_congr (hu uid).symm rfl rfl
  · obtain ⟨v, hv, he⟩ := (hu u.id).mp ⟨u, hu', rfl⟩
    exact lt_of_lt_of_le (he ▸ hids v hv) hn

theorem RefsInv.insertUser {n : String} {pg : ProjectGroup} (h : RefsInv s)
    (hu : s'.users = s.users ++ [User.mk s.nextId n])
    (hpg : s'.projectGroups = s.projectGroups ++ [pg]) (hparent : pg.parent = ⟨.user, s.nextId⟩)
    (hn : s.nextId < s'.nextId)
    (hla : ∀ la ∈ s'.linkedAccounts, la ∈ s.linkedAccounts ∨ la.userID = s.nextId)
    (ht : s'.userTokens = s.userTokens) : RefsInv s' := by
  obtain ⟨⟨hla0, ht0, hcount⟩, hids⟩ := h
  have hfresh : ¬ ∃ v ∈ s.users, v.id = s.nextId := fun ⟨v, hv, he⟩ => (hids v hv).ne he
  have hmem : ∀ x, (∃ v ∈ s'.users, v.id = x) ↔ (∃ v ∈ s.users, v.id = x) ∨ s.nextId = x := by
    simp [hu, or_and_right, exists_or]
  refine ⟨⟨fun la hl => (hmem _).mpr ((hla la hl).imp (hla0 la) Eq.symm),
    fun t ht' => (hmem _).mpr (.inl (ht0 t (ht ▸ ht'))), fun uid => ?_⟩, fun v hv => ?_⟩
  · rw [hpg, List.filter_append, List.length_append, hcount uid]
    by_cases hx : s.nextId = uid
    · subst hx
      simp [hfresh, hparent, hmem]
    · simp [hx, hparent, hmem]
  · rcases (hmem v.id).mp ⟨v, hv, rfl⟩ with ⟨w, hw, he⟩ | he
    · exact he ▸ (hids w hw).trans hn
    · exact he ▸ hn

theorem RefsInv.createUser {u : User} {req : CreateUserRequest} (h : RefsInv s)
    (he : createUser validateName req s = .ok (u, s')) : RefsInv s' := by
  obtain ⟨-, -, -, rfl, ⟨-, rfl⟩ | ⟨laReq, rs, -, -, rfl⟩⟩ := createUser_ok he
  · exact h.insertUser rfl rfl rfl (by show s.nextId < s.nextId + 1 + 1; omega)
      (fun la hl => .inl hl) rfl
  · refine h.insertUser rfl rfl rfl (by show s.nextId < s.nextId + 1 + 1 + 1; omega)
      (fun la hl => (List.mem_append.mp hl).imp id fun hl => ?_) rfl
    rw [List.mem_singleton.mp hl]
    rfl

theorem exists_id_map {f : User → User} (hf : ∀ v, (f v).id = v.id) (l : List User) (x : Nat) :
    (∃ v ∈ l.map f, v.id = x) ↔ ∃ v ∈ l, v.id = x := by
  simp [hf]

theorem Op.apply_refsInv (op : Op) (hop : ∀ userRef, op ≠ .deleteUser userRef) (h : RefsInv s) :
    RefsInv (op.apply validateName s) := by
  have ⟨⟨hla, ht, _⟩, _⟩ := h
  cases op with
  | createUser req => exact commit_preserves h fun _ s' he => h.createUser he
  | deleteUser userRef => exact absurd rfl (hop userRef)
  | updateUser req =>
    refine commit_preserves h fun u s' he => ?_
    obtain ⟨-, -, rfl, -⟩ := updateUser_ok he
    refine h.of_users (exists_id_map (fun v => ?_) _) rfl le_rfl hla ht
    by_cases hv : v.id = u.id <;> simp only [hv, if_true, if_false]
  | createUserLA req =>
    refine commit_preserves h fun _ s' he => ?_
    obtain ⟨-, -, user, rs, hu, -, rfl, rfl⟩ := createUserLA_ok he
    refine h.of_users (fun _ => Iff.rfl) rfl (Nat.le_succ _) (fun la hl => ?_) ht
    rcases List.mem_append.mp hl with hl | hl
    · exact hla la hl
    · rw [List.mem_singleton.mp hl]
      exact ⟨user, getUser_mem hu, rfl⟩
  | deleteUserLA userRef laID =>
    refine commit_preserves h fun _ s' he => ?_
    obtain ⟨-, -, user, la, -, -, -, rfl⟩ := deleteUserLA_ok he
    exact h.of_users (fun _ => Iff.rfl) rfl le_rfl (fun la hl => hla la (List.mem_filter.mp hl).1)
      ht
  | updateUserLA req =>
    refine commit_preserves h fun _ s' he => ?_
    obtain ⟨-, user, la, rs, -, hla', -, -, rfl, rfl⟩ := updateUserLA_ok he
    refine h.of_users (fun _ => Iff.rfl) rfl le_rfl (fun l hl => ?_) ht
    obtain ⟨l0, hl0, rfl⟩ := List.mem_map.mp hl
    split
    · exact hla la (getLinkedAccount_mem hla')
    · exact hla l0 hl0
  | createUserToken userRef tokenName =>
    refine commit_preserves h fun _ s' he => ?_
    obtain ⟨-, -, user, hu, -, rfl, rfl⟩ := createUserToken_ok he
    refine h.of_users (fun _ => Iff.rfl) rfl (Nat.le_succ _) hla fun t ht' => ?_
    rcases List.mem_append.mp ht' with ht' | ht'
    · exact ht t ht'
    · rw [List.mem_singleton.mp ht']
      exact ⟨user, getUser_mem hu, rfl⟩
  | deleteUserToken userRef tokenName =>
    refine commit_preserves h fun _ s' he => ?_
    obtain ⟨-, -, user, t, -, -, rfl⟩ := deleteUserToken_ok he
    exact h.of_users (fun _ => Iff.rfl) rfl le_rfl hla fun t ht' => ht t (List.mem_filter.mp ht').1

theorem getRemoteSource_isSome {rs : RemoteSource} (h : rs ∈ s.remoteSources) :
    (s.getRemoteSource rs.id).isSome :=
  List.find?_isSome.mpr ⟨rs, h, by simp⟩

theorem SourcesExist.of_sources (h : SourcesExist s) (hr : s'.remoteSources = s.remoteSources)
    (hla : ∀ la ∈ s'.linkedAccounts,
      la ∈ s.linkedAccounts ∨ (s.getRemoteSource la.remoteSourceID).isSome) :
    SourcesExist s' := fun la hl => by
  rw [show s'.getRemoteSource la.remoteSourceID = s.getRemoteSource la.remoteSourceID by
    simp only [Store.getRemoteSource, hr]]
  exact (hla la hl).elim (h la) id

theorem SourcesExist.insert (h : SourcesExist s) {req : CreateUserLARequest} {rs : RemoteSource}
    (hrs : checkRemoteSource s req = .ok rs) (la : LinkedAccount) (hla : la.remoteSourceID = rs.id)
    (hr : s'.remoteSources = s.remoteSources) (hs : s'.linkedAccounts = s.linkedAccounts ++ [la]) :
    SourcesExist s' := by
  refine h.of_sources hr fun l hl => ?_
  rw [hs] at hl
  rcases List.mem_append.mp hl with hl | hl
  · exact .inl hl
  · rw [List.mem_singleton.mp hl, hla]
    exact .inr (getRemoteSource_isSome (List.mem_of_find?_eq_some (checkRemoteSource_ok hrs).1))

theorem Op.apply_sourcesExist (op : Op) (h : SourcesExist s) :
    SourcesExist (op.apply validateName s) := by
  cases op with
  | createUser req =>
    refine commit_preserves h fun _ s' he => ?_
    obtain ⟨-, -, -, -, ⟨-, rfl⟩ | ⟨laReq, rs, -, hrs, rfl⟩⟩ := createUser_ok he
    · exact h.of_sources rfl fun la hl => .inl hl
    · exact h.insert hrs _ rfl rfl rfl
  | deleteUser userRef =>
    refine commit_preserves h fun _ s' he => ?_
    obtain ⟨user, -, rfl⟩ := deleteUser_ok he
    exact h.of_sources rfl fun la hl => .inl (List.mem_filter.mp hl).1
  | updateUser req =>
    refine commit_preserves h fun _ s' he => ?_
    obtain ⟨user, -, rfl, -⟩ := updateUser_ok he
    exact h.of_sources rfl fun la hl => .inl hl
  | createUserLA req =>
    refine commit_preserves h fun _ s' he => ?_
    obtain ⟨-, -, user, rs, -, hrs, rfl, rfl⟩ := createUserLA_ok he
    exact h.insert hrs _ rfl rfl rfl
  | deleteUserLA userRef laID =>
    refine commit_preserves h fun _ s' he => ?_
    obtain ⟨-, -, user, la, -, -, -, rfl⟩ := deleteUserLA_ok he
    exact h.of_sources rfl fun la hl => .inl (List.mem_filter.mp hl).1
  | updateUserLA req =>
    refine commit_preserves h fun _ s' he => ?_
    obtain ⟨-, user, la, rs, -, -, -, hrs, rfl, rfl⟩ := updateUserLA_ok he
    refine h.of_sources rfl fun l hl => ?_
    obtain ⟨l0, hl0, rfl⟩ := List.mem_map.mp hl
    split
    · exact .inr (by rw [hrs]; rfl)
    · exact .inl hl0
  | createUserToken userRef tokenName =>
    refine commit_preserves h fun _ s' he => ?_
    obtain ⟨-, -, user, -, -, rfl, rfl⟩ := createUserToken_ok he
    exact h.of_sources rfl fun la hl => .inl hl
  | deleteUserToken userRef tokenName =>
    refine commit_preserves h fun _ s' he => ?_
    obtain ⟨-, -, user, t, -, -, rfl⟩ := deleteUserToken_ok he
    exact h.of_sources rfl fun la hl => .inl hl

end Step

/-- Runs without `UpdateUserLA` keep remote logins distinct. -/
theorem runOps_remotePairsUnique (ops : List Op) (hops : ∀ op ∈ ops, ∀ req, op ≠ .updateUserLA req)
    {s : Store} (h : RemotePairsUnique s) : RemotePairsUnique (runOps validateName s ops) :=
  runOps_invariant RemotePairsUnique _ (fun op _ hop => op.apply_remotePairsUnique hop) ops s hops h

/-- Runs without `UpdateUser` keep the user names valid. -/
theorem runOps_namesValid (ops : List Op) (hops : ∀ op ∈ ops, ∀ req, op ≠ .updateUser req)
    {s : Store} (h : NamesValid validateName s) :
    NamesValid validateName (runOps validateName s ops) :=
  runOps_invariant (NamesValid validateName) _ (fun op _ hop => op.apply_namesValid hop) ops s hops
    h

/-- Runs without `DeleteUser` keep every reference to a user whole. -/
theorem runOps_refsInv (ops : List Op) (hops : ∀ op ∈ ops, ∀ userRef, op ≠ .deleteUser userRef)
    {s : Store} (h : RefsInv s) : RefsInv (runOps validateName s ops) :=
  runOps_invariant RefsInv _ (fun op _ hop => op.apply_refsInv hop) ops s hops h

/-- Every run keeps the remote source of every linked account, so the remote
source lookup of `UpdateUserLA` never fails. -/
theorem runOps_sourcesExist (ops : List Op) {s : Store} (h : SourcesExist s) :
    SourcesExist (runOps validateName s ops) :=
  runOps_invariant SourcesExist (fun _ => True) (fun op _ _ => op.apply_sourcesExist) ops s
    (fun _ _ => trivial) h

/-! ## Runs that break the invariants -/

def githubStore : Store :=
  { users := [], projectGroups := [], remoteSources := [⟨0, "github"⟩], linkedAccounts := [],
    userTokens := [], orgMembers := [], orgInvitations := [], nextId := 1 }

def githubLogin (user remoteUserID : String) : CreateUserLARequest :=
  { userRef := .name user, remoteSourceName := "github", remoteUserID := remoteUserID,
    remoteUserName := user, userAccessToken := "", oauth2AccessToken := "", oauth2RefreshToken := "",
    oauth2AccessTokenExpiresAt := 0 }

def bobTakesLogin : UpdateUserLARequest where
  userRef := .name "bob"
  linkedAccountID := "6"
  remoteUserID := "1"
  remoteUserName := "bob"
  userAccessToken := ""
  oauth2AccessToken := ""
  oauth2RefreshToken := ""
  oauth2AccessTokenExpiresAt := 0

/-- Two users with their own logins, remote users 1 and 2; then `bob` takes
`alice`'s. -/
def stealLogin : List Op :=
  [.createUser ⟨"alice", some (githubLogin "alice" "1")⟩,
   .createUser ⟨"bob", some (githubLogin "bob" "2")⟩, .updateUserLA bobTakesLogin]

/-- `UpdateUserLA` overwrites the remote user ID without the check both insert
paths make, so two linked accounts end up with one remote login. -/
theorem updateUserLA_duplicates_login (h : ∀ n ∈ ["alice", "bob"], validateName n = true) :
    RemotePairsUnique githubStore ∧ ¬ RemotePairsUnique (runOps validateName githubStore stealLogin) := by
  rw [runOps_congr (fun _ => true) _ _ (by simpa [createdNames, stealLogin] using h)]
  unfold RemotePairsUnique
  decide

theorem updateUserLA_duplicates_login_sample :
    (∀ n ∈ ["alice", "bob"], (fun _ => true : String → Bool) n = true) ∧
      RemotePairsUnique githubStore ∧
      ¬ RemotePairsUnique (runOps (fun _ => true) githubStore stealLogin) :=
  ⟨fun _ _ => rfl, updateUserLA_duplicates_login fun _ _ => rfl⟩

def emptyStore : Store :=
  { users := [], projectGroups := [], remoteSources := [], linkedAccounts := [], userTokens := [],
    orgMembers := [], orgInvitations := [], nextId := 0 }

def renameUser : List Op := [.createUser ⟨"alice", none⟩, .updateUser ⟨.name "alice", "bad name"⟩]

/-- `UpdateUser` checks only that the new name is free, so a name `CreateUser`
rejects gets stored. -/
theorem updateUser_stores_invalid_name (halice : validateName "alice" = true)
    (hbad : validateName "bad name" = false) :
    NamesValid validateName emptyStore ∧ ¬ NamesValid validateName (runOps validateName emptyStore renameUser) := by
  refine ⟨⟨List.nodup_nil, fun _ h => by cases h⟩, fun h => ?_⟩
  rw [runOps_congr (fun _ => true) _ _ (by simp [createdNames, renameUser, halice])]
    at h
  have hs : (runOps (fun _ => true) emptyStore renameUser).users = [⟨0, "bad name"⟩] := by decide
  have := (h.2 ⟨0, "bad name"⟩ (by rw [hs]; exact List.mem_singleton_self _)).2
  rw [hbad] at this
  cases this

theorem updateUser_stores_invalid_name_sample :
    (fun n => decide (n ≠ "bad name")) "alice" = true ∧ (fun n => decide (n ≠ "bad name")) "bad name" = false ∧
      NamesValid (fun n => decide (n ≠ "bad name")) emptyStore ∧
      ¬ NamesValid (fun n => decide (n ≠ "bad name")) (runOps (fun n => decide (n ≠ "bad name")) emptyStore renameUser) :=
  ⟨rfl, rfl, updateUser_stores_invalid_name rfl rfl⟩

def createThenDelete : List Op := [.createUser ⟨"alice", none⟩, .deleteUser (.name "alice")]

/-- `DeleteUser` removes the user's memberships, invitations, linked accounts and
tokens but not the root project group `CreateUser` made, which keeps pointing at
the deleted user. -/
theorem deleteUser_orphans_project_group (halice : validateName "alice" = true) :
    RefIntegrity emptyStore ∧ ¬ RefIntegrity (runOps validateName emptyStore createThenDelete) := by
  refine ⟨⟨(fun _ h => nomatch h), (fun _ h => nomatch h), fun _ => by simp [emptyStore]⟩,
    fun h => ?_⟩
  rw [runOps_congr (fun _ => true) _ _ (by simp [createdNames, createThenDelete, halice])]
    at h
  have hs : (runOps (fun _ => true) emptyStore createThenDelete).users = [] ∧
      (runOps (fun _ => true) emptyStore createThenDelete).projectGroups = [⟨1, ⟨.user, 0⟩, .public⟩] := by
    decide
  have := h.2.2 0
  rw [hs.1, hs.2] at this
  cases this

theorem deleteUser_orphans_project_group_sample :
    (fun _ => true : String → Bool) "alice" = true ∧ RefIntegrity emptyStore ∧
      ¬ RefIntegrity (runOps (fun _ => true) emptyStore createThenDelete) :=
  ⟨rfl, deleteUser_orphans_project_group rfl⟩

/-! ## Runs that keep the invariants -/

/-- Without the `UpdateUserLA`, `alice` and `bob` sign up with their own logins. -/
theorem runOps_remotePairsUnique_signups :
    (∀ op ∈ stealLogin.take 2, ∀ req, op ≠ .updateUserLA req) ∧ RemotePairsUnique githubStore ∧
      RemotePairsUnique (runOps (fun _ => true) githubStore (stealLogin.take 2)) :=
  have hops : ∀ op ∈ stealLogin.take 2, ∀ req, op ≠ .updateUserLA req := by simp [stealLogin]
  ⟨hops, List.nodup_nil, runOps_remotePairsUnique _ hops List.nodup_nil⟩

theorem runOps_namesValid_createThenDelete :
    (∀ op ∈ createThenDelete, ∀ req, op ≠ .updateUser req) ∧ NamesValid (fun _ => true) emptyStore ∧
      NamesValid (fun _ => true) (runOps (fun _ => true) emptyStore createThenDelete) :=
  have hops : ∀ op ∈ createThenDelete, ∀ req, op ≠ .updateUser req := by simp [createThenDelete]
  have h : NamesValid (fun _ => true) emptyStore := ⟨List.nodup_nil, fun _ h => nomatch h⟩
  ⟨hops, h, runOps_namesValid _ hops h⟩

/-- `bob` takes over `alice`'s login, but nobody is deleted: every reference to a
user stays whole. -/
theorem runOps_refsInv_stealLogin :
    (∀ op ∈ stealLogin, ∀ userRef, op ≠ .deleteUser userRef) ∧ RefsInv githubStore ∧
      RefsInv (runOps (fun _ => true) githubStore stealLogin) :=
  have hops : ∀ op ∈ stealLogin, ∀ userRef, op ≠ .deleteUser userRef := by simp [stealLogin]
  have h : RefsInv githubStore :=
    ⟨⟨(fun _ h => nomatch h), (fun _ h => nomatch h), fun _ => by simp [githubStore]⟩,
      fun _ h => nomatch h⟩
  ⟨hops, h, runOps_refsInv _ hops h⟩

/-- `bob` takes over `alice`'s login: the account he updates keeps its remote
source. -/
theorem runOps_sourcesExist_stealLogin :
    SourcesExist githubStore ∧ SourcesExist (runOps (fun _ => true) githubStore stealLogin) :=
  have h : SourcesExist githubStore := fun _ h => nomatch h
  ⟨h, runOps_sourcesExist stealLogin h⟩

end Agola.Configstore
