import Agola.Configstore.Invariants

/-!
# What a request naming one user can write

`UpdateUserLA`, `DeleteUserLA` and `DeleteUserToken` name a user and a row of
that user. Each either fails, and its transaction leaves the store as it was,
or the row belongs to the named user and the action changes that one row:
`UpdateUserLA` keeps its owner and its remote source. So no such request
touches the rows of another user.

Row IDs are primary keys (`PrimaryKeys`), so "that one row" is the row with
that ID. The model draws IDs from the counter, and every action keeps them
distinct and below it (`KeysUnique`, `runOps_keysUnique`).
-/

namespace Agola.Configstore

open Store

variable {validateName : String → Bool} {s s' : Store}

/-- Linked account and token IDs are primary keys: no two rows of a table share
one. -/
structure PrimaryKeys (s : Store) : Prop where
  linkedAccounts_nodup : (s.linkedAccounts.map (·.id)).Nodup
  userTokens_nodup : (s.userTokens.map (·.id)).Nodup

/-- Linked account and token IDs are primary keys, drawn from the counter. -/
structure KeysUnique (s : Store) : Prop where
  linkedAccounts_nodup : (s.linkedAccounts.map (·.id)).Nodup
  userTokens_nodup : (s.userTokens.map (·.id)).Nodup
  linkedAccounts_lt : ∀ la ∈ s.linkedAccounts, la.id < s.nextId
  userTokens_lt : ∀ t ∈ s.userTokens, t.id < s.nextId

theorem KeysUnique.primaryKeys (hk : KeysUnique s) : PrimaryKeys s :=
  ⟨hk.linkedAccounts_nodup, hk.userTokens_nodup⟩

/-! ## Rows addressed by a primary key -/

section Keyed

variable {α : Type} [DecidableEq α] (key : α → Nat) {l : List α} {a b : α}

theorem filter_key_ne_eq_erase (h : (l.map key).Nodup) (ha : a ∈ l) :
    l.filter (fun x => key x ≠ key a) = l.erase a := by
  rw [(h.of_map key).erase_eq_filter]
  refine List.filter_congr fun x hx => ?_
  have hkey : key x = key a ↔ x = a :=
    ⟨List.inj_on_of_nodup_map h hx ha, fun he => he ▸ rfl⟩
  by_cases hxa : x = a <;> simp [hxa, hkey]

theorem map_key_eq_replace (h : (l.map key).Nodup) (ha : a ∈ l) :
    l.map (fun x => if key x = key a then b else x) = l.replace a b := by
  induction l with
  | nil => cases ha
  | cons x l ih =>
    rw [List.map_cons, List.nodup_cons] at h
    by_cases hx : x = a
    · subst hx
      have hrest : ∀ y ∈ l, key y ≠ key x := fun y hy he => h.1 (he ▸ List.mem_map_of_mem key hy)
      simp only [List.map_cons, if_true, List.replace_cons, beq_self_eq_true]
      rw [List.map_congr_left fun y hy => if_neg (hrest y hy), List.map_id']
    · have hkey : key x ≠ key a := fun he =>
        h.1 (he ▸ List.mem_map_of_mem key ((List.mem_cons.mp ha).resolve_left (Ne.symm hx)))
      simp only [List.map_cons, hkey, if_false, List.replace_cons, beq_false_of_ne (Ne.symm hx),
        ih h.2 ((List.mem_cons.mp ha).resolve_left (Ne.symm hx))]

end Keyed

theorem filter_erase_of_not {α : Type} [DecidableEq α] (p : α → Bool) {a : α} (ha : p a = false) :
    ∀ l : List α, (l.erase a).filter p = l.filter p
  | [] => rfl
  | x :: l => by
    by_cases hx : x = a
    · subst hx
      simp [ha]
    · simp only [List.erase_cons, beq_false_of_ne hx, Bool.false_eq_true, if_false,
        List.filter_cons, filter_erase_of_not p ha l]

theorem filter_replace_of_not {α : Type} [DecidableEq α] (p : α → Bool) {a b : α}
    (ha : p a = false) (hb : p b = false) :
    ∀ l : List α, (l.replace a b).filter p = l.filter p
  | [] => rfl
  | x :: l => by
    by_cases hx : x = a
    · subst hx
      simp [List.replace_cons, ha, hb]
    · simp only [List.replace_cons, beq_false_of_ne (Ne.symm hx), List.filter_cons,
        filter_replace_of_not p ha hb l]

theorem getUserToken_spec {userID : Nat} {tokenName : String} {t : UserToken}
    (h : s.getUserToken userID tokenName = some t) :
    t ∈ s.userTokens ∧ t.userID = userID ∧ t.name = tokenName := by
  have hp := List.find?_some h
  simp only [decide_eq_true_eq] at hp
  exact ⟨List.mem_of_find?_eq_some h, hp⟩

/-! ## Row IDs stay primary keys -/

theorem nodup_append_fresh {α : Type} (key : α → Nat) {l : List α} {n : Nat} {x : α}
    (h : (l.map key).Nodup) (hlt : ∀ y ∈ l, key y < n) (hx : n ≤ key x) :
    ((l ++ [x]).map key).Nodup := by
  rw [List.map_append, List.map_singleton]
  refine h.append (List.nodup_singleton _) (List.disjoint_singleton.mpr fun hm => ?_)
  obtain ⟨y, hy, he⟩ := List.mem_map.mp hm
  exact absurd (hlt y hy) (by omega)

theorem KeysUnique.of_sublist (hk : KeysUnique s)
    (hla : s'.linkedAccounts.Sublist s.linkedAccounts) (ht : s'.userTokens.Sublist s.userTokens)
    (hn : s.nextId ≤ s'.nextId) : KeysUnique s' where
  linkedAccounts_nodup := hk.linkedAccounts_nodup.sublist (hla.map _)
  userTokens_nodup := hk.userTokens_nodup.sublist (ht.map _)
  linkedAccounts_lt la hl := lt_of_lt_of_le (hk.linkedAccounts_lt la (hla.subset hl)) hn
  userTokens_lt t ht' := lt_of_lt_of_le (hk.userTokens_lt t (ht.subset ht')) hn

theorem KeysUnique.insertLinkedAccount (hk : KeysUnique s) {la : LinkedAccount}
    (hla : s'.linkedAccounts = s.linkedAccounts ++ [la]) (ht : s'.userTokens = s.userTokens)
    (hid : s.nextId ≤ la.id) (hn : la.id < s'.nextId) : KeysUnique s' where
  linkedAccounts_nodup := hla ▸ nodup_append_fresh _ hk.linkedAccounts_nodup hk.linkedAccounts_lt hid
  userTokens_nodup := ht ▸ hk.userTokens_nodup
  linkedAccounts_lt l hl := by
    rw [hla] at hl
    rcases List.mem_append.mp hl with hl | hl
    · exact lt_of_lt_of_le (hk.linkedAccounts_lt l hl) (by omega)
    · rw [List.mem_singleton.mp hl]
      exact hn
  userTokens_lt t ht' := lt_of_lt_of_le (hk.userTokens_lt t (ht ▸ ht')) (by omega)

theorem Op.apply_keysUnique (op : Op) (hk : KeysUnique s) :
    KeysUnique (op.apply validateName s) := by
  cases op with
  | createUser req =>
    refine commit_preserves hk fun _ s' he => ?_
    obtain ⟨-, -, -, rfl, ⟨-, rfl⟩ | ⟨laReq, rs, -, -, rfl⟩⟩ := createUser_ok he
    · exact hk.of_sublist (List.Sublist.refl _) (List.Sublist.refl _) (by
        show s.nextId ≤ s.nextId + 1 + 1; omega)
    · exact hk.insertLinkedAccount rfl rfl (by show s.nextId ≤ s.nextId + 2; omega) (by
        show s.nextId + 2 < s.nextId + 1 + 1 + 1; omega)
  | deleteUser userRef =>
    refine commit_preserves hk fun _ s' he => ?_
    obtain ⟨user, -, rfl⟩ := deleteUser_ok he
    exact hk.of_sublist (List.filter_sublist _) (List.filter_sublist _) le_rfl
  | updateUser req =>
    refine commit_preserves hk fun _ s' he => ?_
    obtain ⟨user, -, rfl, -⟩ := updateUser_ok he
    exact hk.of_sublist (List.Sublist.refl _) (List.Sublist.refl _) le_rfl
  | createUserLA req =>
    refine commit_preserves hk fun _ s' he => ?_
    obtain ⟨-, -, user, rs, -, -, rfl, rfl⟩ := createUserLA_ok he
    exact hk.insertLinkedAccount rfl rfl le_rfl (Nat.lt_succ_self _)
  | deleteUserLA userRef laID =>
    refine commit_preserves hk fun _ s' he => ?_
    obtain ⟨-, -, user, la, -, -, -, rfl⟩ := deleteUserLA_ok he
    exact hk.of_sublist (List.filter_sublist _) (List.Sublist.refl _) le_rfl
  | updateUserLA req =>
    refine commit_preserves hk fun la' s' he => ?_
    obtain ⟨-, user, la, rs, -, -, -, -, -, rfl⟩ := updateUserLA_ok he
    have hids : (s.updateLinkedAccount la').linkedAccounts.map (·.id) =
        s.linkedAccounts.map (·.id) := by
      simp only [updateLinkedAccount, List.map_map]
      exact List.map_congr_left fun l _ => by by_cases hl : l.id = la'.id <;> simp [hl]
    refine ⟨hids ▸ hk.linkedAccounts_nodup, hk.userTokens_nodup, fun l hl => ?_,
      hk.userTokens_lt⟩
    obtain ⟨l0, hl0, rfl⟩ := List.mem_map.mp hl
    have := hk.linkedAccounts_lt l0 hl0
    by_cases he : l0.id = la'.id
    · simp only [he, if_true]
      exact he ▸ this
    · simpa only [he, if_false] using this
  | createUserToken userRef tokenName =>
    refine commit_preserves hk fun _ s' he => ?_
    obtain ⟨-, -, user, -, -, rfl, rfl⟩ := createUserToken_ok he
    refine ⟨hk.linkedAccounts_nodup, nodup_append_fresh _ hk.userTokens_nodup hk.userTokens_lt le_rfl,
      fun la hl => Nat.lt_succ_of_lt (hk.linkedAccounts_lt la hl), fun t ht => ?_⟩
    rcases List.mem_append.mp ht with ht | ht
    · exact Nat.lt_succ_of_lt (hk.userTokens_lt t ht)
    · rw [List.mem_singleton.mp ht]
      exact Nat.lt_succ_self _
  | deleteUserToken userRef tokenName =>
    refine commit_preserves hk fun _ s' he => ?_
    obtain ⟨-, -, user, t, -, -, rfl⟩ := deleteUserToken_ok he
    exact hk.of_sublist (List.Sublist.refl _) (List.filter_sublist _) le_rfl

theorem runOps_keysUnique (ops : List Op) {s : Store} (hk : KeysUnique s) :
    KeysUnique (runOps validateName s ops) :=
  runOps_invariant KeysUnique (fun _ => True) (fun op _ _ hs => op.apply_keysUnique hs) ops s
    (fun _ _ => trivial) hk

/-! ## One action at a time -/

theorem updateUserLA_frame (hk : PrimaryKeys s) (req : UpdateUserLARequest) :
    ((∃ e, updateUserLA req s = .error e) ∧ (Op.updateUserLA req).apply validateName s = s) ∨
      ∃ user la la', s.getUser req.userRef = some user ∧
        s.getLinkedAccount req.linkedAccountID = some la ∧ la.userID = user.id ∧
        la'.id = la.id ∧ la'.userID = la.userID ∧ la'.remoteSourceID = la.remoteSourceID ∧
        (Op.updateUserLA req).apply validateName s =
          { s with linkedAccounts := s.linkedAccounts.replace la la' } := by
  cases h : updateUserLA req s with
  | error e => exact .inl ⟨⟨e, rfl⟩, by simp only [Op.apply, commit, h]⟩
  | ok r =>
    obtain ⟨la', s'⟩ := r
    obtain ⟨-, user, la, rs, hu, hla, hid, -, hla', rfl⟩ := updateUserLA_ok h
    refine .inr ⟨user, la, la', hu, hla, hid.symm, hla' ▸ rfl, hla' ▸ rfl, hla' ▸ rfl, ?_⟩
    simp only [Op.apply, commit, h]
    have hid' : la'.id = la.id := hla' ▸ rfl
    simp only [updateLinkedAccount, hid']
    rw [map_key_eq_replace LinkedAccount.id hk.linkedAccounts_nodup (getLinkedAccount_mem hla)]

theorem deleteUserLA_frame (hk : PrimaryKeys s) (userRef : UserRef) (laID : String) :
    ((∃ e, deleteUserLA userRef laID s = .error e) ∧
        (Op.deleteUserLA userRef laID).apply validateName s = s) ∨
      ∃ user la, s.getUser userRef = some user ∧ s.getLinkedAccount laID = some la ∧
        la.userID = user.id ∧
        (Op.deleteUserLA userRef laID).apply validateName s =
          { s with linkedAccounts := s.linkedAccounts.erase la } := by
  cases h : deleteUserLA userRef laID s with
  | error e => exact .inl ⟨⟨e, rfl⟩, by simp only [Op.apply, commit, h]⟩
  | ok r =>
    obtain ⟨x, s'⟩ := r
    obtain ⟨-, -, user, la, hu, hla, hid, rfl⟩ := deleteUserLA_ok h
    refine .inr ⟨user, la, hu, hla, hid.symm, ?_⟩
    simp only [Op.apply, commit, h, deleteLinkedAccount]
    rw [filter_key_ne_eq_erase LinkedAccount.id hk.linkedAccounts_nodup (getLinkedAccount_mem hla)]

theorem deleteUserToken_frame (hk : PrimaryKeys s) (userRef : UserRef) (tokenName : String) :
    ((∃ e, deleteUserToken userRef tokenName s = .error e) ∧
        (Op.deleteUserToken userRef tokenName).apply validateName s = s) ∨
      ∃ user t, s.getUser userRef = some user ∧ t ∈ s.userTokens ∧ t.userID = user.id ∧
        t.name = tokenName ∧
        (Op.deleteUserToken userRef tokenName).apply validateName s =
          { s with userTokens := s.userTokens.erase t } := by
  cases h : deleteUserToken userRef tokenName s with
  | error e => exact .inl ⟨⟨e, rfl⟩, by simp only [Op.apply, commit, h]⟩
  | ok r =>
    obtain ⟨x, s'⟩ := r
    obtain ⟨-, -, user, t, hu, ht, rfl⟩ := deleteUserToken_ok h
    obtain ⟨hmem, howner, hname⟩ := getUserToken_spec ht
    refine .inr ⟨user, t, hu, hmem, howner, hname, ?_⟩
    simp only [Op.apply, commit, h, Store.deleteUserToken]
    rw [filter_key_ne_eq_erase UserToken.id hk.userTokens_nodup hmem]

/-! ## Other users' rows -/

def Store.rowsOf (s : Store) (uid : Nat) : List LinkedAccount × List UserToken :=
  (s.linkedAccounts.filter (·.userID = uid), s.userTokens.filter (·.userID = uid))

def Op.rowOwnerRef : Op → Option UserRef
  | .updateUserLA req => some req.userRef
  | .deleteUserLA userRef _ => some userRef
  | .deleteUserToken userRef _ => some userRef
  | _ => none

theorem Op.apply_rowsOf (hk : PrimaryKeys s) {op : Op} {userRef : UserRef}
    (hop : op.rowOwnerRef = some userRef) {uid : Nat}
    (hother : ∀ user, s.getUser userRef = some user → user.id ≠ uid) :
    (op.apply validateName s).rowsOf uid = s.rowsOf uid := by
  cases op with
  | updateUserLA req =>
    cases Option.some.inj hop
    rcases @updateUserLA_frame validateName _ hk req with
      ⟨-, h⟩ | ⟨user, la, la', hu, -, howner, -, hu', -, h⟩
    · rw [h]
    · have hla : decide (la.userID = uid) = false := decide_eq_false (howner ▸ hother user hu)
      simp only [h, Store.rowsOf, filter_replace_of_not (fun l : LinkedAccount => decide
        (l.userID = uid)) hla (show decide (la'.userID = uid) = false by rw [hu']; exact hla)]
  | deleteUserLA userRef laID =>
    cases Option.some.inj hop
    rcases @deleteUserLA_frame validateName _ hk userRef laID with
      ⟨-, h⟩ | ⟨user, la, hu, -, howner, h⟩
    · rw [h]
    · simp only [h, Store.rowsOf, filter_erase_of_not (fun l : LinkedAccount => decide
        (l.userID = uid)) (decide_eq_false (howner ▸ hother user hu))]
  | deleteUserToken userRef tokenName =>
    cases Option.some.inj hop
    rcases @deleteUserToken_frame validateName _ hk userRef tokenName with
      ⟨-, h⟩ | ⟨user, t, hu, -, howner, -, h⟩
    · rw [h]
    · simp only [h, Store.rowsOf, filter_erase_of_not (fun t : UserToken => decide
        (t.userID = uid)) (decide_eq_false (howner ▸ hother user hu))]
  | _ => cases hop

/-- The writes of the three requests that name a user and one of its rows: each
fails and leaves the store as it was, or the row belongs to the named user and
the request writes that row only, `UpdateUserLA` keeping its owner and remote
source; so none of them changes the rows of another user. -/
def RowWritesOwned (validateName : String → Bool) (s : Store) : Prop :=
  (∀ req : UpdateUserLARequest,
    ((∃ e, updateUserLA req s = .error e) ∧ (Op.updateUserLA req).apply validateName s = s) ∨
      ∃ user la la', s.getUser req.userRef = some user ∧
        s.getLinkedAccount req.linkedAccountID = some la ∧ la.userID = user.id ∧
        la'.id = la.id ∧ la'.userID = la.userID ∧ la'.remoteSourceID = la.remoteSourceID ∧
        (Op.updateUserLA req).apply validateName s =
          { s with linkedAccounts := s.linkedAccounts.replace la la' }) ∧
  (∀ userRef laID,
    ((∃ e, deleteUserLA userRef laID s = .error e) ∧
        (Op.deleteUserLA userRef laID).apply validateName s = s) ∨
      ∃ user la, s.getUser userRef = some user ∧ s.getLinkedAccount laID = some la ∧
        la.userID = user.id ∧
        (Op.deleteUserLA userRef laID).apply validateName s =
          { s with linkedAccounts := s.linkedAccounts.erase la }) ∧
  (∀ userRef tokenName,
    ((∃ e, deleteUserToken userRef tokenName s = .error e) ∧
        (Op.deleteUserToken userRef tokenName).apply validateName s = s) ∨
      ∃ user t, s.getUser userRef = some user ∧ t ∈ s.userTokens ∧ t.userID = user.id ∧
        t.name = tokenName ∧
        (Op.deleteUserToken userRef tokenName).apply validateName s =
          { s with userTokens := s.userTokens.erase t }) ∧
  ∀ (op : Op) (userRef : UserRef) (uid : Nat), op.rowOwnerRef = some userRef →
    (∀ user, s.getUser userRef = some user → user.id ≠ uid) →
    (op.apply validateName s).rowsOf uid = s.rowsOf uid

/-- In every store whose row IDs are primary keys, the three requests write
only a row of the user they name. -/
theorem rowWritesOwned (hk : PrimaryKeys s) : RowWritesOwned validateName s :=
  ⟨updateUserLA_frame hk, deleteUserLA_frame hk, deleteUserToken_frame hk,
    fun _ _ _ hop hother => Op.apply_rowsOf hk hop hother⟩

def aliceSignup : List Op :=
  [.createUser ⟨"alice", some (githubLogin "alice" "1")⟩, .createUserToken (.name "alice") "ci"]

/-- The store `aliceSignup` reaches has primary keys, so the three requests only
write rows of the user they name there. -/
theorem rowWritesOwned_aliceSignup :
    PrimaryKeys (runOps (fun _ => true) githubStore aliceSignup) ∧
      RowWritesOwned (fun _ => true) (runOps (fun _ => true) githubStore aliceSignup) :=
  have hk : PrimaryKeys (runOps (fun _ => true) githubStore aliceSignup) :=
    (@runOps_keysUnique (fun _ => true) aliceSignup githubStore
      ⟨List.nodup_nil, List.nodup_nil, (fun _ h => nomatch h), (fun _ h => nomatch h)⟩).primaryKeys
  ⟨hk, rowWritesOwned hk⟩

end Agola.Configstore
