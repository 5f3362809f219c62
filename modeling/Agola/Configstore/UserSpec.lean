import Agola.Configstore.User

/-!
# What the user actions write

One lemma per action: when it succeeds, which checks passed, what it returned
and the store it wrote, in terms of the store's own queries and writes. The
invariant proofs cite these lemmas and never unfold an action; a failed action
commits nothing (`commit_preserves`).
-/

namespace Agola.Configstore

open Store

variable {validateName : String → Bool} {s s' : Store}

theorem getUser_mem {userRef : UserRef} {user : User} (h : s.getUser userRef = some user) :
    user ∈ s.users := by
  cases userRef <;> exact List.mem_of_find?_eq_some h

theorem getLinkedAccount_mem {laID : String} {la : LinkedAccount}
    (h : s.getLinkedAccount laID = some la) : la ∈ s.linkedAccounts :=
  List.mem_of_find?_eq_some h

theorem getUserByName_eq_none {name : String} (h : s.getUserByName name = none) :
    ∀ u ∈ s.users, u.name ≠ name := fun u hu hn => by
  simpa [hn] using List.find?_eq_none.mp h u hu

theorem checkRemoteSource_ok {req : CreateUserLARequest} {rs : RemoteSource}
    (h : checkRemoteSource s req = .ok rs) :
    s.getRemoteSourceByName req.remoteSourceName = some rs ∧
      s.getLinkedAccountByRemoteUserIDandSource req.remoteUserID rs.id = none := by
  cases hrs : s.getRemoteSourceByName req.remoteSourceName with
  | none =>
    simp only [checkRemoteSource, hrs, Option.isSome_some, if_true, if_false, pure_eq_ok, ok_bind,
      throw_eq_error, error_bind, reduceCtorEq] at h
  | some rs' =>
    cases hla : s.getLinkedAccountByRemoteUserIDandSource req.remoteUserID rs'.id with
    | none =>
      simp only [checkRemoteSource, hrs, hla, Option.isSome_none, Bool.false_eq_true, if_false,
        pure_eq_ok, ok_bind, Except.ok.injEq] at h
      exact ⟨h ▸ rfl, h ▸ hla⟩
    | some _ =>
      simp only [checkRemoteSource, hrs, hla, Option.isSome_some, if_true, if_false, pure_eq_ok,
        ok_bind, throw_eq_error, error_bind, reduceCtorEq] at h

/-- A transaction keeps a property of the store when the action's writes do: a
failed action commits nothing. -/
theorem commit_preserves {α : Type} {I : Store → Prop} {x : Except APIError (α × Store)} (hs : I s)
    (hok : ∀ a s', x = .ok (a, s') → I s') : I (commit s x) := by
  rcases x with e | ⟨a, s'⟩
  · exact hs
  · exact hok a s' rfl

theorem createUser_ok {req : CreateUserRequest} {u : User}
    (h : createUser validateName req s = .ok (u, s')) :
    req.userName ≠ "" ∧ validateName req.userName = true ∧ s.getUserByName req.userName = none ∧
      u = ⟨s.nextId, req.userName⟩ ∧
      ((req.createUserLARequest = none ∧
          s' = (s.newID.2.insertUser u).newID.2.insertProjectGroup
            ⟨s.nextId + 1, ⟨.user, s.nextId⟩, .public⟩) ∨
        ∃ laReq rs, req.createUserLARequest = some laReq ∧ checkRemoteSource s laReq = .ok rs ∧
          s' = ((s.newID.2.insertUser u).newID.2.insertProjectGroup
            ⟨s.nextId + 1, ⟨.user, s.nextId⟩, .public⟩).newID.2.insertLinkedAccount
              (newLinkedAccount (s.nextId + 2) s.nextId rs.id laReq)) := by
  by_cases h1 : req.userName = ""
  · simp only [createUser, h1, Bool.not_false, Bool.not_true, Bool.false_eq_true, map_error,
      if_true, if_false, pure_eq_ok, ok_bind, throw_eq_error, error_bind, reduceCtorEq] at h
  cases hv : validateName req.userName
  · simp only [createUser, h1, hv, Bool.not_false, Bool.not_true, Bool.false_eq_true, map_error,
      if_true, if_false, pure_eq_ok, ok_bind, throw_eq_error, error_bind, reduceCtorEq] at h
  cases hn : s.getUserByName req.userName with
  | some _ =>
    simp only [createUser, h1, hv, hn, Bool.not_false, Bool.not_true, Bool.false_eq_true, map_error,
      if_true, if_false, pure_eq_ok, ok_bind, throw_eq_error, error_bind, reduceCtorEq] at h
  | none =>
    refine ⟨h1, rfl, rfl, ?_⟩
    cases hla : req.createUserLARequest with
    | none =>
      simp only [createUser, h1, hv, hn, hla, if_false, Bool.not_true, Bool.false_eq_true,
        pure_eq_ok, ok_bind, Except.ok.injEq, Prod.mk.injEq] at h
      obtain ⟨rfl, rfl⟩ := h
      exact ⟨rfl, .inl ⟨rfl, rfl⟩⟩
    | some laReq =>
      cases hrs : checkRemoteSource s laReq with
      | error _ =>
        simp only [createUser, h1, hv, hn, hla, hrs, Bool.not_false, Bool.not_true,
          Bool.false_eq_true, map_error, if_true, if_false, pure_eq_ok, ok_bind, throw_eq_error,
          error_bind, reduceCtorEq] at h
      | ok rs =>
        simp only [createUser, h1, hv, hn, hla, hrs, if_false, Bool.not_true, Bool.false_eq_true,
          pure_eq_ok, ok_bind, map_ok, Except.ok.injEq, Prod.mk.injEq] at h
        obtain ⟨rfl, rfl⟩ := h
        exact ⟨rfl, .inr ⟨laReq, rs, rfl, hrs, rfl⟩⟩

theorem deleteUser_ok {userRef : UserRef} {x : Unit} (h : deleteUser userRef s = .ok (x, s')) :
    ∃ user, s.getUser userRef = some user ∧
      s' = ((((s.deleteOrgMembersByUserID user.id).deleteOrgInvitationsByUserID user.id
        ).deleteLinkedAccountsByUserID user.id).deleteUserTokensByUserID user.id
        ).deleteUser user.id := by
  cases hu : s.getUser userRef with
  | none =>
    simp only [deleteUser, hu, if_true, if_false, pure_eq_ok, ok_bind, throw_eq_error, error_bind,
      reduceCtorEq] at h
  | some user =>
    simp only [deleteUser, hu, pure_eq_ok, Except.ok.injEq, Prod.mk.injEq] at h
    exact ⟨user, rfl, h.2.symm⟩

theorem updateUser_ok {req : UpdateUserRequest} {u : User} (h : updateUser req s = .ok (u, s')) :
    ∃ user, s.getUser req.userRef = some user ∧ s' = s.updateUser u ∧
      ((req.userName = "" ∧ u = user) ∨
        (req.userName ≠ "" ∧ s.getUserByName req.userName = none ∧
          u = { user with name := req.userName })) := by
  cases hu : s.getUser req.userRef with
  | none =>
    simp only [updateUser, hu, ne_eq, not_false_eq_true, if_true, if_false, pure_eq_ok, ok_bind,
      throw_eq_error, error_bind, reduceCtorEq] at h
  | some user =>
    by_cases h1 : req.userName = ""
    · simp only [updateUser, hu, h1, ne_eq, not_true_eq_false, if_false, pure_eq_ok, ok_bind,
        Except.ok.injEq, Prod.mk.injEq] at h
      obtain ⟨rfl, rfl⟩ := h
      exact ⟨user, rfl, rfl, .inl ⟨h1, rfl⟩⟩
    · cases hn : s.getUserByName req.userName with
      | some _ =>
        simp only [updateUser, hu, h1, hn, ne_eq, not_false_eq_true, if_true, if_false, pure_eq_ok,
          ok_bind, throw_eq_error, error_bind, reduceCtorEq] at h
      | none =>
        simp only [updateUser, hu, h1, hn, ne_eq, not_false_eq_true, if_true, pure_eq_ok, ok_bind,
          Except.ok.injEq, Prod.mk.injEq] at h
        obtain ⟨rfl, rfl⟩ := h
        exact ⟨user, rfl, rfl, .inr ⟨h1, rfl, rfl⟩⟩

theorem createUserLA_ok {req : CreateUserLARequest} {la : LinkedAccount}
    (h : createUserLA req s = .ok (la, s')) :
    req.userRef ≠ .name "" ∧ req.remoteSourceName ≠ "" ∧
      ∃ user rs, s.getUser req.userRef = some user ∧ checkRemoteSource s req = .ok rs ∧
        la = newLinkedAccount s.nextId user.id rs.id req ∧
        s' = s.newID.2.insertLinkedAccount la := by
  by_cases h1 : req.userRef = .name ""
  · simp only [createUserLA, h1, if_true, if_false, pure_eq_ok, ok_bind, throw_eq_error, error_bind,
      reduceCtorEq] at h
  by_cases h2 : req.remoteSourceName = ""
  · simp only [createUserLA, h1, h2, if_true, if_false, pure_eq_ok, ok_bind, throw_eq_error,
      error_bind, reduceCtorEq] at h
  cases hu : s.getUser req.userRef with
  | none =>
    simp only [createUserLA, h1, h2, hu, if_true, if_false, pure_eq_ok, ok_bind, throw_eq_error,
      error_bind, reduceCtorEq] at h
  | some user =>
    cases hrs : checkRemoteSource s req with
    | error _ =>
      simp only [createUserLA, h1, h2, hu, hrs, if_true, if_false, pure_eq_ok, ok_bind,
        throw_eq_error, error_bind, reduceCtorEq] at h
    | ok rs =>
      simp only [createUserLA, h1, h2, hu, hrs, if_false, pure_eq_ok, ok_bind, Except.ok.injEq,
        Prod.mk.injEq] at h
      obtain ⟨rfl, rfl⟩ := h
      exact ⟨h1, h2, user, rs, rfl, rfl, rfl, rfl⟩

theorem deleteUserLA_ok {userRef : UserRef} {laID : String} {x : Unit}
    (h : deleteUserLA userRef laID s = .ok (x, s')) :
    userRef ≠ .name "" ∧ laID ≠ "" ∧
      ∃ user la, s.getUser userRef = some user ∧ s.getLinkedAccount laID = some la ∧
        user.id = la.userID ∧ s' = s.deleteLinkedAccount la.id := by
  by_cases h1 : userRef = .name ""
  · simp only [deleteUserLA, h1, ne_eq, not_true_eq_false, not_false_eq_true, if_true, if_false,
      pure_eq_ok, ok_bind, throw_eq_error, error_bind, reduceCtorEq] at h
  by_cases h2 : laID = ""
  · simp only [deleteUserLA, h1, h2, ne_eq, not_true_eq_false, not_false_eq_true, if_true, if_false,
      pure_eq_ok, ok_bind, throw_eq_error, error_bind, reduceCtorEq] at h
  cases hu : s.getUser userRef with
  | none =>
    simp only [deleteUserLA, h1, h2, hu, ne_eq, not_true_eq_false, not_false_eq_true, if_true,
      if_false, pure_eq_ok, ok_bind, throw_eq_error, error_bind, reduceCtorEq] at h
  | some user =>
    cases hla : s.getLinkedAccount laID with
    | none =>
      simp only [deleteUserLA, h1, h2, hu, hla, ne_eq, not_true_eq_false, not_false_eq_true,
        if_true, if_false, pure_eq_ok, ok_bind, throw_eq_error, error_bind, reduceCtorEq] at h
    | some la =>
      by_cases h3 : user.id = la.userID
      · simp only [deleteUserLA, h1, h2, hu, hla, h3, ne_eq, not_true_eq_false, if_false,
          pure_eq_ok, ok_bind, Except.ok.injEq, Prod.mk.injEq] at h
        exact ⟨h1, h2, user, la, rfl, rfl, h3, h.2.symm⟩
      · simp only [deleteUserLA, h1, h2, hu, hla, h3, ne_eq, not_true_eq_false, not_false_eq_true,
          if_true, if_false, pure_eq_ok, ok_bind, throw_eq_error, error_bind, reduceCtorEq] at h

theorem updateUserLA_ok {req : UpdateUserLARequest} {la' : LinkedAccount}
    (h : updateUserLA req s = .ok (la', s')) :
    req.userRef ≠ .name "" ∧
      ∃ user la rs, s.getUser req.userRef = some user ∧
        s.getLinkedAccount req.linkedAccountID = some la ∧
        user.id = la.userID ∧ s.getRemoteSource la.remoteSourceID = some rs ∧
        la' = { la with
          remoteUserID := req.remoteUserID
          remoteUserName := req.remoteUserName
          userAccessToken := req.userAccessToken
          oauth2AccessToken := req.oauth2AccessToken
          oauth2RefreshToken := req.oauth2RefreshToken
          oauth2AccessTokenExpiresAt := req.oauth2AccessTokenExpiresAt } ∧
        s' = s.updateLinkedAccount la' := by
  by_cases h1 : req.userRef = .name ""
  · simp only [updateUserLA, h1, ne_eq, not_true_eq_false, not_false_eq_true, if_true, if_false,
      pure_eq_ok, ok_bind, throw_eq_error, error_bind, reduceCtorEq] at h
  cases hu : s.getUser req.userRef with
  | none =>
    simp only [updateUserLA, h1, hu, ne_eq, not_true_eq_false, not_false_eq_true, if_true, if_false,
      pure_eq_ok, ok_bind, throw_eq_error, error_bind, reduceCtorEq] at h
  | some user =>
    cases hla : s.getLinkedAccount req.linkedAccountID with
    | none =>
      simp only [updateUserLA, h1, hu, hla, ne_eq, not_true_eq_false, not_false_eq_true, if_true,
        if_false, pure_eq_ok, ok_bind, throw_eq_error, error_bind, reduceCtorEq] at h
    | some la =>
      by_cases h3 : user.id = la.userID
      · cases hrs : s.getRemoteSource la.remoteSourceID with
        | none =>
          simp only [updateUserLA, h1, hu, hla, h3, hrs, ne_eq, not_true_eq_false,
            not_false_eq_true, if_true, if_false, pure_eq_ok, ok_bind, throw_eq_error, error_bind,
            reduceCtorEq] at h
        | some rs =>
          simp only [updateUserLA, h1, hu, hla, h3, hrs, if_false, ne_eq, not_true_eq_false,
            pure_eq_ok, ok_bind, Except.ok.injEq, Prod.mk.injEq] at h
          obtain ⟨rfl, rfl⟩ := h
          exact ⟨h1, user, la, rs, rfl, rfl, h3, hrs, rfl, rfl⟩
      · simp only [updateUserLA, h1, hu, hla, h3, ne_eq, not_true_eq_false, not_false_eq_true,
          if_true, if_false, pure_eq_ok, ok_bind, throw_eq_error, error_bind, reduceCtorEq] at h

theorem createUserToken_ok {userRef : UserRef} {tokenName : String} {t : UserToken}
    (h : createUserToken userRef tokenName s = .ok (t, s')) :
    userRef ≠ .name "" ∧ tokenName ≠ "" ∧
      ∃ user, s.getUser userRef = some user ∧ s.getUserToken user.id tokenName = none ∧
        t = ⟨s.nextId, user.id, tokenName⟩ ∧ s' = s.newID.2.insertUserToken t := by
  by_cases h1 : userRef = .name ""
  · simp only [createUserToken, h1, Option.isSome_some, if_true, if_false, pure_eq_ok, ok_bind,
      throw_eq_error, error_bind, reduceCtorEq] at h
  by_cases h2 : tokenName = ""
  · simp only [createUserToken, h1, h2, Option.isSome_some, if_true, if_false, pure_eq_ok, ok_bind,
      throw_eq_error, error_bind, reduceCtorEq] at h
  cases hu : s.getUser userRef with
  | none =>
    simp only [createUserToken, h1, h2, hu, Option.isSome_some, if_true, if_false, pure_eq_ok,
      ok_bind, throw_eq_error, error_bind, reduceCtorEq] at h
  | some user =>
    cases ht : s.getUserToken user.id tokenName with
    | some _ =>
      simp only [createUserToken, h1, h2, hu, ht, Option.isSome_some, if_true, if_false, pure_eq_ok,
        ok_bind, throw_eq_error, error_bind, reduceCtorEq] at h
    | none =>
      simp only [createUserToken, h1, h2, hu, ht, if_false, Option.isSome_none, Bool.false_eq_true,
        pure_eq_ok, ok_bind, Except.ok.injEq, Prod.mk.injEq] at h
      obtain ⟨rfl, rfl⟩ := h
      exact ⟨h1, h2, user, rfl, ht, rfl, rfl⟩

theorem deleteUserToken_ok {userRef : UserRef} {tokenName : String} {x : Unit}
    (h : deleteUserToken userRef tokenName s = .ok (x, s')) :
    userRef ≠ .name "" ∧ tokenName ≠ "" ∧
      ∃ user t, s.getUser userRef = some user ∧ s.getUserToken user.id tokenName = some t ∧
        s' = s.deleteUserToken t.id := by
  by_cases h1 : userRef = .name ""
  · simp only [deleteUserToken, h1, if_true, if_false, pure_eq_ok, ok_bind, throw_eq_error,
      error_bind, reduceCtorEq] at h
  by_cases h2 : tokenName = ""
  · simp only [deleteUserToken, h1, h2, if_true, if_false, pure_eq_ok, ok_bind, throw_eq_error,
      error_bind, reduceCtorEq] at h
  cases hu : s.getUser userRef with
  | none =>
    simp only [deleteUserToken, h1, h2, hu, if_true, if_false, pure_eq_ok, ok_bind, throw_eq_error,
      error_bind, reduceCtorEq] at h
  | some user =>
    cases ht : s.getUserToken user.id tokenName with
    | none =>
      simp only [deleteUserToken, h1, h2, hu, ht, if_true, if_false, pure_eq_ok, ok_bind,
        throw_eq_error, error_bind, reduceCtorEq] at h
    | some t =>
      simp only [deleteUserToken, h1, h2, hu, ht, if_false, pure_eq_ok, ok_bind, Except.ok.injEq,
        Prod.mk.injEq] at h
      exact ⟨h1, h2, user, t, rfl, ht, h.2.symm⟩

end Agola.Configstore
