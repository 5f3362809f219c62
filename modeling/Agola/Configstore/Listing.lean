import Agola.Configstore.User

/-!
# Paged listings: `GetUsers` and `GetUserOrgs`

Both actions ask the database for one row more than the page holds, to learn
whether more rows remain, and then cut the page back. The limit is a Go `int`,
64 bits wide: `limit += 1` at `math.MaxInt` wraps to `math.MinInt`, which the
database reads as no limit at all. The page still comes out right, because the
cut compares the number of rows against the request's own limit.

The database queries are not part of the source. They are parameters, and the
statements assume of them what their SQL does: the first `limit` rows of the
ordered sequence after the start name when `limit > 0`, all of them otherwise
(`dbPage`).
-/

namespace Agola.Configstore

/-- `types.SortDirection`. -/
inductive SortDirection
  | asc
  | desc
  deriving DecidableEq, Repr

/-- `types.Organization`, with the fields a listing returns. -/
structure Organization where
  id : Nat
  name : String
  deriving DecidableEq, Repr

/-- `types.MemberRole`. -/
inductive MemberRole
  | owner
  | member
  deriving DecidableEq, Repr

/-- `db.UserOrg`: an organization and the user's role in it. -/
structure DBUserOrg where
  organization : Organization
  role : MemberRole
  deriving DecidableEq, Repr

/-- `action.UserOrg`. -/
structure UserOrg where
  organization : Organization
  role : MemberRole
  deriving DecidableEq, Repr

def userOrgResponse (userOrg : DBUserOrg) : UserOrg where
  organization := userOrg.organization
  role := userOrg.role

structure GetUsersRequest where
  startUserName : String
  /-- A Go `int`. -/
  limit : BitVec 64
  sortDirection : SortDirection
  deriving DecidableEq, Repr

structure GetUsersResponse where
  users : List User
  hasMore : Bool
  deriving DecidableEq, Repr

structure GetUserOrgsRequest where
  userRef : UserRef
  startOrgName : String
  /-- A Go `int`. -/
  limit : BitVec 64
  sortDirection : SortDirection
  deriving DecidableEq, Repr

structure GetUserOrgsResponse where
  userOrgs : List UserOrg
  hasMore : Bool
  deriving DecidableEq, Repr

/-- The limit both actions pass to the database: `if limit > 0 { limit += 1 }`,
in 64-bit two's complement. -/
def queryLimit (limit : BitVec 64) : BitVec 64 :=
  if 0 < limit.toInt then limit + 1 else limit

/-- The cut both actions make: with a positive limit, `hasMore` is whether the
database returned more rows than the limit, and then the page is the first
`limit` of them. `len` of a Go slice is an `int` that never overflows. -/
def trimPage {α : Type} (limit : BitVec 64) (rows : List α) : List α × Bool :=
  if 0 < limit.toInt then
    let hasMore := decide (limit.toInt < rows.length)
    (if hasMore then rows.take limit.toInt.toNat else rows, hasMore)
  else (rows, false)

/-- `ActionHandler.GetUsers`, over the database's `GetUsers` query. -/
def getUsers (dbGetUsers : String → BitVec 64 → SortDirection → List User)
    (req : GetUsersRequest) : GetUsersResponse :=
  let users := dbGetUsers req.startUserName (queryLimit req.limit) req.sortDirection
  let (users, hasMore) := trimPage req.limit users
  ⟨users, hasMore⟩

/-- `ActionHandler.GetUserOrgs`, over the database's `GetUserOrgs` query. -/
def getUserOrgs (dbGetUserOrgs : Nat → String → BitVec 64 → SortDirection → List DBUserOrg)
    (s : Store) (req : GetUserOrgsRequest) : Except APIError GetUserOrgsResponse := do
  let some user := s.getUser req.userRef
    | throw ⟨.notExist, "user " ++ req.userRef.quote ++ " doesn't exist"⟩
  let dbUserOrgs :=
    dbGetUserOrgs user.id req.startOrgName (queryLimit req.limit) req.sortDirection
  let userOrgs := dbUserOrgs.map userOrgResponse
  let (userOrgs, hasMore) := trimPage req.limit userOrgs
  pure ⟨userOrgs, hasMore⟩

/-! ## The page -/

/-- What the statements assume of a paged database query: with `limit > 0` the
first `limit` rows of the ordered sequence, all rows otherwise. -/
def dbPage {α : Type} (rows : List α) (limit : BitVec 64) : List α :=
  if 0 < limit.toInt then rows.take limit.toInt.toNat else rows

/-- `limit += 1` on a Go `int`: one more, except at `math.MaxInt`, where it
wraps to `math.MinInt`. -/
theorem toInt_add_one (x : BitVec 64) :
    (x + 1).toInt = if x.toInt = 2 ^ 63 - 1 then -2 ^ 63 else x.toInt + 1 := by
  have hx := x.isLt
  have h1 : (1 : BitVec 64).toNat = 1 := rfl
  rw [BitVec.toInt_eq_toNat_cond, BitVec.toInt_eq_toNat_cond, BitVec.toNat_add, h1]
  split_ifs <;> omega

theorem dbPage_queryLimit {α : Type} {limit : BitVec 64} (hpos : 0 < limit.toInt)
    (rows : List α) : dbPage rows (queryLimit limit) =
      if limit.toInt = 2 ^ 63 - 1 then rows else rows.take (limit.toInt + 1).toNat := by
  rw [queryLimit, if_pos hpos, dbPage, toInt_add_one]
  split_ifs <;> first | rfl | omega

/-- Asking for one row more and cutting back gives the page of the request's
own limit, and `hasMore` says whether rows remain past it: also at
`math.MaxInt`, where the database gets no limit and the cut finds no row past
`math.MaxInt`. -/
theorem trimPage_dbPage {α : Type} (limit : BitVec 64) (rows : List α) :
    trimPage limit (dbPage rows (queryLimit limit)) =
      (dbPage rows limit, decide (0 < limit.toInt ∧ limit.toInt < rows.length)) := by
  by_cases hpos : 0 < limit.toInt
  · rw [dbPage_queryLimit hpos, dbPage, if_pos hpos]
    simp only [trimPage, hpos, if_true, true_and]
    by_cases hmax : limit.toInt = 2 ^ 63 - 1
    · by_cases hmore : limit.toInt < rows.length
      · simp only [if_pos hmax, hmore, decide_True, if_true]
      · simp only [if_pos hmax, hmore, decide_False, if_false, Bool.false_eq_true]
        rw [List.take_of_length_le (by omega)]
    · simp only [if_neg hmax, List.length_take]
      by_cases hmore : limit.toInt < rows.length
      · have hlt : limit.toInt < ↑(min (limit.toInt + 1).toNat rows.length) := by omega
        simp only [hlt, hmore, decide_True, if_true, List.take_take]
        congr 2
        omega
      · have hge : ¬ limit.toInt < ↑(min (limit.toInt + 1).toNat rows.length) := by omega
        simp only [hge, hmore, decide_False, if_false, Bool.false_eq_true]
        rw [List.take_of_length_le (by omega), List.take_of_length_le (by omega)]
  · simp [trimPage, queryLimit, dbPage, hpos]

theorem dbPage_map {α β : Type} (f : α → β) (rows : List α) (limit : BitVec 64) :
    dbPage (rows.map f) limit = (dbPage rows limit).map f := by
  unfold dbPage
  split_ifs <;> simp [List.map_take]

/-- With a database that pages as assumed, `GetUsers` returns the first
`min(Limit, n)` of the `n` rows in order (all of them when `Limit ≤ 0`), with
`HasMore` exactly when `Limit > 0` and `n > Limit`, for every 64-bit limit
including `math.MaxInt`; and so does `GetUserOrgs` for an existing user. -/
theorem getUsers_getUserOrgs_page
    (dbGetUsers : String → BitVec 64 → SortDirection → List User) (req : GetUsersRequest)
    (rows : List User)
    (hdb : ∀ l, dbGetUsers req.startUserName l req.sortDirection = dbPage rows l)
    (dbGetUserOrgs : Nat → String → BitVec 64 → SortDirection → List DBUserOrg) (s : Store)
    (oreq : GetUserOrgsRequest) (user : User) (orgRows : List DBUserOrg)
    (hu : s.getUser oreq.userRef = some user)
    (hodb : ∀ l, dbGetUserOrgs user.id oreq.startOrgName l oreq.sortDirection = dbPage orgRows l) :
    getUsers dbGetUsers req =
        ⟨if 0 < req.limit.toInt then rows.take req.limit.toInt.toNat else rows,
          decide (0 < req.limit.toInt ∧ req.limit.toInt < rows.length)⟩ ∧
      getUserOrgs dbGetUserOrgs s oreq = .ok
        ⟨(if 0 < oreq.limit.toInt then orgRows.take oreq.limit.toInt.toNat else orgRows).map
            userOrgResponse,
          decide (0 < oreq.limit.toInt ∧ oreq.limit.toInt < orgRows.length)⟩ := by
  refine ⟨?_, ?_⟩
  · simp only [getUsers, hdb, trimPage_dbPage]
    rfl
  · have hpage := trimPage_dbPage oreq.limit (orgRows.map userOrgResponse)
    rw [List.length_map, dbPage_map, dbPage_map] at hpage
    simp only [getUserOrgs, hu, hodb, hpage, pure_eq_ok]
    rfl

def listingStore : Store :=
  { users := [⟨0, "alice"⟩], projectGroups := [], remoteSources := [], linkedAccounts := [],
    userTokens := [], orgMembers := [], orgInvitations := [], nextId := 1 }

/-- Both listings at `math.MaxInt`, where `limit + 1` wraps: every row comes
back and `HasMore` is false. -/
theorem getUsers_getUserOrgs_page_maxInt :
    let rows := [⟨0, "alice"⟩, ⟨1, "bob"⟩]
    let orgRows := [⟨⟨2, "acme"⟩, .owner⟩, ⟨⟨3, "initech"⟩, .member⟩]
    let maxInt : BitVec 64 := BitVec.ofInt 64 (2 ^ 63 - 1)
    (∀ l, (fun _ l _ => dbPage rows l : String → BitVec 64 → SortDirection → List User) ""
        l .asc = dbPage rows l) ∧
      listingStore.getUser (.name "alice") = some ⟨0, "alice"⟩ ∧
      (∀ l, (fun _ _ l _ => dbPage orgRows l :
        Nat → String → BitVec 64 → SortDirection → List DBUserOrg) 0 "" l .asc =
          dbPage orgRows l) ∧
      getUsers (fun _ l _ => dbPage rows l) ⟨"", maxInt, .asc⟩ = ⟨rows, false⟩ ∧
      getUserOrgs (fun _ _ l _ => dbPage orgRows l) listingStore ⟨.name "alice", "", maxInt, .asc⟩ =
        .ok ⟨orgRows.map userOrgResponse, false⟩ := by
  intro rows orgRows maxInt
  have h := getUsers_getUserOrgs_page (fun _ l _ => dbPage rows l) ⟨"", maxInt, .asc⟩ rows
    (fun _ => rfl) (fun _ _ l _ => dbPage orgRows l) listingStore ⟨.name "alice", "", maxInt, .asc⟩
    ⟨0, "alice"⟩ orgRows rfl (fun _ => rfl)
  exact ⟨fun _ => rfl, rfl, fun _ => rfl, h.1.trans (by decide),
    h.2.trans (congrArg Except.ok (by decide))⟩

end Agola.Configstore
