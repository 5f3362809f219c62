import Mathlib

/-!
# Labels and the driver package

The Docker driver finds its pods again only through the labels it stamps on
every container and volume. A label map is a Go `map[string]string`; the
container index is stored as the decimal text of `strconv.Itoa` and read back
with `strconv.Atoi`, and that round trip is what makes the discovery of a
freshly created pod see the indices it wrote.
-/

namespace Agola.Driver

/-- Results are compared as values. -/
instance instDecidableEqExcept {ε α : Type} [DecidableEq ε] [DecidableEq α] :
    DecidableEq (Except ε α)
  | .error a, .error b => decidable_of_iff (a = b) (by rw [Except.error.injEq])
  | .ok a, .ok b => decidable_of_iff (a = b) (by rw [Except.ok.injEq])
  | .error _, .ok _ => isFalse nofun
  | .ok _, .error _ => isFalse nofun

/-- A Go map with string keys, as a list whose first pair for a key wins. -/
abbrev GoMap (β : Type) := List (String × β)

/-- A Go `map[string]string`. -/
abbrev Labels := GoMap String

/-- `delete(m, k)`. -/
def GoMap.erase {β : Type} (m : GoMap β) (k : String) : GoMap β :=
  m.filter fun p => p.1 ≠ k

/-- The Go map assignment `m[k] = v`. -/
def GoMap.set {β : Type} (m : GoMap β) (k : String) (v : β) : GoMap β :=
  (k, v) :: m.erase k

@[simp] theorem GoMap.lookup_set_self {β : Type} (m : GoMap β) (k : String) (v : β) :
    (m.set k v).lookup k = some v := by
  simp only [GoMap.set, List.lookup, beq_self_eq_true]

@[simp] theorem GoMap.lookup_erase_self {β : Type} (m : GoMap β) (k : String) :
    (m.erase k).lookup k = none := by
  refine List.lookup_eq_none_iff.mpr fun p hp => bne_iff_ne.mpr (Ne.symm ?_)
  exact of_decide_eq_true (List.mem_filter.mp (show p ∈ m.filter fun q => q.1 ≠ k from hp)).2

theorem GoMap.lookup_filter_of_key {β : Type} (m : GoMap β) {k : String} {f : String × β → Bool}
    (hf : ∀ q : String × β, q.1 = k → f q = true) : (m.filter f).lookup k = m.lookup k := by
  induction m with
  | nil => rfl
  | cons q m ih =>
    obtain ⟨a, b⟩ := q
    by_cases ha : a = k
    · subst ha
      simp [List.filter, hf (a, b) rfl, List.lookup]
    · have hne : (k == a) = false := beq_false_of_ne (Ne.symm ha)
      cases hfq : f (a, b) <;> simp [List.filter, hfq, List.lookup, hne, ih]

@[simp] theorem GoMap.lookup_erase_ne {β : Type} (m : GoMap β) {k k' : String} (h : k' ≠ k) :
    (m.erase k).lookup k' = m.lookup k' :=
  GoMap.lookup_filter_of_key m fun _ hq => decide_eq_true (by rw [hq]; exact h)

@[simp] theorem GoMap.lookup_set_ne {β : Type} (m : GoMap β) {k k' : String} (v : β)
    (h : k' ≠ k) : (m.set k v).lookup k' = m.lookup k' := by
  have hne : (k' == k) = false := by simpa using h
  simp [GoMap.set, List.lookup, hne, GoMap.lookup_erase_ne m h]

theorem GoMap.isSome_lookup_set {β : Type} (m : GoMap β) (k k' : String) (v : β) :
    ((m.set k v).lookup k').isSome ↔ k' = k ∨ (m.lookup k').isSome := by
  by_cases h : k' = k
  · subst h
    exact iff_of_true (by rw [GoMap.lookup_set_self]; rfl) (.inl rfl)
  · rw [GoMap.lookup_set_ne m v h]
    exact ⟨.inr, fun h' => h'.resolve_left h⟩

theorem GoMap.nodup_erase {β : Type} {m : GoMap β} (k : String) (h : (m.map Prod.fst).Nodup) :
    ((m.erase k).map Prod.fst).Nodup :=
  h.sublist ((List.filter_sublist _).map _)

theorem GoMap.nodup_set {β : Type} {m : GoMap β} (k : String) (v : β)
    (h : (m.map Prod.fst).Nodup) : ((m.set k v).map Prod.fst).Nodup := by
  refine List.nodup_cons.mpr ⟨fun hk => ?_, GoMap.nodup_erase k h⟩
  obtain ⟨p, hp, rfl⟩ := List.mem_map.mp hk
  exact of_decide_eq_true (List.mem_filter.mp (show p ∈ m.filter fun q => q.1 ≠ p.1 from hp)).2 rfl

theorem GoMap.mem_iff_lookup {β : Type} {m : GoMap β} {k : String} {v : β}
    (h : (m.map Prod.fst).Nodup) : (k, v) ∈ m ↔ m.lookup k = some v := by
  induction m with
  | nil => simp
  | cons p m ih =>
    obtain ⟨a, b⟩ := p
    simp only [List.map_cons, List.nodup_cons] at h
    by_cases hk : k = a
    · subst hk
      have : (k, v) ∉ m := fun hm => h.1 (List.mem_map.mpr ⟨_, hm, rfl⟩)
      simp [List.lookup, this, eq_comm]
    · have hne : (k == a) = false := by simpa using hk
      simp [List.lookup, hne, hk, ih h.2]

/-- `strings.HasPrefix s p`. -/
def hasPrefix (s p : String) : Bool :=
  p.toList.isPrefixOf s.toList

/-! ## `strconv.Atoi` and `strconv.Itoa` -/

/-- The optional sign `strconv.Atoi` accepts in front of the digits. -/
def splitSign : List Char → Bool × List Char
  | '-' :: ds => (true, ds)
  | '+' :: ds => (false, ds)
  | ds => (false, ds)

def digitsValue (ds : List Char) : Nat :=
  ds.foldl (fun acc c => 10 * acc + (c.toNat - '0'.toNat)) 0

/-- `strconv.Atoi` on a 64-bit platform: an optional sign and at least one ASCII
digit, with a value that fits in an `int`; anything else is an error. -/
def atoi (s : String) : Option Int :=
  let (neg, ds) := splitSign s.toList
  if ds ≠ [] ∧ ds.all Char.isDigit then
    let v : Int := if neg then -(digitsValue ds : Int) else digitsValue ds
    if -2 ^ 63 ≤ v ∧ v < 2 ^ 63 then some v else none
  else none

example : atoi "-12" = some (-12) ∧ atoi "+7" = some 7 ∧ atoi "" = none ∧ atoi "1a" = none := by
  decide

/-- `strconv.Itoa` of a non-negative `int`. -/
def itoa (n : Nat) : String := toString n

theorem digitChar_digit : ∀ k < 10, (Nat.digitChar k).isDigit = true ∧
    (Nat.digitChar k).toNat - '0'.toNat = k := by
  decide

theorem toDigitsCore_ten (fuel n : Nat) (ds : List Char) (h : n < fuel) :
    ∃ l, Nat.toDigitsCore 10 fuel n ds = l ++ ds ∧ l ≠ [] ∧ (∀ c ∈ l, c.isDigit = true) ∧
      digitsValue l = n := by
  induction fuel generalizing n ds with
  | zero => omega
  | succ fuel ih =>
    obtain ⟨hd, hv⟩ := digitChar_digit (n % 10) (Nat.mod_lt _ (by omega))
    unfold Nat.toDigitsCore
    dsimp only
    by_cases h10 : n / 10 = 0
    · rw [if_pos h10]
      refine ⟨[Nat.digitChar (n % 10)], rfl, by simp, by simpa using hd, ?_⟩
      simp only [digitsValue, List.foldl, hv]
      omega
    · rw [if_neg h10]
      obtain ⟨l, hl, hne, hdig, hval⟩ := ih (n / 10) (Nat.digitChar (n % 10) :: ds) (by omega)
      refine ⟨l ++ [Nat.digitChar (n % 10)], by simp [hl], by simp, ?_, ?_⟩
      · intro c hc
        simp only [List.mem_append, List.mem_singleton] at hc
        rcases hc with hc | rfl
        · exact hdig c hc
        · exact hd
      · simp only [digitsValue, List.foldl_append, List.foldl] at hval ⊢
        rw [hval, hv]
        omega

theorem digitsValue_toString (n : Nat) : digitsValue (toString n).toList = n := by
  obtain ⟨l, hl, -, -, hval⟩ := toDigitsCore_ten (n + 1) n [] (by omega)
  have hs : (toString n).toList = l := by simpa [toString, Nat.repr, Nat.toDigits] using hl
  rw [hs, hval]

theorem toString_injective : Function.Injective (toString : Nat → String) := fun m n h => by
  rw [← digitsValue_toString m, ← digitsValue_toString n, h]

theorem isDigit_of_mem_toString {n : Nat} {c : Char} (hc : c ∈ (toString n).toList) :
    c.isDigit = true := by
  obtain ⟨l, hl, -, hdig, -⟩ := toDigitsCore_ten (n + 1) n [] (by omega)
  have hs : (toString n).toList = l := by simpa [toString, Nat.repr, Nat.toDigits] using hl
  exact hdig c (hs ▸ hc)

theorem toString_ne_empty (n : Nat) : toString n ≠ "" := by
  obtain ⟨l, hl, hne, -⟩ := toDigitsCore_ten (n + 1) n [] (by omega)
  have hs : (toString n).toList = l := by simpa [toString, Nat.repr, Nat.toDigits] using hl
  intro he
  rw [he] at hs
  exact hne hs.symm

theorem splitSign_of_isDigit {c : Char} (l : List Char) (h : c.isDigit = true) :
    splitSign (c :: l) = (false, c :: l) := by
  have h1 : c ≠ '-' := by rintro rfl; simp [Char.isDigit] at h
  have h2 : c ≠ '+' := by rintro rfl; simp [Char.isDigit] at h
  unfold splitSign
  split <;> simp_all

/-- The container index label round trip: `Atoi(Itoa(i)) = i` for every `int`
index `i ≥ 0`. -/
theorem atoi_itoa (n : Nat) (h : n < 2 ^ 63) : atoi (itoa n) = some n := by
  obtain ⟨l, hl, hne, hdig, hval⟩ := toDigitsCore_ten (n + 1) n [] (by omega)
  have hs : (itoa n).toList = l := by
    simpa [itoa, toString, Nat.repr, Nat.toDigits] using hl
  obtain ⟨c, l', rfl⟩ := List.exists_cons_of_ne_nil hne
  have hall : (c :: l').all Char.isDigit = true := by simpa using hdig
  simp only [atoi, hs, splitSign_of_isDigit l' (hdig c (by simp))]
  simp [hall, hval]
  omega

end Agola.Driver
