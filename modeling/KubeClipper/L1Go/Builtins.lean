import Mathlib.Data.String.Basic
import Mathlib.Data.List.Sort
/-!
# Go built-ins and library calls: strings, `sort`, indexing and panics

The reconciler (`pkg/apis/core/v1/cri_utils.go`) orders registry hosts and
registry keys with `strings.Compare`, sorts with `sort.Strings` and searches
with `sort.Find`. All three are library code; they are modelled here by
what they compute, in a form that `decide` can run. A Go call that may panic
returns an `Outcome`, one that returns an `error` an `Except`; `indexSet` is the assignment `s[i] = x` with its bounds
check, and `indexGet` the read `s[i]` with its own.

A Go string is modelled by a Lean `String`. The strings compared here come
from JSON-decoded API objects, so they are valid UTF-8, and on valid UTF-8
the byte-wise order of `strings.Compare` is the code-point order of
`String.lt` (`stringsCompare_eq`).

`sort.Find` is the binary search of `sort/find.go`, with the loop bounded by
fuel: each iteration shrinks `j - i`, so the initial `j - i` is enough.

Results:
* `stringsCompare_eq`: `strings.Compare` is the three-way comparison of the
  linear order on `String`.
* `sortStrings_sorted`, `sortStrings_perm`: `sort.Strings` returns the sorted
  permutation of its input.
* `sortFind_eq`: when `cmp` is positive below some `k` and non-positive from
  `k` to `n`, `sort.Find n cmp` returns `k` and reports whether `cmp k = 0`.

A Go map is modelled by the list of its entries, one per key, in the order
they were first set; a loop over a map visits its entries in an order Go
leaves open, so results about such loops hold for every order.
* `mapGet_mapSet`, `nodup_keys_mapSet`: `m[k] = v` sets one key and keeps the
  keys distinct; `foldl_mapSet_of_nodup`: setting distinct keys appends them.
-/
namespace KubeClipper.L1.Go

/-! ## Panics -/

/-- How a Go call ends: it returns, or it panics with a message. -/
inductive Outcome (α : Type) where
  | ret (a : α)
  | panic (msg : String)
  deriving DecidableEq, Repr

def Outcome.bind {α β : Type} : Outcome α → (α → Outcome β) → Outcome β
  | .ret a, f => f a
  | .panic msg, _ => .panic msg

instance : Monad Outcome where
  pure := .ret
  bind := Outcome.bind

@[simp] theorem Outcome.ret_bind {α β : Type} (a : α) (f : α → Outcome β) : (Outcome.ret a >>= f) = f a := rfl

@[simp] theorem Outcome.panic_bind {α β : Type} (msg : String) (f : α → Outcome β) :
    (Outcome.panic msg >>= f) = .panic msg := rfl

@[simp] theorem Outcome.pure_eq {α : Type} (a : α) : (pure a : Outcome α) = .ret a := rfl

/-- A chain of calls returns only when its first call does. -/
theorem Outcome.bind_eq_ret {α β : Type} {x : Outcome α} {f : α → Outcome β} {b : β} :
    x >>= f = .ret b ↔ ∃ a, x = .ret a ∧ f a = .ret b := by
  cases x <;> simp

/-! ## Errors -/

/-- A chain of calls returning `error` succeeds only when its first call does. -/
theorem except_bind_eq_ok {ε α β : Type} {x : Except ε α} {f : α → Except ε β} {b : β} :
    x >>= f = .ok b ↔ ∃ a, x = .ok a ∧ f a = .ok b := by
  cases x <;> simp [bind, Except.bind]

/-- A call that returns a result, and what holds of every result it may return. -/
theorem exists_ok_of_isSome {ε α : Type} {x : Except ε α} {P : α → Prop} (h : x.toOption.isSome)
    (hP : ∀ a, x = .ok a → P a) : ∃ a, x = .ok a ∧ P a := by
  cases x with
  | error e => simp [Except.toOption] at h
  | ok a => exact ⟨a, rfl, hP a rfl⟩

@[simp] theorem except_mapError_eq_ok {ε ε' α : Type} {g : ε → ε'} {x : Except ε α} {a : α} :
    x.mapError g = .ok a ↔ x = .ok a := by
  cases x <;> simp [Except.mapError]

/-- A loop whose body may return an error, and that returned none: its first
iteration succeeded, and so did the rest. -/
theorem foldlM_cons_eq_ok {ε σ α : Type} {f : σ → α → Except ε σ} {x : α} {xs : List α} {s r : σ} :
    (x :: xs).foldlM f s = .ok r ↔ ∃ s1, f s x = .ok s1 ∧ xs.foldlM f s1 = .ok r := by
  rw [List.foldlM_cons]
  exact except_bind_eq_ok

/-- Go's `s[i] = x`: panics unless `i < len(s)`. -/
def indexSet {α : Type} (s : List α) (i : Nat) (x : α) : Except String (List α) :=
  if i < s.length then .ok (s.set i x)
  else .error ("runtime error: index out of range [" ++ toString i ++ "] with length " ++ toString s.length)

/-- Go's `s[i]`: panics unless `i < len(s)`. -/
def indexGet {α : Type} (s : List α) (i : Nat) : Outcome α :=
  match s.get? i with
  | some a => .ret a
  | none => .panic ("runtime error: index out of range [" ++ toString i ++ "] with length " ++ toString s.length)

/-- A read through the pointer `p` (`*p`, `p.f`): a nil pointer panics. -/
def deref {α : Type} : Option α → Outcome α
  | some a => .ret a
  | none => .panic "runtime error: invalid memory address or nil pointer dereference"

/-! ## `strings.Compare` -/

/-- Lexicographic three-way comparison of code-point sequences. -/
def compareChars : List Char → List Char → Int
  | [], [] => 0
  | [], _ :: _ => -1
  | _ :: _, [] => 1
  | a :: as, b :: bs => if a < b then -1 else if b < a then 1 else compareChars as bs

/-- Go's `strings.Compare(a, b)`: `-1`, `0` or `+1`. -/
def stringsCompare (a b : String) : Int := compareChars a.data b.data

theorem compareChars_eq : ∀ as bs : List Char,
    compareChars as bs = if as < bs then -1 else if as = bs then 0 else 1
  | [], [] => by simp [compareChars]
  | [], b :: bs => by rw [compareChars, if_pos (List.nil_lt_cons b bs)]
  | a :: as, [] => by
    have : ¬ a :: as < [] := nofun
    rw [compareChars, if_neg this, if_neg (List.cons_ne_nil a as)]
  | a :: as, b :: bs => by
    rcases lt_trichotomy a b with h | rfl | h
    · have : a :: as < b :: bs := List.Lex.rel h
      rw [compareChars, if_pos h, if_pos this]
    · have : a :: as < a :: bs ↔ as < bs := List.Lex.cons_iff
      simp only [compareChars, lt_irrefl, if_false, compareChars_eq as bs, this, List.cons.injEq, true_and]
    · have : ¬ a :: as < b :: bs := not_lt_of_lt (List.Lex.rel h : b :: bs < a :: as)
      rw [compareChars, if_neg (lt_asymm h), if_pos h, if_neg this,
        if_neg (fun e => ne_of_gt h (List.cons.inj e).1)]

theorem stringsCompare_eq (a b : String) :
    stringsCompare a b = if a < b then -1 else if a = b then 0 else 1 := by
  simp only [stringsCompare, compareChars_eq, String.lt_iff_toList_lt, String.ext_iff]
  rfl

theorem stringsCompare_pos_iff {a b : String} : 0 < stringsCompare a b ↔ b < a := by
  rw [stringsCompare_eq]
  rcases lt_trichotomy a b with h | rfl | h
  · simp [h, lt_asymm h]
  · simp
  · simp [h, lt_asymm h, ne_of_gt h]

theorem stringsCompare_neg_iff {a b : String} : stringsCompare a b < 0 ↔ a < b := by
  rw [stringsCompare_eq]
  rcases lt_trichotomy a b with h | rfl | h
  · simp [h]
  · simp
  · simp [lt_asymm h, ne_of_gt h]

theorem stringsCompare_eq_zero_iff {a b : String} : stringsCompare a b = 0 ↔ a = b := by
  rw [stringsCompare_eq]
  split_ifs with h1 h2 <;> simp_all [ne_of_lt]

@[simp] theorem stringsCompare_beq_zero (a b : String) : (stringsCompare a b == 0) = decide (a = b) := by
  rw [Bool.eq_iff_iff, beq_iff_eq, decide_eq_true_iff, stringsCompare_eq_zero_iff]

theorem stringsCompare_nonpos_iff {a b : String} : stringsCompare a b ≤ 0 ↔ a ≤ b := by
  rw [← not_lt, stringsCompare_pos_iff, not_lt]

/-! ## `sort.Strings` -/

/-- `sort.Strings`: sorts ascending. Equal strings are indistinguishable, so
every sorting algorithm returns this list. -/
def sortStrings (xs : List String) : List String :=
  xs.insertionSort (fun a b => stringsCompare a b ≤ 0)

theorem stringsCompare_nonpos_eq_le :
    (fun a b => stringsCompare a b ≤ 0) = ((· ≤ ·) : String → String → Prop) := by
  funext a b; exact propext stringsCompare_nonpos_iff

theorem sortStrings_sorted (xs : List String) : (sortStrings xs).Sorted (· ≤ ·) := by
  unfold sortStrings
  simp only [stringsCompare_nonpos_eq_le]
  exact List.sorted_insertionSort _ xs

theorem sortStrings_perm (xs : List String) : (sortStrings xs).Perm xs :=
  List.perm_insertionSort _ xs

/-! ## `sort.Find` -/

/-- The loop of `sort.Find`:
`for i < j { h := int(uint(i+j) >> 1); if cmp(h) > 0 { i = h + 1 } else { j = h } }`. -/
def findLoop (cmp : Nat → Int) : Nat → Nat → Nat → Nat
  | 0, i, _ => i
  | fuel + 1, i, j =>
    if i < j then
      if 0 < cmp ((i + j) / 2) then findLoop cmp fuel ((i + j) / 2 + 1) j
      else findLoop cmp fuel i ((i + j) / 2)
    else i

/-- Go's `sort.Find(n, cmp)`: the smallest `i` with `cmp(i) <= 0` (or `n`),
and whether `i < n && cmp(i) == 0`. -/
def sortFind (n : Nat) (cmp : Nat → Int) : Nat × Bool :=
  let i := findLoop cmp n 0 n
  (i, decide (i < n) && cmp i == 0)

section Find

variable {cmp : Nat → Int} {n k : Nat}

/-- Loop invariant: the partition point `k` stays within `[i, j]`. -/
theorem findLoop_eq (hlt : ∀ x, x < k → 0 < cmp x) (hge : ∀ x, k ≤ x → x < n → cmp x ≤ 0) :
    ∀ fuel i j, i ≤ k → k ≤ j → j ≤ n → j - i ≤ fuel → findLoop cmp fuel i j = k
  | 0, i, j, hik, hkj, _, hf => by simp only [findLoop]; omega
  | fuel + 1, i, j, hik, hkj, hjn, hf => by
    simp only [findLoop]
    split_ifs with hij hc
    · have : (i + j) / 2 < k := by
        by_contra hk
        exact absurd (hge _ (by omega) (by omega)) (not_le.mpr hc)
      exact findLoop_eq hlt hge fuel _ j (by omega) hkj hjn (by omega)
    · have : k ≤ (i + j) / 2 := by
        by_contra hk
        exact hc (hlt _ (by omega))
      exact findLoop_eq hlt hge fuel i _ hik this (by omega) (by omega)
    · omega

theorem sortFind_eq (hkn : k ≤ n) (hlt : ∀ x, x < k → 0 < cmp x)
    (hge : ∀ x, k ≤ x → x < n → cmp x ≤ 0) :
    sortFind n cmp = (k, decide (k < n) && cmp k == 0) := by
  simp only [sortFind, findLoop_eq hlt hge n 0 n (Nat.zero_le k) hkn le_rfl (by omega)]

end Find

/-! ## Maps -/

/-- A Go map: its entries, one per key, in the order the keys were first set. -/
abbrev GoMap (K V : Type) := List (K × V)

section Maps

variable {K V : Type} [DecidableEq K]

/-- `v, ok := m[k]` -/
def mapGet : GoMap K V → K → Option V
  | [], _ => none
  | e :: m, k => if e.1 = k then some e.2 else mapGet m k

/-- `m[k] = v` -/
def mapSet : GoMap K V → K → V → GoMap K V
  | [], k, v => [(k, v)]
  | e :: m, k, v => if e.1 = k then (k, v) :: m else e :: mapSet m k v

theorem mapGet_mapSet (m : GoMap K V) (k : K) (v : V) (k' : K) :
    mapGet (mapSet m k v) k' = if k = k' then some v else mapGet m k' := by
  induction m with
  | nil => simp [mapSet, mapGet]
  | cons e m ih =>
    by_cases he : e.1 = k
    · by_cases hk : k = k' <;> simp [mapSet, mapGet, he, hk]
    · simp only [mapSet, he, if_false, mapGet, ih]
      by_cases hk : k = k' <;> simp_all

theorem mapGet_eq_none_iff (m : GoMap K V) (k : K) : mapGet m k = none ↔ k ∉ m.map Prod.fst := by
  induction m with
  | nil => simp [mapGet]
  | cons e m ih =>
    by_cases he : e.1 = k
    · simp [mapGet, he]
    · simp [mapGet, he, ih, Ne.symm he]

theorem keys_mapSet (m : GoMap K V) (k : K) (v : V) :
    (mapSet m k v).map Prod.fst = if k ∈ m.map Prod.fst then m.map Prod.fst else m.map Prod.fst ++ [k] := by
  induction m with
  | nil => simp [mapSet]
  | cons e m ih =>
    by_cases he : e.1 = k
    · simp [mapSet, he]
    · simp only [mapSet, if_neg he, List.map_cons, ih, List.mem_cons, Ne.symm he, false_or]
      split_ifs <;> rfl

theorem nodup_keys_mapSet {m : GoMap K V} (h : (m.map Prod.fst).Nodup) (k : K) (v : V) :
    ((mapSet m k v).map Prod.fst).Nodup := by
  rw [keys_mapSet]
  split_ifs with hk
  · exact h
  · exact h.append (List.nodup_singleton k) (by simpa using hk)

theorem mem_iff_mapGet {m : GoMap K V} (h : (m.map Prod.fst).Nodup) (k : K) (v : V) :
    (k, v) ∈ m ↔ mapGet m k = some v := by
  induction m with
  | nil => simp [mapGet]
  | cons e m ih =>
    obtain ⟨he, hm⟩ := List.nodup_cons.1 h
    by_cases hk : e.1 = k
    · subst hk
      have : ∀ w, (e.1, w) ∉ m := fun w hw => he (List.mem_map.2 ⟨_, hw, rfl⟩)
      cases e
      simp_all [mapGet, Prod.ext_iff, eq_comm]
    · simp [mapGet, hk, ih hm, Prod.ext_iff, Ne.symm hk]

theorem mapSet_of_not_mem {m : GoMap K V} {k : K} (h : k ∉ m.map Prod.fst) (v : V) :
    mapSet m k v = m ++ [(k, v)] := by
  induction m with
  | nil => rfl
  | cons e m ih =>
    have hne : e.1 ≠ k := fun he => h (by simp [he])
    simp only [mapSet, hne, if_false, List.cons_append, ih (fun hm => h (by simp [hm]))]

/-- Setting distinct new keys one after the other appends them in order. -/
theorem foldl_mapSet_of_nodup {α : Type} (key : α → K) (val : α → V) :
    ∀ (l : List α) (m : GoMap K V), (m.map Prod.fst ++ l.map key).Nodup →
      l.foldl (fun m x => mapSet m (key x) (val x)) m = m ++ l.map (fun x => (key x, val x))
  | [], m, _ => by simp
  | x :: l, m, h => by
    have hx : key x ∉ m.map Prod.fst := fun hm => (List.nodup_append.1 h).2.2 hm (by simp)
    rw [List.foldl_cons, mapSet_of_not_mem hx, foldl_mapSet_of_nodup key val l _ (by simpa using h)]
    simp

/-- The order of one `for k, v := range m`: Go visits the entries in an
unspecified order, which may differ from one loop to the next, so a loop over a
map is modelled over any permutation of its entries. -/
structure MapOrder (K V : Type) where
  visit : GoMap K V → GoMap K V
  perm : ∀ m, (visit m).Perm m

/-- The order in which the entries were first set. -/
def MapOrder.insertion (K V : Type) : MapOrder K V := ⟨id, fun _ => List.Perm.refl _⟩

end Maps

end KubeClipper.L1.Go
