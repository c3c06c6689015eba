import KubeClipper.L2Api.Types
/-!
# Sorted insertion without duplicates (`appendUniqueRegistry`)

Both insert loops of `getClusterCRIRegistries` run the same body: `sort.Find`
the new key in the list, and when it is absent either append it
(`idx == len(s)`) or shift the tail right with `append(s[:idx+1], s[idx:]...)`
and store the new entry at `idx` (cri_utils.go:51-60 for addon mirrors with
the host as key, cri_utils.go:101-111 for registries with key `Scheme+Host`).
`insertUnique` is that body, for any key.

The abstract model is a sorted set keyed by `key`: a list strictly sorted by
key (`KeySet`), where inserting a present key is a no-op (`sortedInsert`).

Results:
* `insertUnique_eq_sortedInsert`: on a list sorted by key, the loop body is
  `sortedInsert` (binary search and in-place shift included).
* `foldl_insertUnique_keyMono`: from a list sorted by key with duplicates, the
  loop keeps it sorted and adds each new key once.
* `appendUniqueRegistry_eq_foldl`: on a strictly sorted list,
  `appendUniqueRegistry` is the sorted set's insertion, item by item.
* `appendUniqueRegistry_spec`: its result is strictly sorted, keeps every
  entry of `s`, holds for each new key the first item with that key and
  nothing else.

Go's `append` on a slice with spare capacity writes the backing array in place
and copies with `memmove`, so the values are as modelled here; the slices
involved are local to `getClusterCRIRegistries`, so no other slice observes
the writes.
-/
namespace KubeClipper.L3.AppendUnique

open KubeClipper.L1.Go KubeClipper.L2.Api

section Generic

variable {α : Type} (key : α → String)

/-- The body of the insert loops:
mirrors pkg/apis/core/v1/cri_utils.go:101-111 (and :51-60 with `key = id`). -/
def insertUnique [Inhabited α] (s : List α) (r : α) : List α :=
  match sortFind s.length (fun i => stringsCompare (key r) (key (s.getD i default))) with
  | (idx, ok) =>
    if ok then s
    else if idx = s.length then s ++ [r]
    else (s.take (idx + 1) ++ s.drop idx).set idx r

/-- Number of leading entries whose key is below `k`: where `sort.Find` lands. -/
def lowerBound (s : List α) (k : String) : Nat :=
  (s.takeWhile (fun b => decide (key b < k))).length

/-- Sorted by key, duplicates allowed. -/
def KeyMono (s : List α) : Prop := s.Sorted (fun a b => key a ≤ key b)

/-- Strictly sorted by key: no two entries share a key. -/
def KeySorted (s : List α) : Prop := s.Sorted (fun a b => key a < key b)

variable {key}

theorem KeySorted.mono {s : List α} (h : KeySorted key s) : KeyMono key s :=
  List.Pairwise.imp le_of_lt h

@[simp] theorem lowerBound_nil (k : String) : lowerBound key ([] : List α) k = 0 := rfl

theorem lowerBound_cons (b : α) (s : List α) (k : String) :
    lowerBound key (b :: s) k = if key b < k then lowerBound key s k + 1 else 0 := by
  by_cases h : key b < k <;>
    simp only [lowerBound, List.takeWhile_cons, h, decide_eq_true, decide_eq_false, if_true,
      if_false, List.length_cons, List.length_nil, Bool.false_eq_true, decide_False]

theorem lowerBound_le (s : List α) (k : String) : lowerBound key s k ≤ s.length :=
  List.IsPrefix.length_le (List.takeWhile_prefix _)

theorem getD_mem_of_lt {s : List α} {i : Nat} (d : α) (h : i < s.length) : s.getD i d ∈ s := by
  simp [List.getElem?_eq_getElem h, List.getElem_mem]

theorem key_lt_of_lt_lowerBound [Inhabited α] :
    ∀ (s : List α) (k : String) (x : Nat), x < lowerBound key s k → key (s.getD x default) < k
  | [], _, _, h => absurd h (Nat.not_lt_zero _)
  | b :: s, k, x, h => by
    rw [lowerBound_cons] at h
    split_ifs at h with hb
    · cases x with
      | zero => exact hb
      | succ x => exact key_lt_of_lt_lowerBound s k x (by omega)
    · exact absurd h (Nat.not_lt_zero _)

theorem le_key_of_lowerBound_le [Inhabited α] :
    ∀ (s : List α), KeyMono key s → ∀ (k : String) (x : Nat), lowerBound key s k ≤ x →
      x < s.length → k ≤ key (s.getD x default)
  | [], _, _, _, _, h => absurd h (Nat.not_lt_zero _)
  | b :: s, hs, k, x, h, hx => by
    rw [lowerBound_cons] at h
    split_ifs at h with hb
    · obtain ⟨x, rfl⟩ : ∃ y, x = y + 1 := ⟨x - 1, by omega⟩
      exact le_key_of_lowerBound_le s hs.of_cons k x (by omega) (by simpa using hx)
    · refine le_trans (not_lt.mp hb) ?_
      cases x with
      | zero => exact le_rfl
      | succ x =>
        simp only [List.getD_cons_succ]
        exact List.rel_of_sorted_cons hs _ (getD_mem_of_lt _ (by simpa using hx))

theorem key_getD_mono [Inhabited α] :
    ∀ (s : List α), KeyMono key s → ∀ i j, i ≤ j → j < s.length →
      key (s.getD i default) ≤ key (s.getD j default)
  | [], _, _, _, _, h => absurd h (Nat.not_lt_zero _)
  | _ :: _, _, 0, 0, _, _ => le_rfl
  | _ :: s, hs, 0, j + 1, _, hj =>
    List.rel_of_sorted_cons hs _ (getD_mem_of_lt _ (by simpa using hj))
  | _ :: s, hs, i + 1, j + 1, hij, hj =>
    key_getD_mono s hs.of_cons i j (by omega) (by simpa using hj)

theorem mem_keys_iff [Inhabited α] {s : List α} (hs : KeyMono key s) {k : String} :
    k ∈ s.map key ↔ lowerBound key s k < s.length ∧ key (s.getD (lowerBound key s k) default) = k := by
  constructor
  · intro hk
    obtain ⟨x, hx, hxk⟩ : ∃ x, x < s.length ∧ key (s.getD x default) = k := by
      obtain ⟨b, hb, rfl⟩ := List.mem_map.mp hk
      obtain ⟨x, hx, rfl⟩ := List.getElem_of_mem hb
      exact ⟨x, hx, by simp [hx]⟩
    have hle : lowerBound key s k ≤ x := by
      by_contra h
      exact absurd hxk (ne_of_lt (key_lt_of_lt_lowerBound s k x (by omega)))
    have hlt : lowerBound key s k < s.length := by omega
    refine ⟨hlt, le_antisymm ?_ (le_key_of_lowerBound_le s hs k _ le_rfl hlt)⟩
    calc key (s.getD (lowerBound key s k) default) ≤ key (s.getD x default) :=
          key_getD_mono s hs _ x hle hx
      _ = k := hxk
  · rintro ⟨hlt, hk⟩
    rw [← hk]
    exact List.mem_map_of_mem _ (getD_mem_of_lt _ hlt)

theorem sortFind_lowerBound [Inhabited α] {s : List α} (hs : KeyMono key s) (k : String) :
    sortFind s.length (fun i => stringsCompare k (key (s.getD i default))) =
      (lowerBound key s k, decide (k ∈ s.map key)) := by
  rw [sortFind_eq (lowerBound_le s k)
    (fun x hx => stringsCompare_pos_iff.mpr (key_lt_of_lt_lowerBound s k x hx))
    (fun x hx hxn => stringsCompare_nonpos_iff.mpr (le_key_of_lowerBound_le s hs k x hx hxn))]
  simp [mem_keys_iff hs, eq_comm]

/-- `append(s[:i+1], s[i:]...)` followed by `s[i] = r` inserts `r` at `i`. -/
theorem set_take_succ_append_drop {s : List α} {i : Nat} (r : α) (h : i < s.length) :
    (s.take (i + 1) ++ s.drop i).set i r = s.take i ++ r :: s.drop i := by
  rw [List.take_succ, List.getElem?_eq_getElem h, List.append_assoc,
    List.set_append_right _ _ (by simp)]
  simp [Nat.min_eq_left h.le]

/-- The loop body in closed form. -/
theorem insertUnique_eq [Inhabited α] {s : List α} (hs : KeyMono key s) (r : α) :
    insertUnique key s r = if key r ∈ s.map key then s
      else s.take (lowerBound key s (key r)) ++ r :: s.drop (lowerBound key s (key r)) := by
  rw [insertUnique, sortFind_lowerBound hs]
  simp only [decide_eq_true_eq]
  split_ifs with h1 h2
  · rfl
  · rw [h2, List.take_length, List.drop_length]
  · exact set_take_succ_append_drop r (lt_of_le_of_ne (lowerBound_le s _) h2)

/-! ## The abstract model: a sorted set keyed by `key` -/

variable (key) in
/-- Insertion into a sorted set: a present key is a no-op. -/
def sortedInsert (r : α) : List α → List α
  | [] => [r]
  | b :: l =>
    if key r < key b then r :: b :: l
    else if key r = key b then b :: l
    else b :: sortedInsert r l

theorem sortedInsert_eq {s : List α} (hs : KeyMono key s) (r : α) :
    sortedInsert key r s = if key r ∈ s.map key then s
      else s.take (lowerBound key s (key r)) ++ r :: s.drop (lowerBound key s (key r)) := by
  induction s with
  | nil => simp [sortedInsert]
  | cons b l ih =>
    rw [sortedInsert, lowerBound_cons]
    rcases lt_trichotomy (key r) (key b) with h | h | h
    · have hm : key r ∉ (b :: l).map key := by
        simp only [List.map_cons, List.mem_cons, List.mem_map, not_or, not_exists, not_and]
        exact ⟨ne_of_lt h, fun x hx hxr =>
          absurd (lt_of_lt_of_le h (List.rel_of_sorted_cons hs x hx)) (hxr ▸ lt_irrefl _)⟩
      rw [if_pos h, if_neg hm, if_neg (not_lt_of_lt h)]
      rfl
    · simp [h]
    · have hne : key r ≠ key b := ne_of_gt h
      rw [if_neg (not_lt_of_lt h), if_neg hne, if_pos h, ih hs.of_cons]
      by_cases hm : key r ∈ l.map key <;> simp [hm, hne]

/-- On a list sorted by key, the code's loop body is the sorted-set insertion. -/
theorem insertUnique_eq_sortedInsert [Inhabited α] {s : List α} (hs : KeyMono key s) (r : α) :
    insertUnique key s r = sortedInsert key r s := by
  rw [insertUnique_eq hs, sortedInsert_eq hs]

theorem mem_sortedInsert {r a : α} : ∀ {l : List α}, a ∈ sortedInsert key r l → a = r ∨ a ∈ l
  | [], h => by simpa [sortedInsert] using h
  | b :: l, h => by
    rw [sortedInsert] at h
    split_ifs at h
    · simpa using h
    · exact .inr h
    · rcases List.mem_cons.mp h with rfl | h
      · exact .inr (List.mem_cons_self _ _)
      · exact (mem_sortedInsert h).imp_right (List.mem_cons_of_mem b)

theorem sortedInsert_keySorted {s : List α} (hs : KeySorted key s) (r : α) :
    KeySorted key (sortedInsert key r s) := by
  induction s with
  | nil => exact List.sorted_singleton r
  | cons b l ih =>
    rw [sortedInsert]
    split_ifs with h1 h2
    · exact List.Pairwise.cons (fun x hx => (List.mem_cons.mp hx).elim (· ▸ h1)
        (fun hx => h1.trans (List.rel_of_sorted_cons hs x hx))) hs
    · exact hs
    · refine List.Pairwise.cons (fun x hx => ?_) (ih hs.of_cons)
      rcases mem_sortedInsert hx with rfl | hx
      · exact lt_of_le_of_ne (not_lt.mp h1) (Ne.symm h2)
      · exact List.rel_of_sorted_cons hs x hx

/-- Insertion keeps a list sorted by key, duplicates allowed. -/
theorem sortedInsert_keyMono {s : List α} (hs : KeyMono key s) (r : α) :
    KeyMono key (sortedInsert key r s) := by
  induction s with
  | nil => exact List.sorted_singleton r
  | cons b l ih =>
    rw [sortedInsert]
    split_ifs with h1 h2
    · exact List.Pairwise.cons (fun x hx => (List.mem_cons.mp hx).elim (· ▸ le_of_lt h1)
        (fun hx => (le_of_lt h1).trans (List.rel_of_sorted_cons hs x hx))) hs
    · exact hs
    · refine List.Pairwise.cons (fun x hx => ?_) (ih hs.of_cons)
      rcases mem_sortedInsert hx with rfl | hx
      · exact not_lt.mp h1
      · exact List.rel_of_sorted_cons hs x hx

variable (key) in
/-- The sorted set the code maintains; the invariant is a field. -/
structure KeySet where
  items : List α
  sorted : KeySorted key items

def KeySet.insert (S : KeySet key) (r : α) : KeySet key :=
  ⟨sortedInsert key r S.items, sortedInsert_keySorted S.sorted r⟩

/-- The insert loop over `items` refines item-by-item insertion into the set. -/
theorem foldl_insertUnique [Inhabited α] (items : List α) :
    ∀ S : KeySet key, items.foldl (insertUnique key) S.items = (items.foldl KeySet.insert S).items := by
  induction items with
  | nil => intro S; rfl
  | cons r rest ih =>
    intro S
    simp only [List.foldl_cons]
    rw [insertUnique_eq_sortedInsert S.sorted.mono]
    exact ih (S.insert r)

/-! ## What the set holds -/

variable (key) in
/-- Insertion into an unordered set: the item is appended when its key is new. -/
def addNew (acc : List α) (r : α) : List α := if key r ∈ acc.map key then acc else acc ++ [r]

variable (key) in
/-- The first item with key `k`. -/
def firstWithKey (items : List α) (k : String) : Option α := items.find? (fun it => decide (key it = k))

theorem key_mem_addNew (acc : List α) (r : α) : key r ∈ (addNew key acc r).map key := by
  unfold addNew
  split_ifs with h <;> simp [h]

theorem mem_map_addNew_of_mem {acc : List α} {k : String} (h : k ∈ acc.map key) (r : α) :
    k ∈ (addNew key acc r).map key := by
  unfold addNew
  split_ifs <;> simp [h]

theorem sortedInsert_perm {s : List α} (hs : KeyMono key s) (r : α) :
    (sortedInsert key r s).Perm (addNew key s r) := by
  rw [sortedInsert_eq hs, addNew]
  split_ifs
  · exact List.Perm.refl _
  · refine List.perm_middle.trans ?_
    rw [List.take_append_drop]
    exact (List.perm_append_singleton r s).symm

theorem addNew_perm {l l' : List α} (h : l.Perm l') (r : α) :
    (addNew key l r).Perm (addNew key l' r) := by
  have hm : key r ∈ l.map key ↔ key r ∈ l'.map key := (h.map key).mem_iff
  unfold addNew
  by_cases h1 : key r ∈ l.map key
  · rw [if_pos h1, if_pos (hm.mp h1)]; exact h
  · rw [if_neg h1, if_neg (mt hm.mpr h1)]; exact h.append_right [r]

theorem foldl_insert_perm (items : List α) : ∀ (S : KeySet key) (acc : List α), S.items.Perm acc →
    (items.foldl KeySet.insert S).items.Perm (items.foldl (addNew key) acc) := by
  induction items with
  | nil => exact fun _ _ h => h
  | cons r rest ih =>
    exact fun S acc h => ih (S.insert r) (addNew key acc r)
      ((sortedInsert_perm S.sorted.mono r).trans (addNew_perm h r))

/-- The insert loop from a list sorted by key, duplicates allowed: the list
stays sorted and holds what the unordered insertion holds. -/
theorem foldl_insertUnique_keyMono [Inhabited α] (items : List α) : ∀ (s acc : List α), KeyMono key s →
    s.Perm acc → KeyMono key (items.foldl (insertUnique key) s) ∧
      (items.foldl (insertUnique key) s).Perm (items.foldl (addNew key) acc) := by
  induction items with
  | nil => exact fun _ _ hs h => ⟨hs, h⟩
  | cons r rest ih =>
    intro s acc hs h
    rw [List.foldl_cons, List.foldl_cons, insertUnique_eq_sortedInsert hs]
    exact ih _ _ (sortedInsert_keyMono hs r) ((sortedInsert_perm hs r).trans (addNew_perm h r))

theorem mem_foldl_addNew_of_mem {x : α} :
    ∀ (items acc : List α), x ∈ acc → x ∈ items.foldl (addNew key) acc
  | [], _, h => h
  | _ :: rest, _, h => mem_foldl_addNew_of_mem rest _ (by unfold addNew; split_ifs <;> simp [h])

theorem firstWithKey_mem_foldl_addNew : ∀ (items acc : List α) {k : String} {x : α},
    k ∉ acc.map key → firstWithKey key items k = some x → x ∈ items.foldl (addNew key) acc
  | [], _, _, _, _, h => by simp [firstWithKey] at h
  | r :: rest, acc, k, x, hk, h => by
    by_cases hr : key r = k
    · obtain rfl : r = x := by simpa [firstWithKey, hr] using h
      exact mem_foldl_addNew_of_mem rest _ (by simp [addNew, hr, hk])
    · refine firstWithKey_mem_foldl_addNew rest _ ?_ (by simpa [firstWithKey, hr] using h)
      unfold addNew; split_ifs <;> simp [hk, Ne.symm hr]

theorem mem_foldl_addNew : ∀ (items acc : List α) {x : α}, x ∈ items.foldl (addNew key) acc →
    x ∈ acc ∨ (key x ∉ acc.map key ∧ firstWithKey key items (key x) = some x)
  | [], _, _, h => .inl h
  | r :: rest, acc, x, h => by
    rcases mem_foldl_addNew rest _ h with h | ⟨hk, hf⟩
    · unfold addNew at h
      split_ifs at h with hr
      · exact .inl h
      · rcases List.mem_append.mp h with h | h
        · exact .inl h
        · obtain rfl := List.mem_singleton.mp h
          exact .inr ⟨hr, by simp [firstWithKey]⟩
    · have hx : key x ∉ acc.map key := fun hm => hk (mem_map_addNew_of_mem hm r)
      have hne : key r ≠ key x := fun e => hk (e ▸ key_mem_addNew acc r)
      exact .inr ⟨hx, by simpa [firstWithKey, hne] using hf⟩

theorem filter_key_eq_of_keySorted :
    ∀ {t : List α}, KeySorted key t → ∀ {x : α}, x ∈ t → t.filter (fun y => decide (key y = key x)) = [x]
  | [], _, _, hx => absurd hx (List.not_mem_nil _)
  | b :: l, ht, x, hx => by
    have hgt : ∀ y ∈ l, key b < key y := List.rel_of_sorted_cons ht
    rcases List.mem_cons.mp hx with rfl | hx
    · simp only [List.filter_cons, decide_True, if_true, List.cons.injEq, true_and]
      exact List.filter_eq_nil_iff.mpr (fun y hy => by simpa using ne_of_gt (hgt y hy))
    · rw [List.filter_cons, if_neg (by simpa using ne_of_lt (hgt x hx)),
        filter_key_eq_of_keySorted ht.of_cons hx]

/-- The insert loop, started from a set `S`: the result is the sorted set of
`S`'s entries and, for each new key, the first item with that key. -/
theorem foldl_insertUnique_spec [Inhabited α] (S : KeySet key) (items : List α) :
    KeySorted key (items.foldl (insertUnique key) S.items) ∧
    (∀ x ∈ S.items, x ∈ items.foldl (insertUnique key) S.items) ∧
    (∀ it ∈ items, key it ∉ S.items.map key → ∃ x, firstWithKey key items (key it) = some x ∧
      (items.foldl (insertUnique key) S.items).filter (fun y => decide (key y = key it)) = [x]) ∧
    (∀ x ∈ items.foldl (insertUnique key) S.items, x ∈ S.items ∨
      (key x ∉ S.items.map key ∧ firstWithKey key items (key x) = some x)) := by
  rw [foldl_insertUnique items S]
  have hp := foldl_insert_perm items S S.items (List.Perm.refl _)
  have hsorted := (items.foldl KeySet.insert S).sorted
  refine ⟨hsorted, fun x hx => hp.mem_iff.mpr (mem_foldl_addNew_of_mem items _ hx), ?_,
    fun x hx => mem_foldl_addNew items _ (hp.mem_iff.mp hx)⟩
  intro it hit hk
  obtain ⟨x, hx⟩ : ∃ x, firstWithKey key items (key it) = some x :=
    Option.isSome_iff_exists.mp (List.find?_isSome.mpr ⟨it, hit, by simp⟩)
  have hkx : key x = key it := by simpa using List.find?_some hx
  refine ⟨x, hx, hkx ▸ filter_key_eq_of_keySorted hsorted ?_⟩
  exact hp.mem_iff.mpr (firstWithKey_mem_foldl_addNew items _ hk hx)

end Generic

/-! ## `appendUniqueRegistry` -/

/-- mirrors pkg/apis/core/v1/cri_utils.go:99-115 (`appendUniqueRegistry`) -/
def appendUniqueRegistry (s : List RegistrySpec) (items : List RegistrySpec) : List RegistrySpec :=
  items.foldl (insertUnique RegistrySpec.key) s

theorem appendUniqueRegistry_eq_foldl (S : KeySet RegistrySpec.key) (items : List RegistrySpec) :
    appendUniqueRegistry S.items items = (items.foldl KeySet.insert S).items :=
  foldl_insertUnique items S

theorem appendUniqueRegistry_append (s a b : List RegistrySpec) :
    appendUniqueRegistry (appendUniqueRegistry s a) b = appendUniqueRegistry s (a ++ b) :=
  (List.foldl_append _ _ _ _).symm

/-- `appendUniqueRegistry` on a slice strictly sorted by `Scheme+Host` is
insertion into the sorted set keyed by `Scheme+Host`, item by item: the
result is strictly sorted, keeps every entry of `s`, holds for each key new
to `s` exactly the first item with that key, and nothing else. -/
theorem appendUniqueRegistry_spec (s items : List RegistrySpec) (hs : KeySorted RegistrySpec.key s) :
    appendUniqueRegistry s items = (items.foldl KeySet.insert ⟨s, hs⟩).items ∧
    KeySorted RegistrySpec.key (appendUniqueRegistry s items) ∧
    (∀ x ∈ s, x ∈ appendUniqueRegistry s items) ∧
    (∀ it ∈ items, it.key ∉ s.map RegistrySpec.key → ∃ x,
      firstWithKey RegistrySpec.key items it.key = some x ∧
      (appendUniqueRegistry s items).filter (fun y => decide (y.key = it.key)) = [x]) ∧
    (∀ x ∈ appendUniqueRegistry s items, x ∈ s ∨
      (x.key ∉ s.map RegistrySpec.key ∧ firstWithKey RegistrySpec.key items x.key = some x)) :=
  ⟨appendUniqueRegistry_eq_foldl ⟨s, hs⟩ items, foldl_insertUnique_spec ⟨s, hs⟩ items⟩

/-- Inserting at the front, a duplicate of `s`'s entry, a repeated new key,
and at the end. -/
theorem appendUniqueRegistry_spec_sample :
    let s : List RegistrySpec := [{ scheme := "https", host := "b" }]
    let items : List RegistrySpec := [{ scheme := "http", host := "b" }, { scheme := "https", host := "b", ca := "pem" },
      { scheme := "http", host := "b", skipVerify := true }, { scheme := "https", host := "c" }]
    appendUniqueRegistry s items = [{ scheme := "http", host := "b" }, { scheme := "https", host := "b" },
      { scheme := "https", host := "c" }] ∧
    KeySorted RegistrySpec.key (appendUniqueRegistry s items) :=
  ⟨by decide, (appendUniqueRegistry_spec _ _ (List.sorted_singleton _)).2.1⟩

end KubeClipper.L3.AppendUnique
