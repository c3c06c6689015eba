import KubeClipper.L3Reconcile.AppendUnique
import Mathlib.Data.List.Dedup
/-!
# The desired registry set of a cluster (`getClusterCRIRegistries`)

`getClusterCRIRegistries` (cri_utils.go:37-96) builds the registry set in
three loops:

1. the insecure hosts, sorted, with each addon's `imageRepoMirror` inserted by
   the sorted insert of `AppendUnique` (key: the host);
2. for each insecure host, its `http` and `https` endpoints, through
   `appendUniqueRegistry`;
3. for each explicit registry, its endpoints, while compacting
   `c.ContainerRuntime.Registries` in place.

The third loop filters through `validRegistries := c.ContainerRuntime.Registries[:0]`,
which shares the backing array of the list it ranges over. `filterLoop`
models that array explicitly: iteration `i` reads `arr[i]` from the live
array and `append(validRegistries, reg)` writes `arr[w]`. The function returns
the cluster as the call leaves it: on success `Registries` is
`validRegistries`; on error its slice header is unchanged and its backing
array holds what the loop wrote.

`json.Unmarshal` into the anonymous `mirror` struct is a parameter
(`Handler.unmarshalMirror`): the results hold for every decoder.

Results:
* `filterLoop_eq_explicitRun`: the in-place loop computes the value-semantics
  loop `explicitRun`, and leaves the array as the kept entries followed by
  the original entries from the first unwritten position on.
* `getClusterCRIRegistries_eq`: the function in closed form.
* `insecureRegistries_spec`: after the addon loop the insecure hosts are
  sorted and are the cluster's hosts plus one copy of each new mirror; the
  cluster's own list is left as it was.
* `getClusterCRIRegistries_sorted`: the result is strictly increasing in
  `Scheme+Host` under Go's `strings.Compare`.
* `getClusterCRIRegistries_endpoints`: every requested key is in the result
  exactly once, carried by the first requested endpoint with that key.
* `getClusterCRIRegistries_valid`: after success, `Registries` is the
  original list with NotFound references dropped and empty references
  cleared.
* `getClusterCRIRegistries_error_registries`: after an error, `Registries`
  holds the entries kept so far, then the original entries from position
  `len(kept)` on; `error_leaves_compacted_registries` is an input where this
  differs from the original list.
-/
namespace KubeClipper.L3.ClusterRegistries

open KubeClipper.L1.Go KubeClipper.L2.Api KubeClipper.L3.AppendUnique

/-- The anonymous `mirror` struct an addon configuration is decoded into. -/
structure Mirror where
  imageRepoMirror : String := ""
  deriving DecidableEq, Repr

/-- `h *handler`, with `json.Unmarshal(raw, &m)` for the `mirror` struct. -/
structure Handler where
  clusterOperator : ClusterOperator
  unmarshalMirror : List UInt8 → Except String Mirror

/-! ## Insecure hosts and addon mirrors -/

/-- One addon of the loop at cri_utils.go:44-63. -/
def addonStep (unmarshal : List UInt8 → Except String Mirror) (insecure : List String)
    (a : Addon) : List String :=
  match unmarshal a.configRaw with
  | .error _ => insecure
  | .ok m => if m.imageRepoMirror ≠ "" then insertUnique (fun h => h) insecure m.imageRepoMirror
      else insecure

/-- `insecureRegistry` after the addon loop (cri_utils.go:41-63). -/
def insecureRegistries (h : Handler) (c : Cluster) : List String :=
  c.addons.foldl (addonStep h.unmarshalMirror) (sortStrings c.containerRuntime.insecureRegistry)

/-- The two endpoints of an insecure host (cri_utils.go:69-70, :79-80). -/
def insecurePair (host : String) : List RegistrySpec :=
  [{ scheme := "http", host := host }, { scheme := "https", host := host, skipVerify := true }]

/-- The insecure-host loop (cri_utils.go:65-71). -/
def insecureLoop (hosts : List String) : List RegistrySpec :=
  hosts.foldl (fun regs host => appendUniqueRegistry regs (insecurePair host)) []

theorem insecureLoop_eq (hosts : List String) :
    insecureLoop hosts = appendUniqueRegistry [] (hosts.flatMap insecurePair) := by
  suffices ∀ R, hosts.foldl (fun regs host => appendUniqueRegistry regs (insecurePair host)) R =
      appendUniqueRegistry R (hosts.flatMap insecurePair) from this []
  induction hosts with
  | nil => intro R; rfl
  | cons host rest ih =>
    intro R
    rw [List.foldl_cons, ih, appendUniqueRegistry_append, List.flatMap_cons]

/-! ## The explicit registries, filtered in place -/

/-- The loop state: the registry set, the backing array of
`c.ContainerRuntime.Registries`, and `len(validRegistries)`. -/
structure FilterState where
  registries : List RegistrySpec
  arr : List CRIRegistry
  w : Nat
  deriving DecidableEq, Repr

/-- One iteration on `reg := arr[i]` (cri_utils.go:75-92). `validRegistries`
is `Registries[:0]`, so `append(validRegistries, reg)` writes `arr[w]`. -/
def filterStep (op : ClusterOperator) (st : FilterState) (reg : CRIRegistry) :
    Except String FilterState :=
  if reg.registryRef = none ∨ reg.registryRef = some "" then
    .ok { registries := appendUniqueRegistry st.registries (insecurePair reg.insecureRegistry)
          arr := st.arr.set st.w { reg with registryRef := none }
          w := st.w + 1 }
  else
    let ref := reg.registryRef.getD ""
    match op.getRegistry ref with
    | .error e => if e.isNotFound then .ok st else .error ("get registry " ++ ref ++ ":" ++ e.msg)
    | .ok spec =>
      .ok { registries := appendUniqueRegistry st.registries [spec]
            arr := st.arr.set st.w reg
            w := st.w + 1 }

/-- `for _, reg := range c.ContainerRuntime.Registries` over the indices
`is`, reading each entry from the live array; stops at the first error and
returns it with the state reached. -/
def filterLoop (op : ClusterOperator) : List Nat → FilterState → FilterState × Option String
  | [], st => (st, none)
  | i :: is, st =>
    match filterStep op st (st.arr.getD i default) with
    | .ok st' => filterLoop op is st'
    | .error e => (st, some e)

/-- `c` with `c.ContainerRuntime.Registries` replaced. -/
def withRegistries (c : Cluster) (regs : List CRIRegistry) : Cluster :=
  { c with containerRuntime := { c.containerRuntime with registries := regs } }

/-- mirrors pkg/apis/core/v1/cri_utils.go:37-96 (`getClusterCRIRegistries`).
Returns the result and the cluster as the call leaves it. -/
def getClusterCRIRegistries (h : Handler) (c : Cluster) :
    Except String (List RegistrySpec) × Cluster :=
  let registries := insecureLoop (insecureRegistries h c)
  let regs := c.containerRuntime.registries
  match filterLoop h.clusterOperator (List.range regs.length) ⟨registries, regs, 0⟩ with
  | (st, none) => (.ok st.registries, withRegistries c (st.arr.take st.w))
  | (st, some e) => (.error e, withRegistries c st.arr)

/-! ## The loop in value semantics -/

section Spec

variable (get : String → Except LookupError RegistrySpec)

/-- The endpoints an explicit registry asks for: its host's insecure pair when
it has no reference, the resolved spec when its reference resolves. -/
def explicitEndpoints (reg : CRIRegistry) : List RegistrySpec :=
  if reg.registryRef = none ∨ reg.registryRef = some "" then insecurePair reg.insecureRegistry
  else match get (reg.registryRef.getD "") with
    | .ok spec => [spec]
    | .error _ => []

/-- The entry kept for `reg`: none when its lookup is NotFound, its reference
cleared when it is empty, `reg` itself otherwise. -/
def validEntry (reg : CRIRegistry) : Option CRIRegistry :=
  if reg.registryRef = none ∨ reg.registryRef = some "" then some { reg with registryRef := none }
  else match get (reg.registryRef.getD "") with
    | .error .notFound => none
    | _ => some reg

/-- The error that `reg`'s lookup raises, if any. -/
def lookupError (reg : CRIRegistry) : Option String :=
  if reg.registryRef = none ∨ reg.registryRef = some "" then none
  else match get (reg.registryRef.getD "") with
    | .error (.other m) => some ("get registry " ++ reg.registryRef.getD "" ++ ":" ++ m)
    | _ => none

/-- The explicit-registry loop as if `validRegistries` were a fresh slice:
the registry set, the kept entries, and the error that stopped the loop. -/
def explicitRun (R : List RegistrySpec) (F : List CRIRegistry) :
    List CRIRegistry → List RegistrySpec × List CRIRegistry × Option String
  | [] => (R, F, none)
  | reg :: rest =>
    match lookupError get reg with
    | some e => (R, F, some e)
    | none => explicitRun (appendUniqueRegistry R (explicitEndpoints get reg))
        (F ++ (validEntry get reg).toList) rest

theorem explicitRun_of_no_error : ∀ (l : List CRIRegistry) (R : List RegistrySpec)
    (F : List CRIRegistry), (∀ reg ∈ l, lookupError get reg = none) →
    explicitRun get R F l =
      (appendUniqueRegistry R (l.flatMap (explicitEndpoints get)), F ++ l.filterMap (validEntry get), none)
  | [], R, F, _ => by simp [explicitRun, appendUniqueRegistry]
  | reg :: rest, R, F, h => by
    rw [explicitRun, h reg (List.mem_cons_self _ _),
      explicitRun_of_no_error rest _ _ (fun r hr => h r (List.mem_cons_of_mem _ hr))]
    cases hv : validEntry get reg <;>
      simp [appendUniqueRegistry_append, List.filterMap_cons, hv]

theorem explicitRun_no_error : ∀ (l : List CRIRegistry) (R : List RegistrySpec) (F : List CRIRegistry)
    {R' : List RegistrySpec} {F' : List CRIRegistry}, explicitRun get R F l = (R', F', none) →
    ∀ reg ∈ l, lookupError get reg = none
  | [], _, _, _, _, _ => by simp
  | reg :: rest, R, F, R', F', h => by
    rw [explicitRun] at h
    cases he : lookupError get reg with
    | some e => simp [he] at h
    | none =>
      rw [he] at h
      exact List.forall_mem_cons.mpr ⟨he, explicitRun_no_error rest _ _ h⟩

theorem explicitRun_error : ∀ (l : List CRIRegistry) (R : List RegistrySpec) (F : List CRIRegistry)
    {R' : List RegistrySpec} {F' : List CRIRegistry} {e : String},
    explicitRun get R F l = (R', F', some e) → ∃ pre reg post, l = pre ++ reg :: post ∧
      (∀ r ∈ pre, lookupError get r = none) ∧ lookupError get reg = some e ∧
      F' = F ++ pre.filterMap (validEntry get)
  | [], _, _, _, _, _, h => by simp [explicitRun] at h
  | reg :: rest, R, F, R', F', e, h => by
    rw [explicitRun] at h
    cases he : lookupError get reg with
    | some e' =>
      simp only [he, Prod.mk.injEq, Option.some.injEq] at h
      obtain ⟨-, rfl, rfl⟩ := h
      exact ⟨[], reg, rest, rfl, by simp, he, by simp⟩
    | none =>
      rw [he] at h
      obtain ⟨pre, r, post, rfl, hpre, hr, rfl⟩ := explicitRun_error rest _ _ h
      refine ⟨reg :: pre, r, post, rfl, List.forall_mem_cons.mpr ⟨he, hpre⟩, hr, ?_⟩
      cases hv : validEntry get reg <;> simp [List.filterMap_cons, hv]

/-- A kept entry asks for the same endpoints as the entry it was kept for,
raises no error, and is kept unchanged again. -/
theorem validEntry_stable {reg r : CRIRegistry} (he : lookupError get reg = none)
    (hv : validEntry get reg = some r) :
    lookupError get r = none ∧ explicitEndpoints get r = explicitEndpoints get reg ∧
      validEntry get r = some r := by
  unfold lookupError validEntry explicitEndpoints at *
  by_cases hu : reg.registryRef = none ∨ reg.registryRef = some ""
  · rw [if_pos hu] at hv
    obtain rfl := Option.some.inj hv
    simp [hu]
  · rw [if_neg hu] at he hv ⊢
    cases hg : get (reg.registryRef.getD "") with
    | error e => cases e <;> simp [hg] at he hv
    | ok spec =>
      obtain rfl : reg = r := by simpa [hg] using hv
      simp [hu, hg]

/-- An entry that is dropped asks for no endpoint. -/
theorem explicitEndpoints_of_dropped {reg : CRIRegistry} (hv : validEntry get reg = none) :
    explicitEndpoints get reg = [] := by
  unfold validEntry explicitEndpoints at *
  split_ifs at hv ⊢
  cases hg : get (reg.registryRef.getD "") <;> simp_all

/-- The kept entries of an error-free list: error-free again, asking for the
same endpoints, and a fixed point of the filter. -/
theorem filterMap_validEntry_stable : ∀ l : List CRIRegistry, (∀ reg ∈ l, lookupError get reg = none) →
    (∀ r ∈ l.filterMap (validEntry get), lookupError get r = none) ∧
    (l.filterMap (validEntry get)).flatMap (explicitEndpoints get) = l.flatMap (explicitEndpoints get) ∧
    (l.filterMap (validEntry get)).filterMap (validEntry get) = l.filterMap (validEntry get)
  | [], _ => by simp
  | reg :: rest, h => by
    obtain ⟨ih1, ih2, ih3⟩ := filterMap_validEntry_stable rest (fun r hr => h r (List.mem_cons_of_mem _ hr))
    have he := h reg (List.mem_cons_self _ _)
    cases hv : validEntry get reg with
    | none =>
      simp only [List.filterMap_cons, hv, List.flatMap_cons, explicitEndpoints_of_dropped get hv,
        List.nil_append]
      exact ⟨ih1, ih2, ih3⟩
    | some r =>
      obtain ⟨h1, h2, h3⟩ := validEntry_stable get he hv
      simp only [List.filterMap_cons, hv, h3, ih3, List.flatMap_cons, h2, ih2, and_true]
      exact List.forall_mem_cons.mpr ⟨h1, ih1⟩

end Spec

/-! ## The in-place loop refines the value-semantics loop -/

/-- The entries read so far left `F` kept: the array holds `F`, then the
original entries from position `len(F)` on. -/
def arrayState (orig : List CRIRegistry) (R : List RegistrySpec) (F : List CRIRegistry) : FilterState :=
  ⟨R, F ++ orig.drop F.length, F.length⟩

/-- The state after an entry that inserts `items` and keeps `kept`. -/
def FilterState.push (st : FilterState) (items : List RegistrySpec) : Option CRIRegistry → FilterState
  | none => { st with registries := appendUniqueRegistry st.registries items }
  | some r => ⟨appendUniqueRegistry st.registries items, st.arr.set st.w r, st.w + 1⟩

/-- Inversion of one iteration: it fails with the lookup's error, or pushes
the entry's endpoints and kept entry. -/
theorem filterStep_eq (op : ClusterOperator) (st : FilterState) (reg : CRIRegistry) :
    filterStep op st reg = match lookupError op.getRegistry reg with
      | some e => .error e
      | none => .ok (st.push (explicitEndpoints op.getRegistry reg) (validEntry op.getRegistry reg)) := by
  unfold filterStep lookupError explicitEndpoints validEntry
  split_ifs with h
  · rfl
  · cases hg : op.getRegistry (reg.registryRef.getD "") with
    | error e =>
      cases e <;> simp [hg, FilterState.push, LookupError.isNotFound, LookupError.msg,
        appendUniqueRegistry]
    | ok spec => simp [hg, FilterState.push]

theorem arrayState_read {orig : List CRIRegistry} {R : List RegistrySpec} {F : List CRIRegistry}
    {i : Nat} (hF : F.length ≤ i) : (arrayState orig R F).arr.getD i default = orig.getD i default := by
  simp [arrayState, List.getElem?_append_right hF, Nat.add_sub_cancel' hF]

theorem arrayState_push {orig : List CRIRegistry} {R : List RegistrySpec} {F : List CRIRegistry}
    (hF : F.length < orig.length) (items : List RegistrySpec) (kept : Option CRIRegistry) :
    (arrayState orig R F).push items kept =
      arrayState orig (appendUniqueRegistry R items) (F ++ kept.toList) := by
  cases kept with
  | none => simp [arrayState, FilterState.push]
  | some r =>
    simp only [arrayState, FilterState.push, Option.toList_some, List.length_append,
      List.length_singleton, FilterState.mk.injEq, true_and, and_true]
    rw [List.set_append_right _ _ le_rfl, Nat.sub_self, List.drop_eq_getElem_cons hF]
    simp only [List.set_cons_zero, List.append_assoc, List.singleton_append]

/-- The in-place loop, from any position `i` with the entries before it
processed: it computes `explicitRun`, with the array as `arrayState` says. -/
theorem filterLoop_eq_explicitRun (op : ClusterOperator) (orig : List CRIRegistry) :
    ∀ (post : List CRIRegistry) (i : Nat) (R : List RegistrySpec) (F : List CRIRegistry),
      orig.drop i = post → F.length ≤ i →
      filterLoop op (List.range' i post.length) (arrayState orig R F) =
        match explicitRun op.getRegistry R F post with
        | (R', F', err) => (arrayState orig R' F', err)
  | [], _, _, _, _, _ => rfl
  | reg :: rest, i, R, F, hpost, hF => by
    have hi : i < orig.length := by
      have := congrArg List.length hpost; simp at this; omega
    have hreg : orig.getD i default = reg := by
      rw [List.drop_eq_getElem_cons hi] at hpost
      simp [List.getElem?_eq_getElem hi, (List.cons.inj hpost).1]
    rw [List.length_cons, List.range'_succ, filterLoop, arrayState_read hF, hreg, filterStep_eq,
      explicitRun]
    cases lookupError op.getRegistry reg with
    | some e => rfl
    | none =>
      simp only
      rw [arrayState_push (by omega)]
      refine filterLoop_eq_explicitRun op orig rest (i + 1) _ _ ?_ ?_
      · rw [← List.drop_drop, hpost]; rfl
      · cases validEntry op.getRegistry reg <;> simp <;> omega

/-- `getClusterCRIRegistries` in closed form: on success the registry set and
the kept entries of `explicitRun`; on error the error, with `Registries`
holding the kept entries followed by the original entries from `len(kept)` on. -/
theorem getClusterCRIRegistries_eq (h : Handler) (c : Cluster) :
    getClusterCRIRegistries h c =
      match explicitRun h.clusterOperator.getRegistry (insecureLoop (insecureRegistries h c)) []
          c.containerRuntime.registries with
      | (R, F, none) => (.ok R, withRegistries c F)
      | (_, F, some e) => (.error e, withRegistries c (F ++ c.containerRuntime.registries.drop F.length)) := by
  have hrun := filterLoop_eq_explicitRun h.clusterOperator c.containerRuntime.registries
    c.containerRuntime.registries 0 (insecureLoop (insecureRegistries h c)) [] rfl le_rfl
  simp only [arrayState, List.length_nil, List.drop_zero, List.nil_append] at hrun
  rw [getClusterCRIRegistries, List.range_eq_range', hrun]
  rcases explicitRun h.clusterOperator.getRegistry _ [] c.containerRuntime.registries with
    ⟨R, F, _ | e⟩ <;> simp [arrayState]

/-! ## The insecure hosts -/

/-- The non-empty `imageRepoMirror`s of the addons whose configuration
decodes, in addon order. -/
def parsedMirrors (h : Handler) (c : Cluster) : List String :=
  (c.addons.filterMap fun a => (h.unmarshalMirror a.configRaw).toOption.map Mirror.imageRepoMirror).filter
    (· ≠ "")

/-- The addon loop inserts the parsed non-empty mirrors, in order. -/
theorem foldl_addonStep (u : List UInt8 → Except String Mirror) : ∀ (addons : List Addon) (acc : List String),
    addons.foldl (addonStep u) acc =
      ((addons.filterMap fun a => (u a.configRaw).toOption.map Mirror.imageRepoMirror).filter (· ≠ "")).foldl
        (insertUnique (fun h => h)) acc
  | [], _ => rfl
  | a :: rest, acc => by
    rw [List.foldl_cons, foldl_addonStep u rest, List.filterMap_cons]
    unfold addonStep
    cases u a.configRaw with
    | error => rfl
    | ok m => by_cases hm : m.imageRepoMirror = "" <;> simp [hm, Except.toOption]

/-- Unordered insertion of hosts adds one copy of each host not yet present. -/
theorem count_foldl_addNew_self : ∀ (items acc : List String) (a : String),
    (items.foldl (addNew (fun h => h)) acc).count a = acc.count a + if a ∈ items ∧ a ∉ acc then 1 else 0
  | [], acc, a => by simp
  | r :: rest, acc, a => by
    rw [List.foldl_cons, count_foldl_addNew_self rest]
    unfold addNew
    by_cases hr : r ∈ acc <;> by_cases ha : a = r <;> simp [hr, ha, List.count_append, Ne.symm]

/-- After the addon loop the hosts are sorted under Go's `strings.Compare` and
are the cluster's insecure hosts plus one copy of each new parsed mirror; the
cluster's own list is not touched. -/
theorem insecureRegistries_spec (h : Handler) (c : Cluster) :
    (insecureRegistries h c).Sorted (fun a b => stringsCompare a b ≤ 0) ∧
    (insecureRegistries h c).Perm (c.containerRuntime.insecureRegistry ++
      ((parsedMirrors h c).filter (· ∉ c.containerRuntime.insecureRegistry)).dedup) ∧
    (getClusterCRIRegistries h c).2.containerRuntime.insecureRegistry = c.containerRuntime.insecureRegistry := by
  obtain ⟨hs, hp⟩ := foldl_insertUnique_keyMono (parsedMirrors h c) _ _
    (sortStrings_sorted c.containerRuntime.insecureRegistry) (sortStrings_perm _)
  rw [insecureRegistries, foldl_addonStep]
  refine ⟨by simpa only [stringsCompare_nonpos_eq_le] using hs, hp.trans (List.perm_iff_count.2 fun a => ?_), ?_⟩
  · rw [count_foldl_addNew_self, List.count_append, List.count_dedup]
    simp [List.mem_filter]
  · rw [getClusterCRIRegistries_eq]
    split <;> rfl

theorem insecureRegistries_sorted (h : Handler) (c : Cluster) : (insecureRegistries h c).Sorted (· ≤ ·) := by
  rw [insecureRegistries, foldl_addonStep]
  exact (foldl_insertUnique_keyMono _ _ _ (sortStrings_sorted c.containerRuntime.insecureRegistry)
    (List.Perm.refl _)).1

/-- How often a host occurs after the addon loop: as often as in the
cluster's list, once more if it is a parsed mirror the list lacks. -/
theorem count_insecureRegistries (h : Handler) (c : Cluster) (a : String) :
    (insecureRegistries h c).count a = c.containerRuntime.insecureRegistry.count a +
      if a ∈ parsedMirrors h c ∧ a ∉ c.containerRuntime.insecureRegistry then 1 else 0 := by
  have hp := (foldl_insertUnique_keyMono (parsedMirrors h c) _ _
    (sortStrings_sorted c.containerRuntime.insecureRegistry) (sortStrings_perm _)).2
  rw [insecureRegistries, foldl_addonStep, ← parsedMirrors, hp.count_eq, count_foldl_addNew_self]

/-- Reordering the cluster's insecure hosts or its addons leaves the hosts
after the addon loop as they were: a sorted list is fixed by its multiset. -/
theorem insecureRegistries_perm {h : Handler} {c d : Cluster}
    (hi : d.containerRuntime.insecureRegistry.Perm c.containerRuntime.insecureRegistry)
    (ha : d.addons.Perm c.addons) : insecureRegistries h d = insecureRegistries h c := by
  have hm : (parsedMirrors h d).Perm (parsedMirrors h c) := (ha.filterMap _).filter _
  refine List.eq_of_perm_of_sorted (List.perm_iff_count.2 fun a => ?_)
    (insecureRegistries_sorted h d) (insecureRegistries_sorted h c)
  rw [count_insecureRegistries, count_insecureRegistries, hi.count_eq]
  simp only [hm.mem_iff, hi.mem_iff]

/-! ## After a successful call -/

/-- The endpoints the cluster asks for, in the order the code inserts them:
the insecure pairs of the merged host list, then each explicit registry's. -/
def requestedEndpoints (h : Handler) (c : Cluster) : List RegistrySpec :=
  (insecureRegistries h c).flatMap insecurePair ++
    c.containerRuntime.registries.flatMap (explicitEndpoints h.clusterOperator.getRegistry)

/-- A store where `gone` does not exist and every other lookup fails. -/
def flakyStore : ClusterOperator where
  getRegistry ref := if ref = "gone" then .error .notFound else .error (.other "unavailable")
  listNodes _ := .ok []

def flakyHandler : Handler := ⟨flakyStore, fun _ => .error "invalid"⟩

/-- Insecure hosts out of order, a stale reference and an empty one. -/
def sampleCluster : Cluster where
  containerRuntime :=
    { insecureRegistry := ["registry.io", "mirror.local"]
      registries := [{ registryRef := some "gone" }, { insecureRegistry := "mirror.local", registryRef := some "" }] }

/-- What `getClusterCRIRegistries` returns on `sampleCluster`. -/
def sampleRegistries : List RegistrySpec :=
  [{ scheme := "http", host := "mirror.local" }, { scheme := "http", host := "registry.io" },
    { scheme := "https", host := "mirror.local", skipVerify := true },
    { scheme := "https", host := "registry.io", skipVerify := true }]

theorem sampleCluster_run : getClusterCRIRegistries flakyHandler sampleCluster =
    (.ok sampleRegistries, withRegistries sampleCluster [{ insecureRegistry := "mirror.local" }]) := by
  decide

section Success

variable {h : Handler} {c c' : Cluster} {R : List RegistrySpec}

/-- A successful call: no lookup failed, the result is the sorted set of the
requested endpoints, and `Registries` is the list of kept entries. -/
theorem getClusterCRIRegistries_ok (hr : getClusterCRIRegistries h c = (.ok R, c')) :
    R = appendUniqueRegistry [] (requestedEndpoints h c) ∧
    c' = withRegistries c (c.containerRuntime.registries.filterMap (validEntry h.clusterOperator.getRegistry)) ∧
    ∀ reg ∈ c.containerRuntime.registries, lookupError h.clusterOperator.getRegistry reg = none := by
  rw [getClusterCRIRegistries_eq] at hr
  rcases hrun : explicitRun h.clusterOperator.getRegistry (insecureLoop (insecureRegistries h c)) []
    c.containerRuntime.registries with ⟨R', F, _ | e⟩
  · rw [hrun] at hr
    obtain ⟨rfl, rfl⟩ : R' = R ∧ withRegistries c F = c' := by simpa using hr
    have hno := explicitRun_no_error _ _ _ _ hrun
    rw [explicitRun_of_no_error _ _ _ _ hno] at hrun
    simp only [Prod.mk.injEq, List.nil_append] at hrun
    rw [← hrun.1, ← hrun.2.1, insecureLoop_eq, appendUniqueRegistry_append]
    exact ⟨rfl, rfl, hno⟩
  · rw [hrun] at hr
    simp at hr

/-- The registry set is strictly increasing in `Scheme+Host` under Go's
`strings.Compare`, so no two entries share that key. -/
theorem getClusterCRIRegistries_sorted (hr : getClusterCRIRegistries h c = (.ok R, c')) :
    R.Sorted (fun a b => stringsCompare a.key b.key < 0) := by
  obtain ⟨rfl, -, -⟩ := getClusterCRIRegistries_ok hr
  simpa only [KeySorted, stringsCompare_neg_iff] using
    (appendUniqueRegistry_spec [] (requestedEndpoints h c) List.sorted_nil).2.1

theorem sampleCluster_sorted :
    getClusterCRIRegistries flakyHandler sampleCluster =
      (.ok sampleRegistries, withRegistries sampleCluster [{ insecureRegistry := "mirror.local" }]) ∧
    sampleRegistries.Sorted (fun a b => stringsCompare a.key b.key < 0) :=
  ⟨sampleCluster_run, getClusterCRIRegistries_sorted sampleCluster_run⟩

/-- Every requested endpoint's key `Scheme+Host` is in the set exactly once,
carried by the first requested endpoint with that key, and the set holds
nothing else. So an endpoint is in the set with its own scheme and host
exactly once unless an earlier request with another scheme and host has the
same concatenated key. -/
theorem getClusterCRIRegistries_endpoints (hr : getClusterCRIRegistries h c = (.ok R, c')) :
    (∀ e ∈ requestedEndpoints h c, ∃ x,
      firstWithKey RegistrySpec.key (requestedEndpoints h c) e.key = some x ∧
      R.filter (fun y => decide (y.key = e.key)) = [x]) ∧
    (∀ x ∈ R, firstWithKey RegistrySpec.key (requestedEndpoints h c) x.key = some x) ∧
    (∀ e ∈ requestedEndpoints h c,
      (∀ e' ∈ requestedEndpoints h c, e'.key = e.key → e'.scheme = e.scheme ∧ e'.host = e.host) →
      (R.filter (fun y => decide (y.scheme = e.scheme ∧ y.host = e.host))).length = 1) := by
  obtain ⟨rfl, -, -⟩ := getClusterCRIRegistries_ok hr
  obtain ⟨-, -, -, hfirst, honly⟩ :=
    appendUniqueRegistry_spec [] (requestedEndpoints h c) List.sorted_nil
  have hkeys : ∀ e ∈ requestedEndpoints h c, ∃ x,
      firstWithKey RegistrySpec.key (requestedEndpoints h c) e.key = some x ∧
      (appendUniqueRegistry [] (requestedEndpoints h c)).filter (fun y => decide (y.key = e.key)) = [x] :=
    fun e he => hfirst e he (List.not_mem_nil _)
  refine ⟨hkeys, fun x hx => ((honly x hx).resolve_left (List.not_mem_nil _)).2, ?_⟩
  intro e he hsame
  obtain ⟨x, hx, hfx⟩ := hkeys e he
  have hxe := hsame x (List.mem_of_find?_eq_some hx) (by simpa using List.find?_some hx)
  rw [List.filter_congr (q := fun y => decide (y.key = e.key)), hfx, List.length_singleton]
  intro y hy
  by_cases hk : y.key = e.key
  · have hyx : y ∈ (appendUniqueRegistry [] (requestedEndpoints h c)).filter
        (fun y => decide (y.key = e.key)) := List.mem_filter.mpr ⟨hy, by simpa using hk⟩
    obtain rfl : y = x := by simpa [hfx] using hyx
    simp [hk, hxe]
  · simp only [hk, decide_False, decide_eq_false_iff_not, not_and]
    intro hs hh
    exact hk (by rw [RegistrySpec.key, RegistrySpec.key, hs, hh])

theorem sampleCluster_endpoints :
    getClusterCRIRegistries flakyHandler sampleCluster =
      (.ok sampleRegistries, withRegistries sampleCluster [{ insecureRegistry := "mirror.local" }]) ∧
    ∀ e ∈ requestedEndpoints flakyHandler sampleCluster, ∃ x,
      firstWithKey RegistrySpec.key (requestedEndpoints flakyHandler sampleCluster) e.key = some x ∧
      sampleRegistries.filter (fun y => decide (y.key = e.key)) = [x] :=
  ⟨sampleCluster_run, (getClusterCRIRegistries_endpoints sampleCluster_run).1⟩

/-- `http` + `sregistry.io` and `https` + `registry.io` are the same key, so
the requested endpoint `http://sregistry.io` is dropped. -/
theorem concatenated_key_drops_endpoint :
    let c : Cluster := { containerRuntime := { insecureRegistry := ["registry.io", "sregistry.io"] } }
    let R : List RegistrySpec := [{ scheme := "http", host := "registry.io" },
      { scheme := "https", host := "registry.io", skipVerify := true },
      { scheme := "https", host := "sregistry.io", skipVerify := true }]
    getClusterCRIRegistries flakyHandler c = (.ok R, c) ∧
    { scheme := "http", host := "sregistry.io" } ∈ requestedEndpoints flakyHandler c ∧
    (R.filter (fun y => decide (y.scheme = "http" ∧ y.host = "sregistry.io"))).length = 0 := by
  decide

/-- After a successful call, `Registries` is the original list with every
entry whose lookup was NotFound dropped, every empty reference cleared, the
rest unchanged, in the original order; putting the original list back gives
`c`, so nothing else of `c` changes. -/
theorem getClusterCRIRegistries_valid (hr : getClusterCRIRegistries h c = (.ok R, c')) :
    c'.containerRuntime.registries = c.containerRuntime.registries.filterMap (validEntry h.clusterOperator.getRegistry) ∧
      { c' with containerRuntime := { c'.containerRuntime with registries := c.containerRuntime.registries } } = c := by
  obtain ⟨-, rfl, -⟩ := getClusterCRIRegistries_ok hr
  exact ⟨rfl, rfl⟩

/-- The sample cluster's two explicit registries: the NotFound reference is
dropped, the empty one cleared. -/
theorem sampleCluster_valid : ∃ c', getClusterCRIRegistries flakyHandler sampleCluster = (.ok sampleRegistries, c') ∧
    c'.containerRuntime.registries = [{ insecureRegistry := "mirror.local" }] ∧
    c'.containerRuntime.registries =
        sampleCluster.containerRuntime.registries.filterMap (validEntry flakyStore.getRegistry) ∧
      { c' with containerRuntime := { c'.containerRuntime with
          registries := sampleCluster.containerRuntime.registries } } = sampleCluster :=
  ⟨_, sampleCluster_run, rfl, getClusterCRIRegistries_valid sampleCluster_run⟩

end Success

/-! ## After a failed call -/

/-- After an error at entry `reg`, `Registries` is no longer the original
list: its first positions hold the entries kept before `reg`, the rest are
the original entries from position `len(kept)` on. -/
theorem getClusterCRIRegistries_error_registries {h : Handler} {c c' : Cluster} {e : String}
    (hr : getClusterCRIRegistries h c = (.error e, c')) :
    ∃ pre reg post, c.containerRuntime.registries = pre ++ reg :: post ∧
      (∀ r ∈ pre, lookupError h.clusterOperator.getRegistry r = none) ∧
      lookupError h.clusterOperator.getRegistry reg = some e ∧
      c' = withRegistries c (pre.filterMap (validEntry h.clusterOperator.getRegistry) ++
        c.containerRuntime.registries.drop (pre.filterMap (validEntry h.clusterOperator.getRegistry)).length) := by
  rw [getClusterCRIRegistries_eq] at hr
  rcases hrun : explicitRun h.clusterOperator.getRegistry (insecureLoop (insecureRegistries h c)) []
    c.containerRuntime.registries with ⟨R', F, _ | e'⟩
  · rw [hrun] at hr
    simp at hr
  · rw [hrun] at hr
    obtain ⟨rfl, rfl⟩ : e' = e ∧ withRegistries c (F ++ c.containerRuntime.registries.drop F.length) = c' := by
      simpa using hr
    obtain ⟨pre, reg, post, hl, hpre, hreg, rfl⟩ := explicitRun_error _ _ _ _ hrun
    exact ⟨pre, reg, post, hl, hpre, hreg, by simp⟩

/-- The failing lookup comes after a dropped entry and a kept one: the kept
entry has moved to the front and is also still at its old position, and the
dropped entry is gone, though the call failed. -/
theorem error_leaves_compacted_registries :
    let c : Cluster := { containerRuntime := { registries :=
      [{ registryRef := some "gone" }, { insecureRegistry := "x" }, { registryRef := some "bad" }] } }
    getClusterCRIRegistries flakyHandler c =
      (.error "get registry bad:unavailable", withRegistries c
        [{ insecureRegistry := "x" }, { insecureRegistry := "x" }, { registryRef := some "bad" }]) := by
  decide

end KubeClipper.L3.ClusterRegistries
