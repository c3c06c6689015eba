import KubeClipper.L3Reconcile.ClusterRegistries
/-!
# Deciding and building the registry update step

`getCRIRegistriesStep` (cri_utils.go:129-141) compares the registries the
cluster status records with the desired set (`registriesEqual`) and, when
they differ, lists the cluster's nodes and hands pointers to them to
`clustercontroller.CRIRegistryUpdateStep` through `criRegistryUpdateStep`
(cri_utils.go:143-149).

`criRegistryUpdateStep` allocates `wrapNodes` with `make([]*v1.Node, 0, n)`,
of length 0, and then assigns `wrapNodes[i]`: Go panics with "index out of
range" on the first node. A pointer
`&nodes[i]` is the index `i` into the node list, which the callee receives as
well.

`clustercontroller.CRIRegistryUpdateStep` and `common.LabelClusterName` are
not under `src/`; they are parameters.

Results:
* `registriesEqual_iff`: `registriesEqual` is list equality.
* `getCRIRegistriesStep_eq`: the function in closed form: no step and no node
  listing when the lists are equal; otherwise the listing's error, the update
  step for an empty node list, or a panic for any non-empty one.
* `getClusterCRIRegistries_idempotent`: a second call on the cluster a
  successful call left behind returns the same set and changes nothing, so a
  reconciliation whose status records that set produces no step.
* `getClusterCRIRegistries_reorder`: reordering the cluster's insecure hosts
  or its addons changes neither the set nor the compacted `Registries`, so
  it cannot make `registriesEqual` fail and trigger an update step.
-/
namespace KubeClipper.L3.UpdateStep

open KubeClipper.L1.Go KubeClipper.L2.Api KubeClipper.L3.AppendUnique KubeClipper.L3.ClusterRegistries

/-- mirrors pkg/apis/core/v1/cri_utils.go:117-127 (`registriesEqual`) -/
def registriesEqual (a b : List RegistrySpec) : Bool :=
  if a.length ≠ b.length then false
  else (List.range a.length).all (fun i => a.getD i default == b.getD i default)

theorem registriesEqual_iff (a b : List RegistrySpec) : registriesEqual a b = true ↔ a = b := by
  constructor
  · intro h
    rw [registriesEqual] at h
    split_ifs at h with hl
    simp only [List.all_eq_true, List.mem_range, beq_iff_eq] at h
    refine List.ext_getElem (not_not.mp hl) (fun i h1 h2 => ?_)
    simpa [List.getElem?_eq_getElem h1, List.getElem?_eq_getElem h2] using h i h1
  · rintro rfl
    simp [registriesEqual]

section Step

variable {S : Type} (update : Cluster → List RegistrySpec → List Node → List Nat → Except String S)

/-- mirrors pkg/apis/core/v1/cri_utils.go:143-149 (`criRegistryUpdateStep`);
`update` is `clustercontroller.CRIRegistryUpdateStep`. -/
def criRegistryUpdateStep (cluster : Cluster) (registries : List RegistrySpec) (nodes : List Node) :
    Outcome (Except String S) :=
  match (List.range nodes.length).foldlM (fun wrap i => indexSet wrap i i) ([] : List Nat) with
  | .error msg => .panic msg
  | .ok wrapNodes => .ret (update cluster registries nodes wrapNodes)

/-- mirrors pkg/apis/core/v1/cri_utils.go:129-141 (`getCRIRegistriesStep`);
`labelClusterName` is `common.LabelClusterName`. -/
def getCRIRegistriesStep (labelClusterName : String) (op : ClusterOperator) (cluster : Cluster)
    (registries : List RegistrySpec) : Outcome (Except String (Option S)) :=
  if !registriesEqual cluster.status.registries registries then
    match op.listNodes ⟨labelClusterName ++ "=" ++ cluster.name⟩ with
    | .error _ => .ret (.error "list")
    | .ok nodes =>
      match criRegistryUpdateStep update cluster registries nodes with
      | .ret r => .ret (r.map some)
      | .panic msg => .panic msg
  else .ret (.ok none)

/-- On any node list but the empty one, the first assignment panics. -/
theorem criRegistryUpdateStep_eq (cluster : Cluster) (registries : List RegistrySpec) :
    ∀ nodes : List Node, criRegistryUpdateStep update cluster registries nodes =
      if nodes = [] then .ret (update cluster registries [] [])
      else .panic "runtime error: index out of range [0] with length 0"
  | [] => rfl
  | n :: ns => by
    simp only [criRegistryUpdateStep, List.length_cons, List.range_succ_eq_map, List.foldlM_cons,
      indexSet, List.length_nil, Nat.lt_irrefl, if_false, reduceCtorEq]
    rfl

/-- `getCRIRegistriesStep` in closed form. -/
theorem getCRIRegistriesStep_eq (labelClusterName : String) (op : ClusterOperator) (cluster : Cluster)
    (registries : List RegistrySpec) :
    getCRIRegistriesStep update labelClusterName op cluster registries =
      if cluster.status.registries = registries then .ret (.ok none)
      else match op.listNodes ⟨labelClusterName ++ "=" ++ cluster.name⟩ with
        | .error _ => .ret (.error "list")
        | .ok [] => .ret ((update cluster registries [] []).map some)
        | .ok (_ :: _) => .panic "runtime error: index out of range [0] with length 0" := by
  rw [getCRIRegistriesStep]
  by_cases heq : cluster.status.registries = registries
  · subst heq
    simp [(registriesEqual_iff _ _).mpr rfl]
  · have hne : registriesEqual cluster.status.registries registries = false :=
      Bool.eq_false_iff.mpr (fun h => heq ((registriesEqual_iff _ _).mp h))
    simp only [hne, Bool.not_false, if_true, heq, if_false]
    rcases op.listNodes _ with _ | _ | ⟨n, ns⟩
    · rfl
    · rfl
    · dsimp only
      rw [criRegistryUpdateStep_eq]
      rfl

/-- Two different registry lists and a cluster of one node: the nodes are
listed and the first assignment to `wrapNodes` panics, whatever
`CRIRegistryUpdateStep` and the label are. -/
theorem update_step_panics_on_first_node
    (update : Cluster → List RegistrySpec → List Node → List Nat → Except String S)
    (labelClusterName : String) :
    getCRIRegistriesStep update labelClusterName ⟨fun _ => .error .notFound, fun _ => .ok [⟨"node-1"⟩]⟩
      { name := "c1" } [{ scheme := "http", host := "x" }] =
      .panic "runtime error: index out of range [0] with length 0" := by
  rw [getCRIRegistriesStep_eq]
  rfl

end Step

/-! ## A second reconciliation -/

section Idempotence

variable {h : Handler} {c c' : Cluster} {R : List RegistrySpec}

/-- Rerunning on any cluster with the runtime and addons a successful call
left behind returns the same set and leaves that cluster unchanged. -/
theorem getClusterCRIRegistries_rerun (hr : getClusterCRIRegistries h c = (.ok R, c')) {d : Cluster}
    (hd : d.containerRuntime = c'.containerRuntime) (ha : d.addons = c'.addons) :
    getClusterCRIRegistries h d = (.ok R, d) := by
  obtain ⟨hR, rfl, hno⟩ := getClusterCRIRegistries_ok hr
  obtain ⟨hno', hflat, hfix⟩ := filterMap_validEntry_stable _ _ hno
  have hins : insecureRegistries h d = insecureRegistries h c := by
    simp [insecureRegistries, hd, ha, withRegistries]
  have hregs : d.containerRuntime.registries =
      c.containerRuntime.registries.filterMap (validEntry h.clusterOperator.getRegistry) := by
    simp [hd, withRegistries]
  rw [getClusterCRIRegistries_eq, hins, hregs, explicitRun_of_no_error _ _ _ _ hno', hfix,
    insecureLoop_eq, appendUniqueRegistry_append, hflat, ← requestedEndpoints, ← hR, List.nil_append]
  simp only [Prod.mk.injEq, true_and]
  cases d
  simp_all [withRegistries]

/-- A second call on the cluster a successful call left behind returns the
same set element by element and changes nothing; a reconciliation whose
status records that set gets it again and produces no step. -/
theorem getClusterCRIRegistries_idempotent (hr : getClusterCRIRegistries h c = (.ok R, c')) :
    getClusterCRIRegistries h c' = (.ok R, c') ∧
    ∀ {S : Type} (update : Cluster → List RegistrySpec → List Node → List Nat → Except String S)
      (labelClusterName : String),
      getClusterCRIRegistries h { c' with status := { registries := R } } =
        (.ok R, { c' with status := { registries := R } }) ∧
      getCRIRegistriesStep update labelClusterName h.clusterOperator
        { c' with status := { registries := R } } R = .ret (.ok none) :=
  ⟨getClusterCRIRegistries_rerun hr rfl rfl, fun update labelClusterName =>
    ⟨getClusterCRIRegistries_rerun hr rfl rfl, by rw [getCRIRegistriesStep_eq, if_pos rfl]⟩⟩

theorem sampleCluster_idempotent :
    getClusterCRIRegistries flakyHandler sampleCluster =
      (.ok sampleRegistries, withRegistries sampleCluster [{ insecureRegistry := "mirror.local" }]) ∧
    getClusterCRIRegistries flakyHandler (withRegistries sampleCluster [{ insecureRegistry := "mirror.local" }]) =
      (.ok sampleRegistries, withRegistries sampleCluster [{ insecureRegistry := "mirror.local" }]) :=
  ⟨sampleCluster_run, (getClusterCRIRegistries_idempotent sampleCluster_run).1⟩

end Idempotence

/-! ## Reordering the cluster's lists -/

section Reordering

variable {h : Handler} {c d : Cluster}

/-- The registry set depends on the insecure hosts and the addons only as
multisets: on a cluster whose two lists are a reordering of another's, with
the same explicit registries, the call returns what it returns on the other,
and compacts `Registries` the same way. -/
theorem getClusterCRIRegistries_reorder
    (hi : d.containerRuntime.insecureRegistry.Perm c.containerRuntime.insecureRegistry)
    (ha : d.addons.Perm c.addons) (hr : d.containerRuntime.registries = c.containerRuntime.registries) :
    getClusterCRIRegistries h d =
      ((getClusterCRIRegistries h c).1,
        withRegistries d (getClusterCRIRegistries h c).2.containerRuntime.registries) := by
  simp only [getClusterCRIRegistries, insecureRegistries_perm hi ha, hr]
  rcases filterLoop h.clusterOperator (List.range c.containerRuntime.registries.length)
    ⟨insecureLoop (insecureRegistries h c), c.containerRuntime.registries, 0⟩ with ⟨st, _ | e⟩ <;> rfl

/-- A decoder that reads the configurations `[1]` and `[2]` as the mirrors
`hub.local` and `registry.io` and rejects any other. -/
def mirrorHandler : Handler where
  clusterOperator := flakyStore
  unmarshalMirror raw :=
    if raw = [1] then .ok ⟨"hub.local"⟩ else if raw = [2] then .ok ⟨"registry.io"⟩ else .error "invalid character"

/-- `sampleCluster` with two addons naming a new mirror and a listed host. -/
def addonCluster : Cluster := { sampleCluster with addons := [⟨[1]⟩, ⟨[2]⟩] }

/-- `addonCluster` with both lists reversed. -/
def reversedCluster : Cluster :=
  { addonCluster with
    containerRuntime := { addonCluster.containerRuntime with insecureRegistry := ["mirror.local", "registry.io"] }
    addons := [⟨[2]⟩, ⟨[1]⟩] }

theorem reversedCluster_same_registries :
    getClusterCRIRegistries mirrorHandler reversedCluster =
      ((getClusterCRIRegistries mirrorHandler addonCluster).1,
        withRegistries reversedCluster (getClusterCRIRegistries mirrorHandler addonCluster).2.containerRuntime.registries) :=
  getClusterCRIRegistries_reorder (by decide) (by decide) rfl

end Reordering

end KubeClipper.L3.UpdateStep
