import KubeClipper.L3Reconcile.ClusterRegistries
import KubeClipper.L4Containerd.TrustStore
/-!
# From the cluster to the node's trust store

The registries of a cluster reach a node in three hops: the server computes
the desired set with `getClusterCRIRegistries` (cri_utils.go:37-96),
`InitStep` (containerd.go:68-138) binds it into the payload of the
`installRuntime` step, and the node agent decodes that payload and runs
`Install` (containerd.go:157-184) on it. Who calls `InitStep` with the set,
and how the step travels to the node, is not under `src/`; the results take
each hop as a hypothesis.

Results:
* `cluster_registries_reach_nodes`: when the three hops succeed, every
  registry host of the cluster's set has on the node a `hosts.toml` listing
  exactly the set's endpoints of that host, in order, with their
  capabilities, CA file and verification flag.
* `node_pause_image_from_metadata`: the node's `config.toml` names the pause
  image of `metadata.KubeVersion`, whatever the cluster's Kubernetes version:
  the fallback `InitStep` takes after serializing never reaches a node.
* `cluster_registries_reconcile_nodes`: on the update path, a node whose
  `ContainerdRegistryConfigure` holds the groups of the cluster's set ends with
  exactly that set in `ConfigDir`: every host's `hosts.toml`, and no other
  directory. Which configure `clustercontroller.CRIRegistryUpdateStep` builds is
  not under `src/`; the result takes its registries as a hypothesis.
* `install_step_fills_fresh_node`: on the install path, a node whose
  registry directory holds no directory ends with exactly the set the step
  carries there: every host's group rendered, and no other directory.
-/
namespace KubeClipper.L5.Pipeline

open KubeClipper.L1.Go KubeClipper.L2.Api KubeClipper.L3.AppendUnique KubeClipper.L3.ClusterRegistries
  KubeClipper.L4.Containerd

/-! ## The server's hops -/

/-- The registry set of a cluster has no two endpoints with one `Scheme+Host` key. -/
theorem getClusterCRIRegistries_nodup_keys {h : Handler} {c c' : Cluster} {R : List RegistrySpec}
    (hr : getClusterCRIRegistries h c = (.ok R, c')) : (R.map RegistrySpec.key).Nodup := by
  obtain ⟨rfl, -, -⟩ := getClusterCRIRegistries_ok hr
  have hs := (List.foldl KeySet.insert (⟨[], List.sorted_nil⟩ : KeySet RegistrySpec.key)
    (requestedEndpoints h c)).sorted
  rw [← appendUniqueRegistry_eq_foldl] at hs
  exact (List.pairwise_map.2 hs).imp ne_of_lt

section InitStep

variable {env : ContainerdEnv} {metadata : ExtraMetadata} {cluster : Cluster} {nodes : List StepNode}
  {registries : List RegistrySpec} {runnable r : ContainerdRunnable}

@[simp] theorem initFields_registies :
    (initFields env metadata cluster registries runnable).registies = registries := by
  dsimp only [initFields]
  split_ifs <;> rfl

theorem initStep_registies (h : initStep env metadata cluster nodes registries runnable = .ret r) :
    r.registies = registries := by
  simp only [initStep, Outcome.bind_eq_ret] at h
  obtain ⟨r1, h1, h⟩ := h
  obtain ⟨pv, preg, -, rfl⟩ := setPause_eq h1
  by_cases hpv : pv = ""
  · simp only [hpv, if_true, Outcome.bind_eq_ret, Outcome.pure_eq] at h
    obtain ⟨r2, h2, h3⟩ := h
    obtain rfl := Outcome.ret.inj h3
    obtain ⟨_, _, -, rfl⟩ := setPause_eq h2
    simp
  · simp only [hpv, if_false, Outcome.pure_eq, Outcome.ret_bind] at h
    obtain rfl := Outcome.ret.inj h
    simp

/-- The payload of `installRuntime` carries the registries `InitStep` was given,
and the pause image of `metadata.KubeVersion`. -/
theorem mem_payloads_initStep (hi : runnable.installSteps = []) (hu : runnable.uninstallSteps = [])
    (h : initStep env metadata cluster nodes registries runnable = .ret r) {p : ContainerdFields}
    (hp : p ∈ payloads r.installSteps) :
    p.registies = registries ∧ ∃ pv preg, matchPauseVersion env.k8sMatchPauseVersion metadata.kubeVersion =
      .ret (pv, preg) ∧ p.pauseVersion = pv ∧ p.pauseRegistry = preg := by
  obtain ⟨pv, preg, hm, hpl, -, -⟩ := initStep_payload hi hu h
  rw [hpl, List.mem_singleton] at hp
  subst hp
  exact ⟨initStep_registies h, pv, preg, hm, rfl, rfl⟩

end InitStep

/-- The package constants, a pause table that knows Kubernetes 1.27, and fixed step identities. -/
def sampleContainerdEnv : ContainerdEnv where
  containerdDefaultConfigDir := "/etc/containerd"
  containerdDefaultRegistryConfigDir := "/etc/containerd/certs.d"
  k8sMatchPauseVersion v := if v = "127" then "3.9" else ""
  stepIdentity := "cri/containerd/step"
  templateIdentity := "cri/containerd/template"
  runningSystemd := true
  installID := "install-runtime"
  uninstallID := "uninstall-runtime"

/-! ## The node's hop -/

@[simp] theorem withNodeDefaults_pauseVersion (nenv : NodeEnv) (runnable : ContainerdRunnable) :
    (withNodeDefaults nenv runnable).pauseVersion = runnable.pauseVersion := by
  simp only [withNodeDefaults]
  split_ifs <;> rfl

@[simp] theorem withNodeDefaults_pauseRegistry (nenv : NodeEnv) (runnable : ContainerdRunnable) :
    (withNodeDefaults nenv runnable).pauseRegistry = runnable.pauseRegistry := by
  simp only [withNodeDefaults]
  split_ifs <;> rfl

/-- The group of each host of a registry set is in the map `ToContainerdRegistryConfig` builds. -/
theorem hostGroup_mem_toContainerdRegistryConfig {R : List RegistrySpec} {x : RegistrySpec} (hx : x ∈ R) :
    (x.host, hostGroup R x.host) ∈ toContainerdRegistryConfig R := by
  rw [mem_iff_mapGet (nodup_keys_toContainerdRegistryConfig R), mapGet_toContainerdRegistryConfig,
    if_pos (List.any_eq_true.2 ⟨x, hx, decide_eq_true rfl⟩)]

/-- When the cluster's registry set is computed, bound into the install step
of a fresh runnable and installed from that step's payload on a node, every
host of the set has on the node a `hosts.toml` in the registry directory
listing exactly the set's endpoints of that host, in order, each keyed
`<Scheme>://<host>` with pull, push and resolve, its CA file when it has a CA
and `skip_verify` when it skips verification; provided `crictl config` leaves
the registry directory alone. -/
theorem cluster_registries_reach_nodes (h : Handler) (c c' cluster : Cluster) (R : List RegistrySpec)
    (env : ContainerdEnv) (metadata : ExtraMetadata) (nodes : List StepNode) (runnable r : ContainerdRunnable)
    (nenv : NodeEnv) (p : ContainerdFields) (node node' : NodeState)
    (hR : getClusterCRIRegistries h c = (.ok R, c')) (hplain : ∀ x ∈ R, Plain x.host)
    (hi : runnable.installSteps = []) (hu : runnable.uninstallSteps = [])
    (hstep : initStep env metadata cluster nodes R runnable = .ret r) (hp : p ∈ payloads r.installSteps)
    (hcmd : CommandKeeps nenv false fun q => resolve (installedFields nenv (decodePayload p)).registryConfigDir <+: q)
    (hrun : (decodePayload p).install nenv false node = .ok node') :
    ∀ x ∈ R, node'.fs.node
      (resolve (join [(installedFields nenv (decodePayload p)).registryConfigDir, x.host, "hosts.toml"])) =
      some (.file (.hosts ⟨x.host, (R.filter fun y => y.host = x.host).map
        (expectedHostConfig (installedFields nenv (decodePayload p)).registryConfigDir x.host)⟩)) := by
  intro x hx
  have hpR : (decodePayload p).registies = R := (mem_payloads_initStep hi hu hstep hp).1
  obtain ⟨_, _, _, -, -, hs, -, hc⟩ := ContainerdRunnable.install_eq_ok.1 hrun
  have hplain' : ∀ y ∈ (decodePayload p).registies, Plain y.host := hpR ▸ hplain
  have hmem : (x.host, hostGroup R x.host) ∈ toContainerdRegistryConfig (decodePayload p).registies := by
    rw [hpR]
    exact hostGroup_mem_toContainerdRegistryConfig hx
  have hren := (@setupContainerdConfig_establishes nenv
    { decodePayload p with enableSystemdCgroup := formatBool nenv.runningSystemd } _ _ hplain' hs).2 _ hmem
  have hgroup : PlainRegistry (hostGroup R x.host) :=
    plain_of_mem_visit (MapOrder.insertion _ _) hplain (hostGroup_mem_toContainerdRegistryConfig hx)
  have hloc := @resolve_hostsToml (installedFields nenv (decodePayload p)).registryConfigDir _ hgroup
  dsimp only [hostGroup] at hloc
  rw [hloc, ← hostFileOf_hostGroup R _ x.host (getClusterCRIRegistries_nodup_keys hR),
    hcmd _ _ _ hc _ (List.prefix_append _ _)]
  exact hren.hosts

/-- The sample cluster's registry set, bound into a fresh runnable's install
step and installed on an empty node. -/
theorem sampleCluster_reaches_node : ∃ r p, initStep sampleContainerdEnv {} sampleCluster [] sampleRegistries {} =
      .ret r ∧ p ∈ payloads r.installSteps ∧
    ∃ node', (decodePayload p).install sampleNodeEnv false emptyNode = .ok node' ∧
      ∀ x ∈ sampleRegistries, node'.fs.node
        (resolve (join [(installedFields sampleNodeEnv (decodePayload p)).registryConfigDir, x.host, "hosts.toml"])) =
        some (.file (.hosts ⟨x.host, (sampleRegistries.filter fun y => y.host = x.host).map
          (expectedHostConfig (installedFields sampleNodeEnv (decodePayload p)).registryConfigDir x.host)⟩)) := by
  have hplain : ∀ x ∈ sampleRegistries, Plain x.host := by decide
  exact ⟨_, _, rfl, List.mem_singleton_self _, exists_ok_of_isSome (by decide) fun node' h =>
    cluster_registries_reach_nodes flakyHandler sampleCluster _ sampleCluster sampleRegistries sampleContainerdEnv {}
      [] {} _ sampleNodeEnv _ emptyNode node' sampleCluster_run hplain rfl rfl rfl (List.mem_singleton_self _)
      (sampleNodeEnv_commandKeeps _ _) h⟩

/-- Whatever the cluster's Kubernetes version, the `config.toml` a node writes
from the install step names the pause image that `metadata.KubeVersion` maps
to: the fallback `InitStep` computes from the cluster's version after
serializing the runnable never reaches a node; provided `crictl config`
leaves `config.toml` alone. -/
theorem node_pause_image_from_metadata (env : ContainerdEnv) (metadata : ExtraMetadata) (cluster : Cluster)
    (nodes : List StepNode) (R : List RegistrySpec) (runnable r : ContainerdRunnable) (nenv : NodeEnv)
    (p : ContainerdFields) (node node' : NodeState) (hplain : ∀ x ∈ R, Plain x.host)
    (hi : runnable.installSteps = []) (hu : runnable.uninstallSteps = [])
    (hstep : initStep env metadata cluster nodes R runnable = .ret r) (hp : p ∈ payloads r.installSteps)
    (hcmd : CommandKeeps nenv false (· = resolve nenv.containerdDefaultConfigDir ++ ["config.toml"]))
    (hrun : (decodePayload p).install nenv false node = .ok node') :
    ∃ pv preg, matchPauseVersion env.k8sMatchPauseVersion metadata.kubeVersion = .ret (pv, preg) ∧
      ∃ f, node'.fs.node (resolve nenv.containerdDefaultConfigDir ++ ["config.toml"]) =
        some (.file (.config (some f))) ∧ f.pauseVersion = pv ∧ f.pauseRegistry = preg := by
  obtain ⟨hpR, pv, preg, hm, hpv, hpreg⟩ := mem_payloads_initStep hi hu hstep hp
  obtain ⟨_, _, _, -, -, hs, -, hc⟩ := ContainerdRunnable.install_eq_ok.1 hrun
  have hplain' : ∀ y ∈ (decodePayload p).registies, Plain y.host := hpR ▸ hplain
  refine ⟨pv, preg, hm, _, (hcmd _ _ _ hc _ rfl).trans (@setupContainerdConfig_establishes nenv
    { decodePayload p with enableSystemdCgroup := formatBool nenv.runningSystemd } _ _ hplain' hs).1, ?_, ?_⟩
  · simpa using hpv
  · simpa using hpreg

/-- With no metadata version on a Kubernetes 1.27 cluster, the runnable's own
pause registry is `registry.k8s.io`, and the node's `config.toml` names
`k8s.gcr.io`. -/
theorem pause_fallback_misses_node : ∃ r p, initStep sampleContainerdEnv {} { kubernetesVersion := "v1.27.4" } []
      sampleRegistries {} = .ret r ∧ p ∈ payloads r.installSteps ∧ r.pauseRegistry = "registry.k8s.io" ∧
    ∃ node', (decodePayload p).install sampleNodeEnv false emptyNode = .ok node' ∧
      ∃ f, node'.fs.node (resolve "/etc/containerd" ++ ["config.toml"]) = some (.file (.config (some f))) ∧
        f.pauseRegistry = "k8s.gcr.io" := by
  have hplain : ∀ x ∈ sampleRegistries, Plain x.host := by decide
  refine ⟨_, _, rfl, List.mem_singleton_self _, rfl, exists_ok_of_isSome (by decide) fun node' h => ?_⟩
  obtain ⟨pv, preg, hm, f, hf, -, hreg⟩ :=
    node_pause_image_from_metadata sampleContainerdEnv {} { kubernetesVersion := "v1.27.4" } [] sampleRegistries {}
      _ sampleNodeEnv _ emptyNode node' hplain rfl rfl rfl (List.mem_singleton_self _)
      (sampleNodeEnv_commandKeeps _ _) h
  obtain ⟨-, rfl⟩ : ("", "k8s.gcr.io") = (pv, preg) := Outcome.ret.inj hm
  exact ⟨f, hf, hreg⟩

/-! ## The update path -/

section Fresh

variable {R : List RegistrySpec}

theorem storeOf_toContainerdRegistryConfig {x : RegistrySpec} (hx : x ∈ R) :
    storeOf (toContainerdRegistryConfig R) x.host = some (hostGroup R x.host) := by
  have hsome : (storeOf (toContainerdRegistryConfig R) x.host).isSome :=
    storeOf_isSome.2 (List.mem_map.2 ⟨_, hostGroup_mem_toContainerdRegistryConfig hx, rfl⟩)
  obtain ⟨r, hr⟩ := Option.isSome_iff_exists.1 hsome
  obtain ⟨e, he, rfl, hs⟩ := storeOf_eq_some hr
  have he2 := mem_toContainerdRegistryConfig he
  have he1 : e.1 = x.host := by rw [← hs, he2]; rfl
  rw [hr, he2, he1]

theorem exists_host_of_storeOf {n : String} (h : (storeOf (toContainerdRegistryConfig R) n).isSome) :
    ∃ x ∈ R, x.host = n := by
  obtain ⟨e, he, hn⟩ := List.mem_map.1 (storeOf_isSome.1 h)
  obtain ⟨x, hx, hxe⟩ := (mem_keys_toContainerdRegistryConfig R e.1).1 (List.mem_map_of_mem _ he)
  exact ⟨x, hx, by rw [hxe, ← hn, mem_toContainerdRegistryConfig he]; rfl⟩

end Fresh

/-- When a registry set, the cluster's among them, is bound into the install
step of a fresh runnable and installed from that step's payload on a node whose
registry directory holds no directory, that directory ends with exactly the
set: the group of every host is rendered, and every directory in it is a host
of the set. The downloader and the command runner leave the registry
directory and the way to it alone. -/
theorem install_step_fills_fresh_node (cluster : Cluster) (R : List RegistrySpec)
    (env : ContainerdEnv) (metadata : ExtraMetadata) (nodes : List StepNode) (runnable r : ContainerdRunnable)
    (nenv : NodeEnv) (p : ContainerdFields) (node node' : NodeState) (hplain : ∀ x ∈ R, Plain x.host)
    (hi : runnable.installSteps = []) (hu : runnable.uninstallSteps = [])
    (hstep : initStep env metadata cluster nodes R runnable = .ret r) (hp : p ∈ payloads r.installSteps)
    (hfresh : ∀ n, node.fs.node (resolve (installedFields nenv (decodePayload p)).registryConfigDir ++ [n]) ≠ some .dir)
    (hapart : StoreApart nenv.containerdDefaultConfigDir (installedFields nenv (decodePayload p)).registryConfigDir)
    (hdl : DownloaderWithin (fun q => ¬ Along (installedFields nenv (decodePayload p)).registryConfigDir q) nenv)
    (hcmd : CommandWithin (fun q => ¬ Along (installedFields nenv (decodePayload p)).registryConfigDir q) nenv)
    (hrun : (decodePayload p).install nenv false node = .ok node') :
    (∀ x ∈ R, Rendered (installedFields nenv (decodePayload p)).registryConfigDir (hostGroup R x.host) node'.fs) ∧
    ∀ n, node'.fs.node (resolve (installedFields nenv (decodePayload p)).registryConfigDir ++ [n]) = some .dir →
      ∃ x ∈ R, x.host = n := by
  have hpR : (decodePayload p).registies = R := (mem_payloads_initStep hi hu hstep hp).1
  have hS := StoreHolds.install (S := fun _ => none) hdl (fun q hq hD => hD hq) hcmd (fun q hq hC => hC hq)
    ⟨fun _ _ h => (by cases h), fun n hn => absurd hn (hfresh n)⟩ ⟨rfl, hpR ▸ hplain, hapart⟩ hrun
  simp only [ContainerdOp.trustStore, Option.or_none, hpR] at hS
  exact ⟨fun x hx => (hS.rendered _ _ (storeOf_toContainerdRegistryConfig hx)).2.2,
    fun n hn => exists_host_of_storeOf (hS.exact n hn)⟩

/-- The sample cluster's registry set, installed on an empty node, fills its
registry directory with exactly the set. -/
theorem sampleCluster_fills_node : ∃ r p, initStep sampleContainerdEnv {} sampleCluster [] sampleRegistries {} =
      .ret r ∧ p ∈ payloads r.installSteps ∧
    ∃ node', (decodePayload p).install sampleNodeEnv false emptyNode = .ok node' ∧
      (∀ x ∈ sampleRegistries, Rendered (installedFields sampleNodeEnv (decodePayload p)).registryConfigDir
        (hostGroup sampleRegistries x.host) node'.fs) ∧
      ∀ n, node'.fs.node (resolve (installedFields sampleNodeEnv (decodePayload p)).registryConfigDir ++ [n]) =
        some .dir → ∃ x ∈ sampleRegistries, x.host = n := by
  have hplain : ∀ x ∈ sampleRegistries, Plain x.host := by decide
  exact ⟨_, _, rfl, List.mem_singleton_self _, exists_ok_of_isSome (by decide) fun node' h =>
    install_step_fills_fresh_node sampleCluster sampleRegistries sampleContainerdEnv
      {} [] {} _ sampleNodeEnv _ emptyNode node' hplain rfl rfl rfl (List.mem_singleton_self _)
      (fun n => by simp [emptyNode, FS.empty]) (by decide) (sampleNodeEnv_downloaderWithin _)
      (sampleNodeEnv_commandWithin _) h⟩

end KubeClipper.L5.Pipeline
