import KubeClipper.L2Api.Types
/-!
# The containerd runnable and its steps (`ContainerdRunnable.InitStep`)

`InitStep` (containerd.go:68-138) fills a `ContainerdRunnable` from the
cluster, the request metadata and the desired registries, serializes it with
`json.Marshal`, and puts the serialized bytes into the `installRuntime` and
`uninstallRuntime` steps. The node agent decodes those bytes back into a
runnable and runs `Install`/`Uninstall` on it, so the payload is the only
state that reaches the node.

`json.Marshal(runnable)` is modelled by the JSON object it writes: the
exported fields (`ContainerdFields`, `Base`'s promoted ones included); the
step lists are unexported and not written. The struct holds only strings,
booleans and registry lists, so the marshal cannot fail.

The marshal happens between the two pause-version lookups: the first one,
from `metadata.KubeVersion`, is in the payload; the fallback from
`cluster.KubernetesVersion`, taken when the first yields no version, only
changes the in-memory runnable.

`matchPauseVersion` (containerd.go:229-243) keeps the first three characters
of the version's digits with `strings.Split(s, "")[0:3]`, which panics when
fewer than three remain.

`Base`, the package constants, `k8sMatchPauseVersion` and the registration
key formats are not under `src/`; `ContainerdEnv` carries them, with the
values `cgroups.IsRunningSystemd()` and `strutil.GetUUID()` return.

Results:
* `initStep_payload`: for a runnable without steps, both steps carry the
  fields as they stand after `InitStep`, except the pause version and
  registry, which are those of `metadata.KubeVersion`; the runnable's own
  come from the fallback when that version maps to no pause version.
* `payload_misses_pause_fallback`: with no metadata version and cluster
  version `v1.27.4`, the runnable's pause registry is `registry.k8s.io`
  and the payload's is `k8s.gcr.io`.
* `matchPauseVersion_release`: on `v1.M` and `v1.M.P` the lookup reads `1`
  and the next two digits, across the dot, and faults when fewer follow;
  `matchPauseVersion_two_digit_minor`: a two-digit `M` gets `registry.k8s.io`
  exactly when `M ≥ 25`.
* `pause_lookup_faults_and_misreads`: `v1.2` faults in `InitStep`, `v1.3.0`
  gets `registry.k8s.io` and `v1.100` gets `k8s.gcr.io`.
* `initStep_idempotent`: `InitStep` run again on the runnable it returned,
  with the same inputs, returns it unchanged.
-/
namespace KubeClipper.L4.Containerd

open KubeClipper.L1.Go KubeClipper.L2.Api

/-! ## The runnable -/

/-- `Base` (not under `src/`): the fields `containerd.go` reads and writes. -/
structure Base where
  version : String := ""
  offline : Bool := false
  dataRootDir : String := ""
  registies : List RegistrySpec := []
  registryWithAuth : List RegistrySpec := []
  deriving DecidableEq, Repr

/-- The exported fields of `ContainerdRunnable`: what `json.Marshal` writes. -/
structure ContainerdFields extends Base where
  registryConfigDir : String := ""
  localRegistry : String := ""
  kubeVersion : String := ""
  pauseVersion : String := ""
  pauseRegistry : String := ""
  enableSystemdCgroup : String := ""
  deriving DecidableEq, Repr

/-- mirrors pkg/scheme/core/v1/cri/containerd.go:54-66 (`ContainerdRunnable`) -/
structure ContainerdRunnable extends ContainerdFields where
  installSteps : List (Step ContainerdFields) := []
  uninstallSteps : List (Step ContainerdFields) := []
  upgradeSteps : List (Step ContainerdFields) := []
  deriving DecidableEq, Repr

/-- `json.Marshal(runnable)`, as the object it encodes. -/
def jsonMarshal (r : ContainerdRunnable) : ContainerdFields := r.toContainerdFields

/-- What `containerd.go` takes from outside `src/`. -/
structure ContainerdEnv where
  containerdDefaultConfigDir : String
  containerdDefaultRegistryConfigDir : String
  k8sMatchPauseVersion : String → String
  /-- `fmt.Sprintf(component.RegisterStepKeyFormat, criContainerd, criVersion, component.TypeStep)` -/
  stepIdentity : String
  /-- `fmt.Sprintf(component.RegisterTemplateKeyFormat, criContainerd, criVersion, component.TypeStep)` -/
  templateIdentity : String
  runningSystemd : Bool
  installID : String
  uninstallID : String

/-- `component.GetExtraMetadata(ctx)`: the fields `InitStep` reads. -/
structure ExtraMetadata where
  offline : Bool := false
  localRegistry : String := ""
  kubeVersion : String := ""
  deriving DecidableEq, Repr

/-! ## Helpers -/

/-- `strutil.StringDefaultIfEmpty(def, s)` -/
def stringDefaultIfEmpty (dflt s : String) : String := if s = "" then dflt else s

/-- `strconv.FormatBool` -/
def formatBool (b : Bool) : String := if b then "true" else "false"

/-- mirrors pkg/scheme/core/v1/cri/containerd.go:517-525 (`FilterRegistryWithAuth`) -/
def filterRegistryWithAuth (registries : List RegistrySpec) : List RegistrySpec :=
  registries.filter (fun r => r.registryAuth.isSome)

/-- The value of a non-empty run of decimal digits. -/
def digitsValue (ds : List Char) : Nat := ds.foldl (fun n d => 10 * n + (d.toNat - '0'.toNat)) 0

/-- `strconv.Atoi` with its error dropped: an optional sign and decimal
digits, 0 on a syntax error. -/
def atoi (s : String) : Int :=
  let digits (ds : List Char) : Option Nat :=
    if ds ≠ [] ∧ ds.all Char.isDigit then some (digitsValue ds) else none
  match s.toList with
  | '-' :: ds => ((digits ds).map (fun n => -(n : Int))).getD 0
  | '+' :: ds => ((digits ds).map (fun n => (n : Int))).getD 0
  | ds => ((digits ds).map (fun n => (n : Int))).getD 0

/-- mirrors pkg/scheme/core/v1/cri/containerd.go:229-243 (`matchPauseVersion`) -/
def matchPauseVersion (k8sMatchPauseVersion : String → String) (kubeVersion : String) :
    Outcome (String × String) :=
  if kubeVersion = "" then .ret ("", "k8s.gcr.io")
  else
    let digits := (kubeVersion.toList.filter (· ≠ 'v')).filter (· ≠ '.')
    if digits.length < 3 then
      .panic ("runtime error: slice bounds out of range [:3] with capacity " ++ toString digits.length)
    else
      let kv := String.mk (digits.take 3)
      .ret (k8sMatchPauseVersion kv, if 125 ≤ atoi kv then "registry.k8s.io" else "k8s.gcr.io")

/-- `runnable.PauseVersion, runnable.PauseRegistry = runnable.matchPauseVersion(v)` -/
def ContainerdRunnable.setPause (table : String → String) (r : ContainerdRunnable) (v : String) :
    Outcome ContainerdRunnable := do
  let (pv, preg) ← matchPauseVersion table v
  pure { r with pauseVersion := pv, pauseRegistry := preg }

/-- The step literals of `InitStep` (containerd.go:97-113, :117-133). -/
def runtimeStep (id name : String) (nodes : List StepNode) (action : StepAction) (identity : String)
    (payload : ContainerdFields) : Step ContainerdFields :=
  { id := id, name := name, timeout := 10 * minute, errIgnore := false, retryTimes := 1,
    nodes := nodes, action := action,
    commands := [{ type := .custom, identity := identity, customCommand := some payload }] }

/-- The assignments of `InitStep` before the pause lookup (containerd.go:69-84). -/
def initFields (env : ContainerdEnv) (metadata : ExtraMetadata) (cluster : Cluster)
    (registries : List RegistrySpec) (runnable : ContainerdRunnable) : ContainerdRunnable :=
  let r := { runnable with
    version := cluster.containerRuntime.version
    offline := metadata.offline
    dataRootDir := stringDefaultIfEmpty env.containerdDefaultConfigDir cluster.containerRuntime.dataRootDir
    localRegistry := metadata.localRegistry
    registies := registries
    registryWithAuth := filterRegistryWithAuth registries }
  let r := if r.registryConfigDir = "" then
    { r with registryConfigDir := env.containerdDefaultRegistryConfigDir } else r
  { r with enableSystemdCgroup := formatBool env.runningSystemd }

/-- The step lists of `InitStep`, each built when empty (containerd.go:96-135). -/
def withRuntimeSteps (env : ContainerdEnv) (nodes : List StepNode) (runtimeBytes : ContainerdFields)
    (r : ContainerdRunnable) : ContainerdRunnable :=
  let r := if r.installSteps.isEmpty then
    { r with installSteps :=
      [runtimeStep env.installID "installRuntime" nodes .install env.stepIdentity runtimeBytes] } else r
  if r.uninstallSteps.isEmpty then
    { r with uninstallSteps :=
      [runtimeStep env.uninstallID "uninstallRuntime" nodes .uninstall env.templateIdentity runtimeBytes] }
  else r

/-- mirrors pkg/scheme/core/v1/cri/containerd.go:68-138 (`ContainerdRunnable.InitStep`) -/
def initStep (env : ContainerdEnv) (metadata : ExtraMetadata) (cluster : Cluster)
    (nodes : List StepNode) (registries : List RegistrySpec) (runnable : ContainerdRunnable) :
    Outcome ContainerdRunnable := do
  let r ← (initFields env metadata cluster registries runnable).setPause env.k8sMatchPauseVersion
    metadata.kubeVersion
  let runtimeBytes := jsonMarshal r
  let r ← if r.pauseVersion = "" then r.setPause env.k8sMatchPauseVersion cluster.kubernetesVersion
    else pure r
  pure (withRuntimeSteps env nodes runtimeBytes r)

/-! ## The payload -/

/-- The custom payloads of a step list. -/
def payloads (steps : List (Step ContainerdFields)) : List ContainerdFields :=
  steps.flatMap (fun s => s.commands.filterMap (·.customCommand))

theorem setPause_eq {table : String → String} {r r' : ContainerdRunnable} {v : String}
    (h : r.setPause table v = .ret r') :
    ∃ pv preg, matchPauseVersion table v = .ret (pv, preg) ∧
      r' = { r with pauseVersion := pv, pauseRegistry := preg } := by
  simp only [ContainerdRunnable.setPause, Outcome.bind_eq_ret, Outcome.pure_eq] at h
  obtain ⟨⟨pv, preg⟩, hm, h⟩ := h
  exact ⟨pv, preg, hm, (Outcome.ret.inj h).symm⟩

@[simp] theorem initFields_installSteps (env : ContainerdEnv) (metadata : ExtraMetadata)
    (cluster : Cluster) (registries : List RegistrySpec) (runnable : ContainerdRunnable) :
    (initFields env metadata cluster registries runnable).installSteps = runnable.installSteps := by
  dsimp only [initFields]; split_ifs <;> rfl

@[simp] theorem initFields_uninstallSteps (env : ContainerdEnv) (metadata : ExtraMetadata)
    (cluster : Cluster) (registries : List RegistrySpec) (runnable : ContainerdRunnable) :
    (initFields env metadata cluster registries runnable).uninstallSteps = runnable.uninstallSteps := by
  dsimp only [initFields]; split_ifs <;> rfl

/-- Building the steps leaves the serialized fields alone. -/
@[simp] theorem withRuntimeSteps_fields (env : ContainerdEnv) (nodes : List StepNode)
    (b : ContainerdFields) (r : ContainerdRunnable) :
    (withRuntimeSteps env nodes b r).toContainerdFields = r.toContainerdFields := by
  dsimp only [withRuntimeSteps]; split_ifs <;> rfl

@[simp] theorem payloads_install_withRuntimeSteps (env : ContainerdEnv) (nodes : List StepNode)
    (b : ContainerdFields) {r : ContainerdRunnable} (hi : r.installSteps = []) :
    payloads (withRuntimeSteps env nodes b r).installSteps = [b] := by
  dsimp only [withRuntimeSteps]
  split_ifs <;> simp_all [payloads, runtimeStep]

@[simp] theorem payloads_uninstall_withRuntimeSteps (env : ContainerdEnv) (nodes : List StepNode)
    (b : ContainerdFields) {r : ContainerdRunnable} (hu : r.uninstallSteps = []) :
    payloads (withRuntimeSteps env nodes b r).uninstallSteps = [b] := by
  dsimp only [withRuntimeSteps]
  split_ifs <;> simp_all [payloads, runtimeStep]

/-- For a runnable without steps, both steps carry the runnable's fields as
`InitStep` leaves them, except the pause version and registry, which are
those of `metadata.KubeVersion`; the runnable's own pause version and
registry are those of `cluster.KubernetesVersion` when `metadata.KubeVersion`
maps to no pause version. -/
theorem initStep_payload {env : ContainerdEnv} {metadata : ExtraMetadata} {cluster : Cluster}
    {nodes : List StepNode} {registries : List RegistrySpec} {runnable r : ContainerdRunnable}
    (hi : runnable.installSteps = []) (hu : runnable.uninstallSteps = [])
    (h : initStep env metadata cluster nodes registries runnable = .ret r) :
    ∃ pv preg, matchPauseVersion env.k8sMatchPauseVersion metadata.kubeVersion = .ret (pv, preg) ∧
      payloads r.installSteps = [{ jsonMarshal r with pauseVersion := pv, pauseRegistry := preg }] ∧
      payloads r.uninstallSteps = [{ jsonMarshal r with pauseVersion := pv, pauseRegistry := preg }] ∧
      (if pv = "" then matchPauseVersion env.k8sMatchPauseVersion cluster.kubernetesVersion =
          .ret (r.pauseVersion, r.pauseRegistry)
        else r.pauseVersion = pv ∧ r.pauseRegistry = preg) := by
  simp only [initStep, Outcome.bind_eq_ret] at h
  obtain ⟨r1, h1, h⟩ := h
  obtain ⟨pv, preg, hm1, rfl⟩ := setPause_eq h1
  refine ⟨pv, preg, hm1, ?_⟩
  by_cases hpv : pv = ""
  · simp only [hpv, if_true, Outcome.bind_eq_ret, Outcome.pure_eq] at h ⊢
    obtain ⟨r2, h2, h3⟩ := h
    obtain rfl := Outcome.ret.inj h3
    obtain ⟨pv2, preg2, hm2, rfl⟩ := setPause_eq h2
    refine ⟨?_, ?_, by simpa using hm2⟩ <;> simp [hi, hu, jsonMarshal]
  · simp only [hpv, if_false, Outcome.pure_eq, Outcome.ret_bind] at h ⊢
    obtain rfl := Outcome.ret.inj h
    refine ⟨?_, ?_, ?_⟩ <;> simp [hi, hu, jsonMarshal]

/-- With no metadata version and cluster version `v1.27.4`, whatever the
pause-version table: the runnable's pause registry is `registry.k8s.io`, the
one in both payloads `k8s.gcr.io`. -/
theorem payload_misses_pause_fallback (env : ContainerdEnv) (nodes : List StepNode)
    (registries : List RegistrySpec) :
    (do
      let r ← initStep env {} { kubernetesVersion := "v1.27.4" } nodes registries {}
      pure (r.pauseRegistry, (payloads r.installSteps).map (·.pauseRegistry),
        (payloads r.uninstallSteps).map (·.pauseRegistry))) =
      Outcome.ret ("registry.k8s.io", ["k8s.gcr.io"], ["k8s.gcr.io"]) := by
  rfl

/-! ## Running `InitStep` again -/

section Rerun

variable {env : ContainerdEnv} {metadata : ExtraMetadata} {cluster : Cluster} {nodes : List StepNode}
  {registries : List RegistrySpec}

theorem initFields_initFields (r : ContainerdRunnable) :
    initFields env metadata cluster registries (initFields env metadata cluster registries r) =
      initFields env metadata cluster registries r := by
  dsimp only [initFields]
  split_ifs <;> simp_all

theorem initFields_pause (r : ContainerdRunnable) (pv preg : String) :
    initFields env metadata cluster registries { r with pauseVersion := pv, pauseRegistry := preg } =
      { initFields env metadata cluster registries r with pauseVersion := pv, pauseRegistry := preg } := by
  dsimp only [initFields]
  split_ifs <;> rfl

theorem initFields_withRuntimeSteps (b : ContainerdFields) (r : ContainerdRunnable) :
    initFields env metadata cluster registries (withRuntimeSteps env nodes b r) =
      withRuntimeSteps env nodes b (initFields env metadata cluster registries r) := by
  unfold withRuntimeSteps
  rw [initFields_installSteps]
  by_cases hi : r.installSteps.isEmpty <;> by_cases hu : r.uninstallSteps.isEmpty <;>
    simp only [hi, hu, if_true, if_false, Bool.false_eq_true, initFields_uninstallSteps] <;>
    (dsimp only [initFields]; split_ifs <;> rfl)

/-- A runnable holding both steps keeps them. -/
theorem withRuntimeSteps_of_ne {b : ContainerdFields} {r : ContainerdRunnable} (hi : r.installSteps ≠ [])
    (hu : r.uninstallSteps ≠ []) : withRuntimeSteps env nodes b r = r := by
  simp [withRuntimeSteps, List.isEmpty_iff, hi, hu]

theorem withRuntimeSteps_ne (b : ContainerdFields) (r : ContainerdRunnable) :
    (withRuntimeSteps env nodes b r).installSteps ≠ [] ∧ (withRuntimeSteps env nodes b r).uninstallSteps ≠ [] := by
  dsimp only [withRuntimeSteps]
  split_ifs <;> simp_all

theorem initFields_setPause {table : String → String} {v : String} {x y : ContainerdRunnable}
    (h : x.setPause table v = .ret y) :
    (initFields env metadata cluster registries x).setPause table v = .ret (initFields env metadata cluster registries y) := by
  obtain ⟨pv, preg, hm, rfl⟩ := setPause_eq h
  simp only [ContainerdRunnable.setPause, hm, Outcome.ret_bind, Outcome.pure_eq, initFields_pause]

/-- A runnable that `initFields` leaves alone, that holds both steps, and
whose pause version and registry are what the two lookups give, is returned
unchanged. -/
theorem initStep_of_fixed {r : ContainerdRunnable} {pv preg : String}
    (hfix : initFields env metadata cluster registries r = r) (hi : r.installSteps ≠ []) (hu : r.uninstallSteps ≠ [])
    (hm : matchPauseVersion env.k8sMatchPauseVersion metadata.kubeVersion = .ret (pv, preg))
    (hp : if pv = "" then matchPauseVersion env.k8sMatchPauseVersion cluster.kubernetesVersion =
        .ret (r.pauseVersion, r.pauseRegistry) else r.pauseVersion = pv ∧ r.pauseRegistry = preg) :
    initStep env metadata cluster nodes registries r = .ret r := by
  simp only [initStep, hfix, ContainerdRunnable.setPause, hm, Outcome.ret_bind, Outcome.pure_eq]
  by_cases hpv : pv = ""
  · simp only [hpv, if_true] at hp ⊢
    simp only [hp, Outcome.ret_bind, Outcome.pure_eq, withRuntimeSteps_of_ne hi hu]
  · rw [if_neg hpv] at hp
    obtain ⟨rfl, rfl⟩ := hp
    simp only [hpv, if_false, Outcome.ret_bind, Outcome.pure_eq, withRuntimeSteps_of_ne hi hu]

/-- `InitStep` is idempotent: run again, with the same cluster, metadata,
nodes and registries, on the runnable it returned, it returns that runnable
unchanged, steps and payload included. The second call recomputes every field
to the value it holds, and finds both step lists filled, so it keeps them. -/
theorem initStep_idempotent {runnable r : ContainerdRunnable}
    (h : initStep env metadata cluster nodes registries runnable = .ret r) :
    initStep env metadata cluster nodes registries r = .ret r := by
  simp only [initStep, Outcome.bind_eq_ret] at h
  obtain ⟨r1, h1, h⟩ := h
  have hf1 : initFields env metadata cluster registries r1 = r1 :=
    Outcome.ret.inj ((initFields_setPause h1).symm.trans (by rw [initFields_initFields, h1]))
  obtain ⟨pv, preg, hm1, hr1⟩ := setPause_eq h1
  have hpv1 : r1.pauseVersion = pv := by rw [hr1]
  by_cases hpv : pv = ""
  · simp only [hpv1, hpv, if_true, Outcome.bind_eq_ret, Outcome.pure_eq] at h
    obtain ⟨r3, h3, h⟩ := h
    obtain rfl := Outcome.ret.inj h
    have hf3 : initFields env metadata cluster registries r3 = r3 :=
      Outcome.ret.inj ((initFields_setPause h3).symm.trans (by rw [hf1, h3]))
    obtain ⟨pv2, preg2, hm2, hr3⟩ := setPause_eq h3
    exact initStep_of_fixed (by rw [initFields_withRuntimeSteps, hf3]) (withRuntimeSteps_ne _ _).1
      (withRuntimeSteps_ne _ _).2 hm1 (by simpa [hpv, hr3] using hm2)
  · simp only [hpv1, hpv, if_false, Outcome.ret_bind, Outcome.pure_eq] at h
    obtain rfl := Outcome.ret.inj h
    exact initStep_of_fixed (by rw [initFields_withRuntimeSteps, hf1]) (withRuntimeSteps_ne _ _).1
      (withRuntimeSteps_ne _ _).2 hm1 (by simp [hpv, hr1])

end Rerun

/-- The values an environment for Kubernetes 1.27 gives. -/
def sampleInitEnv : ContainerdEnv :=
  ⟨"/etc/containerd", "/etc/containerd/certs.d", fun v => if v = "127" then "3.9" else "", "cri/containerd/step",
    "cri/containerd/template", true, "install-runtime", "uninstall-runtime"⟩

/-- A fresh runnable for a `v1.27.4` cluster with one mirror, and `InitStep`
run again on what it returned. -/
theorem sampleInit_rerun :
    ∃ r, initStep sampleInitEnv {} { kubernetesVersion := "v1.27.4" } [] [{ scheme := "http", host := "mirror.local" }] {} =
      .ret r ∧
    initStep sampleInitEnv {} { kubernetesVersion := "v1.27.4" } [] [{ scheme := "http", host := "mirror.local" }] r =
      .ret r :=
  ⟨_, rfl, initStep_idempotent rfl⟩

/-! ## The pause lookup on release versions -/

/-- `v1.<minor>`, or `v1.<minor>.<patch>`, the numbers written as digit strings. -/
def releaseVersion (minor : List Char) (patch : Option (List Char)) : String :=
  ⟨"v1.".data ++ minor ++ (patch.map fun ps => '.' :: ps).getD []⟩

theorem ne_of_isDigit {c d : Char} (hc : c.isDigit) (hd : d.isDigit = false) : c ≠ d := by
  rintro rfl
  simp_all

theorem atoi_digits {ds : List Char} (hne : ds ≠ []) (hd : ∀ c ∈ ds, c.isDigit) :
    atoi ⟨ds⟩ = digitsValue ds := by
  obtain ⟨c, ds, rfl⟩ := List.exists_cons_of_ne_nil hne
  have hc := hd c (List.mem_cons_self _ _)
  have hds : ∀ x ∈ ds, x.isDigit := fun x hx => hd x (List.mem_cons_of_mem _ hx)
  simp [atoi, ne_of_isDigit hc (d := '-') rfl, ne_of_isDigit hc (d := '+') rfl, hc]
  rw [if_pos hds]
  rfl

theorem atoi_one_two_digits {xs : List Char} (hlen : xs.length = 2) (hd : ∀ c ∈ xs, c.isDigit) :
    atoi ⟨'1' :: xs⟩ = 100 + digitsValue xs := by
  rw [@atoi_digits ('1' :: xs) (List.cons_ne_nil _ _) (List.forall_mem_cons.2 ⟨rfl, hd⟩)]
  match xs, hlen with
  | [a, b], _ => simp [digitsValue]; omega

theorem filter_digits {ds : List Char} (hd : ∀ c ∈ ds, c.isDigit) :
    ds.filter (fun c => decide (c ≠ '.') && decide (c ≠ 'v')) = ds := by
  rw [List.filter_eq_self]
  intro c hc
  simp [ne_of_isDigit (hd c hc) (d := 'v') rfl, ne_of_isDigit (hd c hc) (d := '.') rfl]

/-- On a release version the lookup keeps `1` and the next two digits, across
the dot between minor and patch, and faults when fewer than two follow. -/
theorem matchPauseVersion_release (table : String → String) {minor : List Char}
    {patch : Option (List Char)} (hm : ∀ c ∈ minor, c.isDigit) (hp : ∀ ps ∈ patch, ∀ c ∈ ps, c.isDigit) :
    matchPauseVersion table (releaseVersion minor patch) =
      if (minor ++ patch.getD []).length < 2 then
        .panic ("runtime error: slice bounds out of range [:3] with capacity " ++
          toString ((minor ++ patch.getD []).length + 1))
      else
        .ret (table ⟨'1' :: (minor ++ patch.getD []).take 2⟩,
          if 25 ≤ digitsValue ((minor ++ patch.getD []).take 2) then "registry.k8s.io" else "k8s.gcr.io") := by
  have hds : ∀ c ∈ minor ++ patch.getD [], c.isDigit := by
    cases patch <;> simp_all [or_imp, forall_and]
  have hdigits : (((releaseVersion minor patch).toList.filter (· ≠ 'v')).filter (· ≠ '.')) =
      '1' :: (minor ++ patch.getD []) := by
    show ((("v1.".data ++ minor ++ _).filter _).filter _) = _
    rw [List.filter_filter, List.filter_append, List.filter_append, filter_digits hm]
    cases patch with
    | none => rfl
    | some ps =>
      rw [Option.map_some', Option.getD_some, List.filter_cons_of_neg (l := ps) (by decide),
        filter_digits (hp ps rfl)]
      rfl
  have hne : releaseVersion minor patch ≠ "" := fun h => by simp [h] at hdigits
  generalize minor ++ patch.getD [] = ds at hdigits hds
  simp only [matchPauseVersion, if_neg hne, hdigits, List.length_cons, List.take_succ_cons]
  by_cases hlen : ds.length < 2
  · rw [if_pos (by omega), if_pos hlen]
  · have htake : (ds.take 2).length = 2 := by simp only [List.length_take]; omega
    rw [if_neg (by omega), if_neg hlen,
      atoi_one_two_digits htake (fun c hc => hds c (List.mem_of_mem_take hc))]
    have hreg : (125 ≤ 100 + (digitsValue (ds.take 2) : Int)) ↔ 25 ≤ digitsValue (ds.take 2) := by omega
    simp only [hreg]

/-- With a two-digit minor version, `registry.k8s.io` is chosen exactly from
minor version 25 on. -/
theorem matchPauseVersion_two_digit_minor (table : String → String) {minor : List Char}
    {patch : Option (List Char)} (hm : ∀ c ∈ minor, c.isDigit) (hp : ∀ ps ∈ patch, ∀ c ∈ ps, c.isDigit)
    (h2 : minor.length = 2) :
    matchPauseVersion table (releaseVersion minor patch) =
      .ret (table ⟨'1' :: minor⟩, if 25 ≤ digitsValue minor then "registry.k8s.io" else "k8s.gcr.io") := by
  rw [matchPauseVersion_release table hm hp, if_neg (by simp only [List.length_append]; omega),
    List.take_append_of_le_length (by omega), List.take_of_length_le (by omega)]

/-- `v1.27.4` looks up `127` and takes `registry.k8s.io`. -/
theorem release_v1_27_4_pause : matchPauseVersion (fun v => if v = "127" then "3.9" else "")
    (releaseVersion "27".data (some "4".data)) = .ret ("3.9", "registry.k8s.io") := by
  rw [@matchPauseVersion_two_digit_minor _ "27".data (some "4".data) (by decide)
    (fun ps hps => by cases hps; decide) rfl]
  rfl

/-- A one-digit minor version without a patch faults, in `InitStep` from the
request's version and from the cluster's alike; with a patch, or with three
digits, the registry follows digits of two numbers. -/
theorem pause_lookup_faults_and_misreads (env : ContainerdEnv) (cluster : Cluster) (nodes : List StepNode)
    (registries : List RegistrySpec) (runnable : ContainerdRunnable) (table : String → String) :
    initStep env { kubeVersion := "v1.2" } cluster nodes registries runnable =
      .panic "runtime error: slice bounds out of range [:3] with capacity 2" ∧
    initStep env {} { cluster with kubernetesVersion := "v1.2" } nodes registries runnable =
      .panic "runtime error: slice bounds out of range [:3] with capacity 2" ∧
    matchPauseVersion table "v1.3.0" = .ret (table "130", "registry.k8s.io") ∧
    matchPauseVersion table "v1.100" = .ret (table "110", "k8s.gcr.io") :=
  ⟨rfl, by simp only [initStep, ContainerdRunnable.setPause]; rfl, rfl, rfl⟩

end KubeClipper.L4.Containerd
