import KubeClipper.L1Go.Filepath
import KubeClipper.L2Api.Types
/-!
# The Calico runnable: its install steps and its manifest template

`CalicoRunnable.InstallSteps` (`src/unnamed/part_000:123-149`) serializes the
runnable and lays out the steps that install Calico: for a high Kubernetes
version the chart's own steps, then a step that renders the manifest on the
node and one that installs the release; otherwise the render step and one
that applies the manifest. It never reads the Calico version except to name
the chart. The render, run on a node, asks `CalicoTemplate`
(`src/unnamed/part_000:200-215`) for the manifest template of the version, and
only there is a version without a template refused.

**Environment.** `IsHighKubeVersion`, `common.Chart.InstallStepsV2`,
`RenderYaml`, `ApplyYaml`, `InstallCalicoRelease`, `manifestDir`, the
downloader's constants, the six templates and `text/template`'s `RenderTo`
are not under `src/`; `CniEnv` carries them, with `σ` the type of a step. The
runnable holds strings and booleans only, so `json.Marshal` cannot fail, and a
step's payload is the runnable itself.

Results:
* `calicoTemplate_eq_error_iff`: the template lookup fails exactly for the
  versions outside `supportedVersions`, with the message naming the version.
* `installSteps_eq_error_iff`: `InstallSteps` fails exactly when the chart's
  steps fail on a high Kubernetes version, whatever the Calico version.
* `installSteps_of_low`: on a low Kubernetes version every runnable gets its
  render and apply steps.
* `installSteps_spec`: these together, and a render step in every success.
* `unsupported_version_gets_steps`: so does Calico `v3.99.0`, whose render
  then fails.
* `initStep_cidrs`: `InitStep` (`src/unnamed/part_000:86-107`) panics exactly
  on too few pod CIDR blocks or nil Calico settings, which it reads through
  the pointer `cni.Calico`; otherwise it fills the CIDRs and address
  detections from them.
-/
namespace KubeClipper.L4.Cni

open KubeClipper.L1.Go KubeClipper.L2.Api

/-- The fields of `CalicoRunnable`, its embedded `BaseCni` and `CNI` ones
included, that `InstallSteps` and `CalicoTemplate` read. -/
structure CalicoRunnable where
  version : String := ""
  offline : Bool := false
  deriving DecidableEq, Repr

/-- `common.Chart` (not under `src/`): the fields `InstallSteps` sets. -/
structure Chart where
  pkgName : String
  version : String
  offline : Bool
  deriving DecidableEq, Repr

/-- The manifest templates `calicoV3112` … `calicoV3261` (not under `src/`). -/
structure CalicoTemplates where
  calicoV3112 : String
  calicoV31610 : String
  calicoV3212 : String
  calicoV3224 : String
  calicoV3245 : String
  calicoV3261 : String

/-- The code `InstallSteps` and `renderCalicoTo` call that is not under `src/`. -/
structure CniEnv (σ : Type) where
  isHighKubeVersion : String → Bool
  /-- `chart.InstallStepsV2(nodes)` -/
  installStepsV2 : Chart → List StepNode → Except String (List σ)
  /-- `RenderYaml(name, bytes, nodes)` -/
  renderYaml : String → CalicoRunnable → List StepNode → σ
  /-- `ApplyYaml(manifest, nodes)` -/
  applyYaml : String → List StepNode → σ
  /-- `InstallCalicoRelease(chartPath, manifest, nodes)` -/
  installCalicoRelease : String → String → List StepNode → σ
  manifestDir : String
  /-- `downloader.BaseDstDir` -/
  baseDstDir : String
  /-- `downloader.ChartFilename` -/
  chartFilename : String
  templates : CalicoTemplates
  /-- `tmplutil.New().RenderTo(w, template, runnable)`, its byte count dropped -/
  renderTo : String → CalicoRunnable → Except String Unit

variable {σ : Type}

/-- The chart literal of `InstallSteps` (part_000:130-134). -/
def calicoChart (runnable : CalicoRunnable) : Chart :=
  { pkgName := "calico", version := runnable.version, offline := runnable.offline }

/-- mirrors src/unnamed/part_000:123-149 (`CalicoRunnable.InstallSteps`) -/
def installSteps (env : CniEnv σ) (runnable : CalicoRunnable) (nodes : List StepNode)
    (kubernetesVersion : String) : Except String (List σ) :=
  let bytes := runnable
  if env.isHighKubeVersion kubernetesVersion then do
    let chart := calicoChart runnable
    let cLoadSteps ← env.installStepsV2 chart nodes
    pure (cLoadSteps ++ [env.renderYaml "calico" bytes nodes,
      env.installCalicoRelease (join [env.baseDstDir, "." ++ chart.pkgName, chart.version, env.chartFilename])
        (join [env.manifestDir, "calico.yaml"]) nodes])
  else
    pure [env.renderYaml "calico" bytes nodes, env.applyYaml (join [env.manifestDir, "calico.yaml"]) nodes]

/-- mirrors src/unnamed/part_000:200-215 (`CalicoRunnable.CalicoTemplate`) -/
def calicoTemplate (t : CalicoTemplates) (runnable : CalicoRunnable) : Except String String :=
  match runnable.version with
  | "v3.11.2" => .ok t.calicoV3112
  | "v3.16.10" => .ok t.calicoV31610
  | "v3.21.2" => .ok t.calicoV3212
  | "v3.22.4" => .ok t.calicoV3224
  | "v3.24.5" => .ok t.calicoV3245
  | "v3.26.1" => .ok t.calicoV3261
  | v => .error ("calico dose not support version: " ++ v)

/-- mirrors src/unnamed/part_000:188-198 (`CalicoRunnable.renderCalicoTo`) -/
def renderCalicoTo (env : CniEnv σ) (runnable : CalicoRunnable) : Except String Unit := do
  let calicoTemp ← calicoTemplate env.templates runnable
  env.renderTo calicoTemp runnable

/-- The versions `CalicoTemplate` has a template for. -/
def supportedVersions : List String :=
  ["v3.11.2", "v3.16.10", "v3.21.2", "v3.22.4", "v3.24.5", "v3.26.1"]

/-! ## The template lookup -/

theorem calicoTemplate_eq_error_iff (t : CalicoTemplates) (runnable : CalicoRunnable) (e : String) :
    calicoTemplate t runnable = .error e ↔
      runnable.version ∉ supportedVersions ∧ e = "calico dose not support version: " ++ runnable.version := by
  unfold calicoTemplate
  split <;> simp_all [supportedVersions, eq_comm]

theorem renderCalicoTo_of_not_mem (env : CniEnv σ) {runnable : CalicoRunnable}
    (h : runnable.version ∉ supportedVersions) :
    renderCalicoTo env runnable = .error ("calico dose not support version: " ++ runnable.version) := by
  rw [renderCalicoTo, (calicoTemplate_eq_error_iff _ _ _).2 ⟨h, rfl⟩]
  rfl

/-! ## The install steps -/

theorem installSteps_eq_error_iff (env : CniEnv σ) (runnable : CalicoRunnable) (nodes : List StepNode)
    (kubernetesVersion : String) (e : String) :
    installSteps env runnable nodes kubernetesVersion = .error e ↔
      env.isHighKubeVersion kubernetesVersion = true ∧ env.installStepsV2 (calicoChart runnable) nodes = .error e := by
  unfold installSteps
  split_ifs with hhigh
  · cases hv : env.installStepsV2 (calicoChart runnable) nodes <;>
      simp [hv, hhigh, bind, Except.bind, pure, Except.pure]
  · simp [hhigh, pure, Except.pure]

theorem render_mem_installSteps {env : CniEnv σ} {runnable : CalicoRunnable} {nodes : List StepNode}
    {kubernetesVersion : String} {steps : List σ} (h : installSteps env runnable nodes kubernetesVersion = .ok steps) :
    env.renderYaml "calico" runnable nodes ∈ steps := by
  unfold installSteps at h
  split_ifs at h
  · cases hv : env.installStepsV2 (calicoChart runnable) nodes <;>
      simp [hv, bind, Except.bind, pure, Except.pure] at h
    simp [← h]
  · simp [pure, Except.pure] at h
    simp [← h]

/-- On a low Kubernetes version every runnable, whatever its Calico version,
gets the render and apply steps. -/
theorem installSteps_of_low (env : CniEnv σ) (runnable : CalicoRunnable) (nodes : List StepNode)
    {kubernetesVersion : String} (hlow : env.isHighKubeVersion kubernetesVersion = false) :
    installSteps env runnable nodes kubernetesVersion =
      .ok [env.renderYaml "calico" runnable nodes, env.applyYaml (join [env.manifestDir, "calico.yaml"]) nodes] := by
  simp [installSteps, hlow, pure, Except.pure]

/-- `InstallSteps` fails only through the chart's steps, a success holds the
render step of the runnable, a low Kubernetes version gets the render and
apply steps, and the render's template lookup is what refuses a Calico
version without a template. -/
theorem installSteps_spec (env : CniEnv σ) (runnable : CalicoRunnable) (nodes : List StepNode)
    (kubernetesVersion : String) :
    (∀ e, installSteps env runnable nodes kubernetesVersion = .error e ↔
      env.isHighKubeVersion kubernetesVersion = true ∧
        env.installStepsV2 (calicoChart runnable) nodes = .error e) ∧
    (∀ steps, installSteps env runnable nodes kubernetesVersion = .ok steps →
      env.renderYaml "calico" runnable nodes ∈ steps) ∧
    (env.isHighKubeVersion kubernetesVersion = false → installSteps env runnable nodes kubernetesVersion =
      .ok [env.renderYaml "calico" runnable nodes, env.applyYaml (join [env.manifestDir, "calico.yaml"]) nodes]) ∧
    (∀ e, calicoTemplate env.templates runnable = .error e ↔
      runnable.version ∉ supportedVersions ∧ e = "calico dose not support version: " ++ runnable.version) :=
  ⟨installSteps_eq_error_iff env runnable nodes kubernetesVersion, fun _ => render_mem_installSteps,
    installSteps_of_low env runnable nodes, calicoTemplate_eq_error_iff env.templates runnable⟩

/-! ## An unsupported version -/

/-- An environment whose Kubernetes versions are all low; steps are named by
strings. -/
def sampleEnv : CniEnv String where
  isHighKubeVersion _ := false
  installStepsV2 _ _ := .ok []
  renderYaml name _ _ := "render " ++ name
  applyYaml manifest _ := "apply " ++ manifest
  installCalicoRelease chart _ _ := "release " ++ chart
  manifestDir := "/tmp/.k8s"
  baseDstDir := "/tmp"
  chartFilename := "chart.tgz"
  templates := ⟨"", "", "", "", "", ""⟩
  renderTo _ _ := .ok ()

/-- Calico `v3.99.0` on a low Kubernetes version gets its render and apply
steps and no error; the render step then fails on the node. -/
theorem unsupported_version_gets_steps :
    installSteps sampleEnv { version := "v3.99.0" } [] "v1.27.4" = .ok ["render calico", "apply /tmp/.k8s/calico.yaml"] ∧
    renderCalicoTo sampleEnv { version := "v3.99.0" } = .error "calico dose not support version: v3.99.0" :=
  ⟨installSteps_of_low sampleEnv _ [] rfl, renderCalicoTo_of_not_mem sampleEnv (by decide)⟩

/-! ## The stepper `InitStep` builds -/

/-- mirrors src/unnamed/part_000:62-65 -/
structure NodeAddressDetection where
  type : String := ""
  value : String := ""
  deriving DecidableEq, Repr

/-- `v1.CNI`'s Calico settings (not under `src/`): the fields `InitStep` reads. -/
structure CalicoSettings where
  ipv4AutoDetection : String := ""
  ipv6AutoDetection : String := ""
  deriving DecidableEq, Repr

/-- `v1.CNI` (not under `src/`): the fields `InitStep` reads; `cniNamespace` is
`Namespace`, and `calico` the pointer `Calico *Calico`, nil when the cluster
gives no Calico settings. -/
structure CNI where
  localRegistry : String := ""
  version : String := ""
  offline : Bool := false
  cniNamespace : String := ""
  calico : Option CalicoSettings := none
  deriving DecidableEq, Repr

/-- `v1.Networking` (not under `src/`): the IP family and `Pods.CIDRBlocks`. -/
structure Networking where
  ipFamily : String := ""
  podCIDRBlocks : List String := []
  deriving DecidableEq, Repr

/-- `component.ExtraMetadata`: the fields `InitStep` reads. -/
structure CniMetadata where
  kubeletDataDir : String := ""
  cri : String := ""
  deriving DecidableEq, Repr

/-- `CalicoRunnable` as `InitStep` fills it (part_000:67-72): the embedded
`CNI`, the `BaseCni` fields it sets, and Calico's own fields. -/
structure CalicoFields extends CalicoRunnable where
  cni : CNI := {}
  localRegistry : String := ""
  type : String := ""
  criType : String := ""
  cniNamespace : String := ""
  dualStack : Bool := false
  podIPv4CIDR : String := ""
  podIPv6CIDR : String := ""
  nodeAddressDetectionV4 : NodeAddressDetection := {}
  nodeAddressDetectionV6 : NodeAddressDetection := {}
  kubeletDataDir : String := ""
  deriving DecidableEq, Repr

/-- What `InitStep` calls that is not under `src/`. -/
structure CalicoInitEnv where
  /-- `v1.IPFamilyDualStack` -/
  ipFamilyDualStack : String
  /-- `ParseNodeAddressDetection` -/
  parseNodeAddressDetection : String → NodeAddressDetection

/-- mirrors src/unnamed/part_000:86-107 (`CalicoRunnable.InitStep`) -/
def initStep (env : CalicoInitEnv) (metadata : CniMetadata) (cni : CNI) (networking : Networking) :
    Outcome CalicoFields := do
  let ipv6 ← if networking.ipFamily = env.ipFamilyDualStack then indexGet networking.podCIDRBlocks 1
    else pure ""
  let podIPv4CIDR ← indexGet networking.podCIDRBlocks 0
  let calico ← deref cni.calico
  pure
    { cni := cni, kubeletDataDir := metadata.kubeletDataDir, localRegistry := cni.localRegistry,
      type := "calico", version := cni.version, criType := metadata.cri, offline := cni.offline,
      cniNamespace := cni.cniNamespace, dualStack := networking.ipFamily = env.ipFamilyDualStack,
      podIPv4CIDR := podIPv4CIDR, podIPv6CIDR := ipv6,
      nodeAddressDetectionV4 := env.parseNodeAddressDetection calico.ipv4AutoDetection,
      nodeAddressDetectionV6 := env.parseNodeAddressDetection calico.ipv6AutoDetection }

/-- `LoadImage` and `RemoveImage` of the `cni` package (not under `src/`). -/
structure ImageSteps (σ : Type) where
  loadImage : String → CalicoFields → List StepNode → σ
  removeImage : String → CalicoFields → List StepNode → σ

/-- mirrors src/unnamed/part_000:109-121 (`CalicoRunnable.LoadImage`); the payload is the runnable. -/
def loadImage (env : ImageSteps σ) (runnable : CalicoFields) (nodes : List StepNode) : List σ :=
  if runnable.offline && runnable.localRegistry = "" then [env.loadImage "calico" runnable nodes] else []

/-- mirrors src/unnamed/part_000:158-167 (`CalicoRunnable.UninstallSteps`) -/
def uninstallSteps (env : ImageSteps σ) (runnable : CalicoFields) (nodes : List StepNode) : List σ :=
  if runnable.offline && runnable.localRegistry = "" then [env.removeImage "calico" runnable nodes] else []

/-- mirrors src/unnamed/part_000:170-176 (`CalicoRunnable.CmdList`) -/
def cmdList (ns : String) : GoMap String String :=
  [("get", "kubectl get po -n " ++ ns ++ " | grep calico"),
    ("restart", "kubectl rollout restart ds calico-node -n " ++ ns)]

/-- `InitStep` panics exactly when the pod CIDR list is empty, or the cluster
is dual-stack and lists fewer than two blocks, or the CNI's Calico settings
are nil; otherwise the stepper's IPv4 CIDR is the first block, its IPv6 CIDR
the second on a dual-stack cluster and empty on any other, and its address
detections are parsed from the Calico settings. -/
theorem initStep_cidrs (env : CalicoInitEnv) (metadata : CniMetadata) (cni : CNI) (networking : Networking) :
    ((∃ msg, initStep env metadata cni networking = .panic msg) ↔
      networking.podCIDRBlocks = [] ∨
        (networking.ipFamily = env.ipFamilyDualStack ∧ networking.podCIDRBlocks.length < 2) ∨ cni.calico = none) ∧
    ∀ s, initStep env metadata cni networking = .ret s →
      networking.podCIDRBlocks.head? = some s.podIPv4CIDR ∧
      s.podIPv6CIDR = (if networking.ipFamily = env.ipFamilyDualStack then networking.podCIDRBlocks.getD 1 "" else "") ∧
      ∃ calico, cni.calico = some calico ∧
        s.nodeAddressDetectionV4 = env.parseNodeAddressDetection calico.ipv4AutoDetection ∧
        s.nodeAddressDetectionV6 = env.parseNodeAddressDetection calico.ipv6AutoDetection := by
  rcases networking with ⟨family, _ | ⟨b0, _ | ⟨b1, rest⟩⟩⟩ <;> rcases cni with ⟨_, _, _, _, _ | calico⟩ <;>
    by_cases hd : family = env.ipFamilyDualStack <;> simp [initStep, indexGet, deref, hd]

end KubeClipper.L4.Cni
