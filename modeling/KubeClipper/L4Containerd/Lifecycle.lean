import KubeClipper.L4Containerd.Reconcile
/-!
# The runtime on the node: `ContainerdRunnable.Install` and `Uninstall`

The node agent decodes the payload of an `installRuntime` or
`uninstallRuntime` step into a fresh runnable (`NewInstance`,
containerd.go:153-155) and calls `Install` (containerd.go:157-184) or
`Uninstall` (containerd.go:186-219) on it.

`Install` creates the downloader instance and unpacks containerd's files,
records whether systemd runs the node, writes containerd's `config.toml` and
every registry's `hosts.toml` (`setupContainerdConfig`, containerd.go:245-264,
with `renderRegistryConfig`, :311-322), reloads systemd and enables and
restarts the service (`enableContainerdService`, :266-285), and points
`crictl` at containerd's socket; the first error is returned. `Uninstall`
stops and disables the service (`disableContainerdService`, :287-303) with
its errors only logged, creates the downloader instance, whose error is the
only one it returns, removes the unpacked files, and then removes
containerd's run, data and configuration directories, whatever `DryRun` is.

**Environment.** The downloader, `systemctl`, `cmdutil.RunCmdWithContext`,
`component.GetRepoMirror`, `cgroups.IsRunningSystemd` and the package's
directory constants are not under `src/`; `NodeEnv` carries them for one call.
A downloader instance is what its two methods do to the tree. A `systemctl`
call does what its name says to the unit when it succeeds and nothing when it
fails; `daemon-reload` changes no unit. The command runner is what a command
does to the tree: `crictl config` writes crictl's own configuration file, and
where a command writes is a hypothesis of each result about the tree `Install`
leaves (`CommandKeeps`). A command reads the files of the tree, not the order
the model lists them in. `fileutil.WriteFileWithContext` writes nothing on a
dry run.
What a failed call changed before its error is not modelled; the results hold
from every node, so also from whatever a failed call left.

`renderRegistryConfig` ranges over the map `ToContainerdRegistryConfig`
builds, in the order `NodeEnv.mapOrder` gives; every result holds for every
order.

Results:
* `install_establishes`: after a successful `Install`, from any node and in
  any map order, `config.toml` holds the runnable with the node's defaults,
  every registry group is rendered in the registry directory, and
  `containerd.service` is enabled and running, when `crictl config` leaves
  `config.toml` and the registry directory alone.
* `setupContainerdConfig_keeps`: the configuration removes nothing; it
  changes a file only at `config.toml` and where a desired registry's
  `hosts.toml` or CA file goes, so a server no longer desired keeps its
  `hosts.toml`.
* `dryRun_install_writes_nothing`: a dry run writes no file and changes no
  unit, but creates containerd's configuration directory.
* `uninstall_removes`: `Uninstall` fails only when the downloader instance
  cannot be created; otherwise, dry run or not, nothing is left at or below
  the four directories it removes, and on a dry run no unit changes.
* `trust_store_survives_uninstall`: a registry directory apart from those
  four keeps, through `Uninstall`, every registry `Install` rendered there.
-/
namespace KubeClipper.L4.Containerd

open KubeClipper.L1.Go KubeClipper.L2.Api

/-! ## The node and what it offers -/

/-- mirrors containerd.go:50-52 -/
def containerdSystemdUnitName : String := "containerd.service"

/-- The calls of `pkg/utils/systemctl` (not under `src/`) made here. -/
inductive SystemctlCall where
  | reloadDeamon
  | enableUnit (name : String)
  | restartUnit (name : String)
  | stopUnit (name : String)
  | disableUnit (name : String)
  deriving DecidableEq, Repr

/-- What systemd holds of one unit. -/
structure UnitState where
  enabled : Bool := false
  active : Bool := false
  deriving DecidableEq, Repr

/-- The node: its tree of files and the state of each systemd unit. -/
structure NodeState where
  fs : FS Content
  units : String → UnitState

/-- What a `systemctl` call that succeeds does to the units. -/
def SystemctlCall.apply : SystemctlCall → (String → UnitState) → String → UnitState
  | .reloadDeamon, u => u
  | .enableUnit n, u => Function.update u n { u n with enabled := true }
  | .restartUnit n, u => Function.update u n { u n with active := true }
  | .stopUnit n, u => Function.update u n { u n with active := false }
  | .disableUnit n, u => Function.update u n { u n with enabled := false }

/-- A `downloader` instance (pkg/simple/downloader, not under `src/`): what its
two methods do to the tree. -/
structure Downloader where
  downloadAndUnpackConfigs : FS Content → Except String (FS Content)
  removeConfigs : FS Content → Except String (FS Content)

/-- What `Install` and `Uninstall` take from outside `src/`, for one call. -/
structure NodeEnv where
  containerdDefaultConfigDir : String
  containerdDefaultDataDir : String
  containerdDefaultRegistryConfigDir : String
  /-- `component.GetRepoMirror(ctx)` -/
  repoMirror : String
  /-- `cgroups.IsRunningSystemd()` on the node -/
  runningSystemd : Bool
  /-- `downloader.NewInstance(ctx, criContainerd, version, runtime.GOARCH, online, dryRun)` -/
  newInstance : String → Bool → Bool → Except String Downloader
  /-- the outcome of each `systemctl` call -/
  systemctl : SystemctlCall → Except String Unit
  /-- `cmdutil.RunCmdWithContext(ctx, dryRun, args...)`: what the command does
  to the tree, its output dropped -/
  runCmd : Bool → List String → FS Content → Except String (FS Content)
  /-- A command reads the files of the tree, not the order the model lists them in. -/
  runCmd_congr : ∀ dryRun args {X Y : FS Content}, X.node = Y.node →
    (runCmd dryRun args X).map FS.node = (runCmd dryRun args Y).map FS.node
  /-- the order of the loop over the registry map -/
  mapOrder : MapOrder String ContainerdRegistry

/-- A `systemctl` call on the node's units. -/
def systemctl (env : NodeEnv) (call : SystemctlCall) (units : String → UnitState) :
    Except String (String → UnitState) :=
  (env.systemctl call).map fun _ => call.apply units

/-- The result of a call whose error is only logged: what it left, or what stood before. -/
def warned {α : Type} (r : Except String α) (a : α) : α :=
  match r with
  | .ok a' => a'
  | .error _ => a

/-! ## The runnable's methods -/

/-- The runnable as `setupContainerdConfig` completes it (containerd.go:246-253). -/
def withNodeDefaults (env : NodeEnv) (runnable : ContainerdRunnable) : ContainerdRunnable :=
  let runnable := if !runnable.offline && runnable.localRegistry = "" then
    { runnable with localRegistry := env.repoMirror } else runnable
  if runnable.registryConfigDir = "" then
    { runnable with registryConfigDir := env.containerdDefaultRegistryConfigDir } else runnable

/-- The loop of `renderRegistryConfig` (containerd.go:316-321): one
`renderConfigs` per entry, in the order given, up to the first error. -/
def renderLoop (dir : String) (regs : GoMap String ContainerdRegistry) (fs : FS Content) :
    Except String (FS Content) :=
  regs.foldlM (fun fs cfg => renderConfigs cfg.2 dir fs) fs

/-- mirrors containerd.go:311-322 -/
def renderRegistryConfig (env : NodeEnv) (runnable : ContainerdRunnable) (dryRun : Bool)
    (fs : FS Content) : Except String (FS Content) :=
  if dryRun then .ok fs
  else renderLoop runnable.registryConfigDir (env.mapOrder.visit (toContainerdRegistryConfig runnable.registies)) fs

/-- mirrors containerd.go:245-264 -/
def setupContainerdConfig (env : NodeEnv) (runnable : ContainerdRunnable) (dryRun : Bool)
    (fs : FS Content) : Except String (FS Content) := do
  let runnable := withNodeDefaults env runnable
  let cf := join [env.containerdDefaultConfigDir, "config.toml"]
  let fs ← (mkdirAll fs env.containerdDefaultConfigDir).mapError PathError.error
  let fs ← (writeFileWithContext fs cf (.config (some runnable.toContainerdFields)) dryRun).mapError
    PathError.error
  renderRegistryConfig env runnable dryRun fs

/-- mirrors containerd.go:266-285 -/
def enableContainerdService (env : NodeEnv) (dryRun : Bool) (units : String → UnitState) :
    Except String (String → UnitState) :=
  if dryRun then .ok units else do
    let units ← systemctl env .reloadDeamon units
    let units ← systemctl env (.enableUnit containerdSystemdUnitName) units
    systemctl env (.restartUnit containerdSystemdUnitName) units

/-- mirrors containerd.go:287-303: both errors are only logged. -/
def disableContainerdService (env : NodeEnv) (dryRun : Bool) (units : String → UnitState) :
    String → UnitState :=
  if dryRun then units else
    let units := warned (systemctl env (.stopUnit containerdSystemdUnitName) units) units
    warned (systemctl env (.disableUnit containerdSystemdUnitName) units) units

/-- mirrors containerd.go:157-184 -/
def ContainerdRunnable.install (env : NodeEnv) (runnable : ContainerdRunnable) (dryRun : Bool)
    (node : NodeState) : Except String NodeState := do
  let inst ← env.newInstance runnable.version (!runnable.offline) dryRun
  let fs ← inst.downloadAndUnpackConfigs node.fs
  let runnable := { runnable with enableSystemdCgroup := formatBool env.runningSystemd }
  let fs ← setupContainerdConfig env runnable dryRun fs
  let units ← enableContainerdService env dryRun node.units
  let fs ← env.runCmd dryRun ["crictl", "config", "runtime-endpoint", "/run/containerd/containerd.sock"] fs
  pure ⟨fs, units⟩

/-- The directories `Uninstall` removes, in its order (containerd.go:199-214). -/
def removedDirs (env : NodeEnv) (runnable : ContainerdRunnable) : List String :=
  ["/run/containerd", stringDefaultIfEmpty env.containerdDefaultConfigDir runnable.dataRootDir,
    env.containerdDefaultConfigDir, env.containerdDefaultDataDir]

/-- mirrors containerd.go:186-219; the errors of `os.RemoveAll` are dropped. -/
def ContainerdRunnable.uninstall (env : NodeEnv) (runnable : ContainerdRunnable) (dryRun : Bool)
    (node : NodeState) : Except String NodeState := do
  let units := disableContainerdService env dryRun node.units
  let inst ← env.newInstance runnable.version (!runnable.offline) dryRun
  let fs := warned (inst.removeConfigs node.fs) node.fs
  let fs := (removedDirs env runnable).foldl removeAll fs
  pure ⟨fs, warned (systemctl env .reloadDeamon units) units⟩

/-- mirrors containerd.go:140-151 (`v1.StepAction` has the three values modelled) -/
def ContainerdRunnable.getActionSteps (runnable : ContainerdRunnable) (action : StepAction) :
    List (Step ContainerdFields) :=
  match action with
  | .install => runnable.installSteps
  | .uninstall => runnable.uninstallSteps
  | .upgrade => runnable.upgradeSteps

/-- mirrors containerd.go:153-155 -/
def ContainerdRunnable.newInstance : ContainerdRunnable := {}

/-- The runnable the agent runs a step's payload as: the payload decoded by
`json.Unmarshal` into `NewInstance()`; the step lists are not in the payload. -/
def decodePayload (p : ContainerdFields) : ContainerdRunnable :=
  { ContainerdRunnable.newInstance with toContainerdFields := p }

/-- mirrors containerd.go:221-223 -/
def ContainerdRunnable.offlineUpgrade : Except String Unit :=
  .error "ContainerdRunnable dose not support offlineUpgrade"

/-- mirrors containerd.go:225-227 -/
def ContainerdRunnable.onlineUpgrade : Except String Unit :=
  .error "ContainerdRunnable not supported onlineUpgrade"

/-- mirrors containerd.go:378-380 -/
def ContainerdRegistryConfigure.uninstall (fs : FS Content) : Except String (FS Content) := .ok fs

/-- The fields `config.toml` is rendered from after `Install`'s assignments. -/
def installedFields (env : NodeEnv) (runnable : ContainerdRunnable) : ContainerdFields :=
  (withNodeDefaults env { runnable with enableSystemdCgroup := formatBool env.runningSystemd }).toContainerdFields

/-- Every command the runner runs with this `DryRun` leaves the locations of `K` as they were. -/
def CommandKeeps (env : NodeEnv) (dryRun : Bool) (K : Loc → Prop) : Prop :=
  ∀ args (X Y : FS Content), env.runCmd dryRun args X = .ok Y → ∀ q, K q → Y.node q = X.node q

/-! ## One lemma per call -/

/-- A command that succeeded on a tree succeeds on every tree with the same
files, and leaves the same files. -/
theorem NodeEnv.runCmd_of_node_eq (env : NodeEnv) {dryRun : Bool} {args : List String} {X X' Y : FS Content}
    (h : env.runCmd dryRun args X = .ok Y) (hX : X'.node = X.node) :
    ∃ Y', env.runCmd dryRun args X' = .ok Y' ∧ Y'.node = Y.node := by
  have hc := env.runCmd_congr dryRun args hX
  rw [h] at hc
  cases h' : env.runCmd dryRun args X' with
  | error e => rw [h'] at hc; cases hc
  | ok Y' => rw [h'] at hc; exact ⟨Y', rfl, Except.ok.inj hc⟩

@[simp] theorem warned_ok {α : Type} (a' a : α) : warned (.ok a') a = a' := rfl

@[simp] theorem warned_error {α : Type} (e : String) (a : α) : warned (.error e) a = a := rfl

theorem systemctl_eq_ok {env : NodeEnv} {call : SystemctlCall} {u u' : String → UnitState}
    (h : systemctl env call u = .ok u') : u' = call.apply u := by
  unfold systemctl at h
  cases hc : env.systemctl call <;> simp [hc, Except.map] at h
  exact h.symm

/-- `daemon-reload` leaves every unit as it is, whether it succeeds or not. -/
@[simp] theorem warned_reloadDeamon (env : NodeEnv) (u : String → UnitState) :
    warned (systemctl env .reloadDeamon u) u = u := by
  cases hc : env.systemctl .reloadDeamon <;> simp [systemctl, hc, Except.map, SystemctlCall.apply]

/-- After `enableContainerdService` succeeds, containerd is enabled and running, and no other unit changed. -/
theorem enableContainerdService_eq_ok {env : NodeEnv} {u u' : String → UnitState}
    (h : enableContainerdService env false u = .ok u') :
    u' = Function.update u containerdSystemdUnitName ⟨true, true⟩ := by
  simp only [enableContainerdService, Bool.false_eq_true, if_false, except_bind_eq_ok] at h
  obtain ⟨u1, h1, u2, h2, h3⟩ := h
  rw [systemctl_eq_ok h3, systemctl_eq_ok h2, systemctl_eq_ok h1]
  funext n
  by_cases hn : n = containerdSystemdUnitName
  · subst hn
    simp [SystemctlCall.apply]
  · simp [SystemctlCall.apply, hn]

@[simp] theorem withNodeDefaults_registies (env : NodeEnv) (runnable : ContainerdRunnable) :
    (withNodeDefaults env runnable).registies = runnable.registies := by
  simp only [withNodeDefaults]
  split_ifs <;> rfl

/-- A configuration succeeds exactly when its three steps do. -/
theorem setupContainerdConfig_eq_ok {env : NodeEnv} {runnable : ContainerdRunnable} {fs fs' : FS Content} :
    setupContainerdConfig env runnable false fs = .ok fs' ↔
    ∃ fs1 fs2, mkdirAll fs env.containerdDefaultConfigDir = .ok fs1 ∧
      writeFile fs1 (join [env.containerdDefaultConfigDir, "config.toml"])
        (.config (some (withNodeDefaults env runnable).toContainerdFields)) = .ok fs2 ∧
      renderLoop (withNodeDefaults env runnable).registryConfigDir
        (env.mapOrder.visit (toContainerdRegistryConfig runnable.registies)) fs2 = .ok fs' := by
  simp only [setupContainerdConfig, except_bind_eq_ok, except_mapError_eq_ok, writeFileWithContext,
    renderRegistryConfig, Bool.false_eq_true, if_false, withNodeDefaults_registies]
  exact ⟨fun ⟨fs1, h1, fs2, h2, h3⟩ => ⟨fs1, fs2, h1, h2, h3⟩, fun ⟨fs1, fs2, h1, h2, h3⟩ => ⟨fs1, h1, fs2, h2, h3⟩⟩

/-- A dry-run configuration only creates containerd's directory. -/
theorem setupContainerdConfig_dryRun {env : NodeEnv} {runnable : ContainerdRunnable} {fs fs' : FS Content} :
    setupContainerdConfig env runnable true fs = .ok fs' ↔ mkdirAll fs env.containerdDefaultConfigDir = .ok fs' := by
  simp only [setupContainerdConfig, except_bind_eq_ok, except_mapError_eq_ok, writeFileWithContext,
    renderRegistryConfig, if_true]
  refine ⟨fun ⟨fs1, h1, fs2, h2, h3⟩ => ?_, fun h => ⟨fs', h, fs', rfl, rfl⟩⟩
  cases h2
  cases h3
  exact h1

theorem ContainerdRunnable.install_eq_ok {env : NodeEnv} {runnable : ContainerdRunnable} {dryRun : Bool}
    {node node' : NodeState} :
    runnable.install env dryRun node = .ok node' ↔
      ∃ inst fs1 fs2, env.newInstance runnable.version (!runnable.offline) dryRun = .ok inst ∧
        inst.downloadAndUnpackConfigs node.fs = .ok fs1 ∧
        setupContainerdConfig env { runnable with enableSystemdCgroup := formatBool env.runningSystemd }
          dryRun fs1 = .ok fs2 ∧
        enableContainerdService env dryRun node.units = .ok node'.units ∧
        env.runCmd dryRun ["crictl", "config", "runtime-endpoint", "/run/containerd/containerd.sock"] fs2 =
          .ok node'.fs := by
  simp only [ContainerdRunnable.install, except_bind_eq_ok]
  constructor
  · rintro ⟨inst, h1, fs1, h2, fs2, h3, units, h4, fs3, h5, h6⟩
    obtain rfl : (⟨fs3, units⟩ : NodeState) = node' := Except.ok.inj h6
    exact ⟨inst, fs1, fs2, h1, h2, h3, h4, h5⟩
  · rintro ⟨inst, fs1, fs2, h1, h2, h3, h4, h5⟩
    exact ⟨inst, h1, fs1, h2, fs2, h3, _, h4, _, h5, rfl⟩

theorem ContainerdRunnable.uninstall_eq_ok {env : NodeEnv} {runnable : ContainerdRunnable} {dryRun : Bool}
    {node node' : NodeState} :
    runnable.uninstall env dryRun node = .ok node' ↔
      ∃ inst, env.newInstance runnable.version (!runnable.offline) dryRun = .ok inst ∧
        node' = ⟨(removedDirs env runnable).foldl removeAll (warned (inst.removeConfigs node.fs) node.fs),
          disableContainerdService env dryRun node.units⟩ := by
  simp only [ContainerdRunnable.uninstall, except_bind_eq_ok, warned_reloadDeamon]
  exact exists_congr fun inst => and_congr_right fun _ => ⟨fun h => (Except.ok.inj h).symm, fun h => h ▸ rfl⟩

/-! ## What a render writes -/

/-- The locations a render of a plain registry `r` puts files at: its
`hosts.toml` and the CA file of each host with a CA. -/
def Written (dir : String) (r : ContainerdRegistry) (q : Loc) : Prop :=
  q = resolve dir ++ [r.server, "hosts.toml"] ∨
    ∃ host ∈ r.hosts, host.ca ≠ "" ∧ q = resolve dir ++ [r.server, host.host ++ ".pem"]

theorem pem_ne_of_getLast (h : String) {s : String} (hs : s.data.getLast? ≠ some 'm') : h ++ ".pem" ≠ s :=
  fun e => hs (by rw [← e, String.data_append, List.getLast?_append_of_ne_nil _ (by decide)]; rfl)

/-- A written location is a `hosts.toml` or a `.pem` file. -/
theorem Written.getLast {dir : String} {r : ContainerdRegistry} {q : Loc} (h : Written dir r q) :
    q.getLast? = some "hosts.toml" ∨ ∃ n, q.getLast? = some (n ++ ".pem") := by
  rcases h with rfl | ⟨host, -, -, rfl⟩
  · exact Or.inl (by simp)
  · exact Or.inr ⟨host.host, by simp⟩

theorem not_written_configToml (dir : String) (r : ContainerdRegistry) (P : Loc) :
    ¬ Written dir r (P ++ ["config.toml"]) := fun h => by
  rcases h.getLast with h | ⟨n, h⟩ <;> simp at h
  exact pem_ne_of_getLast n (by decide) h.symm

section Render

variable {dir : String} {r : ContainerdRegistry} {X Y : FS Content}

/-- A render removes nothing, and changes what a location holds only where it writes a file. -/
theorem renderConfigs_keeps (hr : PlainRegistry r) (h : renderConfigs r dir X = .ok Y) {q : Loc}
    (hq : X.node q ≠ none) : Y.node q ≠ none ∧ (Y.node q = X.node q ∨ Written dir r q) := by
  rw [node_renderConfigs h]
  by_cases hh : q = resolve (join [dir, r.server, "hosts.toml"])
  · rw [if_pos hh]
    exact ⟨by simp, Or.inr (Or.inl (hh.trans (resolve_hostsToml hr)))⟩
  · rw [if_neg hh]
    cases hl : lastCA (join [dir, r.server]) r.hosts q with
    | some ca =>
      obtain ⟨host, hm, hca, rfl⟩ := lastCA_eq_some hl
      refine ⟨by simp, Or.inr (Or.inr ⟨host, hm, hca, ?_⟩)⟩
      rw [resolve_caFileOf (resolve_hostDir hr) hca (plain_pem (hr.2 host hm)), List.append_assoc]
      rfl
    | none =>
      rw [if_neg fun ⟨_, _, hn⟩ => hq (Option.isNone_iff_eq_none.1 hn)]
      exact ⟨hq, Or.inl rfl⟩

theorem renderConfigs_keeps_dir (h : renderConfigs r dir X = .ok Y) {q : Loc} (hq : X.node q = some .dir) :
    Y.node q = some .dir := by
  obtain ⟨fs1, fs2, m, h1, h2, h3⟩ := renderConfigs_eq_ok h
  exact writeFile_keeps_dir h3 (foldlM_renderHost_keeps_dir _ h2 (by rw [mkdirAll_keeps h1 (by simp [hq]), hq]))

end Render

section Loop

variable {dir : String}

/-- `renderRegistryConfig`'s loop and `ContainerdRegistryConfigure.Install`'s
loop leave the same tree; the latter also strikes the servers off the listed
names. -/
theorem renderLoop_eq_ok : ∀ (regs : GoMap String ContainerdRegistry) (X Y : FS Content) (old : List String),
    renderLoop dir regs X = .ok Y ↔
      regs.foldlM (renderStep dir) (X, old) = .ok (Y, old.filter fun n => n ∉ regs.map fun e => e.2.server)
  | [], X, Y, old => by simp [renderLoop, pure, Except.pure]
  | e :: regs, X, Y, old => by
    rw [renderLoop, List.foldlM_cons, List.foldlM_cons, List.map_cons, ← filter_not_mem_cons]
    cases h : renderConfigs e.2 dir X with
    | error err =>
      simp only [renderStep, h, bind, Except.bind]
      exact iff_of_false Except.noConfusion Except.noConfusion
    | ok X1 =>
      simp only [renderStep, h, bind, Except.bind]
      exact renderLoop_eq_ok regs X1 Y _

theorem renderLoop_keeps : ∀ (regs : GoMap String ContainerdRegistry) {X Y : FS Content},
    (∀ e ∈ regs, PlainRegistry e.2) → renderLoop dir regs X = .ok Y →
    ∀ q, X.node q ≠ none → Y.node q ≠ none ∧ (Y.node q = X.node q ∨ ∃ e ∈ regs, Written dir e.2 q)
  | [], X, Y, _, h, q, hq => by
    cases h
    exact ⟨hq, Or.inl rfl⟩
  | e :: regs, X, Y, hpl, h, q, hq => by
    obtain ⟨X1, h1, h⟩ := foldlM_cons_eq_ok.1 h
    obtain ⟨hn1, h1'⟩ := renderConfigs_keeps (hpl e (List.mem_cons_self _ _)) h1 hq
    obtain ⟨hn, h'⟩ := renderLoop_keeps regs (fun x hx => hpl x (List.mem_cons_of_mem _ hx)) h q hn1
    refine ⟨hn, ?_⟩
    rcases h' with h' | ⟨x, hx, hw⟩
    · rcases h1' with h1' | hw
      · exact Or.inl (h'.trans h1')
      · exact Or.inr ⟨e, List.mem_cons_self _ _, hw⟩
    · exact Or.inr ⟨x, List.mem_cons_of_mem _ hx, hw⟩

end Loop

/-! ## The registry groups -/

section Groups

variable (order : MapOrder String ContainerdRegistry) {R : List RegistrySpec}

theorem eq_hostGroup_of_mem_visit {e : String × ContainerdRegistry}
    (he : e ∈ order.visit (toContainerdRegistryConfig R)) : e.2 = hostGroup R e.1 :=
  mem_toContainerdRegistryConfig ((order.perm _).subset he)

theorem plain_of_mem_visit (hplain : ∀ r ∈ R, Plain r.host) {e : String × ContainerdRegistry}
    (he : e ∈ order.visit (toContainerdRegistryConfig R)) : PlainRegistry e.2 := by
  obtain ⟨r, hr, hh⟩ := (mem_keys_toContainerdRegistryConfig R e.1).1
    (List.mem_map_of_mem _ ((order.perm _).subset he))
  have hp : Plain e.1 := hh ▸ hplain r hr
  rw [eq_hostGroup_of_mem_visit order he]
  refine ⟨hp, fun host hm => ?_⟩
  obtain ⟨x, hx, rfl⟩ := List.mem_map.1 hm
  rw [show (containerdHost x).host = e.1 from of_decide_eq_true (List.mem_filter.1 hx).2]
  exact hp.not_slash

theorem nodup_servers_visit : ((order.visit (toContainerdRegistryConfig R)).map fun e => e.2.server).Nodup := by
  rw [List.map_congr_left fun e he => by rw [eq_hostGroup_of_mem_visit order he]]
  exact ((order.perm _).map Prod.fst).nodup_iff.2 (nodup_keys_toContainerdRegistryConfig R)

end Groups

/-- `Rendered` survives any change that leaves everything at and below the registry directory as it was. -/
theorem Rendered.of_below {dir : String} {r : ContainerdRegistry} {X Y : FS Content} (hr : PlainRegistry r)
    (hX : Rendered dir r X) (h : ∀ q, resolve dir <+: q → Y.node q = X.node q) : Rendered dir r Y where
  dirs q hq hne := by
    by_cases hD : resolve dir <+: q
    · rw [h q hD]
      exact hX.dirs q hq hne
    · have hs : Y.node (resolve dir ++ [r.server]) = some .dir := by
        rw [h _ (List.prefix_append _ _)]
        exact hX.dirs _ (List.prefix_refl _) (by simp)
      exact Y.dir_of_prefix (by simp [hs]) hq fun e => hD (e ▸ List.prefix_append _ _)
  hosts := by
    rw [h _ (List.prefix_append _ _)]
    exact hX.hosts
  cas q ca hq := by
    obtain ⟨n, rfl, -⟩ := lastCA_loc hr hq
    rw [h _ (List.prefix_append _ _)]
    exact hX.cas _ ca hq

/-! ## What a configuration establishes -/

section Setup

variable {env : NodeEnv} {runnable : ContainerdRunnable} {fs fs' : FS Content}
  (hplain : ∀ r ∈ runnable.registies, Plain r.host)
include hplain

/-- A configuration that succeeds leaves `config.toml` holding the completed
runnable and every registry group rendered, in any map order. -/
theorem setupContainerdConfig_establishes (h : setupContainerdConfig env runnable false fs = .ok fs') :
    fs'.node (resolve env.containerdDefaultConfigDir ++ ["config.toml"]) =
      some (.file (.config (some (withNodeDefaults env runnable).toContainerdFields))) ∧
    ∀ e ∈ toContainerdRegistryConfig runnable.registies,
      Rendered (withNodeDefaults env runnable).registryConfigDir e.2 fs' := by
  obtain ⟨fs1, fs2, h1, h2, h3⟩ := setupContainerdConfig_eq_ok.1 h
  have hpl : ∀ e ∈ env.mapOrder.visit (toContainerdRegistryConfig runnable.registies), PlainRegistry e.2 :=
    fun e he => plain_of_mem_visit env.mapOrder hplain he
  have hcf : fs2.node (resolve env.containerdDefaultConfigDir ++ ["config.toml"]) =
      some (.file (.config (some (withNodeDefaults env runnable).toContainerdFields))) := by
    rw [node_writeFile h2, if_pos (resolve_configToml _).symm]
  refine ⟨?_, fun e he => ?_⟩
  · rcases (renderLoop_keeps _ hpl h3 (resolve env.containerdDefaultConfigDir ++ ["config.toml"])
      (by simp [hcf])).2 with hk | ⟨x, -, hw⟩
    · rw [hk, hcf]
    · exact absurd hw (not_written_configToml _ _ _)
  · exact (foldlM_renderStep _ fs2 [] hpl (nodup_servers_visit _) ((renderLoop_eq_ok _ fs2 fs' []).1 h3)).rendered
      e ((env.mapOrder.perm _).mem_iff.2 he)

end Setup

/-! ## A node where every external call succeeds -/

/-- Every external call succeeds, and the downloader and the commands leave the tree alone. -/
def sampleNodeEnv : NodeEnv where
  containerdDefaultConfigDir := "/etc/containerd"
  containerdDefaultDataDir := "/var/lib/containerd"
  containerdDefaultRegistryConfigDir := "/etc/containerd/certs.d"
  repoMirror := "mirror.local"
  runningSystemd := true
  newInstance _ _ _ := .ok ⟨.ok, .ok⟩
  systemctl _ := .ok ()
  runCmd _ _ X := .ok X
  runCmd_congr _ _ _ _ h := congrArg Except.ok h
  mapOrder := MapOrder.insertion _ _

/-- The sample node's commands change no file. -/
theorem sampleNodeEnv_commandKeeps (dryRun : Bool) (K : Loc → Prop) : CommandKeeps sampleNodeEnv dryRun K :=
  fun _ _ _ h _ _ => by cases h; rfl

/-- The sample registries, with the trust store outside containerd's directories. -/
def sampleRuntime : ContainerdRunnable := { registies := sampleSpecs, registryConfigDir := "/opt/certs.d" }

/-- A node with an empty tree and no unit enabled. -/
def emptyNode : NodeState := ⟨FS.empty, fun _ => {}⟩

/-- The trust store a previous configuration left for a server `old.io`. -/
def staleTrustStore : FS Content :=
  ((renderConfigs ⟨"old.io", []⟩ "/opt/certs.d" FS.empty).toOption).getD FS.empty

/-! ## What the configuration does -/

/-- The configuration removes nothing: a location that held something still
does, and what it holds changes only at `config.toml` and where a desired
registry's `hosts.toml` or CA file goes. So the directory of a server that is
no longer desired keeps its `hosts.toml`, and containerd still reads it. -/
theorem setupContainerdConfig_keeps (env : NodeEnv) (runnable : ContainerdRunnable) (fs fs' : FS Content)
    (hplain : ∀ r ∈ runnable.registies, Plain r.host) (h : setupContainerdConfig env runnable false fs = .ok fs')
    (q : Loc) (hq : fs.node q ≠ none) :
    fs'.node q ≠ none ∧ (fs'.node q = fs.node q ∨ q = resolve env.containerdDefaultConfigDir ++ ["config.toml"] ∨
      ∃ e ∈ toContainerdRegistryConfig runnable.registies,
        Written (withNodeDefaults env runnable).registryConfigDir e.2 q) := by
  obtain ⟨fs1, fs2, h1, h2, h3⟩ := setupContainerdConfig_eq_ok.1 h
  have h1q : fs1.node q = fs.node q := mkdirAll_keeps h1 hq
  have h2q : fs2.node q ≠ none ∧
      (fs2.node q = fs.node q ∨ q = resolve env.containerdDefaultConfigDir ++ ["config.toml"]) := by
    rw [node_writeFile h2, resolve_configToml]
    split_ifs with hc
    · exact ⟨by simp, Or.inr hc⟩
    · exact ⟨h1q ▸ hq, Or.inl h1q⟩
  obtain ⟨hn, hk⟩ := renderLoop_keeps _ (fun e he => plain_of_mem_visit env.mapOrder hplain he) h3 q h2q.1
  refine ⟨hn, ?_⟩
  rcases hk with hk | ⟨e, he, hw⟩
  · rcases h2q.2 with h2 | h2
    · exact Or.inl (hk.trans h2)
    · exact Or.inr (Or.inl h2)
  · exact Or.inr (Or.inr ⟨e, (env.mapOrder.perm _).subset he, hw⟩)

/-- The `hosts.toml` of `old.io`, no longer desired, is still there after the
sample runtime is configured. -/
theorem staleServer_kept : ∃ fs', setupContainerdConfig sampleNodeEnv sampleRuntime false staleTrustStore = .ok fs' ∧
    fs'.node ["opt", "certs.d", "old.io", "hosts.toml"] ≠ none := by
  have hplain : ∀ r ∈ sampleRuntime.registies, Plain r.host := by decide
  have hq : staleTrustStore.node ["opt", "certs.d", "old.io", "hosts.toml"] ≠ none := by decide
  exact exists_ok_of_isSome (by decide) fun fs' h => (setupContainerdConfig_keeps _ _ _ _ hplain h _ hq).1

/-! ## What `Install` establishes -/

/-- After a successful `Install`, from any node and with the registry map
visited in any order: `config.toml` holds the runnable with the node's
defaults (`EnableSystemdCgroup` from the node, the repo mirror when online
without a local registry, the default registry directory when none is set),
every registry group is rendered in that registry directory, and
`containerd.service` is enabled and running, with no other unit changed;
provided `crictl config` leaves `config.toml` and the registry directory alone. -/
theorem install_establishes (env : NodeEnv) (runnable : ContainerdRunnable) (node node' : NodeState)
    (hplain : ∀ r ∈ runnable.registies, Plain r.host)
    (hcmd : CommandKeeps env false fun q => q = resolve env.containerdDefaultConfigDir ++ ["config.toml"] ∨
      resolve (installedFields env runnable).registryConfigDir <+: q)
    (h : runnable.install env false node = .ok node') :
    node'.fs.node (resolve env.containerdDefaultConfigDir ++ ["config.toml"]) =
      some (.file (.config (some (installedFields env runnable)))) ∧
    (∀ e ∈ toContainerdRegistryConfig runnable.registies,
      Rendered (installedFields env runnable).registryConfigDir e.2 node'.fs) ∧
    node'.units = Function.update node.units containerdSystemdUnitName ⟨true, true⟩ := by
  obtain ⟨_, _, _, -, -, hs, hu, hc⟩ := ContainerdRunnable.install_eq_ok.1 h
  have hs' := @setupContainerdConfig_establishes env
    { runnable with enableSystemdCgroup := formatBool env.runningSystemd } _ _ hplain hs
  have hkeep := hcmd _ _ _ hc
  exact ⟨(hkeep _ (Or.inl rfl)).trans hs'.1, fun e he => (hs'.2 e he).of_below
    (plain_of_mem_visit (MapOrder.insertion _ _) hplain he) fun q hq => hkeep q (Or.inr hq),
    enableContainerdService_eq_ok hu⟩

theorem sampleRuntime_installed : (∀ r ∈ sampleRuntime.registies, Plain r.host) ∧
    ∃ node', sampleRuntime.install sampleNodeEnv false emptyNode = .ok node' ∧
      ∀ e ∈ toContainerdRegistryConfig sampleRuntime.registies,
        Rendered (installedFields sampleNodeEnv sampleRuntime).registryConfigDir e.2 node'.fs := by
  have hplain : ∀ r ∈ sampleRuntime.registies, Plain r.host := by decide
  exact ⟨hplain, exists_ok_of_isSome (by decide) fun node' h =>
    (install_establishes _ _ _ _ hplain (sampleNodeEnv_commandKeeps _ _) h).2.1⟩

/-- A dry run writes no file and changes no unit, provided the downloader's
dry run and a dry-run command leave the tree alone; it does create the
directories on the way to containerd's configuration directory, since
`MkdirAll` ignores `DryRun`. -/
theorem dryRun_install_writes_nothing (env : NodeEnv) (runnable : ContainerdRunnable) (node node' : NodeState)
    (hdl : ∀ inst, env.newInstance runnable.version (!runnable.offline) true = .ok inst →
      ∀ fs fs', inst.downloadAndUnpackConfigs fs = .ok fs' → fs'.node = fs.node)
    (hcmd : CommandKeeps env true fun _ => True)
    (h : runnable.install env true node = .ok node') :
    node'.units = node.units ∧ ∀ q, node'.fs.node q = node.fs.node q ∨
      (q <+: resolve env.containerdDefaultConfigDir ∧ node.fs.node q = none ∧ node'.fs.node q = some .dir) := by
  obtain ⟨inst, fs1, _, hi, hd, hs, he, hc⟩ := ContainerdRunnable.install_eq_ok.1 h
  have hfs1 := hdl inst hi _ _ hd
  refine ⟨(Except.ok.inj he).symm, fun q => ?_⟩
  rw [hcmd _ _ _ hc q trivial, node_mkdirAll (setupContainerdConfig_dryRun.1 hs), hfs1]
  split_ifs with hc
  · exact Or.inr ⟨hc.1, Option.isNone_iff_eq_none.1 hc.2.2, rfl⟩
  · exact Or.inl rfl

/-- A dry run of the sample runtime on an empty tree creates `/etc/containerd` and nothing else. -/
theorem sampleRuntime_dryRun : ∃ node', sampleRuntime.install sampleNodeEnv true emptyNode = .ok node' ∧
    node'.units = emptyNode.units ∧ ∀ q, node'.fs.node q = emptyNode.fs.node q ∨
      (q <+: resolve "/etc/containerd" ∧ emptyNode.fs.node q = none ∧ node'.fs.node q = some .dir) := by
  have hdl : ∀ inst, sampleNodeEnv.newInstance sampleRuntime.version (!sampleRuntime.offline) true = .ok inst →
      ∀ fs fs', inst.downloadAndUnpackConfigs fs = .ok fs' → fs'.node = fs.node := fun inst hi fs fs' hd => by
    cases hi
    cases hd
    rfl
  exact exists_ok_of_isSome (by decide) fun node' h =>
    dryRun_install_writes_nothing _ _ _ _ hdl (sampleNodeEnv_commandKeeps _ _) h

/-! ## What `Uninstall` leaves -/

/-- A registry directory apart from the four directories `Uninstall` removes
keeps, through `Uninstall`, every registry group `Install` rendered in it,
provided `crictl config` and `RemoveConfigs` leave that directory alone: the
trust store outlives the runtime. -/
theorem trust_store_survives_uninstall (env env' : NodeEnv) (runnable : ContainerdRunnable) (dryRun : Bool)
    (node node' node'' : NodeState) (hplain : ∀ r ∈ runnable.registies, Plain r.host)
    (hapart : ∀ d ∈ removedDirs env' runnable, d ≠ "" →
      ¬ resolve d <+: resolve (installedFields env runnable).registryConfigDir ∧
      ¬ resolve (installedFields env runnable).registryConfigDir <+: resolve d)
    (hrc : ∀ inst, env'.newInstance runnable.version (!runnable.offline) dryRun = .ok inst →
      ∀ fs fs', inst.removeConfigs fs = .ok fs' →
        ∀ q, resolve (installedFields env runnable).registryConfigDir <+: q → fs'.node q = fs.node q)
    (hcmd : CommandKeeps env false fun q => resolve (installedFields env runnable).registryConfigDir <+: q)
    (hi : runnable.install env false node = .ok node') (hu : runnable.uninstall env' dryRun node' = .ok node'') :
    ∀ e ∈ toContainerdRegistryConfig runnable.registies,
      Rendered (installedFields env runnable).registryConfigDir e.2 node''.fs := by
  obtain ⟨_, _, _, -, -, hs, -, hc⟩ := ContainerdRunnable.install_eq_ok.1 hi
  obtain ⟨inst, hinst, rfl⟩ := ContainerdRunnable.uninstall_eq_ok.1 hu
  have hbelow : ∀ q, resolve (installedFields env runnable).registryConfigDir <+: q →
      ((removedDirs env' runnable).foldl removeAll (warned (inst.removeConfigs node'.fs) node'.fs)).node q =
        node'.fs.node q := fun q hq => by
    rw [node_foldl_removeAll, if_neg fun ⟨d, hd, hne, hdq, _⟩ => by
      rcases List.prefix_or_prefix_of_prefix hdq hq with h | h
      · exact (hapart d hd hne).1 h
      · exact (hapart d hd hne).2 h]
    cases hr : inst.removeConfigs node'.fs with
    | error e => rfl
    | ok fs => exact hrc inst hinst _ _ hr q hq
  exact fun e he => ((@setupContainerdConfig_establishes env
    { runnable with enableSystemdCgroup := formatBool env.runningSystemd } _ _
    hplain hs).2 e he).of_below
    (plain_of_mem_visit (MapOrder.insertion _ _) hplain he) fun q hq => (hbelow q hq).trans (hcmd _ _ _ hc q hq)

/-- The sample runtime's trust store under `/opt/certs.d` outlives its `Uninstall`. -/
theorem sampleRuntime_trust_store_survives : ∃ node' node'',
    sampleRuntime.install sampleNodeEnv false emptyNode = .ok node' ∧
    sampleRuntime.uninstall sampleNodeEnv false node' = .ok node'' ∧
    ∀ e ∈ toContainerdRegistryConfig sampleRuntime.registies,
      Rendered (installedFields sampleNodeEnv sampleRuntime).registryConfigDir e.2 node''.fs := by
  have hplain : ∀ r ∈ sampleRuntime.registies, Plain r.host := by decide
  have hapart : ∀ d ∈ removedDirs sampleNodeEnv sampleRuntime, d ≠ "" →
      ¬ resolve d <+: resolve (installedFields sampleNodeEnv sampleRuntime).registryConfigDir ∧
      ¬ resolve (installedFields sampleNodeEnv sampleRuntime).registryConfigDir <+: resolve d := by decide
  have hrc : ∀ inst, sampleNodeEnv.newInstance sampleRuntime.version (!sampleRuntime.offline) false = .ok inst →
      ∀ fs fs', inst.removeConfigs fs = .ok fs' →
        ∀ q, resolve (installedFields sampleNodeEnv sampleRuntime).registryConfigDir <+: q →
          fs'.node q = fs.node q := fun inst hi fs fs' hr q _ => by
    cases hi
    cases hr
    rfl
  obtain ⟨node', h, -⟩ := exists_ok_of_isSome (P := fun _ => True)
    (x := sampleRuntime.install sampleNodeEnv false emptyNode) (by decide) fun _ _ => trivial
  obtain ⟨node'', hu⟩ : ∃ node'', sampleRuntime.uninstall sampleNodeEnv false node' = .ok node'' :=
    ⟨_, ContainerdRunnable.uninstall_eq_ok.2 ⟨⟨.ok, .ok⟩, rfl, rfl⟩⟩
  exact ⟨node', node'', h, hu,
    trust_store_survives_uninstall _ _ _ _ _ _ _ hplain hapart hrc (sampleNodeEnv_commandKeeps _ _) h hu⟩

end KubeClipper.L4.Containerd
