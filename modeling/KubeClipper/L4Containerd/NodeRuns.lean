import KubeClipper.L4Containerd.Lifecycle
/-!
# What containerd's calls may change on a node

Over the life of a node the agent runs any sequence of containerd's calls:
`ContainerdRunnable.Install` and `Uninstall` from the runtime steps, its two
upgrades (which always fail), and `ContainerdRegistryConfigure.Install`
(containerd.go:330-376) and `Uninstall` from the registry update step.
`ContainerdRegistryConfigure.install` is the tree `Install` leaves;
`ContainerdRegistryConfigure.installOnNode` adds its two `systemctl` calls
(containerd.go:367-373), whose errors are only logged.

**Footprint.** A call may change the tree only on the way to and at or below
the directories it names (`Along`): containerd's configuration directory and
the registry directory for the two `Install`s, the four directories of
`removedDirs` for `Uninstall`, what the downloader's methods change, and what
the commands `Install` runs change (`crictl config` writes crictl's own
configuration file). It changes the state of no systemd unit but
`containerd.service`.

**Hypotheses.** The downloader and the command runner are not under `src/`:
where their methods and commands write are hypotheses (`DownloaderWithin`,
`CommandWithin`). The registry hosts are plain path names:
`renderConfigs` writes below `filepath.Join(dir, server)`, and a server `..`
would leave the registry directory.

Results:
* `ContainerdOp.run_frame`: one call changes nothing outside its footprint,
  the downloader's and the commands', and no unit but containerd's.
* `runOps_frame`: nor does any sequence of calls, from any node.
-/
namespace KubeClipper.L4.Containerd

open KubeClipper.L1.Go

/-! ## The calls -/

/-- mirrors containerd.go:330-376 on the node: the tree as
`ContainerdRegistryConfigure.install` leaves it, then `systemctl daemon-reload`
and `systemctl restart containerd.service`, each error only logged. -/
def ContainerdRegistryConfigure.installOnNode (env : NodeEnv) (c : ContainerdRegistryConfigure) (dryRun : Bool)
    (node : NodeState) : Except String NodeState :=
  if dryRun then .ok node else do
    let fs ← c.install env.containerdDefaultConfigDir false node.fs
    let units := warned (systemctl env .reloadDeamon node.units) node.units
    pure ⟨fs, warned (systemctl env (.restartUnit containerdSystemdUnitName) units) units⟩

theorem ContainerdRegistryConfigure.installOnNode_eq_ok {env : NodeEnv} {c : ContainerdRegistryConfigure}
    {node node' : NodeState} : c.installOnNode env false node = .ok node' ↔
      ∃ fs, c.install env.containerdDefaultConfigDir false node.fs = .ok fs ∧
        node' = ⟨fs, warned (systemctl env (.restartUnit containerdSystemdUnitName) node.units) node.units⟩ := by
  simp only [ContainerdRegistryConfigure.installOnNode, Bool.false_eq_true, if_false, except_bind_eq_ok,
    warned_reloadDeamon, pure, Except.pure, Except.ok.injEq]
  exact exists_congr fun _ => and_congr_right fun _ => eq_comm

/-- A call the node agent makes on containerd's components: the methods of
`ContainerdRunnable` and of `ContainerdRegistryConfigure`. -/
inductive ContainerdOp where
  | install (runnable : ContainerdRunnable) (dryRun : Bool)
  | uninstall (runnable : ContainerdRunnable) (dryRun : Bool)
  | upgrade (online : Bool)
  | configure (c : ContainerdRegistryConfigure) (dryRun : Bool)
  | unconfigure (c : ContainerdRegistryConfigure)

/-- The call on the node. -/
def ContainerdOp.run (env : NodeEnv) : ContainerdOp → NodeState → Except String NodeState
  | .install runnable dryRun => runnable.install env dryRun
  | .uninstall runnable dryRun => runnable.uninstall env dryRun
  | .upgrade online => fun node =>
      (if online then ContainerdRunnable.onlineUpgrade else ContainerdRunnable.offlineUpgrade).map fun _ => node
  | .configure c dryRun => c.installOnNode env dryRun
  | .unconfigure _ => fun node => do pure ⟨← ContainerdRegistryConfigure.uninstall node.fs, node.units⟩

/-- A sequence of calls, each in the environment of its own call, up to the first error. -/
def runOps : List (NodeEnv × ContainerdOp) → NodeState → Except String NodeState
  | [], node => .ok node
  | (env, op) :: ops, node => do runOps ops (← op.run env node)

/-! ## Footprints -/

/-- The locations on the way to the directory `d`, and those at or below it. -/
def Along (d : String) (q : Loc) : Prop := q <+: resolve d ∨ resolve d <+: q

/-- Where a call may change the tree, besides where the downloader writes. -/
def ContainerdOp.Footprint (env : NodeEnv) : ContainerdOp → Loc → Prop
  | .install runnable _, q => Along env.containerdDefaultConfigDir q ∨
      Along (installedFields env runnable).registryConfigDir q
  | .uninstall runnable _, q => ∃ d ∈ removedDirs env runnable, d ≠ "" ∧ resolve d <+: q
  | .upgrade _, _ => False
  | .configure c _, q => Along env.containerdDefaultConfigDir q ∨ Along c.configDir q
  | .unconfigure _, _ => False

/-- The registries a call renders have plain hosts. -/
def ContainerdOp.PlainHosts : ContainerdOp → Prop
  | .install runnable _ => ∀ x ∈ runnable.registies, Plain x.host
  | .configure c _ => ∀ e ∈ c.registries, PlainRegistry e.2
  | _ => True

instance decidablePlainHosts (op : ContainerdOp) : Decidable op.PlainHosts :=
  match op with
  | .install runnable _ => inferInstanceAs (Decidable (∀ x ∈ runnable.registies, Plain x.host))
  | .uninstall _ _ | .upgrade _ | .unconfigure _ => inferInstanceAs (Decidable True)
  | .configure c _ => inferInstanceAs (Decidable (∀ e ∈ c.registries, PlainRegistry e.2))

/-- Every downloader instance changes the tree only at locations of `D`. -/
def DownloaderWithin (D : Loc → Prop) (env : NodeEnv) : Prop :=
  ∀ version online dryRun inst, env.newInstance version online dryRun = .ok inst →
    ∀ fs fs', (inst.downloadAndUnpackConfigs fs = .ok fs' ∨ inst.removeConfigs fs = .ok fs') →
      ∀ q, ¬ D q → fs'.node q = fs.node q

/-- Every command the runner runs changes the tree only at locations of `C`. -/
def CommandWithin (C : Loc → Prop) (env : NodeEnv) : Prop :=
  ∀ dryRun, CommandKeeps env dryRun fun q => ¬ C q

/-- The tree `Y` differs from `X` at most at the locations of `F`. -/
def ChangesOnly (F : Loc → Prop) (X Y : FS Content) : Prop := ∀ q, ¬ F q → Y.node q = X.node q

/-- Every unit but `containerd.service` keeps its state. -/
def UnitsKept (u u' : String → UnitState) : Prop := ∀ n, n ≠ containerdSystemdUnitName → u' n = u n

section Frames

variable {F G : Loc → Prop} {X Y Z : FS Content}

theorem ChangesOnly.refl (F : Loc → Prop) (X : FS Content) : ChangesOnly F X X := fun _ _ => rfl

theorem ChangesOnly.trans (h1 : ChangesOnly F X Y) (h2 : ChangesOnly F Y Z) : ChangesOnly F X Z :=
  fun q hq => (h2 q hq).trans (h1 q hq)

theorem ChangesOnly.mono (h : ChangesOnly F X Y) (hFG : ∀ q, F q → G q) : ChangesOnly G X Y :=
  fun q hq => h q (mt (hFG q) hq)

theorem UnitsKept.refl (u : String → UnitState) : UnitsKept u u := fun _ _ => rfl

theorem UnitsKept.trans {u u' u'' : String → UnitState} (h1 : UnitsKept u u') (h2 : UnitsKept u' u'') :
    UnitsKept u u'' := fun n hn => (h2 n hn).trans (h1 n hn)

theorem DownloaderWithin.removeConfigs_keeps {D : Loc → Prop} {env : NodeEnv} (hD : DownloaderWithin D env)
    {version : String} {online dryRun : Bool} {inst : Downloader} (hi : env.newInstance version online dryRun = .ok inst)
    (fs : FS Content) {q : Loc} (hq : ¬ D q) : (warned (inst.removeConfigs fs) fs).node q = fs.node q := by
  cases hr : inst.removeConfigs fs with
  | error e => rfl
  | ok fs' => exact hD _ _ _ inst hi _ _ (Or.inr hr) q hq

/-- The sample node's downloader changes no file. -/
theorem sampleNodeEnv_downloaderWithin (D : Loc → Prop) : DownloaderWithin D sampleNodeEnv := by
  rintro _ _ _ _ ⟨⟩ fs fs' (h | h) q - <;> cases h <;> rfl

theorem sampleNodeEnv_commandWithin (C : Loc → Prop) : CommandWithin C sampleNodeEnv :=
  fun dryRun => sampleNodeEnv_commandKeeps dryRun _

theorem resolve_empty : resolve "" = [] := rfl

theorem along_empty (q : Loc) : Along "" q := Or.inr (resolve_empty ▸ List.nil_prefix)

theorem along_below {d : String} {q : Loc} (h : resolve d <+: q) : Along d q := Or.inr h

end Frames

/-! ## One frame lemma per call -/

section Calls

variable {X Y : FS Content}

theorem mkdirAll_changesOnly {d : String} (h : mkdirAll X d = .ok Y) : ChangesOnly (Along d) X Y :=
  fun q hq => by rw [node_mkdirAll h, if_neg fun h' => hq (Or.inl h'.1)]

theorem writeFile_changesOnly {name : String} {c : Content} (h : writeFile X name c = .ok Y) :
    ChangesOnly (· = resolve name) X Y :=
  fun q hq => by rw [node_writeFile h, if_neg hq]

/-- A render of a plain registry writes on the way to and below its directory. -/
theorem renderConfigs_changesOnly {r : ContainerdRegistry} {dir : String} (hr : PlainRegistry r)
    (h : renderConfigs r dir X = .ok Y) : ChangesOnly (Along dir) X Y := fun q hq =>
  renderConfigs_frame hr h (fun n e => hq (along_below (e ▸ List.prefix_append _ _))) (Or.inl fun hp => by
    rcases List.prefix_concat_iff.1 hp with rfl | hp
    · exact hq (along_below (List.prefix_append _ _))
    · exact hq (Or.inl hp))

theorem renderLoop_changesOnly {dir : String} : ∀ (regs : GoMap String ContainerdRegistry) {X Y : FS Content},
    (∀ e ∈ regs, PlainRegistry e.2) → renderLoop dir regs X = .ok Y → ChangesOnly (Along dir) X Y
  | [], X, Y, _, h => by
    cases h
    exact ChangesOnly.refl _ _
  | e :: regs, X, Y, hpl, h => by
    obtain ⟨X1, h1, h2⟩ := foldlM_cons_eq_ok.1 h
    exact (renderConfigs_changesOnly (hpl e (List.mem_cons_self _ _)) h1).trans
      (renderLoop_changesOnly regs (fun x hx => hpl x (List.mem_cons_of_mem _ hx)) h2)

/-- `setupContainerdConfig` writes on the way to and below containerd's
directory and the registry directory. -/
theorem setupContainerdConfig_changesOnly {env : NodeEnv} {runnable : ContainerdRunnable} {dryRun : Bool}
    (hplain : ∀ x ∈ runnable.registies, Plain x.host) (h : setupContainerdConfig env runnable dryRun X = .ok Y) :
    ChangesOnly (fun q => Along env.containerdDefaultConfigDir q ∨
      Along (withNodeDefaults env runnable).registryConfigDir q) X Y := by
  cases dryRun with
  | true => exact (mkdirAll_changesOnly (setupContainerdConfig_dryRun.1 h)).mono fun _ => Or.inl
  | false =>
    obtain ⟨X1, X2, h1, h2, h3⟩ := setupContainerdConfig_eq_ok.1 h
    refine ((mkdirAll_changesOnly h1).mono fun _ => Or.inl).trans
      (((writeFile_changesOnly h2).mono fun q hq => Or.inl (along_below ?_)).trans
        ((renderLoop_changesOnly _ (fun e he => plain_of_mem_visit env.mapOrder hplain he) h3).mono
          fun _ => Or.inr))
    rw [hq, resolve_configToml]
    exact List.prefix_append _ _

/-- The loop of `ContainerdRegistryConfigure.Install` writes on the way to and
below `ConfigDir`, and keeps only names it was given. -/
theorem foldlM_renderStep_changesOnly {dir : String} : ∀ (regs : GoMap String ContainerdRegistry)
    {X0 X : FS Content} {old0 old : List String}, (∀ e ∈ regs, PlainRegistry e.2) →
    regs.foldlM (renderStep dir) (X0, old0) = .ok (X, old) → ChangesOnly (Along dir) X0 X ∧ old ⊆ old0
  | [], X0, X, old0, old, _, h => by
    cases h
    exact ⟨ChangesOnly.refl _ _, List.Subset.refl _⟩
  | e :: regs, X0, X, old0, old, hpl, h => by
    obtain ⟨acc, h1, h⟩ := foldlM_cons_eq_ok.1 h
    obtain ⟨hr1, hold1⟩ := renderStep_eq_ok h1
    obtain ⟨hX, hold⟩ := foldlM_renderStep_changesOnly regs (fun x hx => hpl x (List.mem_cons_of_mem _ hx)) h
    refine ⟨(renderConfigs_changesOnly (hpl e (List.mem_cons_self _ _)) hr1).trans hX, fun d hd => ?_⟩
    have hd' := hold hd
    rw [hold1] at hd'
    exact (List.mem_filter.1 hd').1

/-- The names `Install` removes are those of directories it listed, so plain names. -/
theorem plain_of_mem_old {dir : String} {regs : GoMap String ContainerdRegistry} {X X1 : FS Content}
    {es : List DirEntry} {old : List String} (hplain : ∀ e ∈ regs, PlainRegistry e.2) (h0 : dir ≠ "")
    (h1 : readOldEntries dir X = .ok es) (h2 : regs.foldlM (renderStep dir) (X, dirNames es) = .ok (X1, old)) :
    ∀ d ∈ old, Plain d := fun d hd => by
  have := (mem_dirNames h0 h1 d).1 ((foldlM_renderStep_changesOnly _ hplain h2).2 hd)
  exact X.plain (resolve dir ++ [d]) (by simp [this]) d (by simp)

/-- `ContainerdRegistryConfigure.Install` writes on the way to and below
`ConfigDir` and containerd's directory. -/
theorem configure_changesOnly {cd : String} {c : ContainerdRegistryConfigure}
    (hplain : ∀ e ∈ c.registries, PlainRegistry e.2) (h : c.install cd false X = .ok Y) :
    ChangesOnly (fun q => Along cd q ∨ Along c.configDir q) X Y := by
  by_cases h0 : c.configDir = ""
  · exact fun q hq => absurd (Or.inr (h0 ▸ along_empty q)) hq
  obtain ⟨es, X1, old, h1, h2, rfl⟩ := install_eq_ok h
  have hX1 := (foldlM_renderStep_changesOnly _ hplain h2).1
  have hremove : ChangesOnly (Along c.configDir) X1 (removeOld c.configDir X1 old) := fun q hq => by
    rw [node_removeOld h0 old X1 (plain_of_mem_old hplain h0 h1 h2) q, if_neg]
    rintro ⟨d, -, hd⟩
    exact hq (along_below ((List.prefix_append _ _).trans hd))
  have hconfig : ChangesOnly (Along cd) (removeOld c.configDir X1 old)
      (renderContainerdConfig cd c.containerdRunnable (removeOld c.configDir X1 old)) := fun q hq =>
    renderContainerdConfig_frame cd _ (fun h => hq (Or.inl h))
      (fun e => hq (along_below (e ▸ List.prefix_append _ _)))
  exact ((hX1.trans hremove).mono fun _ => Or.inr).trans (hconfig.mono fun _ => Or.inl)

end Calls

/-! ## The units -/

theorem update_containerd_kept (u : String → UnitState) (s : UnitState) :
    UnitsKept u (Function.update u containerdSystemdUnitName s) :=
  fun _ hn => Function.update_noteq hn _ _

theorem warned_systemctl_kept {env : NodeEnv} {call : SystemctlCall} {u : String → UnitState}
    (hcall : UnitsKept u (call.apply u)) : UnitsKept u (warned (systemctl env call u) u) := by
  cases hc : systemctl env call u with
  | error e => exact UnitsKept.refl u
  | ok u' =>
    rw [systemctl_eq_ok hc]
    exact hcall

theorem enableContainerdService_kept {env : NodeEnv} {dryRun : Bool} {u u' : String → UnitState}
    (h : enableContainerdService env dryRun u = .ok u') : UnitsKept u u' := by
  cases dryRun with
  | true =>
    cases h
    exact UnitsKept.refl u
  | false =>
    rw [enableContainerdService_eq_ok h]
    exact update_containerd_kept _ _

theorem disableContainerdService_kept (env : NodeEnv) (dryRun : Bool) (u : String → UnitState) :
    UnitsKept u (disableContainerdService env dryRun u) := by
  cases dryRun with
  | true => exact UnitsKept.refl u
  | false =>
    exact (@warned_systemctl_kept env (.stopUnit containerdSystemdUnitName) _ (update_containerd_kept _ _)).trans
      (@warned_systemctl_kept env (.disableUnit containerdSystemdUnitName) _ (update_containerd_kept _ _))

/-! ## A call, and a run of calls -/

section Run

variable {D C : Loc → Prop}

/-- One call changes the tree only within its footprint, the downloader's and
the commands', and no unit but `containerd.service`. -/
theorem ContainerdOp.run_frame {env : NodeEnv} {op : ContainerdOp} {node node' : NodeState}
    (hD : DownloaderWithin D env) (hC : CommandWithin C env) (hp : op.PlainHosts) (h : op.run env node = .ok node') :
    ChangesOnly (fun q => D q ∨ C q ∨ op.Footprint env q) node.fs node'.fs ∧ UnitsKept node.units node'.units := by
  cases op with
  | install runnable dryRun =>
    obtain ⟨inst, fs1, fs2, hi, hdl, hs, he, hc⟩ := ContainerdRunnable.install_eq_ok.1 h
    have hdl' : ChangesOnly D node.fs fs1 := hD _ _ _ inst hi _ _ (Or.inl hdl)
    have hset : ChangesOnly (fun q => Along env.containerdDefaultConfigDir q ∨
        Along (installedFields env runnable).registryConfigDir q) fs1 fs2 :=
      setupContainerdConfig_changesOnly hp hs
    have hcmd : ChangesOnly C fs2 node'.fs := hC dryRun _ _ _ hc
    exact ⟨((hdl'.mono fun _ => Or.inl).trans (hset.mono fun _ h => Or.inr (Or.inr h))).trans
      (hcmd.mono fun _ h => Or.inr (Or.inl h)), enableContainerdService_kept he⟩
  | uninstall runnable dryRun =>
    obtain ⟨inst, hi, rfl⟩ := ContainerdRunnable.uninstall_eq_ok.1 h
    refine ⟨ChangesOnly.trans (Y := warned (inst.removeConfigs node.fs) node.fs) ?_ ?_,
      disableContainerdService_kept env dryRun node.units⟩
    · exact fun q hq => hD.removeConfigs_keeps hi _ fun h => hq (Or.inl h)
    · intro q hq
      rw [node_foldl_removeAll, if_neg fun ⟨d, hd, hne, hdq, _⟩ => hq (Or.inr (Or.inr ⟨d, hd, hne, hdq⟩))]
  | upgrade online => cases online <;> cases h
  | configure c dryRun =>
    cases dryRun with
    | true =>
      cases h
      exact ⟨ChangesOnly.refl _ _, UnitsKept.refl _⟩
    | false =>
      obtain ⟨fs, hfs, rfl⟩ := ContainerdRegistryConfigure.installOnNode_eq_ok.1 h
      exact ⟨(configure_changesOnly hp hfs).mono fun _ h => Or.inr (Or.inr h),
        warned_systemctl_kept (update_containerd_kept _ _)⟩
  | unconfigure c =>
    cases h
    exact ⟨ChangesOnly.refl _ _, UnitsKept.refl _⟩

/-- From any node, a run of containerd's calls that returns without error
changes the tree only within the calls' footprints and where the downloader and
the commands write, and changes the state of no systemd unit but
`containerd.service`. -/
theorem runOps_frame (D C : Loc → Prop) : ∀ (ops : List (NodeEnv × ContainerdOp)) (node node' : NodeState),
    (∀ s ∈ ops, DownloaderWithin D s.1 ∧ CommandWithin C s.1 ∧ s.2.PlainHosts) → runOps ops node = .ok node' →
    ChangesOnly (fun q => D q ∨ C q ∨ ∃ s ∈ ops, s.2.Footprint s.1 q) node.fs node'.fs ∧
      UnitsKept node.units node'.units
  | [], node, node', _, h => by
    cases h
    exact ⟨ChangesOnly.refl _ _, UnitsKept.refl _⟩
  | (env, op) :: ops, node, node', hops, h => by
    obtain ⟨node1, h1, h2⟩ := except_bind_eq_ok.1 h
    obtain ⟨hD, hC, hp⟩ := hops _ (List.mem_cons_self _ _)
    obtain ⟨hfs1, hu1⟩ := ContainerdOp.run_frame hD hC hp h1
    obtain ⟨hfs2, hu2⟩ := runOps_frame D C ops node1 node' (fun s hs => hops s (List.mem_cons_of_mem _ hs)) h2
    refine ⟨(hfs1.mono fun q hq => ?_).trans (hfs2.mono fun q hq => ?_), hu1.trans hu2⟩
    · exact hq.imp_right (Or.imp_right fun hq => ⟨(env, op), List.mem_cons_self _ _, hq⟩)
    · exact hq.imp_right (Or.imp_right fun ⟨s, hs, hq⟩ => ⟨s, List.mem_cons_of_mem _ hs, hq⟩)

end Run

/-- The sample runtime installed, its registries updated, and the runtime
uninstalled, on an empty node. -/
def sampleRun : List (NodeEnv × ContainerdOp) :=
  [(sampleNodeEnv, .install sampleRuntime false), (sampleNodeEnv, .configure sampleConfigure false),
    (sampleNodeEnv, .uninstall sampleRuntime false)]

theorem sampleRun_frame : ∃ node', runOps sampleRun emptyNode = .ok node' ∧
    ChangesOnly (fun q => (fun _ => False) q ∨ (fun _ => False) q ∨ ∃ s ∈ sampleRun, s.2.Footprint s.1 q)
      emptyNode.fs node'.fs ∧ UnitsKept emptyNode.units node'.units := by
  have hops : ∀ s ∈ sampleRun, DownloaderWithin (fun _ => False) s.1 ∧ CommandWithin (fun _ => False) s.1 ∧
      s.2.PlainHosts := by
    have hdl := sampleNodeEnv_downloaderWithin fun _ => False
    have hcmd := sampleNodeEnv_commandWithin fun _ => False
    simp only [sampleRun, List.mem_cons, List.mem_singleton, List.not_mem_nil, or_false, forall_eq_or_imp,
      forall_eq]
    exact ⟨⟨hdl, hcmd, by decide⟩, ⟨hdl, hcmd, by decide⟩, ⟨hdl, hcmd, trivial⟩⟩
  exact exists_ok_of_isSome (by decide) fun node' h => runOps_frame _ _ sampleRun emptyNode node' hops h

end KubeClipper.L4.Containerd
