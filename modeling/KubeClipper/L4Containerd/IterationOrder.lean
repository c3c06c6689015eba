import KubeClipper.L4Containerd.Lifecycle
/-!
# Go's map order does not change what `Install` leaves

`renderRegistryConfig` (containerd.go:311-322) ranges over the map
`ToContainerdRegistryConfig` builds, and `ContainerdRegistryConfigure.Install`
(containerd.go:345-351) over `c.Registries`. Go visits a map in an order it
picks afresh for each loop. Both calls leave the same tree in every order, and
fail in every order when they fail in one.

A render's success and its result depend only on what the tree holds, in a
closed form: it succeeds when no file stands on the way to the server's
directory and no directory where it writes a file (`RenderOk`); it leaves
`hosts.toml`, the CA files, and the directories `MkdirAll` created
(`renderedNode`). The renders of two distinct servers write disjoint files and
create the same directories, so they commute (`renderConfigs_comm`), and a
permutation of the loop is a chain of such swaps.

Results:
* `renderLoop_perm`: the loop over a permutation of distinct plain
  registries succeeds exactly when the loop does, with the same tree.
* `install_any_mapOrder`: `ContainerdRunnable.Install` succeeds in any map
  order when it does in one, and leaves the same tree and units.
* `configure_any_order`: so does `ContainerdRegistryConfigure.Install` over
  any order of distinct plain registries.
-/
namespace KubeClipper.L4.Containerd

open KubeClipper.L1.Go

/-! ## A render in closed form -/

/-- What a render of `r` into `dir` leaves at `q` when the tree held `N` there
(`node_renderConfigs`). -/
def renderedNode (dir : String) (r : ContainerdRegistry) (N : Loc → Option (Entry Content)) (q : Loc) :
    Option (Entry Content) :=
  if q = resolve (join [dir, r.server, "hosts.toml"]) then some (.file (.hosts (hostFileOf dir r)))
  else match lastCA (join [dir, r.server]) r.hosts q with
    | some ca => some (.file (.pem ca))
    | none => if q <+: resolve (join [dir, r.server]) ∧ q ≠ [] ∧ (N q).isNone then some .dir else N q

/-- What a render of `r` into `dir` needs of the tree: no file on the way to
the server's directory, and no directory where it writes a file. -/
def RenderOk (dir : String) (r : ContainerdRegistry) (N : Loc → Option (Entry Content)) : Prop :=
  (∀ q, q <+: resolve dir ++ [r.server] → (N q).any Entry.isFile = false) ∧
    ∀ q, Written dir r q → N q ≠ some .dir

theorem renderConfigs_node {dir : String} {r : ContainerdRegistry} {X Y : FS Content}
    (h : renderConfigs r dir X = .ok Y) : Y.node = renderedNode dir r X.node :=
  funext (node_renderConfigs h)

theorem Written.loc {dir : String} {r : ContainerdRegistry} {q : Loc} (h : Written dir r q) :
    ∃ n, q = resolve dir ++ [r.server, n] := by
  rcases h with rfl | ⟨host, -, -, rfl⟩
  · exact ⟨_, rfl⟩
  · exact ⟨_, rfl⟩

section Closed

variable {dir : String} {r : ContainerdRegistry} {N M : Loc → Option (Entry Content)} {q : Loc}

theorem renderedNode_congr (h : M q = N q) : renderedNode dir r M q = renderedNode dir r N q := by
  simp only [renderedNode, h]

theorem not_pair_prefix_single {D : Loc} {s t n : String} : ¬ D ++ [s, n] <+: D ++ [t] :=
  fun h => by simpa using h.length_le

variable (hr : PlainRegistry r)
include hr

/-- Away from the files directly in its directory, a render only creates the
directories on the way to it. -/
theorem renderedNode_outside (hq : ∀ n, q ≠ resolve dir ++ [r.server, n]) :
    renderedNode dir r N q = if q <+: resolve dir ++ [r.server] ∧ q ≠ [] ∧ (N q).isNone then some .dir else N q := by
  rw [renderedNode, if_neg (by rw [resolve_hostsToml hr]; exact hq _)]
  cases hl : lastCA (join [dir, r.server]) r.hosts q with
  | some ca =>
    obtain ⟨n, e, -⟩ := lastCA_loc hr hl
    exact absurd e (hq n)
  | none => simp only [resolve_hostDir hr]

theorem renderedNode_other (hq : ∀ n, q ≠ resolve dir ++ [r.server, n]) (hp : ¬ q <+: resolve dir ++ [r.server]) :
    renderedNode dir r N q = N q := by
  rw [renderedNode_outside hr hq, if_neg fun h => hp h.1]

/-- A render creates no file away from its directory. -/
theorem renderedNode_isFile (hq : ∀ n, q ≠ resolve dir ++ [r.server, n]) :
    (renderedNode dir r N q).any Entry.isFile = (N q).any Entry.isFile := by
  rw [renderedNode_outside hr hq]
  split_ifs with h
  · rw [Option.isNone_iff_eq_none.1 h.2.2]
    rfl
  · rfl

/-- A render leaves a file wherever it writes one. -/
theorem renderedNode_written (hw : Written dir r q) : ∃ c, renderedNode dir r N q = some (.file c) := by
  rcases hw with rfl | ⟨host, hm, hca, rfl⟩
  · exact ⟨_, by rw [renderedNode, if_pos (resolve_hostsToml hr).symm]⟩
  · have hloc : resolve (caFileOf (join [dir, r.server]) host) = resolve dir ++ [r.server, host.host ++ ".pem"] := by
      rw [resolve_caFileOf (resolve_hostDir hr) hca (plain_pem (hr.2 host hm)), List.append_assoc]
      rfl
    obtain ⟨ca, hl⟩ := Option.isSome_iff_exists.1 (@lastCA_isSome (join [dir, r.server]) _ _ hm hca)
    rw [hloc] at hl
    refine ⟨.pem ca, ?_⟩
    rw [renderedNode, if_neg (by rw [resolve_hostsToml hr]; simpa using pem_ne_hostsToml host.host), hl]

/-- A render succeeds exactly when the tree offers what it needs. -/
theorem renderConfigs_ok_iff {X : FS Content} : (∃ Y, renderConfigs r dir X = .ok Y) ↔ RenderOk dir r X.node := by
  have hP : resolve (join [dir, r.server]) = resolve dir ++ [r.server] := resolve_hostDir hr
  constructor
  · rintro ⟨Y, h⟩
    obtain ⟨fs1, -, -, h1, -, -⟩ := renderConfigs_eq_ok h
    refine ⟨by rw [← hP]; exact ((mkdirAll_ok_iff X _).1 ⟨fs1, h1⟩).2, fun q hw hd => ?_⟩
    obtain ⟨c, hc⟩ := renderedNode_written hr (N := X.node) hw
    have hY := renderConfigs_keeps_dir h hd
    rw [renderConfigs_node h, hc] at hY
    cases hY
  · rintro ⟨hnf, hnd⟩
    exact renderConfigs_ok_of_clear (join_ne_empty_of_mem (List.mem_cons_of_mem _ (List.mem_singleton_self _)) hr.1.1)
      (by rw [hP]; exact hnf)
      (fun host hm hca => ⟨plain_pem (hr.2 host hm), by
        rw [hP, List.append_assoc]
        exact hnd _ (Or.inr ⟨host, hm, hca, rfl⟩)⟩)
      (by rw [hP, List.append_assoc]; exact hnd _ (Or.inl rfl))

/-- A render of another server changes nothing a render of this one needs. -/
theorem renderOk_other {r' : ContainerdRegistry} (hne : r.server ≠ r'.server) :
    RenderOk dir r' (renderedNode dir r N) ↔ RenderOk dir r' N := by
  refine and_congr (forall_congr' fun q => imp_congr_right fun hq => ?_)
    (forall_congr' fun q => imp_congr_right fun hw => ?_)
  · rw [renderedNode_isFile hr fun n e => not_pair_prefix_single (e ▸ hq)]
  · obtain ⟨n, rfl⟩ := hw.loc
    rw [renderedNode_other hr (fun m e => hne (List.cons.inj (List.append_cancel_left e)).1.symm)
      not_pair_prefix_single]

end Closed

/-- The closed forms of two renders of distinct plain servers commute. -/
theorem renderedNode_comm {dir : String} {r1 r2 : ContainerdRegistry} (hr1 : PlainRegistry r1)
    (hr2 : PlainRegistry r2) (hne : r1.server ≠ r2.server) (N : Loc → Option (Entry Content)) :
    renderedNode dir r2 (renderedNode dir r1 N) = renderedNode dir r1 (renderedNode dir r2 N) := funext fun q => by
  by_cases h1 : ∃ n, q = resolve dir ++ [r1.server, n]
  · obtain ⟨n, rfl⟩ := h1
    have hq : ∀ m, resolve dir ++ [r1.server, n] ≠ resolve dir ++ [r2.server, m] :=
      fun m e => hne (List.cons.inj (List.append_cancel_left e)).1
    rw [renderedNode_other hr2 hq not_pair_prefix_single]
    exact (renderedNode_congr (renderedNode_other hr2 hq not_pair_prefix_single)).symm
  by_cases h2 : ∃ n, q = resolve dir ++ [r2.server, n]
  · obtain ⟨n, rfl⟩ := h2
    have hq : ∀ m, resolve dir ++ [r2.server, n] ≠ resolve dir ++ [r1.server, m] :=
      fun m e => hne (List.cons.inj (List.append_cancel_left e)).1.symm
    rw [renderedNode_other hr1 hq not_pair_prefix_single]
    exact renderedNode_congr (renderedNode_other hr1 hq not_pair_prefix_single)
  push_neg at h1 h2
  rw [renderedNode_outside hr2 h2, renderedNode_outside hr1 h1, renderedNode_outside hr1 h1,
    renderedNode_outside hr2 h2]
  rcases N q with _ | e
  · by_cases h1 : q <+: resolve dir ++ [r1.server] <;> by_cases h2 : q <+: resolve dir ++ [r2.server] <;>
      by_cases h0 : q = [] <;> simp [h1, h2, h0]
  · simp

/-! ## Renders in any order -/

section Order

variable {dir : String}

/-- Two renders of distinct plain servers, in either order, succeed together
and leave the same tree. -/
theorem renderConfigs_comm {r1 r2 : ContainerdRegistry} (hr1 : PlainRegistry r1) (hr2 : PlainRegistry r2)
    (hne : r1.server ≠ r2.server) {X A B : FS Content} (h1 : renderConfigs r1 dir X = .ok A)
    (h2 : renderConfigs r2 dir A = .ok B) :
    ∃ A' B', renderConfigs r2 dir X = .ok A' ∧ renderConfigs r1 dir A' = .ok B' ∧ B'.node = B.node := by
  have ok2 := (renderConfigs_ok_iff hr2).1 ⟨B, h2⟩
  rw [renderConfigs_node h1, renderOk_other hr1 hne] at ok2
  obtain ⟨A', hA'⟩ := (renderConfigs_ok_iff hr2).2 ok2
  have ok1 : RenderOk dir r1 A'.node := by
    rw [renderConfigs_node hA', renderOk_other hr2 hne.symm]
    exact (renderConfigs_ok_iff hr1).1 ⟨A, h1⟩
  obtain ⟨B', hB'⟩ := (renderConfigs_ok_iff hr1).2 ok1
  refine ⟨A', B', hA', hB', ?_⟩
  rw [renderConfigs_node hB', renderConfigs_node hA', renderConfigs_node h2, renderConfigs_node h1,
    renderedNode_comm hr1 hr2 hne]

/-- A render succeeds on every tree that holds the same, and leaves the same. -/
theorem renderConfigs_congr {r : ContainerdRegistry} (hr : PlainRegistry r) {X X' Y : FS Content}
    (hX : X.node = X'.node) (h : renderConfigs r dir X = .ok Y) :
    ∃ Y', renderConfigs r dir X' = .ok Y' ∧ Y'.node = Y.node := by
  obtain ⟨Y', h'⟩ := (renderConfigs_ok_iff hr).2 (hX ▸ (renderConfigs_ok_iff hr).1 ⟨Y, h⟩)
  exact ⟨Y', h', by rw [renderConfigs_node h', renderConfigs_node h, hX]⟩

theorem renderLoop_congr : ∀ (regs : GoMap String ContainerdRegistry) {X X' Y : FS Content},
    (∀ e ∈ regs, PlainRegistry e.2) → X.node = X'.node → renderLoop dir regs X = .ok Y →
    ∃ Y', renderLoop dir regs X' = .ok Y' ∧ Y'.node = Y.node
  | [], X, X', Y, _, hX, h => by
    cases h
    exact ⟨X', rfl, hX.symm⟩
  | e :: regs, X, X', Y, hpl, hX, h => by
    obtain ⟨A, h1, h2⟩ := foldlM_cons_eq_ok.1 h
    obtain ⟨A', h1', hA⟩ := renderConfigs_congr (hpl e (List.mem_cons_self _ _)) hX h1
    obtain ⟨Y', h2', hY⟩ := renderLoop_congr regs (fun x hx => hpl x (List.mem_cons_of_mem _ hx)) hA.symm h2
    exact ⟨Y', foldlM_cons_eq_ok.2 ⟨A', h1', h2'⟩, hY⟩

/-- The loop over a permutation of distinct plain registries succeeds exactly
when the loop does, and leaves the same tree. -/
theorem renderLoop_perm {regs regs' : GoMap String ContainerdRegistry} (hp : regs.Perm regs') :
    ∀ {X X' Y : FS Content}, (∀ e ∈ regs, PlainRegistry e.2) → (regs.map fun e => e.2.server).Nodup →
    X.node = X'.node → renderLoop dir regs X = .ok Y → ∃ Y', renderLoop dir regs' X' = .ok Y' ∧ Y'.node = Y.node := by
  induction hp with
  | nil =>
    intro X X' Y _ _ hX h
    cases h
    exact ⟨X', rfl, hX.symm⟩
  | cons e _ ih =>
    intro X X' Y hpl hnd hX h
    obtain ⟨A, h1, h2⟩ := foldlM_cons_eq_ok.1 h
    obtain ⟨A', h1', hA⟩ := renderConfigs_congr (hpl e (List.mem_cons_self _ _)) hX h1
    obtain ⟨Y', h2', hY⟩ := ih (fun x hx => hpl x (List.mem_cons_of_mem _ hx)) (List.nodup_cons.1 hnd).2 hA.symm h2
    exact ⟨Y', foldlM_cons_eq_ok.2 ⟨A', h1', h2'⟩, hY⟩
  | swap x y l =>
    intro X X' Y hpl hnd hX h
    obtain ⟨A, h1, h⟩ := foldlM_cons_eq_ok.1 h
    obtain ⟨B, h2, h3⟩ := foldlM_cons_eq_ok.1 h
    have hne : y.2.server ≠ x.2.server := fun e => (List.nodup_cons.1 hnd).1 (by simp [e])
    obtain ⟨A', B', h1', h2', hB⟩ := renderConfigs_comm (hpl y (by simp)) (hpl x (by simp)) hne h1 h2
    obtain ⟨A'', h1'', hA⟩ := renderConfigs_congr (hpl x (by simp)) hX h1'
    obtain ⟨B'', h2'', hB'⟩ := renderConfigs_congr (hpl y (by simp)) hA.symm h2'
    obtain ⟨Y', h3', hY⟩ := renderLoop_congr l (fun e he => hpl e (by simp [he])) (hB'.trans hB).symm h3
    exact ⟨Y', foldlM_cons_eq_ok.2 ⟨A'', h1'', foldlM_cons_eq_ok.2 ⟨B'', h2'', h3'⟩⟩, hY⟩
  | trans h12 _ ih12 ih23 =>
    intro X X' Y hpl hnd hX h
    obtain ⟨Y1, h1, hY1⟩ := ih12 hpl hnd hX h
    obtain ⟨Y2, h2, hY2⟩ := ih23 (fun e he => hpl e (h12.mem_iff.2 he)) ((h12.map _).nodup_iff.1 hnd) rfl h1
    exact ⟨Y2, h2, hY2.trans hY1⟩

end Order

/-! ## The two calls -/

/-- `setupContainerdConfig` leaves the same tree in every map order. -/
theorem setupContainerdConfig_mapOrder {env : NodeEnv} {runnable : ContainerdRunnable} {dryRun : Bool}
    {fs fs' : FS Content} (h : setupContainerdConfig env runnable dryRun fs = .ok fs')
    (hplain : ∀ r ∈ runnable.registies, Plain r.host) (order : MapOrder String ContainerdRegistry) :
    ∃ fs'', setupContainerdConfig { env with mapOrder := order } runnable dryRun fs = .ok fs'' ∧
      fs''.node = fs'.node := by
  cases dryRun with
  | true => exact ⟨fs', setupContainerdConfig_dryRun.2 (setupContainerdConfig_dryRun.1 h), rfl⟩
  | false =>
    obtain ⟨A, B, hA, hB, hL⟩ := setupContainerdConfig_eq_ok.1 h
    obtain ⟨fs'', hL', hfs⟩ := renderLoop_perm ((env.mapOrder.perm _).trans (order.perm _).symm)
      (fun e he => plain_of_mem_visit env.mapOrder hplain he) (nodup_servers_visit env.mapOrder) rfl hL
    exact ⟨fs'', setupContainerdConfig_eq_ok.2 ⟨A, B, hA, hB, hL'⟩, hfs⟩

/-- `ContainerdRunnable.Install` succeeds in any map order when it does in one,
and leaves the same tree and units. -/
theorem install_any_mapOrder (env : NodeEnv) (runnable : ContainerdRunnable) (dryRun : Bool) (node node' : NodeState)
    (hplain : ∀ r ∈ runnable.registies, Plain r.host) (order : MapOrder String ContainerdRegistry)
    (h : runnable.install env dryRun node = .ok node') :
    ∃ node'', runnable.install { env with mapOrder := order } dryRun node = .ok node'' ∧
      node''.fs.node = node'.fs.node ∧ node''.units = node'.units := by
  obtain ⟨inst, fs1, fs2, h1, h2, h3, h4, h5⟩ := ContainerdRunnable.install_eq_ok.1 h
  obtain ⟨fs2', h3', hfs⟩ := setupContainerdConfig_mapOrder h3 hplain order
  obtain ⟨fs3', h5', hfs3⟩ := env.runCmd_of_node_eq h5 hfs
  exact ⟨⟨fs3', node'.units⟩, ContainerdRunnable.install_eq_ok.2 ⟨inst, fs1, fs2', h1, h2, h3', h4, h5'⟩, hfs3, rfl⟩

/-- The sample runtime installed on an empty node with the registry map
visited in insertion order and in reverse. -/
theorem sampleRuntime_any_mapOrder : ∃ node', sampleRuntime.install sampleNodeEnv false emptyNode = .ok node' ∧
    ∃ node'', sampleRuntime.install { sampleNodeEnv with mapOrder := ⟨List.reverse, List.reverse_perm⟩ } false
      emptyNode = .ok node'' ∧ node''.fs.node = node'.fs.node ∧ node''.units = node'.units := by
  have hplain : ∀ r ∈ sampleRuntime.registies, Plain r.host := by decide
  exact exists_ok_of_isSome (by decide) fun node' h => install_any_mapOrder _ _ _ _ _ hplain _ h

theorem removeAll_congr {X X' : FS Content} (h : X.node = X'.node) (p : String) :
    (removeAll X p).node = (removeAll X' p).node := by
  unfold removeAll
  split_ifs
  · exact h
  · funext q
    simp only [FS.removeTree, h]

theorem removeOld_congr (dir : String) : ∀ (old : List String) {X X' : FS Content}, X.node = X'.node →
    (removeOld dir X old).node = (removeOld dir X' old).node
  | [], _, _, h => h
  | _ :: old, _, _, h => removeOld_congr dir old (removeAll_congr h _)

/-- `ContainerdRegistryConfigure.Install` over any order of its distinct plain
registries succeeds when it does in one, and leaves the same tree. -/
theorem configure_any_order (cd : String) (c : ContainerdRegistryConfigure) (regs : GoMap String ContainerdRegistry)
    (fs fs' : FS Content) (hplain : ∀ e ∈ c.registries, PlainRegistry e.2)
    (hdistinct : (c.registries.map fun e => e.2.server).Nodup) (hperm : c.registries.Perm regs)
    (h : c.install cd false fs = .ok fs') :
    ∃ fs'', { c with registries := regs }.install cd false fs = .ok fs'' ∧ fs''.node = fs'.node := by
  obtain ⟨es, X, old, h1, h2, rfl⟩ := install_eq_ok h
  have hold := (foldlM_renderStep _ _ _ hplain hdistinct h2).old_eq
  subst hold
  obtain ⟨X', hL, hX⟩ := renderLoop_perm hperm hplain hdistinct rfl ((renderLoop_eq_ok _ _ _ _).2 h2)
  have h2' := (renderLoop_eq_ok _ _ _ (dirNames es)).1 hL
  have hf : (dirNames es).filter (fun n => n ∉ regs.map fun e => e.2.server) =
      (dirNames es).filter (fun n => n ∉ c.registries.map fun e => e.2.server) :=
    List.filter_congr fun n _ => by simp only [(hperm.map fun e => e.2.server).mem_iff]
  rw [hf] at h2'
  exact ⟨_, install_of_ok (c := { c with registries := regs }) h1 h2',
    renderContainerdConfig_congr _ _ (removeOld_congr _ _ hX)⟩

/-- The sample registry update over a stale tree, with its registries in reverse. -/
theorem sampleConfigure_any_order : ∃ fs', sampleConfigure.install "/etc/containerd" false sampleStaleTree = .ok fs' ∧
    ∃ fs'', { sampleConfigure with registries := sampleConfigure.registries.reverse }.install "/etc/containerd" false
      sampleStaleTree = .ok fs'' ∧ fs''.node = fs'.node := by
  have hplain : ∀ e ∈ sampleConfigure.registries, PlainRegistry e.2 := by decide
  have hdistinct : (sampleConfigure.registries.map fun e => e.2.server).Nodup := by decide
  exact exists_ok_of_isSome (by decide) fun fs' h =>
    configure_any_order _ _ _ _ _ hplain hdistinct (List.reverse_perm _).symm h

end KubeClipper.L4.Containerd
