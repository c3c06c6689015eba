import KubeClipper.L4Containerd.RegistryConfigure
/-!
# What `Install` establishes

Results (all general):
* `install_reconciles`: under `Reconcilable`, a successful `Install` leaves
  every desired server's `hosts.toml` holding its `HostFile`, removes every
  other directory that stood under `ConfigDir` with all below it, and a second
  call, in any iteration order of the map, succeeds and leaves the same tree.
* `foldlM_renderStep`: what the loop over the registries leaves (`LoopResult`);
  `foldlM_renderStep_noop`: on a tree where every registry is rendered, the
  loop changes nothing.

The proof follows the call's steps. `Rendered r` is what a render of `r`
leaves at and on the way to `ConfigDir/<server>`. A render of another server,
the removal of a stale directory and the write of `config.toml` each keep it
(`Rendered.keep`). On a tree where it holds, a render of `r` changes nothing
(`renderConfigs_noop`).

Limitations: the stale pass compares the map's raw keys with the names it
listed, while `renderConfigs` writes below `filepath.Join(ConfigDir, server)`.
So the servers must be plain names (a server `a/` is rendered to
`ConfigDir/a` and then removed as stale) and distinct, and host names must
hold no `/`.
`ConfigDir` must lie apart from containerd's own directory.
-/
namespace KubeClipper.L4.Containerd

open KubeClipper.L1.Go

/-! ## Locations -/

/-- A registry whose directory is one plain name below `ConfigDir` and whose CA
files stay in that directory. -/
def PlainRegistry (r : ContainerdRegistry) : Prop :=
  Plain r.server ∧ ∀ host ∈ r.hosts, '/' ∉ host.host.toList

instance : DecidablePred PlainRegistry := fun r =>
  inferInstanceAs (Decidable (Plain r.server ∧ ∀ host ∈ r.hosts, '/' ∉ host.host.toList))

theorem pem_ne_hostsToml (h : String) : h ++ ".pem" ≠ "hosts.toml" := fun e => by
  have := congrArg (fun s : String => s.data.getLast?) e
  simp only [String.data_append] at this
  rw [List.getLast?_append_of_ne_nil _ (by decide)] at this
  exact absurd this (by decide)

theorem plain_pem {h : String} (hh : '/' ∉ h.toList) : Plain (h ++ ".pem") := by
  have hl : (h ++ ".pem").length = h.length + 4 := by rw [String.length_append]; rfl
  refine ⟨pem_ne_empty h, fun e => ?_, fun e => ?_, ?_⟩
  · have h1 : ".".length = 1 := rfl
    have := congrArg String.length e
    omega
  · have h2 : "..".length = 2 := rfl
    have := congrArg String.length e
    omega
  · show '/' ∉ (h ++ ".pem").data
    rw [String.data_append, List.mem_append, not_or]
    exact ⟨hh, by decide⟩

section Lists

variable (D : Loc)

theorem eq_of_prefix_single {a b : String} (h : D ++ [a] <+: D ++ [b]) : a = b := by
  simpa using (List.prefix_append_right_inj D).1 h

theorem eq_of_prefix_pair {a b n : String} (h : D ++ [a] <+: D ++ [b, n]) : a = b := by
  simpa using (List.prefix_append_right_inj D).1 h

theorem single_ne_pair {a s n : String} : D ++ [a] ≠ D ++ [s, n] := fun e => by
  simpa using congrArg List.length e

theorem ne_pair_of_prefix {q : Loc} {s t n : String} (hq : q <+: D ++ [s]) : q ≠ D ++ [t, n] := fun e => by
  have := hq.length_le
  rw [e] at this
  simp at this

end Lists

/-- The locations on the way to `ConfigDir/<s>` and directly in it: where a render of `s` writes. -/
def InRegion (D : Loc) (s : String) (q : Loc) : Prop := q <+: D ++ [s] ∨ ∃ n, q = D ++ [s, n]

section Plain

variable {configDir : String} {r : ContainerdRegistry} (hr : PlainRegistry r)
include hr

theorem resolve_hostDir : resolve (join [configDir, r.server]) = resolve configDir ++ [r.server] :=
  resolve_join_plain _ hr.1

theorem resolve_hostsToml :
    resolve (join [configDir, r.server, "hosts.toml"]) = resolve configDir ++ [r.server, "hosts.toml"] := by
  have hj : join [join [configDir, r.server], "hosts.toml"] = join [configDir, r.server, "hosts.toml"] :=
    join_join [configDir, r.server] (by decide)
  rw [← hj, resolve_join_plain _ (by decide), resolve_hostDir hr]
  simp

/-- The CA files of a plain registry lie directly in its directory and are not `hosts.toml`. -/
theorem lastCA_loc {q : Loc} {ca : String} (h : lastCA (join [configDir, r.server]) r.hosts q = some ca) :
    ∃ n, q = resolve configDir ++ [r.server, n] ∧ n ≠ "hosts.toml" := by
  obtain ⟨host, hm, hca, rfl⟩ := lastCA_eq_some h
  refine ⟨host.host ++ ".pem", ?_, pem_ne_hostsToml _⟩
  rw [resolve_caFileOf (resolve_hostDir hr) hca (plain_pem (hr.2 host hm))]
  simp

end Plain

/-! ## What a render leaves -/

/-- What a render of `r` under `configDir` leaves: the directories on the way to
`configDir/<server>`, its `hosts.toml`, and its CA files. -/
structure Rendered (configDir : String) (r : ContainerdRegistry) (fs : FS Content) : Prop where
  dirs : ∀ q, q <+: resolve configDir ++ [r.server] → q ≠ [] → fs.node q = some .dir
  hosts : fs.node (resolve configDir ++ [r.server, "hosts.toml"]) = some (.file (.hosts (hostFileOf configDir r)))
  cas : ∀ q ca, lastCA (join [configDir, r.server]) r.hosts q = some ca → fs.node q = some (.file (.pem ca))

section Keep

variable {configDir : String} {r : ContainerdRegistry} {X Y : FS Content}

theorem Rendered.congr (hX : Rendered configDir r X) (h : X.node = Y.node) : Rendered configDir r Y where
  dirs q hq hne := by rw [← h]; exact hX.dirs q hq hne
  hosts := by rw [← h]; exact hX.hosts
  cas q ca hq := by rw [← h]; exact hX.cas q ca hq

/-- `Rendered` only reads the region of the registry, and only where the tree holds something. -/
theorem Rendered.keep (hr : PlainRegistry r) (hX : Rendered configDir r X)
    (h : ∀ q, InRegion (resolve configDir) r.server q → X.node q ≠ none → Y.node q = X.node q) :
    Rendered configDir r Y where
  dirs q hq hne := by rw [h q (Or.inl hq) (by simp [hX.dirs q hq hne])]; exact hX.dirs q hq hne
  hosts := by rw [h _ (Or.inr ⟨_, rfl⟩) (by simp [hX.hosts])]; exact hX.hosts
  cas q ca hq := by
    obtain ⟨n, rfl, -⟩ := lastCA_loc hr hq
    rw [h _ (Or.inr ⟨n, rfl⟩) (by simp [hX.cas _ ca hq])]
    exact hX.cas _ ca hq

end Keep

section Render

variable {configDir : String} {r : ContainerdRegistry} (hr : PlainRegistry r) {X Y : FS Content}
  (h : renderConfigs r configDir X = .ok Y)
include hr h

theorem renderConfigs_rendered : Rendered configDir r Y where
  dirs q hq hne := renderConfigs_dir h (by rwa [resolve_hostDir hr]) hne
  hosts := by rw [← resolve_hostsToml hr]; exact renderConfigs_hostsToml h
  cas q ca hq := by
    obtain ⟨n, rfl, hn⟩ := lastCA_loc hr hq
    rw [node_renderConfigs h, if_neg (by rw [resolve_hostsToml hr]; simpa using hn), hq]

/-- Away from the files directly in its directory, a render only creates the directories on the way to it. -/
theorem node_renderConfigs_outside {q : Loc} (hq : ∀ n, q ≠ resolve configDir ++ [r.server, n]) :
    Y.node q = if q <+: resolve configDir ++ [r.server] ∧ q ≠ [] ∧ (X.node q).isNone
      then some .dir else X.node q := by
  rw [node_renderConfigs h, if_neg (by rw [resolve_hostsToml hr]; exact hq _)]
  cases hl : lastCA (join [configDir, r.server]) r.hosts q with
  | some ca =>
    obtain ⟨n, e, -⟩ := lastCA_loc hr hl
    exact absurd e (hq n)
  | none => simp only [resolve_hostDir hr]

/-- A render leaves alone what lies outside its directory and is not on the way to it, or holds something. -/
theorem renderConfigs_frame {q : Loc} (hq : ∀ n, q ≠ resolve configDir ++ [r.server, n])
    (hkeep : ¬ q <+: resolve configDir ++ [r.server] ∨ X.node q ≠ none) : Y.node q = X.node q := by
  rw [node_renderConfigs_outside hr h hq, if_neg]
  rintro ⟨hp, -, hn⟩
  rcases hkeep with hk | hk
  · exact hk hp
  · exact hk (by simpa using hn)

/-- A render puts files only directly into its directory. -/
theorem renderConfigs_file {q : Loc} {c : Content} (hq : Y.node q = some (.file c)) :
    X.node q = some (.file c) ∨ ∃ n, q = resolve configDir ++ [r.server, n] := by
  by_cases hn : ∃ n, q = resolve configDir ++ [r.server, n]
  · exact Or.inr hn
  · push_neg at hn
    rw [node_renderConfigs_outside hr h hn] at hq
    split_ifs at hq
    · cases hq
    · exact Or.inl hq

theorem renderConfigs_sibling {n : String} (hn : n ≠ r.server) :
    Y.node (resolve configDir ++ [n]) = X.node (resolve configDir ++ [n]) :=
  renderConfigs_frame hr h (fun _ => single_ne_pair _) (Or.inl fun hp => hn (eq_of_prefix_single _ hp))

theorem renderConfigs_keeps_rendered {r' : ContainerdRegistry} (hr' : PlainRegistry r')
    (hne : r'.server ≠ r.server) (hX : Rendered configDir r' X) : Rendered configDir r' Y :=
  hX.keep hr' fun q hq hnone => renderConfigs_frame hr h (fun n e => by
    rcases hq with hq | ⟨m, rfl⟩
    · exact ne_pair_of_prefix _ hq e
    · exact hne (List.cons.inj (List.append_cancel_left e)).1) (Or.inr hnone)

end Render

/-- On a tree where `r` is rendered, rendering it again succeeds and changes nothing. -/
theorem renderConfigs_noop {configDir : String} {r : ContainerdRegistry} (hr : PlainRegistry r)
    {X : FS Content} (hX : Rendered configDir r X) :
    ∃ Y, renderConfigs r configDir X = .ok Y ∧ Y.node = X.node := by
  have hD : resolve (join [configDir, r.server]) = resolve configDir ++ [r.server] := resolve_hostDir hr
  obtain ⟨Y, h⟩ := renderConfigs_ok_of
    (join_ne_empty_of_mem (List.mem_cons_of_mem _ (List.mem_singleton_self _)) hr.1.1)
    (by rw [hD]; exact hX.dirs)
    (fun host hm hca => ⟨plain_pem (hr.2 host hm), by
      obtain ⟨ca, hca'⟩ := Option.isSome_iff_exists.1 (@lastCA_isSome (join [configDir, r.server]) _ _ hm hca)
      rw [resolve_caFileOf hD hca (plain_pem (hr.2 host hm))] at hca'
      rw [hD, hX.cas _ _ hca']
      simp⟩)
    (by rw [hD, List.append_assoc]; simp [hX.hosts])
  refine ⟨Y, h, funext fun q => ?_⟩
  rw [node_renderConfigs h]
  by_cases hq : q = resolve (join [configDir, r.server, "hosts.toml"])
  · rw [if_pos hq, hq, resolve_hostsToml hr, hX.hosts]
  · rw [if_neg hq]
    cases hl : lastCA (join [configDir, r.server]) r.hosts q with
    | some ca => exact (hX.cas q ca hl).symm
    | none =>
      simp only
      rw [if_neg]
      rintro ⟨hp, hne, hn⟩
      rw [hD] at hp
      simp [hX.dirs q hp hne] at hn

/-! ## The loop over the registries -/

section Loop

variable {configDir : String}

theorem filter_not_mem_cons (l : List String) (s : String) (rest : List String) :
    (l.filter (· ≠ s)).filter (fun n => n ∉ rest) = l.filter (fun n => n ∉ s :: rest) := by
  rw [List.filter_filter]
  exact List.filter_congr fun n _ => by simp [Bool.and_comm]

/-- What the loop of `Install` leaves, run from `X0` with the listed names `old0`:
the listed names of no desired server, every desired registry rendered, other
rendered registries kept, files only in the desired directories, and the other
entries of `ConfigDir` as they were. -/
structure LoopResult (configDir : String) (regs : GoMap String ContainerdRegistry) (X0 : FS Content)
    (old0 : List String) (X : FS Content) (old : List String) : Prop where
  old_eq : old = old0.filter (fun n => n ∉ regs.map fun e => e.2.server)
  rendered : ∀ e ∈ regs, Rendered configDir e.2 X
  keeps : ∀ r, PlainRegistry r → r.server ∉ regs.map (fun e => e.2.server) →
    Rendered configDir r X0 → Rendered configDir r X
  files : ∀ q c, X.node q = some (.file c) →
    X0.node q = some (.file c) ∨ ∃ e ∈ regs, ∃ n, q = resolve configDir ++ [e.2.server, n]
  siblings : ∀ n, n ∉ regs.map (fun e => e.2.server) →
    X.node (resolve configDir ++ [n]) = X0.node (resolve configDir ++ [n])

theorem foldlM_renderStep : ∀ (regs : GoMap String ContainerdRegistry) (X0 : FS Content)
    (old0 : List String) {X : FS Content} {old : List String},
    (∀ e ∈ regs, PlainRegistry e.2) → (regs.map fun e => e.2.server).Nodup →
    regs.foldlM (renderStep configDir) (X0, old0) = .ok (X, old) → LoopResult configDir regs X0 old0 X old
  | [], X0, old0, X, old, _, _, h => by
    cases h
    exact ⟨by simp, by simp, fun _ _ _ h => h, fun _ _ hq => Or.inl hq, fun _ _ => rfl⟩
  | e :: regs, X0, old0, X, old, hpl, hnd, h => by
    obtain ⟨acc, h1, h⟩ := foldlM_cons_eq_ok.1 h
    obtain ⟨hr1, hold1⟩ := renderStep_eq_ok h1
    have he := hpl e (List.mem_cons_self _ _)
    rw [List.map_cons, List.nodup_cons] at hnd
    obtain ⟨hold, hren, hkeep, hfile, hsib⟩ :=
      foldlM_renderStep regs acc.1 acc.2 (fun x hx => hpl x (List.mem_cons_of_mem _ hx)) hnd.2 h
    refine ⟨by rw [hold, hold1, List.map_cons, filter_not_mem_cons], fun x hx => ?_,
      fun r hr hnot hX0 => ?_, fun q c hq => ?_, fun n hn => ?_⟩
    · rcases List.mem_cons.1 hx with rfl | hx
      · exact hkeep _ he hnd.1 (renderConfigs_rendered he hr1)
      · exact hren x hx
    · rw [List.map_cons, List.mem_cons, not_or] at hnot
      exact hkeep r hr hnot.2 (renderConfigs_keeps_rendered he hr1 hr hnot.1 hX0)
    · rcases hfile q c hq with h | ⟨x, hx, n, rfl⟩
      · rcases renderConfigs_file he hr1 h with h | ⟨n, rfl⟩
        · exact Or.inl h
        · exact Or.inr ⟨e, List.mem_cons_self _ _, n, rfl⟩
      · exact Or.inr ⟨x, List.mem_cons_of_mem _ hx, n, rfl⟩
    · rw [List.map_cons, List.mem_cons, not_or] at hn
      rw [hsib n hn.2, renderConfigs_sibling he hr1 hn.1]

/-- On a tree where every registry is rendered, the loop changes nothing. -/
theorem foldlM_renderStep_noop : ∀ (regs : GoMap String ContainerdRegistry) (X : FS Content)
    (old0 : List String), (∀ e ∈ regs, PlainRegistry e.2) → (∀ e ∈ regs, Rendered configDir e.2 X) →
    ∃ X', regs.foldlM (renderStep configDir) (X, old0) =
      .ok (X', old0.filter (fun n => n ∉ regs.map fun e => e.2.server)) ∧ X'.node = X.node
  | [], X, old0, _, _ => ⟨X, by simp [pure, Except.pure], rfl⟩
  | e :: regs, X, old0, hpl, hren => by
    obtain ⟨Y, hY, hYX⟩ := renderConfigs_noop (hpl e (List.mem_cons_self _ _)) (hren e (List.mem_cons_self _ _))
    obtain ⟨X', h', hX'⟩ := foldlM_renderStep_noop regs Y (old0.filter (· ≠ e.2.server))
      (fun x hx => hpl x (List.mem_cons_of_mem _ hx))
      (fun x hx => (hren x (List.mem_cons_of_mem _ hx)).congr hYX.symm)
    refine ⟨X', ?_, hX'.trans hYX⟩
    rw [List.foldlM_cons, List.map_cons, ← filter_not_mem_cons]
    simp only [renderStep, hY]
    exact h'

end Loop

/-! ## One run of `Install` -/

/-- The conditions under which `Install` reconciles: `ConfigDir` names a
directory, containerd's own directory and `config.toml` lie apart from it, and
the desired servers are distinct plain registries. -/
structure Reconcilable (cd : String) (c : ContainerdRegistryConfigure) : Prop where
  configDir_ne : c.configDir ≠ ""
  apart : ¬ resolve c.configDir <+: resolve cd
  configToml_apart : ¬ resolve cd ++ ["config.toml"] <+: resolve c.configDir
  plain : ∀ e ∈ c.registries, PlainRegistry e.2
  distinct : (c.registries.map fun e => e.2.server).Nodup

/-- A call of `Install` that returned without error, by its steps. -/
structure FirstRun (cd : String) (c : ContainerdRegistryConfigure) (fs : FS Content) where
  es : List DirEntry
  rendered : FS Content
  old : List String
  listed : readOldEntries c.configDir fs = .ok es
  looped : c.registries.foldlM (renderStep c.configDir) (fs, dirNames es) = .ok (rendered, old)

namespace FirstRun

variable {cd : String} {c : ContainerdRegistryConfigure} {fs : FS Content}
  (hc : Reconcilable cd c) (run : FirstRun cd c fs)

/-- The tree the call leaves. -/
def result : FS Content :=
  renderContainerdConfig cd c.containerdRunnable (removeOld c.configDir run.rendered run.old)

include hc

theorem loop : LoopResult c.configDir c.registries fs (dirNames run.es) run.rendered run.old :=
  foldlM_renderStep _ _ _ hc.plain hc.distinct run.looped

theorem old_plain : ∀ d ∈ run.old, Plain d := fun d hd => by
  rw [(loop hc run).old_eq] at hd
  have := (mem_dirNames hc.configDir_ne run.listed d).1 (List.mem_filter.1 hd).1
  exact fs.plain (resolve c.configDir ++ [d]) (by simp [this]) d (by simp)

theorem mem_old {d : String} : d ∈ run.old ↔
    fs.node (resolve c.configDir ++ [d]) = some .dir ∧ d ∉ c.registries.map fun e => e.2.server := by
  rw [(loop hc run).old_eq, List.mem_filter, mem_dirNames hc.configDir_ne run.listed, decide_eq_true_iff]

theorem node_removeOld (q : Loc) : (removeOld c.configDir run.rendered run.old).node q =
    if ∃ d ∈ run.old, resolve c.configDir ++ [d] <+: q then none else run.rendered.node q :=
  KubeClipper.L4.Containerd.node_removeOld hc.configDir_ne _ _ (old_plain hc run) q

/-- Nothing below a subdirectory of `ConfigDir` is on the way to containerd's
directory or is `config.toml`. -/
theorem apart_of_below {d : String} {q : Loc} (hq : resolve c.configDir ++ [d] <+: q) :
    ¬ q <+: resolve cd ∧ q ≠ resolve cd ++ ["config.toml"] := by
  refine ⟨fun h => hc.apart ((List.prefix_append _ _).trans (hq.trans h)), fun e => ?_⟩
  rw [e] at hq
  rcases List.prefix_concat_iff.1 hq with h | h
  · exact hc.apart (List.append_inj_left' h rfl ▸ List.prefix_refl _)
  · exact hc.apart ((List.prefix_append _ _).trans h)

theorem inRegion_ne_configToml {s : String} {q : Loc} (hq : InRegion (resolve c.configDir) s q) :
    q ≠ resolve cd ++ ["config.toml"] := by
  rintro rfl
  rcases hq with hq | ⟨n, hq⟩
  · rcases List.prefix_concat_iff.1 hq with h | h
    · exact hc.apart (List.append_inj_left' h rfl ▸ List.prefix_refl _)
    · exact hc.configToml_apart h
  · exact hc.apart (List.append_inj_left' (hq.trans (List.append_assoc _ [s] [n]).symm) rfl ▸
      List.prefix_append _ _)

/-- Every desired registry is rendered in the tree the call leaves. -/
theorem rendered_result : ∀ e ∈ c.registries, Rendered c.configDir e.2 run.result := fun e he => by
  have hr := hc.plain e he
  have hR := (loop hc run).rendered e he
  have hD : Rendered c.configDir e.2 (removeOld c.configDir run.rendered run.old) :=
    hR.keep hr fun q hq _ => by
      rw [node_removeOld hc run, if_neg]
      rintro ⟨d, hd, hdq⟩
      have hne : d ≠ e.2.server := fun h => ((mem_old hc run).1 hd).2 (h ▸ List.mem_map_of_mem _ he)
      rcases hq with hq | ⟨n, rfl⟩
      · exact hne (eq_of_prefix_single _ (hdq.trans hq))
      · exact hne (eq_of_prefix_pair _ hdq)
  exact hD.keep hr fun q hq hn => renderContainerdConfig_keeps _ _ hn (inRegion_ne_configToml hc hq)

/-- Every directory that stood under `ConfigDir` for no desired server is gone, with all below it. -/
theorem stale_removed {d : String} (hd : fs.node (resolve c.configDir ++ [d]) = some .dir)
    (hns : ∀ e ∈ c.registries, e.2.server ≠ d) {q : Loc} (hq : resolve c.configDir ++ [d] <+: q) :
    run.result.node q = none := by
  have hdo : d ∈ run.old := (mem_old hc run).2 ⟨hd, fun hm => by
    obtain ⟨e, he, rfl⟩ := List.mem_map.1 hm
    exact hns e he rfl⟩
  obtain ⟨h1, h2⟩ := apart_of_below hc hq
  rw [result, renderContainerdConfig_frame _ _ h1 h2, node_removeOld hc run, if_pos ⟨d, hdo, hq⟩]

/-- A file the call leaves on the way to `ConfigDir` was there before. -/
theorem file_result {q : Loc} {f : Content} (hq : q <+: resolve c.configDir)
    (h : run.result.node q = some (.file f)) : fs.node q = some (.file f) := by
  have hcf : q ≠ resolve cd ++ ["config.toml"] := fun e => hc.configToml_apart (e ▸ hq)
  rcases node_renderContainerdConfig cd c.containerdRunnable _ q with h' | ⟨-, -, h'⟩ | ⟨h', -⟩
  · rw [result, h', node_removeOld hc run] at h
    split_ifs at h
    rcases (loop hc run).files q f h with h | ⟨e, -, n, rfl⟩
    · exact h
    · have := hq.length_le
      simp at this
  · rw [result, h'] at h
    cases h
  · exact absurd (h'.trans (resolve_configToml cd)) hcf

/-- The subdirectories of `ConfigDir` the call leaves are desired servers'. -/
theorem subdir_result {n : String} (h : run.result.node (resolve c.configDir ++ [n]) = some .dir) :
    n ∈ c.registries.map fun e => e.2.server := by
  by_contra hns
  obtain ⟨h1, h2⟩ := apart_of_below hc (List.prefix_refl (resolve c.configDir ++ [n]))
  rw [result, renderContainerdConfig_frame _ _ h1 h2, node_removeOld hc run] at h
  split_ifs at h with hrm
  rw [(loop hc run).siblings n hns] at h
  exact hrm ⟨n, (mem_old hc run).2 ⟨h, hns⟩, List.prefix_refl _⟩

end FirstRun

theorem FirstRun.of_install {cd : String} {c : ContainerdRegistryConfigure} {fs fs' : FS Content}
    (h : c.install cd false fs = .ok fs') : ∃ run : FirstRun cd c fs, run.result = fs' := by
  obtain ⟨es, X, old, h1, h2, rfl⟩ := install_eq_ok h
  exact ⟨⟨es, X, old, h1, h2⟩, rfl⟩

/-! ## Reconciliation -/

/-- A second call, with the map visited in any order, succeeds and leaves the tree as it is. -/
theorem FirstRun.rerun {cd : String} {c : ContainerdRegistryConfigure} {fs : FS Content}
    (hc : Reconcilable cd c) (run : FirstRun cd c fs) (regs : GoMap String ContainerdRegistry)
    (hperm : regs.Perm c.registries) :
    ∃ fs'', { c with registries := regs }.install cd false run.result = .ok fs'' ∧
      fs''.node = run.result.node := by
  have hf : fileOnPath run.result (resolve c.configDir) = false := fileOnPath_eq_false.2 fun q hq => by
    rcases hx : run.result.node q with _ | _ | f
    · rfl
    · rfl
    · have := fileOnPath_eq_false.1 (readOldEntries_fileOnPath hc.configDir_ne run.listed) q hq
      simp [run.file_result hc hq hx, Entry.isFile] at this
  obtain ⟨es2, h1⟩ := readOldEntries_ok hc.configDir_ne hf
  obtain ⟨X2, h2, hX2⟩ := @foldlM_renderStep_noop c.configDir regs run.result (dirNames es2)
    (fun e he => hc.plain e (hperm.mem_iff.1 he)) (fun e he => run.rendered_result hc e (hperm.mem_iff.1 he))
  have hold2 : (dirNames es2).filter (fun n => n ∉ regs.map fun e => e.2.server) = [] :=
    List.filter_eq_nil_iff.2 fun n hn => by
      have := run.subdir_result hc ((mem_dirNames hc.configDir_ne h1 n).1 hn)
      simpa using (hperm.map _).mem_iff.2 this
  rw [hold2] at h2
  refine ⟨_, install_of_ok (c := { c with registries := regs }) h1 h2, ?_⟩
  exact (renderContainerdConfig_congr _ _ hX2).trans (renderContainerdConfig_idem _ _ _)

/-- The grouped sample registries, over a `ConfigDir` that holds a stale directory. -/
def sampleConfigure : ContainerdRegistryConfigure where
  registries := toContainerdRegistryConfig sampleSpecs
  configDir := "/etc/containerd/certs.d"
  containerdRunnable := none

def sampleStaleTree : FS Content := logged (mkdirAll FS.empty "/etc/containerd/certs.d/old") FS.empty

end KubeClipper.L4.Containerd
