import KubeClipper.L4Containerd.NodeRuns
/-!
# The registry trust store over a node's life

containerd reads a registry's hosts from `<dir>/<server>/hosts.toml`. Two
calls render such directories into the node's registry directory `d`:
`ContainerdRunnable.Install` (`renderRegistryConfig`, containerd.go:311-322)
renders its groups and keeps whatever else stands in `d`, and
`ContainerdRegistryConfigure.Install` (containerd.go:330-376) renders its
registries and removes every other directory of `d`. `Uninstall`
(containerd.go:199-214) removes containerd's directories, which may hold `d`.

What `d` is for is a store of registries by server (`TrustStore`):
`StoreHolds d S` says that `d` holds exactly `S`, every registry of `S`
rendered under its server and no other directory. Over a run the store
evolves by `ContainerdOp.trustStore`: the runtime's `Install` merges its
groups into it, the registry update replaces it, `Uninstall` empties it when
a directory it removes holds `d` and otherwise leaves it.

**Hypotheses.** Every call names `d`: the runtime's registry directory after
the node's defaults, and the registry update's `ConfigDir`. `d` lies apart
from containerd's directory and `config.toml`, no directory `Uninstall`
removes lies strictly below `d`, and the downloader and the command runner
(not under `src/`) leave `d` and the directories on the way to it alone. The registries have
plain hosts, and the registry update's servers are distinct plain names
(`Reconcilable`).

Limitations: the store is keyed by server, so the registry update's servers
must be distinct, as `Reconcilable` asks. A CA file written for a host that a
later render of the same server no longer lists stays in the server's
directory; the store does not track it.

Results:
* `storeHolds_configure`: the registry update leaves exactly its registries,
  from any tree.
* `ContainerdOp.run_trustStore`: one call keeps the refinement.
* `runOps_trustStore`: so does any run, from any tree that holds a store;
  the empty tree holds the empty store.
-/
namespace KubeClipper.L4.Containerd

open KubeClipper.L1.Go

/-! ## The abstract store -/

/-- The registries a trust store holds, by server. -/
abbrev TrustStore := String → Option ContainerdRegistry

/-- The store a map of registries renders: each registry under its server. -/
def storeOf (regs : GoMap String ContainerdRegistry) : TrustStore :=
  fun s => (regs.find? fun e => e.2.server = s).map Prod.snd

/-- What a call that returns without error does to the store at `d`, by what
the call is for. -/
def ContainerdOp.trustStore (d : String) (env : NodeEnv) : ContainerdOp → TrustStore → TrustStore
  | .install runnable false, S => fun s => (storeOf (toContainerdRegistryConfig runnable.registies) s).or (S s)
  | .uninstall runnable _, S =>
    if ∃ dd ∈ removedDirs env runnable, dd ≠ "" ∧ resolve dd <+: resolve d then fun _ => none else S
  | .configure c false, _ => storeOf c.registries
  | _, S => S

theorem storeOf_eq_some {regs : GoMap String ContainerdRegistry} {s : String} {r : ContainerdRegistry}
    (h : storeOf regs s = some r) : ∃ e ∈ regs, e.2 = r ∧ r.server = s := by
  obtain ⟨e, he, rfl⟩ := Option.map_eq_some'.1 h
  exact ⟨e, List.mem_of_find?_eq_some he, rfl, by simpa using List.find?_some he⟩

theorem storeOf_isSome {regs : GoMap String ContainerdRegistry} {s : String} :
    (storeOf regs s).isSome ↔ s ∈ regs.map fun e => e.2.server := by
  simp only [storeOf, Option.isSome_map', List.find?_isSome, decide_eq_true_eq, List.mem_map]

/-! ## The refinement relation -/

/-- The directory `d` holds exactly the store `S`: every registry of `S` is
plain and rendered under its server, and every directory in `d` is a server
of `S`. -/
structure StoreHolds (d : String) (S : TrustStore) (fs : FS Content) : Prop where
  rendered : ∀ s r, S s = some r → r.server = s ∧ PlainRegistry r ∧ Rendered d r fs
  exact : ∀ n, fs.node (resolve d ++ [n]) = some .dir → (S n).isSome

/-- The trust store lies apart from containerd's directory and its `config.toml`. -/
def StoreApart (cd d : String) : Prop :=
  ¬ resolve d <+: resolve cd ∧ ¬ resolve cd ++ ["config.toml"] <+: resolve d

instance decidableStoreApart (cd d : String) : Decidable (StoreApart cd d) :=
  inferInstanceAs (Decidable (_ ∧ _))

theorem StoreApart.not_along_configToml {cd d : String} (h : StoreApart cd d) :
    ¬ Along d (resolve cd ++ ["config.toml"])
  | .inl hp => h.2 hp
  | .inr hp => (List.prefix_concat_iff.1 hp).elim (fun e => h.2 (e ▸ List.prefix_refl _)) h.1

theorem along_of_inRegion {d s : String} {q : Loc} : InRegion (resolve d) s q → Along d q
  | .inl hq => (List.prefix_concat_iff.1 hq).elim (fun e => Or.inr ⟨[s], e.symm⟩) Or.inl
  | .inr ⟨n, e⟩ => Or.inr ⟨[s, n], e.symm⟩

section Keep

variable {d : String} {S : TrustStore} {X Y : FS Content}

/-- The store survives a change that keeps every location along `d` that
holds something and every entry directly in `d`. -/
theorem StoreHolds.keep (hS : StoreHolds d S X) (hkeep : ∀ q, Along d q → X.node q ≠ none → Y.node q = X.node q)
    (hsub : ∀ n, Y.node (resolve d ++ [n]) = X.node (resolve d ++ [n])) : StoreHolds d S Y where
  rendered s r h := by
    obtain ⟨hs, hr, hR⟩ := hS.rendered s r h
    exact ⟨hs, hr, hR.keep hr fun q hq hn => hkeep q (along_of_inRegion hq) hn⟩
  exact n h := hS.exact n (by rw [← hsub n]; exact h)

theorem StoreHolds.of_along (hS : StoreHolds d S X) (h : ∀ q, Along d q → Y.node q = X.node q) :
    StoreHolds d S Y :=
  hS.keep (fun q hq _ => h q hq) fun n => h _ (Or.inr ⟨[n], rfl⟩)

theorem StoreHolds.mkdirAll {cd : String} (hS : StoreHolds d S X) (ha : StoreApart cd d)
    (h : mkdirAll X cd = .ok Y) : StoreHolds d S Y :=
  hS.keep (fun q _ hn => by rw [node_mkdirAll h, if_neg fun hc => hn (Option.isNone_iff_eq_none.1 hc.2.2)])
    fun n => by rw [node_mkdirAll h, if_neg fun hc => ha.1 ((List.prefix_append _ _).trans hc.1)]

theorem StoreHolds.writeConfigToml {cd : String} {c : Content} (hS : StoreHolds d S X) (ha : StoreApart cd d)
    (h : writeFile X (join [cd, "config.toml"]) c = .ok Y) : StoreHolds d S Y :=
  hS.of_along fun q hq => by
    rw [node_writeFile h, resolve_configToml,
      if_neg fun (e : q = resolve cd ++ ["config.toml"]) => ha.not_along_configToml (e ▸ hq)]

end Keep

/-! ## One lemma per call -/

/-- Where each call must stand for the store at `d` to follow `ContainerdOp.trustStore`. -/
def ContainerdOp.StoreFits (d : String) (env : NodeEnv) : ContainerdOp → Prop
  | .install runnable _ => (installedFields env runnable).registryConfigDir = d ∧
      (∀ x ∈ runnable.registies, Plain x.host) ∧ StoreApart env.containerdDefaultConfigDir d
  | .uninstall runnable _ => ∀ dd ∈ removedDirs env runnable, dd ≠ "" → resolve d <+: resolve dd → resolve dd = resolve d
  | .configure c _ => c.configDir = d ∧ Reconcilable env.containerdDefaultConfigDir c
  | _ => True

section Calls

variable {D C : Loc → Prop} {d : String} {env : NodeEnv} {S : TrustStore} {node node' : NodeState}
  (hD : DownloaderWithin D env) (hDd : ∀ q, Along d q → ¬ D q)
include hD hDd

/-- `Install` merges its groups into the store, and a dry run leaves it. -/
theorem StoreHolds.install {runnable : ContainerdRunnable} {dryRun : Bool} (hC : CommandWithin C env)
    (hCd : ∀ q, Along d q → ¬ C q) (hS : StoreHolds d S node.fs)
    (hfit : (ContainerdOp.install runnable dryRun).StoreFits d env) (h : runnable.install env dryRun node = .ok node') :
    StoreHolds d ((ContainerdOp.install runnable dryRun).trustStore d env S) node'.fs := by
  obtain ⟨inst, fs1, Y, hi, hdl, hs, -, hc⟩ := ContainerdRunnable.install_eq_ok.1 h
  obtain ⟨hdir, hplain, ha⟩ := hfit
  have h1 : StoreHolds d S fs1 := hS.of_along fun q hq => hD _ _ _ inst hi _ _ (Or.inl hdl) q (hDd q hq)
  suffices hY : StoreHolds d ((ContainerdOp.install runnable dryRun).trustStore d env S) Y from
    hY.of_along fun q hq => hC dryRun _ _ _ hc q (hCd q hq)
  cases dryRun with
  | true => exact h1.mkdirAll ha (setupContainerdConfig_dryRun.1 hs)
  | false =>
    obtain ⟨fs2, fs3, h2, h3, h4⟩ := setupContainerdConfig_eq_ok.1 hs
    have h23 := (h1.mkdirAll ha h2).writeConfigToml ha h3
    have hloop := foldlM_renderStep _ fs3 [] (fun e he => plain_of_mem_visit _ hplain he) (nodup_servers_visit _)
      ((renderLoop_eq_ok _ fs3 _ []).1 h4)
    rw [show (withNodeDefaults env { runnable with enableSystemdCgroup := formatBool env.runningSystemd }).registryConfigDir
      = d from hdir] at hloop
    have hperm := (env.mapOrder.perm (toContainerdRegistryConfig runnable.registies)).map fun e => e.2.server
    refine ⟨fun s r hsr => ?_, fun n hn => ?_⟩
    · cases hnew : storeOf (toContainerdRegistryConfig runnable.registies) s with
      | some r' =>
        obtain ⟨e, he, rfl, hs⟩ := storeOf_eq_some hnew
        simp only [ContainerdOp.trustStore, hnew, Option.or_some, Option.some.injEq] at hsr
        subst hsr
        exact ⟨hs, plain_of_mem_visit (MapOrder.insertion _ _) hplain he,
          hloop.rendered e ((env.mapOrder.perm _).mem_iff.2 he)⟩
      | none =>
        simp only [ContainerdOp.trustStore, hnew, Option.none_or] at hsr
        obtain ⟨hs, hr, hR⟩ := h23.rendered s r hsr
        refine ⟨hs, hr, hloop.keeps r hr (fun hm => ?_) hR⟩
        rw [← hs] at hnew
        exact absurd (storeOf_isSome.2 (hperm.mem_iff.1 hm)) (by simp [hnew])
    · simp only [ContainerdOp.trustStore, Option.isSome_or, Bool.or_eq_true]
      by_cases hm : n ∈ (env.mapOrder.visit (toContainerdRegistryConfig runnable.registies)).map fun e => e.2.server
      · exact Or.inl (storeOf_isSome.2 (hperm.mem_iff.1 hm))
      · rw [hloop.siblings n hm] at hn
        exact Or.inr (h23.exact n hn)

/-- `Uninstall` empties the store when a directory it removes holds `d`, and
otherwise leaves it. -/
theorem StoreHolds.uninstall {runnable : ContainerdRunnable} {dryRun : Bool} (hS : StoreHolds d S node.fs)
    (hfit : (ContainerdOp.uninstall runnable dryRun).StoreFits d env) (h : runnable.uninstall env dryRun node = .ok node') :
    StoreHolds d ((ContainerdOp.uninstall runnable dryRun).trustStore d env S) node'.fs := by
  obtain ⟨inst, hi, rfl⟩ := ContainerdRunnable.uninstall_eq_ok.1 h
  simp only [ContainerdOp.trustStore]
  split_ifs with hcov
  · obtain ⟨dd, hdd, hne, hp⟩ := hcov
    refine ⟨fun _ _ h => (by cases h), fun n hn => ?_⟩
    rw [node_foldl_removeAll, if_pos ⟨dd, hdd, hne, hp.trans (List.prefix_append _ _), by simp⟩] at hn
    cases hn
  · refine hS.of_along fun q hq => ?_
    rw [node_foldl_removeAll, if_neg, hD.removeConfigs_keeps hi _ (hDd q hq)]
    rintro ⟨dd, hdd, hne, hdq, -⟩
    rcases hq with hq | hq
    · exact hcov ⟨dd, hdd, hne, hdq.trans hq⟩
    · rcases List.prefix_or_prefix_of_prefix hdq hq with h1 | h1
      · exact hcov ⟨dd, hdd, hne, h1⟩
      · exact hcov ⟨dd, hdd, hne, (hfit dd hdd hne h1) ▸ List.prefix_refl _⟩

end Calls

end KubeClipper.L4.Containerd
