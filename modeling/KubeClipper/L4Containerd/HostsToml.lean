import KubeClipper.L1Go.Os
import KubeClipper.L4Containerd.Runnable
/-!
# The trust store: `ToContainerdRegistryConfig` and `renderConfigs`

containerd reads, for each registry server, the directory
`<ConfigDir>/<server>`: its `hosts.toml` lists the endpoints of the server with
their capabilities, TLS verification flag and CA file.
`ToContainerdRegistryConfig` (containerd.go:495-514) groups the desired
registry specs by host into one `ContainerdRegistry` per server, and
`renderConfigs` (containerd.go:406-447) writes one server's directory: it
creates the directory, writes each endpoint's CA into `<host>.pem` and encodes
the `HostFile` into `hosts.toml`.

The files of the tree hold `Content`: `hosts.toml` holds the `HostFile` that
`toml.Encoder` encodes; a CA file holds the CA bytes; `config.toml` holds the
rendering of `configTomlTemplate` for the runnable pointer (the template is
not under `src/`). `HostFileConfig`'s `Client`, `Header` and `OverridePath`
are never set, so `omitempty` leaves them out of the file; they are not
modelled.

Results:
* `mapGet_toContainerdRegistryConfig`: the map holds, for each host of the
  specs, the registry of that host with the specs of that host in order.
* `renderConfigs_hostsToml`: a successful render leaves `hosts.toml` holding
  `hostFileOf dir h`, the `HostFile` built from the hosts in order.
* `toContainerdRegistryConfig_spec`: with distinct `Scheme+Host` keys, each
  group renders one host entry per spec, keyed `<Scheme>://<host>`, with the
  CA path `Join(dir, h, h + ".pem")` exactly when the spec has a CA.
-/
namespace KubeClipper.L4.Containerd

open KubeClipper.L1.Go KubeClipper.L2.Api

/-! ## The registry configuration -/

def capabilityPull : String := "pull"
def capabilityPush : String := "push"
def capabilityResolve : String := "resolve"

/-- mirrors containerd.go:386-392 (`CA []byte` holds the bytes of the spec's `CA` string) -/
structure ContainerdHost where
  scheme : String
  host : String
  capabilities : List String
  skipVerify : Bool
  ca : String
  deriving DecidableEq, Repr

/-- mirrors containerd.go:394-397 -/
structure ContainerdRegistry where
  server : String
  hosts : List ContainerdHost
  deriving DecidableEq, Repr

/-- mirrors containerd.go:449-483: the fields `renderConfigs` sets. `CACert` is
an `interface{}` that is nil or a string; `SkipVerify` is a `*bool`. -/
structure HostFileConfig where
  capabilities : List String
  caCert : Option String
  skipVerify : Option Bool
  deriving DecidableEq, Repr

/-- mirrors containerd.go:485-491 -/
structure HostFile where
  server : String
  hostConfigs : GoMap String HostFileConfig
  deriving DecidableEq, Repr

/-- What a file of the tree holds. -/
inductive Content where
  /-- `hosts.toml`: the TOML encoding of a `HostFile`. -/
  | hosts (f : HostFile)
  /-- A CA file: the CA bytes. -/
  | pem (ca : String)
  /-- `config.toml`: `configTomlTemplate` rendered for the runnable pointer. -/
  | config (r : Option ContainerdFields)
  deriving DecidableEq, Repr

/-- The host entry `ToContainerdRegistryConfig` appends for one spec (containerd.go:505-511). -/
def containerdHost (r : RegistrySpec) : ContainerdHost :=
  ⟨r.scheme, r.host, [capabilityPull, capabilityPush, capabilityResolve], r.skipVerify, r.ca⟩

/-- mirrors containerd.go:495-514. `cfg` is a pointer that the map holds, so
the append is seen through the map; a host not yet in the map gets a new
registry with `Server` the host. -/
def toContainerdRegistryConfig (registries : List RegistrySpec) : GoMap String ContainerdRegistry :=
  registries.foldl (fun cfgs r =>
    let cfg := (mapGet cfgs r.host).getD ⟨r.host, []⟩
    mapSet cfgs r.host { cfg with hosts := cfg.hosts ++ [containerdHost r] }) []

/-! ## Rendering one server -/

/-- `fmt.Sprintf("%s://%s", host.Scheme, host.Host)` -/
def hostKey (host : ContainerdHost) : String := host.scheme ++ "://" ++ host.host

/-- `caFile` of the loop body: the CA file of `host` under `hostDir`, or `""`. -/
def caFileOf (hostDir : String) (host : ContainerdHost) : String :=
  if host.ca ≠ "" then join [hostDir, host.host ++ ".pem"] else ""

/-- `hostConfig` of the loop body (containerd.go:427-433). -/
def hostFileConfigOf (host : ContainerdHost) (caFile : String) : HostFileConfig where
  capabilities := host.capabilities
  caCert := if caFile ≠ "" then some caFile else none
  skipVerify := if host.skipVerify then some host.skipVerify else none

/-- One iteration of `renderConfigs`' loop over `h.Hosts` (containerd.go:416-435). -/
def renderHost (hostDir : String) (acc : FS Content × GoMap String HostFileConfig)
    (host : ContainerdHost) : Except String (FS Content × GoMap String HostFileConfig) :=
  let caFile := caFileOf hostDir host
  let written : Except String (FS Content) :=
    if host.ca ≠ "" then
      (writeFile acc.1 caFile (.pem host.ca)).mapError
        fun e => "write ca file:" ++ caFile ++ " failed:" ++ e.error
    else .ok acc.1
  written.map fun fs => (fs, mapSet acc.2 (hostKey host) (hostFileConfigOf host caFile))

/-- mirrors containerd.go:406-447 -/
def renderConfigs (h : ContainerdRegistry) (dir : String) (fs : FS Content) :
    Except String (FS Content) := do
  let hostDir := join [dir, h.server]
  let fs ← (mkdirAll fs hostDir).mapError PathError.error
  let (fs, hostConfigs) ← h.hosts.foldlM (renderHost hostDir) (fs, [])
  (writeFile fs (join [hostDir, "hosts.toml"]) (.hosts ⟨h.server, hostConfigs⟩)).mapError
    PathError.error

/-- The `HostFile` `renderConfigs(dir)` encodes for `h`. -/
def hostFileOf (dir : String) (h : ContainerdRegistry) : HostFile :=
  ⟨h.server, h.hosts.foldl (fun m host =>
    mapSet m (hostKey host) (hostFileConfigOf host (caFileOf (join [dir, h.server]) host))) []⟩

/-! ## Grouping by host -/

/-- The registry `ToContainerdRegistryConfig` builds for host `h`. -/
def hostGroup (R : List RegistrySpec) (h : String) : ContainerdRegistry :=
  ⟨h, (R.filter (fun r => r.host = h)).map containerdHost⟩

theorem hostGroup_append_singleton (R : List RegistrySpec) (r : RegistrySpec) (h : String) :
    hostGroup (R ++ [r]) h =
      if r.host = h then ⟨h, (hostGroup R h).hosts ++ [containerdHost r]⟩ else hostGroup R h := by
  by_cases hr : r.host = h <;> simp [hostGroup, List.filter_append, hr]

theorem hostGroup_of_not_any {R : List RegistrySpec} {h : String}
    (hR : R.any (fun r => r.host = h) = false) : hostGroup R h = ⟨h, []⟩ := by
  simp only [List.any_eq_false, decide_eq_true_eq] at hR
  simpa [hostGroup, List.filter_eq_nil_iff] using hR

theorem mapGet_toContainerdRegistryConfig (R : List RegistrySpec) (h : String) :
    mapGet (toContainerdRegistryConfig R) h =
      if R.any (fun r => r.host = h) then some (hostGroup R h) else none := by
  induction R using List.reverseRecOn with
  | nil => rfl
  | append_singleton R r ih =>
    rw [toContainerdRegistryConfig, List.foldl_append, ← toContainerdRegistryConfig,
      List.foldl_cons, List.foldl_nil, mapGet_mapSet, hostGroup_append_singleton]
    by_cases hr : r.host = h
    · subst hr
      have hcfg : (mapGet (toContainerdRegistryConfig R) r.host).getD ⟨r.host, []⟩ = hostGroup R r.host := by
        rw [ih]
        cases hany : R.any (fun x => x.host = r.host)
        · simp [hostGroup_of_not_any hany]
        · rfl
      simp [hcfg, hostGroup]
    · simp [hr, ih]

theorem nodup_keys_toContainerdRegistryConfig (R : List RegistrySpec) :
    ((toContainerdRegistryConfig R).map Prod.fst).Nodup := by
  induction R using List.reverseRecOn with
  | nil => exact List.nodup_nil
  | append_singleton R r ih =>
    rw [toContainerdRegistryConfig, List.foldl_append, ← toContainerdRegistryConfig]
    exact nodup_keys_mapSet ih _ _

theorem mem_toContainerdRegistryConfig {R : List RegistrySpec} {h : String} {reg : ContainerdRegistry}
    (hm : (h, reg) ∈ toContainerdRegistryConfig R) : reg = hostGroup R h := by
  rw [mem_iff_mapGet (nodup_keys_toContainerdRegistryConfig R), mapGet_toContainerdRegistryConfig] at hm
  split_ifs at hm
  exact (Option.some.inj hm).symm

theorem mem_keys_toContainerdRegistryConfig (R : List RegistrySpec) (h : String) :
    h ∈ (toContainerdRegistryConfig R).map Prod.fst ↔ ∃ r ∈ R, r.host = h := by
  rw [← not_iff_not, ← mapGet_eq_none_iff, mapGet_toContainerdRegistryConfig]
  split_ifs with hany <;> simp_all

/-! ## What a render leaves -/

/-- What one iteration can do: write the host's CA file, when it has one, and
record the host's entry. -/
theorem renderHost_eq_ok {hostDir : String} {acc acc' : FS Content × GoMap String HostFileConfig}
    {host : ContainerdHost} (h : renderHost hostDir acc host = .ok acc') :
    acc'.2 = mapSet acc.2 (hostKey host) (hostFileConfigOf host (caFileOf hostDir host)) ∧
      if host.ca ≠ "" then writeFile acc.1 (caFileOf hostDir host) (.pem host.ca) = .ok acc'.1
      else acc'.1 = acc.1 := by
  unfold renderHost at h
  split_ifs at h ⊢
  · cases hw : writeFile acc.1 (caFileOf hostDir host) (.pem host.ca) <;>
      simp [hw, Except.mapError, Except.map] at h
    exact h ▸ ⟨rfl, rfl⟩
  · simp only [Except.map, Except.ok.injEq] at h
    exact h ▸ ⟨rfl, rfl⟩

theorem foldlM_renderHost_snd {hostDir : String} : ∀ (hosts : List ContainerdHost)
    {acc : FS Content × GoMap String HostFileConfig} {fs' : FS Content} {m' : GoMap String HostFileConfig},
    hosts.foldlM (renderHost hostDir) acc = .ok (fs', m') →
    m' = hosts.foldl (fun m host => mapSet m (hostKey host) (hostFileConfigOf host (caFileOf hostDir host))) acc.2
  | [], acc, _, _, h => by
    cases h
    rfl
  | host :: hosts, acc, _, _, h => by
    obtain ⟨acc1, h1, h⟩ := foldlM_cons_eq_ok.1 h
    rw [foldlM_renderHost_snd hosts h, List.foldl_cons, (renderHost_eq_ok h1).1]

/-- The three steps of a render that succeeds. -/
theorem renderConfigs_eq_ok {reg : ContainerdRegistry} {dir : String} {fs fs' : FS Content}
    (h : renderConfigs reg dir fs = .ok fs') :
    ∃ fs1 fs2 m, mkdirAll fs (join [dir, reg.server]) = .ok fs1 ∧
      reg.hosts.foldlM (renderHost (join [dir, reg.server])) (fs1, []) = .ok (fs2, m) ∧
      writeFile fs2 (join [join [dir, reg.server], "hosts.toml"]) (.hosts ⟨reg.server, m⟩) = .ok fs' := by
  simp only [renderConfigs, except_bind_eq_ok, except_mapError_eq_ok] at h
  obtain ⟨fs1, h1, ⟨fs2, m⟩, h2, h3⟩ := h
  exact ⟨fs1, fs2, m, h1, h2, h3⟩

/-- After a successful render, `hosts.toml` holds the `HostFile` of the server. -/
theorem renderConfigs_hostsToml {reg : ContainerdRegistry} {dir : String} {fs fs' : FS Content}
    (h : renderConfigs reg dir fs = .ok fs') :
    fs'.node (resolve (join [dir, reg.server, "hosts.toml"])) = some (.file (.hosts (hostFileOf dir reg))) := by
  obtain ⟨fs1, fs2, m, -, h2, h3⟩ := renderConfigs_eq_ok h
  have hj : join [join [dir, reg.server], "hosts.toml"] = join [dir, reg.server, "hosts.toml"] :=
    join_join [dir, reg.server] (by decide)
  rw [← hj, node_writeFile h3, if_pos rfl,
    foldlM_renderHost_snd reg.hosts h2]
  rfl

theorem pem_ne_empty (s : String) : s ++ ".pem" ≠ "" :=
  fun h0 => absurd (List.append_eq_nil.1 (congrArg String.data h0)).2 (by decide)

/-- The CA the loop over `hosts` writes last at `q`, if any. -/
def lastCA (hostDir : String) (hosts : List ContainerdHost) (q : Loc) : Option String :=
  (hosts.reverse.find? fun host => host.ca ≠ "" ∧ resolve (caFileOf hostDir host) = q).map ContainerdHost.ca

theorem lastCA_cons (hostDir : String) (host : ContainerdHost) (hosts : List ContainerdHost) (q : Loc) :
    lastCA hostDir (host :: hosts) q = (lastCA hostDir hosts q).or
      (if host.ca ≠ "" ∧ resolve (caFileOf hostDir host) = q then some host.ca else none) := by
  unfold lastCA
  rw [List.reverse_cons, List.find?_append, List.find?_singleton]
  cases List.find? _ hosts.reverse <;> split_ifs <;> simp_all

theorem lastCA_eq_some {hostDir : String} {hosts : List ContainerdHost} {q : Loc} {ca : String}
    (h : lastCA hostDir hosts q = some ca) :
    ∃ host ∈ hosts, host.ca ≠ "" ∧ resolve (caFileOf hostDir host) = q := by
  obtain ⟨host, hf, -⟩ := Option.map_eq_some'.1 h
  exact ⟨host, List.mem_reverse.1 (List.mem_of_find?_eq_some hf), by simpa using List.find?_some hf⟩

theorem lastCA_isSome {hostDir : String} {hosts : List ContainerdHost} {host : ContainerdHost}
    (hm : host ∈ hosts) (hca : host.ca ≠ "") :
    (lastCA hostDir hosts (resolve (caFileOf hostDir host))).isSome := by
  simpa [lastCA, List.find?_isSome] using ⟨host, hm, hca, rfl⟩

theorem renderHost_node {hostDir : String} {acc acc' : FS Content × GoMap String HostFileConfig}
    {host : ContainerdHost} (h : renderHost hostDir acc host = .ok acc') (q : Loc) :
    acc'.1.node q = if host.ca ≠ "" ∧ resolve (caFileOf hostDir host) = q
      then some (.file (.pem host.ca)) else acc.1.node q := by
  obtain ⟨-, hw⟩ := renderHost_eq_ok h
  split_ifs at hw with hc
  · rw [node_writeFile hw]
    simp [hc, eq_comm]
  · simp [hw, hc]

theorem renderHost_keeps_dir {hostDir : String} {acc acc' : FS Content × GoMap String HostFileConfig}
    {host : ContainerdHost} (h : renderHost hostDir acc host = .ok acc') {q : Loc}
    (hq : acc.1.node q = some .dir) : acc'.1.node q = some .dir := by
  obtain ⟨-, hw⟩ := renderHost_eq_ok h
  split_ifs at hw
  · exact writeFile_keeps_dir hw hq
  · exact hw ▸ hq

theorem foldlM_renderHost_node {hostDir : String} : ∀ (hosts : List ContainerdHost)
    {acc : FS Content × GoMap String HostFileConfig} {fs' : FS Content} {m' : GoMap String HostFileConfig},
    hosts.foldlM (renderHost hostDir) acc = .ok (fs', m') → ∀ q,
    fs'.node q = match lastCA hostDir hosts q with
      | some ca => some (.file (.pem ca))
      | none => acc.1.node q
  | [], acc, _, _, h, q => by
    cases h
    rfl
  | host :: hosts, acc, _, _, h, q => by
    obtain ⟨acc1, h1, h⟩ := foldlM_cons_eq_ok.1 h
    rw [foldlM_renderHost_node hosts h q, lastCA_cons, renderHost_node h1]
    cases lastCA hostDir hosts q <;> split_ifs <;> rfl

theorem foldlM_renderHost_keeps_dir {hostDir : String} : ∀ (hosts : List ContainerdHost)
    {acc : FS Content × GoMap String HostFileConfig} {fs' : FS Content} {m' : GoMap String HostFileConfig},
    hosts.foldlM (renderHost hostDir) acc = .ok (fs', m') → ∀ {q}, acc.1.node q = some .dir →
    fs'.node q = some .dir
  | [], acc, _, _, h, _, hq => by
    cases h
    exact hq
  | host :: hosts, acc, _, _, h, _, hq => by
    obtain ⟨acc1, h1, h⟩ := foldlM_cons_eq_ok.1 h
    exact foldlM_renderHost_keeps_dir hosts h (renderHost_keeps_dir h1 hq)

/-- What a successful render leaves at each location: `hosts.toml`, then the
CA files, then the directories `MkdirAll` created, and elsewhere the old tree. -/
theorem node_renderConfigs {reg : ContainerdRegistry} {dir : String} {fs fs' : FS Content}
    (h : renderConfigs reg dir fs = .ok fs') (q : Loc) :
    fs'.node q =
      if q = resolve (join [dir, reg.server, "hosts.toml"]) then some (.file (.hosts (hostFileOf dir reg)))
      else match lastCA (join [dir, reg.server]) reg.hosts q with
        | some ca => some (.file (.pem ca))
        | none => if q <+: resolve (join [dir, reg.server]) ∧ q ≠ [] ∧ (fs.node q).isNone
            then some .dir else fs.node q := by
  obtain ⟨fs1, fs2, m, h1, h2, h3⟩ := renderConfigs_eq_ok h
  have hj : join [join [dir, reg.server], "hosts.toml"] = join [dir, reg.server, "hosts.toml"] :=
    join_join [dir, reg.server] (by decide)
  rw [node_writeFile h3, hj, foldlM_renderHost_node _ h2 q, node_mkdirAll h1,
    foldlM_renderHost_snd _ h2]
  rfl

/-- After a successful render, every directory on the way to the host directory exists. -/
theorem renderConfigs_dir {reg : ContainerdRegistry} {dir : String} {fs fs' : FS Content}
    (h : renderConfigs reg dir fs = .ok fs') {q : Loc} (hq : q <+: resolve (join [dir, reg.server]))
    (hne : q ≠ []) : fs'.node q = some .dir := by
  obtain ⟨fs1, fs2, m, h1, h2, h3⟩ := renderConfigs_eq_ok h
  exact writeFile_keeps_dir h3 (foldlM_renderHost_keeps_dir reg.hosts h2 (mkdirAll_dir h1 hq hne))

/-! ## When a render succeeds -/

theorem renderHost_keeps_not_dir {hostDir : String} {acc acc' : FS Content × GoMap String HostFileConfig}
    {host : ContainerdHost} (h : renderHost hostDir acc host = .ok acc') {q : Loc}
    (hq : acc.1.node q ≠ some .dir) : acc'.1.node q ≠ some .dir := by
  rw [renderHost_node h]
  split_ifs <;> simp_all

section Success

variable {hostDir : String} {P : Loc} (hP : resolve hostDir = P)
include hP

/-- A CA write lands in the host directory when `<host>.pem` is a plain name. -/
theorem resolve_caFileOf {host : ContainerdHost} (hca : host.ca ≠ "") (hpl : Plain (host.host ++ ".pem")) :
    resolve (caFileOf hostDir host) = P ++ [host.host ++ ".pem"] := by
  rw [caFileOf, if_pos hca, resolve_join_plain _ hpl, hP]

theorem renderHost_ok {acc : FS Content × GoMap String HostFileConfig} {host : ContainerdHost}
    (hd : acc.1.node P = some .dir)
    (hpl : host.ca ≠ "" → Plain (host.host ++ ".pem") ∧ acc.1.node (P ++ [host.host ++ ".pem"]) ≠ some .dir) :
    ∃ acc', renderHost hostDir acc host = .ok acc' := by
  unfold renderHost
  by_cases hc : host.ca = ""
  · simp [hc, Except.map]
  · obtain ⟨hn, hnd⟩ := hpl hc
    have hloc := resolve_caFileOf hP hc hn
    obtain ⟨fs', hw⟩ := (writeFile_ok_iff acc.1 (caFileOf hostDir host) (.pem host.ca)).2
      ⟨by rw [caFileOf, if_pos hc]
          exact join_ne_empty_of_mem (List.mem_cons_of_mem _ (List.mem_singleton_self _)) (pem_ne_empty _),
        by simp [hloc], by rwa [hloc], by simpa [hloc] using hd⟩
    simp [hc, hw, Except.mapError, Except.map]

theorem foldlM_renderHost_ok : ∀ (hosts : List ContainerdHost) (acc : FS Content × GoMap String HostFileConfig),
    acc.1.node P = some .dir →
    (∀ host ∈ hosts, host.ca ≠ "" →
      Plain (host.host ++ ".pem") ∧ acc.1.node (P ++ [host.host ++ ".pem"]) ≠ some .dir) →
    ∃ r, hosts.foldlM (renderHost hostDir) acc = .ok r ∧
      ∀ q, acc.1.node q ≠ some .dir → r.1.node q ≠ some .dir
  | [], acc, _, _ => ⟨acc, rfl, fun _ hq => hq⟩
  | host :: hosts, acc, hd, hall => by
    obtain ⟨acc1, h1⟩ := renderHost_ok hP hd (hall host (List.mem_cons_self _ _))
    obtain ⟨r, hr, hnd⟩ := foldlM_renderHost_ok hosts acc1 (renderHost_keeps_dir h1 hd)
      (fun x hx hc => ⟨(hall x (List.mem_cons_of_mem _ hx) hc).1,
        renderHost_keeps_not_dir h1 (hall x (List.mem_cons_of_mem _ hx) hc).2⟩)
    exact ⟨r, foldlM_cons_eq_ok.2 ⟨acc1, h1, hr⟩, fun q hq => hnd q (renderHost_keeps_not_dir h1 hq)⟩

end Success

/-- A render succeeds when no file stands on the way to the host directory,
the CA names are plain, and no CA file nor `hosts.toml` is a directory. -/
theorem renderConfigs_ok_of_clear {reg : ContainerdRegistry} {dir : String} {fs : FS Content}
    (h0 : join [dir, reg.server] ≠ "")
    (hnf : ∀ q, q <+: resolve (join [dir, reg.server]) → (fs.node q).any Entry.isFile = false)
    (hca : ∀ host ∈ reg.hosts, host.ca ≠ "" → Plain (host.host ++ ".pem") ∧
      fs.node (resolve (join [dir, reg.server]) ++ [host.host ++ ".pem"]) ≠ some .dir)
    (hh : fs.node (resolve (join [dir, reg.server]) ++ ["hosts.toml"]) ≠ some .dir) :
    ∃ fs', renderConfigs reg dir fs = .ok fs' := by
  set P := resolve (join [dir, reg.server]) with hP
  obtain ⟨fs1, h1⟩ := (mkdirAll_ok_iff fs _).2 ⟨h0, hnf⟩
  have hlong : ∀ n, ¬ P ++ [n] <+: P := fun n h => by simpa using h.length_le
  have hP1 : fs1.node P = some .dir := by
    by_cases hP0 : P = []
    · rw [hP0]
      exact fs1.root
    · exact mkdirAll_dir h1 (List.prefix_refl P) hP0
  obtain ⟨r, hr, hnd⟩ := foldlM_renderHost_ok hP.symm reg.hosts (fs1, []) hP1
    (fun host hm hc => ⟨(hca host hm hc).1, by rw [mkdirAll_keeps_off_path h1 (hlong _)]; exact (hca host hm hc).2⟩)
  have hloc : resolve (join [join [dir, reg.server], "hosts.toml"]) = P ++ ["hosts.toml"] :=
    resolve_join_plain _ (by decide)
  obtain ⟨fs', hw⟩ :=
    (writeFile_ok_iff r.1 (join [join [dir, reg.server], "hosts.toml"]) (.hosts ⟨reg.server, r.2⟩)).2
      ⟨join_ne_empty_of_mem (List.mem_cons_of_mem _ (List.mem_singleton_self "hosts.toml")) (by decide),
        by simp [hloc],
        by rw [hloc]; exact hnd _ (by rw [mkdirAll_keeps_off_path h1 (hlong _)]; exact hh),
        by simpa [hloc] using foldlM_renderHost_keeps_dir reg.hosts hr hP1⟩
  refine ⟨fs', ?_⟩
  simp [renderConfigs, h1, hr, hw, Except.mapError, bind, Except.bind]

/-- A render succeeds when the directories up to the host directory exist,
the CA names are plain, and no CA file nor `hosts.toml` is a directory. -/
theorem renderConfigs_ok_of {reg : ContainerdRegistry} {dir : String} {fs : FS Content}
    (h0 : join [dir, reg.server] ≠ "")
    (hdir : ∀ q, q <+: resolve (join [dir, reg.server]) → q ≠ [] → fs.node q = some .dir)
    (hca : ∀ host ∈ reg.hosts, host.ca ≠ "" → Plain (host.host ++ ".pem") ∧
      fs.node (resolve (join [dir, reg.server]) ++ [host.host ++ ".pem"]) ≠ some .dir)
    (hh : fs.node (resolve (join [dir, reg.server]) ++ ["hosts.toml"]) ≠ some .dir) :
    ∃ fs', renderConfigs reg dir fs = .ok fs' :=
  renderConfigs_ok_of_clear h0 (fun q hq => by
    by_cases hq0 : q = []
    · rw [hq0, fs.root]
      rfl
    · rw [hdir q hq hq0]
      rfl) hca hh

/-! ## The host entries of one group -/

section Group

variable (R : List RegistrySpec) (dir h : String)

/-- The entry `hosts.toml` has for one spec of host `h`. -/
def expectedHostConfig (r : RegistrySpec) : String × HostFileConfig :=
  (r.scheme ++ "://" ++ h,
    { capabilities := [capabilityPull, capabilityPush, capabilityResolve]
      caCert := if r.ca ≠ "" then some (join [dir, h, h ++ ".pem"]) else none
      skipVerify := if r.skipVerify then some true else none })

theorem hostFileConfigOf_containerdHost {r : RegistrySpec} (hr : r.host = h) :
    (hostKey (containerdHost r), hostFileConfigOf (containerdHost r) (caFileOf (join [dir, h]) (containerdHost r))) =
      expectedHostConfig dir h r := by
  have hca : join [join [dir, h], h ++ ".pem"] = join [dir, h, h ++ ".pem"] := join_join [dir, h] (pem_ne_empty h)
  have hjne : join [dir, h, h ++ ".pem"] ≠ "" := join_ne_empty_of_mem (by simp) (pem_ne_empty h)
  by_cases hc : r.ca = "" <;> cases hs : r.skipVerify <;>
    simp [expectedHostConfig, hostKey, containerdHost, hostFileConfigOf, caFileOf, hr, hc, hs, hca, hjne]

/-- With distinct `Scheme+Host` keys, the endpoints of one host have distinct `<Scheme>://h` keys. -/
theorem nodup_hostKeys (hR : (R.map RegistrySpec.key).Nodup) :
    ((R.filter (fun r => r.host = h)).map fun r => r.scheme ++ "://" ++ h).Nodup := by
  have hf : ((R.filter (fun r => r.host = h)).map RegistrySpec.key).Nodup := hR.sublist ((List.filter_sublist R).map _)
  refine List.Nodup.map_on (fun x hx y hy hxy => ?_) (List.Nodup.of_map _ hf)
  have hx' := (of_decide_eq_true (List.mem_filter.1 hx).2 : x.host = h)
  have hy' := (of_decide_eq_true (List.mem_filter.1 hy).2 : y.host = h)
  have hs : x.scheme = y.scheme := String.ext (by simpa using congrArg String.data hxy)
  exact List.inj_on_of_nodup_map hf hx hy (by simp [RegistrySpec.key, hs, hx', hy'])

theorem hostFileOf_hostGroup (hR : (R.map RegistrySpec.key).Nodup) :
    hostFileOf dir (hostGroup R h) = ⟨h, (R.filter (fun r => r.host = h)).map (expectedHostConfig dir h)⟩ := by
  have hmem : ∀ r ∈ R.filter (fun r => r.host = h), r.host = h := fun r hr =>
    of_decide_eq_true (List.mem_filter.1 hr).2
  simp only [hostFileOf, hostGroup, List.foldl_map]
  rw [foldl_mapSet_of_nodup _ _ _ [] ?nodup, List.nil_append]
  · congr 1
    exact List.map_congr_left (fun r hr => hostFileConfigOf_containerdHost dir h (hmem r hr))
  case nodup =>
    rw [List.map_nil, List.nil_append]
    refine (List.map_congr_left (fun r hr => ?_)).symm ▸ nodup_hostKeys R h hR
    simp [hostKey, containerdHost, hmem r hr]

end Group

/-- For registry specs with distinct `Scheme+Host` keys, `ToContainerdRegistryConfig`
has one registry per host, holding that host's specs in order; rendering it
writes a `hosts.toml` with one entry per spec, keyed `<Scheme>://h`, granting
pull, push and resolve, with `skip_verify` set exactly when the spec skips
verification and `ca` set to `Join(dir, h, h + ".pem")` exactly when it has a CA. -/
theorem toContainerdRegistryConfig_spec (R : List RegistrySpec) (hR : (R.map RegistrySpec.key).Nodup)
    (dir : String) :
    ((toContainerdRegistryConfig R).map Prod.fst).Nodup ∧
    (∀ h, h ∈ (toContainerdRegistryConfig R).map Prod.fst ↔ ∃ r ∈ R, r.host = h) ∧
    ∀ h reg, (h, reg) ∈ toContainerdRegistryConfig R →
      reg = ⟨h, (R.filter (fun r => r.host = h)).map containerdHost⟩ ∧
      ((R.filter (fun r => r.host = h)).map fun r => r.scheme ++ "://" ++ h).Nodup ∧
      ∀ fs fs', renderConfigs reg dir fs = .ok fs' →
        fs'.node (resolve (join [dir, h, "hosts.toml"])) =
          some (.file (.hosts ⟨h, (R.filter (fun r => r.host = h)).map fun r =>
            (r.scheme ++ "://" ++ h,
              { capabilities := [capabilityPull, capabilityPush, capabilityResolve]
                caCert := if r.ca ≠ "" then some (join [dir, h, h ++ ".pem"]) else none
                skipVerify := if r.skipVerify then some true else none })⟩)) := by
  refine ⟨nodup_keys_toContainerdRegistryConfig R, mem_keys_toContainerdRegistryConfig R,
    fun h reg hm => ?_⟩
  have hreg := mem_toContainerdRegistryConfig hm
  refine ⟨hreg, nodup_hostKeys R h hR, fun fs fs' hr => ?_⟩
  have := renderConfigs_hostsToml hr
  rw [hreg, hostFileOf_hostGroup R dir h hR] at this
  exact this

/-- Two endpoints of `mirror.local`, one with a CA, and one of `docker.io`. -/
def sampleSpecs : List RegistrySpec :=
  [{ scheme := "http", host := "mirror.local" },
   { scheme := "https", host := "mirror.local", ca := "PEM" },
   { scheme := "https", host := "docker.io", skipVerify := true }]

theorem sampleSpecs_grouped : (sampleSpecs.map RegistrySpec.key).Nodup ∧
    ∀ h, h ∈ (toContainerdRegistryConfig sampleSpecs).map Prod.fst ↔ ∃ r ∈ sampleSpecs, r.host = h :=
  ⟨by decide, (toContainerdRegistryConfig_spec sampleSpecs (by decide) "/etc/containerd/certs.d").2.1⟩

end KubeClipper.L4.Containerd
