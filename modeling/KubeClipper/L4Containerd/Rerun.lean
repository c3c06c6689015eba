import KubeClipper.L4Containerd.IterationOrder
/-!
# Re-running `Install` after it stopped early

`Install` must be safe to re-run: run again after a partial failure, it
reaches the state an uninterrupted run reaches. A run that stops early, at an
error or a crash, leaves each location as it was or as the uninterrupted run
leaves it, except that a file being written may hold anything: `os.WriteFile`
truncates first, and a server's CA file is written once per endpoint with a
CA (containerd.go:416-423).

`Between W A F M` says this of a tree `M`, for a run from `A` towards `F`
whose remaining steps rewrite the files at `W`. A step is `ResumableOn u`
when it keeps what stands and, from any such tree, succeeds and reaches a tree
between its own result and `F`, provided the rest of the run keeps what the
step built at the locations `u` it relies on: the rerun follows the
interrupted run step by step and catches up with it at every file the step
writes. `MkdirAll`, `WriteFile` and a server's render are resumable, and so
are their sequences and loops. A step is `Resumable` when it relies on every
location; the registry update needs the footprint, since its stale pass
deletes what the steps before it left elsewhere.

**Hypothesis.** The downloader's `DownloadAndUnpackConfigs` and the command
`Install` runs (not under `src/`) are resumable, each with some set of files
it rewrites.

Results:
* `ResumableOn.rerun`: from a tree between the start and the end of a run of a
  resumable step, a rerun succeeds and ends where the run ended.
* `setupContainerdConfig_resumable`: `setupContainerdConfig` is resumable; it
  rewrites `config.toml` and the files of every registry group's render.
* `setupContainerdConfig_rerun`: on the tree a successful configuration left,
  a second one, in any map order, succeeds and changes nothing.
* `install_rerun`: `Install` run again on a node an interrupted `Install` may
  have left succeeds, in any map order, and leaves the tree and the units the
  uninterrupted run leaves.
* `renderContainerdConfig_rerun`: the logged write of `config.toml` catches up
  as the last step of a run.
* `configure_rerun`: `ContainerdRegistryConfigure.Install` run again on a tree
  an interrupted update may have left, before, during or after its stale pass,
  succeeds in any map order and leaves the tree the uninterrupted update leaves.
-/
namespace KubeClipper.L4.Containerd

open KubeClipper.L1.Go

/-! ## Trees a run may leave -/

section Between

variable {C : Type}

/-- What one location may hold when a run from `a` towards `f` stopped early:
its value before, its value at `f`, or, when the rest of the run rewrites a
file there (`w`), some file. -/
def BetweenAt (w : Prop) (a f m : Option (Entry C)) : Prop :=
  m = a ∨ m = f ∨ (w ∧ f.any Entry.isFile ∧ m.any Entry.isFile)

/-- `M` is a tree a run from `A` towards `F` may have left when its remaining
steps rewrite the files at `W`. -/
def Between (W : Loc → Prop) (A F M : Loc → Option (Entry C)) : Prop :=
  ∀ q, BetweenAt (W q) (A q) (F q) (M q)

/-- `F` keeps what `A` holds: directories stay directories, files stay files. -/
structure Keeps (A F : Loc → Option (Entry C)) : Prop where
  dir : ∀ q, A q = some .dir → F q = some .dir
  file : ∀ q, (A q).any Entry.isFile → (F q).any Entry.isFile

theorem Keeps.refl (A : Loc → Option (Entry C)) : Keeps A A := ⟨fun _ h => h, fun _ h => h⟩

theorem Keeps.trans {A B F : Loc → Option (Entry C)} (h1 : Keeps A B) (h2 : Keeps B F) : Keeps A F :=
  ⟨fun q h => h2.dir q (h1.dir q h), fun q h => h2.file q (h1.file q h)⟩

theorem Keeps.of_eq {A B : Loc → Option (Entry C)} (h : ∀ q, A q ≠ none → B q = A q) : Keeps A B :=
  ⟨fun q hq => (h q (by simp [hq])).trans hq,
    fun q hq => by rwa [h q (fun e => by simp [e] at hq)]⟩

/-- `F` keeps what `A` holds at the locations `u`. -/
structure KeepsOn (u : Loc → Prop) (A F : Loc → Option (Entry C)) : Prop where
  dir : ∀ q, u q → A q = some .dir → F q = some .dir
  file : ∀ q, u q → (A q).any Entry.isFile → (F q).any Entry.isFile

theorem Keeps.on {A F : Loc → Option (Entry C)} (h : Keeps A F) (u : Loc → Prop) : KeepsOn u A F :=
  ⟨fun q _ => h.dir q, fun q _ => h.file q⟩

theorem Keeps.trans_on {u : Loc → Prop} {A B F : Loc → Option (Entry C)} (h1 : Keeps A B) (h2 : KeepsOn u B F) :
    KeepsOn u A F :=
  ⟨fun q hq h => h2.dir q hq (h1.dir q h), fun q hq h => h2.file q hq (h1.file q h)⟩

theorem KeepsOn.mono {u u' : Loc → Prop} {A F : Loc → Option (Entry C)} (h : KeepsOn u A F) (hu : ∀ q, u' q → u q) :
    KeepsOn u' A F :=
  ⟨fun q hq => h.dir q (hu q hq), fun q hq => h.file q (hu q hq)⟩

variable {w w' : Prop} {a f m : Option (Entry C)}

theorem BetweenAt.mono (h : BetweenAt w a f m) (hw : w → w') : BetweenAt w' a f m :=
  h.imp_right (Or.imp_right fun h' => ⟨hw h'.1, h'.2⟩)

/-- Where the run leads to a directory, a location that held no file still
holds none. -/
theorem BetweenAt.noFile (h : BetweenAt w a f m) (ha : a.any Entry.isFile = false) (hf : f = some .dir) :
    m.any Entry.isFile = false := by
  rcases h with rfl | rfl | ⟨-, hff, -⟩
  · exact ha
  · rw [hf]; rfl
  · rw [hf] at hff; cases hff

/-- A location that is a directory before and after the run is one in between. -/
theorem BetweenAt.dir (h : BetweenAt w a f m) (ha : a = some .dir) (hf : f = some .dir) : m = some .dir := by
  rcases h with rfl | rfl | ⟨-, hff, -⟩
  · exact ha
  · exact hf
  · rw [hf] at hff; cases hff

/-- Where the run leads to a file, a location that was no directory is none in between. -/
theorem BetweenAt.notDir (h : BetweenAt w a f m) (ha : a ≠ some .dir) (hf : f.any Entry.isFile) :
    m ≠ some .dir := by
  rcases h with rfl | rfl | ⟨-, -, hm⟩
  · exact ha
  · rintro rfl; cases hf
  · rintro rfl; cases hm

/-- A location that holds a file before and after the run holds one in between. -/
theorem BetweenAt.isFile (h : BetweenAt w a f m) (ha : a.any Entry.isFile) (hf : f.any Entry.isFile) :
    m.any Entry.isFile := by
  rcases h with rfl | rfl | ⟨-, -, hm⟩
  exacts [ha, hf, hm]

/-- Where the run leads to no file, a location is as before or as after. -/
theorem BetweenAt.of_not_isFile (h : BetweenAt w a f m) (hf : f.any Entry.isFile = false) : m = a ∨ m = f :=
  h.imp_right fun h' => h'.resolve_right fun ⟨_, hff, _⟩ => by rw [hf] at hff; cases hff

/-- A directory created where the run leads to one (`MkdirAll`'s update). -/
theorem BetweenAt.mkdir {P Q : Prop} [Decidable P] [Decidable Q] (h : BetweenAt w a f m) (hw : w → w')
    (hf : P ∧ Q → f = some .dir) :
    BetweenAt w' (if P ∧ Q ∧ a.isNone then some .dir else a) f (if P ∧ Q ∧ m.isNone then some .dir else m) := by
  by_cases hpq : P ∧ Q
  · rcases h with rfl | rfl | ⟨-, hff, -⟩
    · exact Or.inl rfl
    · rw [hf hpq]
      exact Or.inr (Or.inl (ite_self _))
    · rw [hf hpq] at hff; cases hff
  · rw [if_neg fun h' => hpq ⟨h'.1, h'.2.1⟩, if_neg fun h' => hpq ⟨h'.1, h'.2.1⟩]
    exact h.mono hw

/-- A location a step sets catches up with the run. -/
theorem BetweenAt.set (P : Prop) [Decidable P] {v : Option (Entry C)} (h : BetweenAt w a f m) (hw : w → P ∨ w') :
    BetweenAt w' (if P then v else a) f (if P then v else m) := by
  by_cases hP : P
  · rw [if_pos hP, if_pos hP]; exact Or.inl rfl
  · rw [if_neg hP, if_neg hP]; exact h.mono fun hw' => (hw hw').resolve_left hP

/-- At the end of the run, with nothing left to rewrite, a tree between is the result. -/
theorem Between.eq {A F M : Loc → Option (Entry C)} (h : Between (fun _ => False) A F M) (hA : A = F) : M = F :=
  funext fun q => by rcases h q with e | e | ⟨⟨⟩, -⟩ <;> simp only [e, hA]

instance decidableBetweenAt [DecidableEq C] (w : Prop) [Decidable w] (a f m : Option (Entry C)) :
    Decidable (BetweenAt w a f m) :=
  inferInstanceAs (Decidable (_ ∨ _ ∨ _))

/-- `Between` holds at every location when it holds at those the three trees
list: elsewhere all three hold nothing. -/
theorem between_of_support {W : Loc → Prop} {A F M : FS C}
    (h : ∀ q ∈ A.support ++ F.support ++ M.support, BetweenAt (W q) (A.node q) (F.node q) (M.node q)) :
    Between W A.node F.node M.node := fun q => by
  by_cases hq : q ∈ A.support ++ F.support ++ M.support
  · exact h q hq
  · have hnone : ∀ X : FS C, q ∉ X.support → X.node q = none := fun X hX =>
      Classical.byContradiction fun hn => hX (X.supported q hn)
    simp only [List.mem_append, not_or] at hq
    exact Or.inl ((hnone M hq.2).trans (hnone A hq.1.1).symm)

end Between

/-! ## Resumable steps -/

section Resumable

variable {C ε : Type}

/-- A step that can be run again after it, or a later step, stopped early. It
keeps what stands. And when it took `A` to `A'`, and the rest of the run,
rewriting the files at `W'`, keeps what `A'` holds at the locations `u` the
step relies on, up to `F`, then from any tree between `A` and `F` it succeeds
and leaves a tree between `A'` and `F`: it rewrites the files at `w` in full. -/
structure ResumableOn (u w : Loc → Prop) (f : FS C → Except ε (FS C)) : Prop where
  keeps : ∀ {X Y : FS C}, f X = .ok Y → Keeps X.node Y.node
  resume : ∀ {W : Loc → Prop} {A A' M : FS C} {F : Loc → Option (Entry C)} (W' : Loc → Prop),
    f A = .ok A' → KeepsOn u A'.node F → (∀ q, W q → w q ∨ W' q) → Between W A.node F M.node →
    ∃ M', f M = .ok M' ∧ Between W' A'.node F M'.node

/-- A step resumable when the rest of the run keeps everything that stands. -/
def Resumable (w : Loc → Prop) (f : FS C → Except ε (FS C)) : Prop :=
  ResumableOn (fun _ => True) w f

variable {u u' u₁ u₂ w w' w₁ w₂ : Loc → Prop} {f g : FS C → Except ε (FS C)}

/-- From a tree between the start and the end of a run, a rerun succeeds and
ends where the run ended. -/
theorem ResumableOn.rerun (hf : ResumableOn u w f) {A F M : FS C} (h : f A = .ok F)
    (hM : Between w A.node F.node M.node) : ∃ M', f M = .ok M' ∧ M'.node = F.node := by
  obtain ⟨M', hM', hb⟩ := hf.resume (fun _ => False) h ((Keeps.refl _).on u) (fun q hq => Or.inl hq) hM
  exact ⟨M', hM', hb.eq rfl⟩

/-- A step resumable with some footprint and files is resumable with a larger
footprint and fewer files. -/
theorem ResumableOn.mono (hf : ResumableOn u w f) (hu : ∀ q, u q → u' q) (hw : ∀ q, w' q → w q) :
    ResumableOn u' w' f :=
  ⟨hf.keeps, fun W' h hF hW hM => hf.resume W' h (hF.mono hu) (fun q hq => (hW q hq).imp_left (hw q)) hM⟩

theorem resumableOn_pure : ResumableOn u (fun _ => False) (fun X : FS C => (.ok X : Except ε (FS C))) where
  keeps h := by cases h; exact Keeps.refl _
  resume _ h _ hW hM := by
    cases h
    exact ⟨_, rfl, fun q => (hM q).mono fun hw => (hW q hw).resolve_left id⟩

theorem ResumableOn.bind (hf : ResumableOn u₁ w₁ f) (hg : ResumableOn u₂ w₂ g) :
    ResumableOn (fun q => u₁ q ∨ u₂ q) (fun q => w₁ q ∨ w₂ q) (fun X => f X >>= g) where
  keeps h := by
    obtain ⟨Y, h1, h2⟩ := except_bind_eq_ok.1 h
    exact (hf.keeps h1).trans (hg.keeps h2)
  resume W' h hF hW hM := by
    obtain ⟨A₁, h1, h2⟩ := except_bind_eq_ok.1 h
    obtain ⟨M₁, hM₁, hb₁⟩ := hf.resume (fun q => w₂ q ∨ W' q) h1
      ((hg.keeps h2).trans_on (hF.mono fun _ => Or.inl))
      (fun q hq => (hW q hq).elim (Or.elim · Or.inl (Or.inr ∘ Or.inl)) (Or.inr ∘ Or.inr)) hM
    obtain ⟨M', hM', hb⟩ := hg.resume W' h2 (hF.mono fun _ => Or.inr) (fun q hq => hq) hb₁
    exact ⟨M', except_bind_eq_ok.2 ⟨M₁, hM₁, hM'⟩, hb⟩

theorem ResumableOn.mapError {ε' : Type} (hf : ResumableOn u w f) (e : ε → ε') :
    ResumableOn u w (fun X => (f X).mapError e) where
  keeps h := hf.keeps (except_mapError_eq_ok.1 h)
  resume W' h hF hW hM := by
    obtain ⟨M', hM', hb⟩ := hf.resume W' (except_mapError_eq_ok.1 h) hF hW hM
    exact ⟨M', except_mapError_eq_ok.2 hM', hb⟩

/-- A loop of resumable steps is resumable, relying on the locations of all its
steps, with the files of all its steps. -/
theorem ResumableOn.foldlM {α : Type} {u v : α → Loc → Prop} {step : α → FS C → Except ε (FS C)} :
    ∀ xs : List α, (∀ x ∈ xs, ResumableOn (u x) (v x) (step x)) →
      ResumableOn (fun q => ∃ x ∈ xs, u x q) (fun q => ∃ x ∈ xs, v x q)
        (fun X => xs.foldlM (fun X x => step x X) X)
  | [], _ => resumableOn_pure.mono (fun _ h => h) fun _ ⟨_, hx, _⟩ => absurd hx (List.not_mem_nil _)
  | x :: xs, h =>
    ((h x (List.mem_cons_self _ _)).bind (ResumableOn.foldlM xs fun y hy => h y (List.mem_cons_of_mem _ hy))).mono
      (fun _ hq => hq.elim (fun hu => ⟨x, List.mem_cons_self _ _, hu⟩)
        fun ⟨y, hy, hu⟩ => ⟨y, List.mem_cons_of_mem _ hy, hu⟩)
      fun _ ⟨y, hy, hv⟩ => (List.mem_cons.1 hy).elim (fun e => Or.inl (e ▸ hv)) fun hy => Or.inr ⟨y, hy, hv⟩

end Resumable

/-! ## `MkdirAll`, `WriteFile` and a server's render -/

section Steps

variable {C : Type}

theorem mkdirAll_resumable (path : String) :
    ResumableOn (· <+: resolve path) (fun _ => False) (fun X : FS C => mkdirAll X path) where
  keeps h := Keeps.of_eq fun _ hq => mkdirAll_keeps h hq
  resume {_ _ _ M F} W' h hF hW hM := by
    have hA := (mkdirAll_ok_iff _ path).1 ⟨_, h⟩
    have hdir : ∀ q, q <+: resolve path ∧ q ≠ [] → F q = some .dir := fun q hq =>
      hF.dir q hq.1 (mkdirAll_dir h hq.1 hq.2)
    obtain ⟨M', hM'⟩ := (mkdirAll_ok_iff _ path).2 ⟨hA.1, fun q hq => by
      by_cases h0 : q = []
      · rw [h0, M.root]; rfl
      · exact (hM q).noFile (hA.2 q hq) (hdir q ⟨hq, h0⟩)⟩
    refine ⟨M', hM', fun q => ?_⟩
    rw [node_mkdirAll h, node_mkdirAll hM']
    exact (hM q).mkdir (fun hw => (hW q hw).resolve_left id) (hdir q)

theorem writeFile_resumable (name : String) (c : C) :
    ResumableOn (fun q => q = resolve name ∨ q = (resolve name).dropLast) (· = resolve name)
      (fun X : FS C => writeFile X name c) where
  keeps h := ⟨fun _ hq => writeFile_keeps_dir h hq, fun q hq => by
    rw [node_writeFile h]
    split_ifs
    exacts [rfl, hq]⟩
  resume {_ _ _ _ F} W' h hF hW hM := by
    obtain ⟨h0, hp, hd, hpar⟩ := (writeFile_ok_iff _ name c).1 ⟨_, h⟩
    have hfile : (F (resolve name)).any Entry.isFile :=
      hF.file _ (Or.inl rfl) (by rw [node_writeFile h, if_pos rfl]; rfl)
    obtain ⟨M', hM'⟩ := (writeFile_ok_iff _ name c).2 ⟨h0, hp, (hM _).notDir hd hfile,
      (hM _).dir hpar (hF.dir _ (Or.inr rfl) (writeFile_keeps_dir h hpar))⟩
    refine ⟨M', hM', fun q => ?_⟩
    rw [node_writeFile h, node_writeFile hM']
    exact (hM q).set _ (hW q)

/-! Logged steps: the registry update only logs a failure to write
`config.toml` (containerd.go:359-366). -/

/-- Over a file, `WriteFile` succeeds: its directory stands. -/
theorem writeFile_ok_of_isFile {X : FS C} {name : String} (c : C) (h : (X.node (resolve name)).any Entry.isFile) :
    ∃ Y, writeFile X name c = .ok Y := by
  have hn : X.node (resolve name) ≠ none := fun e => by rw [e] at h; cases h
  have hne : resolve name ≠ [] := fun e => by rw [e, X.root] at h; cases h
  have hnd : X.node (resolve name) ≠ some .dir := fun e => by rw [e] at h; cases h
  exact (writeFile_ok_iff X name c).2 ⟨fun e => hne (by rw [e]; rfl), hne, hnd,
    X.dir_of_prefix hn (List.dropLast_prefix _) (dropLast_ne_self hne)⟩

theorem logged_writeFile_keeps (X : FS C) (name : String) (c : C) :
    Keeps X.node (logged (writeFile X name c) X).node := by
  cases h : writeFile X name c with
  | ok Y => exact (writeFile_resumable name c).keeps h
  | error => exact Keeps.refl _

/-- A logged `MkdirAll` resumes too: where it failed on a file, the rest of the
run keeps a file there, and so does the tree in between. -/
theorem logged_mkdirAll_resume (path : String) {W : Loc → Prop} {A M : FS C} {F : Loc → Option (Entry C)}
    (hF : KeepsOn (· <+: resolve path) (logged (mkdirAll A path) A).node F) (hM : Between W A.node F M.node) :
    Between W (logged (mkdirAll A path) A).node F (logged (mkdirAll M path) M).node := by
  cases h : mkdirAll A path with
  | ok A' =>
    rw [h] at hF
    obtain ⟨M', hM', hb⟩ := (mkdirAll_resumable path).resume W h hF (fun _ => Or.inr) hM
    rw [hM']
    exact hb
  | error e =>
    rw [h] at hF
    cases hm : mkdirAll M path with
    | error => exact hM
    | ok M' =>
      obtain ⟨h0, hno⟩ := (mkdirAll_ok_iff M path).1 ⟨M', hm⟩
      obtain ⟨_, hA⟩ := (mkdirAll_ok_iff A path).2 ⟨h0, fun q hq => Bool.eq_false_iff.2 fun ha => by
        simpa [hno q hq] using (hM q).isFile ha (hF.file q hq ha)⟩
      rw [h] at hA
      cases hA

/-- A logged `WriteFile` as the last step of a run catches up from any tree
between its start and its end where only its own file may hold another. -/
theorem logged_writeFile_last {name : String} {c : C} {W : Loc → Prop} {A M : FS C} (hW : ∀ q, W q → q = resolve name)
    (hM : Between W A.node (logged (writeFile A name c) A).node M.node) :
    (logged (writeFile M name c) M).node = (logged (writeFile A name c) A).node := by
  cases h : writeFile A name c with
  | ok A' =>
    rw [h] at hM
    obtain ⟨M', hM', hb⟩ := (writeFile_resumable name c).rerun h fun q => (hM q).mono (hW q)
    rw [hM']
    exact hb
  | error e =>
    rw [h, logged_error] at hM
    have hA : (A.node (resolve name)).any Entry.isFile = false := Bool.eq_false_iff.2 fun hf => by
      obtain ⟨_, hA'⟩ := writeFile_ok_of_isFile c hf
      rw [h] at hA'
      cases hA'
    have hMA : M.node = A.node := funext fun q => by
      rcases hM q with e | e | ⟨hw, hf, -⟩
      · exact e
      · exact e
      · rw [hW q hw, hA] at hf
        cases hf
    exact (logged_congr (writeFile_congr hMA name c) hMA).trans (by rw [h])

end Steps

/-! ## A server's render -/

section Render

variable {dir : String} {r : ContainerdRegistry} {q : Loc}

variable (hr : PlainRegistry r)
include hr

theorem resolve_caFileOf_hostDir {host : ContainerdHost} (hm : host ∈ r.hosts) (hca : host.ca ≠ "") :
    resolve (caFileOf (join [dir, r.server]) host) = resolve dir ++ [r.server, host.host ++ ".pem"] := by
  rw [resolve_caFileOf (resolve_hostDir hr) hca (plain_pem (hr.2 host hm)), List.append_assoc]
  rfl

/-- Away from the files it writes, a render only creates the directories on
the way to the server's. -/
theorem renderedNode_not_written {N : Loc → Option (Entry Content)} (hw : ¬ Written dir r q) :
    renderedNode dir r N q = if q <+: resolve dir ++ [r.server] ∧ q ≠ [] ∧ (N q).isNone then some .dir else N q := by
  rw [renderedNode, if_neg fun e => hw (Or.inl (e.trans (resolve_hostsToml hr))), ← resolve_hostDir hr]
  cases hl : lastCA (join [dir, r.server]) r.hosts q with
  | none => rfl
  | some ca =>
    obtain ⟨host, hm, hca, e⟩ := lastCA_eq_some hl
    exact absurd (Or.inr ⟨host, hm, hca, e.symm.trans (resolve_caFileOf_hostDir hr hm hca)⟩) hw

/-- A file a render writes holds the same content whatever stood there. -/
theorem renderedNode_written_eq {M N : Loc → Option (Entry Content)} (hw : Written dir r q) :
    renderedNode dir r M q = renderedNode dir r N q := by
  obtain ⟨c, hc⟩ : ∃ c, renderedNode dir r (fun _ => none) q = some (.file c) := renderedNode_written hr hw
  by_cases hh : q = resolve (join [dir, r.server, "hosts.toml"])
  · simp only [renderedNode, if_pos hh]
  · simp only [renderedNode, if_neg hh] at hc ⊢
    cases hl : lastCA (join [dir, r.server]) r.hosts q with
    | some ca => rfl
    | none =>
      rw [hl] at hc
      dsimp only at hc
      split_ifs at hc
      cases hc

theorem renderConfigs_resumable :
    ResumableOn (InRegion (resolve dir) r.server) (Written dir r) (fun X => renderConfigs r dir X) where
  keeps {X _} h := ⟨fun _ hq => renderConfigs_keeps_dir h hq, fun q hq => by
    rw [renderConfigs_node h]
    by_cases hw : Written dir r q
    · obtain ⟨c, hc⟩ : ∃ c, renderedNode dir r X.node q = some (.file c) := renderedNode_written hr hw
      rw [hc]; rfl
    · rw [renderedNode_not_written hr hw, if_neg fun h' => by simp [Option.isNone_iff_eq_none.1 h'.2.2] at hq]
      exact hq⟩
  resume {_ A _ M F} W' h hF hW hM := by
    have hok := (renderConfigs_ok_iff hr).1 ⟨_, h⟩
    have hdir : ∀ q, q <+: resolve dir ++ [r.server] ∧ q ≠ [] → F q = some .dir := fun q hq =>
      hF.dir q (Or.inl hq.1) (renderConfigs_dir h (by rw [resolve_hostDir hr]; exact hq.1) hq.2)
    have hfile : ∀ q, Written dir r q → (F q).any Entry.isFile := fun q hw => hF.file q (Or.inr hw.loc) (by
      obtain ⟨c, hc⟩ : ∃ c, renderedNode dir r A.node q = some (.file c) := renderedNode_written hr hw
      rw [renderConfigs_node h, hc]; rfl)
    obtain ⟨M', hM'⟩ := (renderConfigs_ok_iff hr).2 ⟨fun q hq => by
        by_cases h0 : q = []
        · rw [h0, M.root]; rfl
        · exact (hM q).noFile (hok.1 q hq) (hdir q ⟨hq, h0⟩),
      fun q hw => (hM q).notDir (hok.2 q hw) (hfile q hw)⟩
    refine ⟨M', hM', fun q => ?_⟩
    rw [renderConfigs_node h, renderConfigs_node hM']
    by_cases hw : Written dir r q
    · exact Or.inl (renderedNode_written_eq hr hw)
    · rw [renderedNode_not_written hr hw, renderedNode_not_written hr hw]
      exact (hM q).mkdir (fun hq => (hW q hq).resolve_left hw) (hdir q)

end Render

/-! ## `setupContainerdConfig` and `Install` -/

/-- The files `setupContainerdConfig` rewrites: `config.toml`, and the files of
every registry group's render. -/
def configWrites (env : NodeEnv) (runnable : ContainerdRunnable) (q : Loc) : Prop :=
  q = resolve (join [env.containerdDefaultConfigDir, "config.toml"]) ∨
    ∃ e ∈ toContainerdRegistryConfig runnable.registies, Written (withNodeDefaults env runnable).registryConfigDir e.2 q

theorem setupContainerdConfig_resumable {env : NodeEnv} {runnable : ContainerdRunnable}
    (hplain : ∀ r ∈ runnable.registies, Plain r.host) :
    Resumable (configWrites env runnable) (setupContainerdConfig env runnable false) := by
  have hpl : ∀ r ∈ (withNodeDefaults env runnable).registies, Plain r.host := by rwa [withNodeDefaults_registies]
  refine (((mkdirAll_resumable _).mapError PathError.error).bind
    (((writeFile_resumable _ _).mapError PathError.error).bind
      (ResumableOn.foldlM _ fun e he => renderConfigs_resumable (plain_of_mem_visit env.mapOrder hpl he)))).mono
    (fun _ _ => trivial) fun q hq => hq.elim (Or.inr ∘ Or.inl) fun ⟨e, he, hw⟩ => Or.inr (Or.inr ⟨e, ?_, hw⟩)
  rw [withNodeDefaults_registies]
  exact (env.mapOrder.perm _).mem_iff.2 he

/-- On the tree a configuration left, a second one, with the registry map
visited in any order, succeeds and changes nothing. -/
theorem setupContainerdConfig_rerun (env : NodeEnv) (runnable : ContainerdRunnable) (fs fs' : FS Content)
    (hplain : ∀ r ∈ runnable.registies, Plain r.host) (h : setupContainerdConfig env runnable false fs = .ok fs')
    (order : MapOrder String ContainerdRegistry) :
    ∃ fs'', setupContainerdConfig { env with mapOrder := order } runnable false fs' = .ok fs'' ∧
      fs''.node = fs'.node := by
  obtain ⟨Y, hY, hYn⟩ := (setupContainerdConfig_resumable hplain).rerun h fun _ => Or.inr (Or.inl rfl)
  obtain ⟨Y', hY', hY'n⟩ := setupContainerdConfig_mapOrder hY hplain order
  exact ⟨Y', hY', hY'n.trans hYn⟩

/-- The sample runtime configured on an empty tree, then again with the
registry map visited in reverse. -/
theorem sampleRuntime_rerun : ∃ fs', setupContainerdConfig sampleNodeEnv sampleRuntime false FS.empty = .ok fs' ∧
    ∃ fs'', setupContainerdConfig { sampleNodeEnv with mapOrder := ⟨List.reverse, List.reverse_perm⟩ }
      sampleRuntime false fs' = .ok fs'' ∧ fs''.node = fs'.node := by
  have hplain : ∀ r ∈ sampleRuntime.registies, Plain r.host := by decide
  exact exists_ok_of_isSome (by decide) fun fs' h => setupContainerdConfig_rerun _ _ _ _ hplain h _

/-- A `systemctl` call that succeeded on some units succeeds on any. -/
theorem systemctl_of_ok {env : NodeEnv} {call : SystemctlCall} {u u' : String → UnitState}
    (h : systemctl env call u = .ok u') (v : String → UnitState) : systemctl env call v = .ok (call.apply v) := by
  unfold systemctl at h ⊢
  cases hc : env.systemctl call <;> simp [hc, Except.map] at h ⊢

/-- Starting containerd succeeds again on units that differ only at containerd's
unit, and leaves the same units. -/
theorem enableContainerdService_rerun {env : NodeEnv} {u u' v : String → UnitState}
    (h : enableContainerdService env false u = .ok u') (hv : ∀ n, n ≠ containerdSystemdUnitName → v n = u n) :
    enableContainerdService env false v = .ok u' := by
  rw [enableContainerdService_eq_ok h]
  simp only [enableContainerdService, Bool.false_eq_true, if_false, except_bind_eq_ok] at h ⊢
  obtain ⟨u1, h1, u2, h2, h3⟩ := h
  refine ⟨_, systemctl_of_ok h1 v, _, systemctl_of_ok h2 _, (systemctl_of_ok h3 _).trans (congrArg _ (funext fun n => ?_))⟩
  by_cases hn : n = containerdSystemdUnitName
  · subst hn; simp [SystemctlCall.apply]
  · simp [SystemctlCall.apply, Function.update, hn, hv n hn]

/-- `Install` is safe to re-run. Take a node that an `Install` interrupted
before its end may have left: each location holds what it held before, what
the uninterrupted `Install` leaves, or some file where the downloader,
`setupContainerdConfig` or `crictl config` writes one; and only containerd's
unit changed. If the downloader and the command can themselves be re-run so,
`Install` run again on that node succeeds, in any map order, and leaves the
tree and the units the uninterrupted run leaves. -/
theorem install_rerun (env : NodeEnv) (runnable : ContainerdRunnable) (node node' M : NodeState) (D C : Loc → Prop)
    (hplain : ∀ r ∈ runnable.registies, Plain r.host)
    (hD : ∀ inst, env.newInstance runnable.version (!runnable.offline) false = .ok inst →
      Resumable D inst.downloadAndUnpackConfigs)
    (hC : ∀ args, Resumable C (env.runCmd false args))
    (h : runnable.install env false node = .ok node')
    (hM : Between (fun q => D q ∨
        configWrites env { runnable with enableSystemdCgroup := formatBool env.runningSystemd } q ∨ C q)
      node.fs.node node'.fs.node M.fs.node)
    (hu : ∀ n, n ≠ containerdSystemdUnitName → M.units n = node.units n) (order : MapOrder String ContainerdRegistry) :
    ∃ M', runnable.install { env with mapOrder := order } false M = .ok M' ∧
      M'.fs.node = node'.fs.node ∧ M'.units = node'.units := by
  have hplain' : ∀ r ∈ ({ runnable with enableSystemdCgroup := formatBool env.runningSystemd } : ContainerdRunnable).registies,
    Plain r.host := hplain
  obtain ⟨inst, fs1, fs2, h1, h2, h3, h4, h5⟩ := ContainerdRunnable.install_eq_ok.1 h
  obtain ⟨Y, hY, hYn⟩ := (((hD inst h1).bind (setupContainerdConfig_resumable hplain')).bind (hC _)).rerun
    (except_bind_eq_ok.2 ⟨fs2, except_bind_eq_ok.2 ⟨fs1, h2, h3⟩, h5⟩) fun q => (hM q).mono or_assoc.2
  obtain ⟨Y2, hY2, hY3⟩ := except_bind_eq_ok.1 hY
  obtain ⟨Y1, hY1, hY12⟩ := except_bind_eq_ok.1 hY2
  obtain ⟨Y2', hY2', hY2n⟩ := setupContainerdConfig_mapOrder hY12 hplain' order
  obtain ⟨Y', hY', hY'n⟩ := env.runCmd_of_node_eq hY3 hY2n
  exact ⟨⟨Y', node'.units⟩, ContainerdRunnable.install_eq_ok.2
    ⟨inst, Y1, Y2', h1, hY1, hY2', enableContainerdService_rerun h4 hu, hY'⟩, hY'n.trans hYn, rfl⟩

/-- An empty node's tree as an `Install` of the sample runtime cut while
writing `mirror.local`'s `hosts.toml` left it: `config.toml` is written, that
file holds a cut text, and the CA file and `docker.io` are still to come. -/
def sampleRuntimeCut : FS Content :=
  let fs := logged (mkdirAll FS.empty "/etc/containerd") FS.empty
  let fs := logged (writeFile fs "/etc/containerd/config.toml"
    (.config (some (installedFields sampleNodeEnv sampleRuntime)))) fs
  let fs := logged (mkdirAll fs "/opt/certs.d/mirror.local") fs
  logged (writeFile fs "/opt/certs.d/mirror.local/hosts.toml" (.hosts ⟨"mirror.local", []⟩)) fs

/-- The sample runtime installed on an empty node, then run again, in the
reverse map order, on the node an `Install` cut while writing `mirror.local`'s
`hosts.toml` left, its units untouched. -/
theorem sampleRuntime_resumes : ∃ node', sampleRuntime.install sampleNodeEnv false emptyNode = .ok node' ∧
    ∃ M', sampleRuntime.install { sampleNodeEnv with mapOrder := ⟨List.reverse, List.reverse_perm⟩ } false
      ⟨sampleRuntimeCut, emptyNode.units⟩ = .ok M' ∧ M'.fs.node = node'.fs.node ∧ M'.units = node'.units := by
  have hplain : ∀ r ∈ sampleRuntime.registies, Plain r.host := by decide
  refine exists_ok_of_isSome (by decide) fun node' h => ?_
  have hM : Between (fun q => ∃ e ∈ toContainerdRegistryConfig sampleRuntime.registies,
      q = resolve (installedFields sampleNodeEnv sampleRuntime).registryConfigDir ++ [e.2.server, "hosts.toml"])
      emptyNode.fs.node node'.fs.node sampleRuntimeCut.node := by
    obtain rfl : node' = (sampleRuntime.install sampleNodeEnv false emptyNode).toOption.getD emptyNode := by
      rw [h]; rfl
    exact between_of_support (by decide)
  exact install_rerun sampleNodeEnv sampleRuntime _ _ ⟨sampleRuntimeCut, emptyNode.units⟩ (fun _ => False)
    (fun _ => False) hplain (fun _ hi => by cases hi; exact resumableOn_pure) (fun _ => resumableOn_pure) h
    (fun q => (hM q).mono fun ⟨e, he, hq⟩ => Or.inr (Or.inl (Or.inr ⟨e, he, Or.inl hq⟩))) (fun _ _ => rfl) _

/-! ## The registry update -/

/-- The loop over the registries is resumable, relying on their servers' regions only. -/
theorem renderLoop_resumable {dir : String} {regs : GoMap String ContainerdRegistry}
    (hpl : ∀ e ∈ regs, PlainRegistry e.2) :
    ResumableOn (fun q => ∃ e ∈ regs, InRegion (resolve dir) e.2.server q) (fun q => ∃ e ∈ regs, Written dir e.2 q)
      (renderLoop dir regs) :=
  ResumableOn.foldlM regs fun e he => renderConfigs_resumable (hpl e he)

/-- Writing `config.toml`, the registry update's last step, catches up from
any tree between its start and its end where only `config.toml` may hold
another file. -/
theorem renderContainerdConfig_rerun {cd : String} {r : Option ContainerdFields} {T N : FS Content}
    (hN : Between (· = resolve cd ++ ["config.toml"]) T.node (renderContainerdConfig cd r T).node N.node) :
    (renderContainerdConfig cd r N).node = (renderContainerdConfig cd r T).node := by
  simp only [renderContainerdConfig_eq] at hN ⊢
  exact logged_writeFile_last (fun q hq => hq.trans (resolve_configToml cd).symm)
    (logged_mkdirAll_resume cd ((logged_writeFile_keeps _ _ _).on _) hN)

/-- The files the registry update rewrites: `config.toml`, and the files of
every desired server's render. -/
def configureWrites (cd : String) (c : ContainerdRegistryConfigure) (q : Loc) : Prop :=
  q = resolve cd ++ ["config.toml"] ∨ ∃ e ∈ c.registries, Written c.configDir e.2 q

theorem Reconcilable.perm {cd : String} {c : ContainerdRegistryConfigure} {regs : GoMap String ContainerdRegistry}
    (hc : Reconcilable cd c) (hp : regs.Perm c.registries) : Reconcilable cd { c with registries := regs } where
  configDir_ne := hc.configDir_ne
  apart := hc.apart
  configToml_apart := hc.configToml_apart
  plain e he := hc.plain e (hp.mem_iff.1 he)
  distinct := (hp.map _).nodup_iff.2 hc.distinct

namespace FirstRun

variable {cd : String} {c : ContainerdRegistryConfigure} {fs : FS Content}
  (hc : Reconcilable cd c) (run : FirstRun cd c fs)
include hc

theorem renderLoop_ok : renderLoop c.configDir c.registries fs = .ok run.rendered :=
  (renderLoop_eq_ok _ _ _ _).2 ((loop hc run).old_eq ▸ run.looped)

/-- Nothing in a desired server's region lies below a directory the call removes. -/
theorem not_below_old {e : String × ContainerdRegistry} (he : e ∈ c.registries) {q : Loc}
    (hq : InRegion (resolve c.configDir) e.2.server q) : ¬ ∃ d ∈ run.old, resolve c.configDir ++ [d] <+: q := by
  rintro ⟨d, hd, hdq⟩
  have hne : d ≠ e.2.server := fun h => ((mem_old hc run).1 hd).2 (h ▸ List.mem_map_of_mem _ he)
  rcases hq with hq | ⟨n, rfl⟩
  · exact hne (eq_of_prefix_single _ (hdq.trans hq))
  · exact hne (eq_of_prefix_pair _ hdq)

/-- The tree the call leaves keeps what its loop built in the desired servers' regions. -/
theorem keepsOn_result :
    KeepsOn (fun q => ∃ e ∈ c.registries, InRegion (resolve c.configDir) e.2.server q) run.rendered.node
      run.result.node := by
  have h : ∀ q, (∃ e ∈ c.registries, InRegion (resolve c.configDir) e.2.server q) → run.rendered.node q ≠ none →
      run.result.node q = run.rendered.node q := fun q ⟨e, he, hq⟩ hn => by
    have hrm : (removeOld c.configDir run.rendered run.old).node q = run.rendered.node q := by
      rw [node_removeOld hc run, if_neg (not_below_old hc run he hq)]
    rw [result, renderContainerdConfig_keeps _ _ (hrm ▸ hn) (inRegion_ne_configToml hc hq), hrm]
  exact ⟨fun q hq hd => (h q hq (by simp [hd])).trans hd,
    fun q hq hf => by rwa [h q hq fun e => by simp [e] at hf]⟩

/-- The tree the call leaves holds no file on the way to `ConfigDir`. -/
theorem result_noFile {q : Loc} (hq : q <+: resolve c.configDir) : (run.result.node q).any Entry.isFile = false := by
  have hA := fileOnPath_eq_false.1 (readOldEntries_fileOnPath hc.configDir_ne run.listed) q hq
  rcases hx : run.result.node q with _ | _ | f
  · rfl
  · rfl
  · rw [run.file_result hc hq hx] at hA
    cases hA

/-- Below a directory the call removes, the tree it leaves holds nothing. -/
theorem result_old {d : String} (hd : d ∈ run.old) {q : Loc} (hq : resolve c.configDir ++ [d] <+: q) :
    run.result.node q = none := by
  obtain ⟨hdir, hns⟩ := (mem_old hc run).1 hd
  exact run.stale_removed hc hdir (fun e he h => hns (h ▸ List.mem_map_of_mem _ he)) hq

/-! A second call, over another order of the registries, on a tree `M`
between the start and the end of the first. -/

variable {regs : GoMap String ContainerdRegistry} {M : FS Content} (hperm : regs.Perm c.registries)
  (runM : FirstRun cd { c with registries := regs } M) {W : Loc → Prop}
  (hM : Between W fs.node run.result.node M.node)
include hperm hM

/-- A directory the second call removes, the first removed as well. -/
theorem old_of_rerun {d : String} (hd : d ∈ runM.old) : d ∈ run.old := by
  obtain ⟨hdir, hns⟩ := (runM.mem_old (hc.perm hperm)).1 hd
  have hns' : d ∉ c.registries.map fun e => e.2.server := by rwa [← (hperm.map _).mem_iff]
  refine (mem_old hc run).2 ⟨?_, hns'⟩
  rcases hM (resolve c.configDir ++ [d]) with e | e | ⟨-, -, hf⟩
  · rwa [← e]
  · exact absurd (run.subdir_result hc (e ▸ hdir)) hns'
  · rw [hdir] at hf
    cases hf

/-- Below a directory the first call removed and the second does not, the
second call's loop holds nothing: the first call had already removed it. -/
theorem rendered_rerun_old {d : String} (hd : d ∈ run.old) (hd' : d ∉ runM.old) {q : Loc}
    (hq : resolve c.configDir ++ [d] <+: q) : runM.rendered.node q = none := by
  have hns : d ∉ regs.map fun e => e.2.server := by
    rw [(hperm.map _).mem_iff]
    exact ((mem_old hc run).1 hd).2
  have hMd : M.node (resolve c.configDir ++ [d]) = none := by
    rcases (hM _).of_not_isFile (by rw [run.result_old hc hd (List.prefix_refl _)]; rfl) with e | e
    · exact absurd ((runM.mem_old (hc.perm hperm)).2 ⟨e ▸ ((mem_old hc run).1 hd).1, hns⟩) hd'
    · rw [e, run.result_old hc hd (List.prefix_refl _)]
  have hX : runM.rendered.node (resolve c.configDir ++ [d]) = none :=
    ((runM.loop (hc.perm hperm)).siblings d hns).trans hMd
  by_cases hqe : resolve c.configDir ++ [d] = q
  · rwa [← hqe]
  · by_contra hne
    rw [runM.rendered.dir_of_prefix hne hq hqe] at hX
    cases hX

/-- If the second call's loop catches up with the first call's, so does its stale pass. -/
theorem between_removeOld {W' : Loc → Prop}
    (hb : Between W' run.rendered.node run.result.node runM.rendered.node) :
    Between W' (removeOld c.configDir run.rendered run.old).node run.result.node
      (removeOld c.configDir runM.rendered runM.old).node := fun q => by
  rw [node_removeOld hc run, runM.node_removeOld (hc.perm hperm)]
  by_cases hs : ∃ d ∈ run.old, resolve c.configDir ++ [d] <+: q
  · obtain ⟨d, hd, hdq⟩ := hs
    rw [if_pos ⟨d, hd, hdq⟩, run.result_old hc hd hdq]
    refine Or.inl ?_
    split_ifs with hs'
    · rfl
    · exact rendered_rerun_old hc run hperm runM hM hd (fun hd' => hs' ⟨d, hd', hdq⟩) hdq
  · rw [if_neg hs, if_neg fun ⟨d, hd, hdq⟩ => hs ⟨d, old_of_rerun hc run hperm runM hM hd, hdq⟩]
    exact hb q

end FirstRun

/-- The registry update is safe to re-run. Take a tree that an update
interrupted before its end may have left: each location holds what it held
before, what the uninterrupted update leaves, or some file where the update
writes one. The update run again on that tree, in any iteration order of the
map, succeeds and leaves the tree the uninterrupted update leaves. -/
theorem configure_rerun (cd : String) (c : ContainerdRegistryConfigure) (fs fs' M : FS Content)
    (hc : Reconcilable cd c) (h : c.install cd false fs = .ok fs')
    (hM : Between (configureWrites cd c) fs.node fs'.node M.node)
    (regs : GoMap String ContainerdRegistry) (hperm : regs.Perm c.registries) :
    ∃ M', { c with registries := regs }.install cd false M = .ok M' ∧ M'.node = fs'.node := by
  obtain ⟨run, rfl⟩ := FirstRun.of_install h
  have hc' := hc.perm hperm
  obtain ⟨es, h1⟩ := readOldEntries_ok hc.configDir_ne (fileOnPath_eq_false.2 fun q hq => by
    rcases (hM q).of_not_isFile (run.result_noFile hc hq) with e | e <;> rw [e]
    exacts [fileOnPath_eq_false.1 (readOldEntries_fileOnPath hc.configDir_ne run.listed) q hq,
      run.result_noFile hc hq])
  obtain ⟨X, hX, hXn⟩ := renderLoop_perm hperm.symm hc.plain hc.distinct rfl (run.renderLoop_ok hc)
  obtain ⟨MX, hMX, hb⟩ := (renderLoop_resumable hc'.plain).resume (· = resolve cd ++ ["config.toml"]) hX
    (hXn ▸ (run.keepsOn_result hc).mono fun q ⟨e, he, hq⟩ => ⟨e, hperm.mem_iff.1 he, hq⟩)
    (fun q hq => hq.symm.imp_left fun ⟨e, he, hw⟩ => ⟨e, hperm.mem_iff.2 he, hw⟩) hM
  let runM : FirstRun cd { c with registries := regs } M := ⟨es, MX, _, h1, (renderLoop_eq_ok _ _ _ _).1 hMX⟩
  exact ⟨runM.result, install_of_ok h1 runM.looped,
    renderContainerdConfig_rerun (run.between_removeOld hc hperm runM hM (hXn ▸ hb))⟩

/-- The stale tree as an update cut while writing `mirror.local`'s `hosts.toml`
left it: that file holds a cut text, and `docker.io`, the removal of `old` and
`config.toml` are still to come. -/
def sampleConfigureCut : FS Content :=
  let fs := logged (mkdirAll sampleStaleTree "/etc/containerd/certs.d/mirror.local") sampleStaleTree
  logged (writeFile fs "/etc/containerd/certs.d/mirror.local/hosts.toml" (.hosts ⟨"mirror.local", []⟩)) fs

/-- The sample registry update over a stale tree, run again in the reverse map
order on the tree an update cut while writing `mirror.local`'s `hosts.toml` left. -/
theorem sampleConfigure_rerun : ∃ fs', sampleConfigure.install "/etc/containerd" false sampleStaleTree = .ok fs' ∧
    ∃ M', { sampleConfigure with registries := sampleConfigure.registries.reverse }.install "/etc/containerd" false
      sampleConfigureCut = .ok M' ∧ M'.node = fs'.node := by
  have hc : Reconcilable "/etc/containerd" sampleConfigure := ⟨by decide, by decide, by decide, by decide, by decide⟩
  refine exists_ok_of_isSome (by decide) fun fs' h => ?_
  have hM : Between (fun q => ∃ e ∈ sampleConfigure.registries,
      q = resolve sampleConfigure.configDir ++ [e.2.server, "hosts.toml"])
      sampleStaleTree.node fs'.node sampleConfigureCut.node := by
    obtain rfl : fs' = (sampleConfigure.install "/etc/containerd" false sampleStaleTree).toOption.getD FS.empty := by
      rw [h]; rfl
    exact between_of_support (by decide)
  exact configure_rerun _ _ _ _ _ hc h (fun q => (hM q).mono fun ⟨e, he, hq⟩ => Or.inr ⟨e, he, Or.inl hq⟩) _
    (List.reverse_perm _)

end KubeClipper.L4.Containerd
