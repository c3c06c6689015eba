import KubeClipper.L1Go.Filepath
import Mathlib.Data.List.Dedup
import Mathlib.Data.List.Infix
/-!
# `os`: the directory tree under the agent

The registry configurer reads one directory, creates directories and files
and removes whole subtrees. The tree is modelled as a map from locations (the
components `resolve` gives, below `/`) to entries, together with a list of the
locations that hold something, so that `ReadDir` can enumerate a directory.
The structure carries the tree's invariants: the root is a directory, the
parent of every entry is a directory, every entry is listed, and every
location is made of plain names.

Each operation resolves the path string it is given, as the kernel does, and
fails with a `PathError` where the Go call does; an empty path names no file.
Permissions, symbolic links and device errors are not modelled, so
`RemoveAll` never fails here (its other error, a path ending in `/.`, is not
one `filepath.Join` returns). `MkdirAll` checks every prefix before creating
anything; on a tree this is what the Go loop does, since it stops at the
first prefix that is a file, below which nothing exists.

For each operation a lemma states the tree it leaves, location by location
(`node_mkdirAll`, `node_writeFile`, `node_removeAll`), and when it succeeds
(`mkdirAll_ok_iff`, `writeFile_ok_iff`); `mem_readDir` says what `ReadDir`
lists. `mkdirAll_dir`, `writeFile_keeps_dir` and `mkdirAll_keeps` are the
frame facts the configurer's proofs use.
-/
namespace KubeClipper.L1.Go

abbrev Loc := List String

inductive Entry (C : Type) where
  | dir
  | file (c : C)
  deriving DecidableEq, Repr

def Entry.isDir {C : Type} : Entry C → Bool
  | .dir => true
  | .file _ => false

def Entry.isFile {C : Type} : Entry C → Bool
  | .dir => false
  | .file _ => true

/-- A directory tree whose files hold values of `C`. -/
structure FS (C : Type) where
  node : Loc → Option (Entry C)
  support : List Loc
  root : node [] = some .dir
  parent : ∀ p, node p ≠ none → p ≠ [] → node p.dropLast = some .dir
  supported : ∀ p, node p ≠ none → p ∈ support
  plain : ∀ p, node p ≠ none → ∀ c ∈ p, Plain c

inductive Errno where
  | enoent
  | enotdir
  | eisdir
  deriving DecidableEq, Repr

def Errno.text : Errno → String
  | .enoent => "no such file or directory"
  | .enotdir => "not a directory"
  | .eisdir => "is a directory"

/-- `*fs.PathError` -/
structure PathError where
  op : String
  path : String
  err : Errno
  deriving DecidableEq, Repr

def PathError.error (e : PathError) : String := e.op ++ " " ++ e.path ++ ": " ++ e.err.text

variable {C : Type}

theorem any_isDir_iff {o : Option (Entry C)} : o.any Entry.isDir = true ↔ o = some .dir := by
  rcases o with _ | _ | _ <;> simp [Entry.isDir]

theorem dropLast_ne_self {p : Loc} (hp : p ≠ []) : p.dropLast ≠ p := fun h => by
  have h1 := congrArg List.length h
  rw [List.length_dropLast] at h1
  have := List.length_pos.2 hp
  omega

/-! ## Trees -/

/-- The tree holding only the root. -/
def FS.empty : FS C where
  node q := if q = [] then some .dir else none
  support := [[]]
  root := rfl
  parent p h hp := by simp [hp] at h
  supported p h := by by_cases hp : p = [] <;> simp_all
  plain p h := by by_cases hp : p = [] <;> simp_all

/-- The tree without the subtree at `p`; the root stays. -/
def FS.removeTree (fs : FS C) (p : Loc) : FS C where
  node q := if p <+: q ∧ q ≠ [] then none else fs.node q
  support := fs.support
  root := by simp [fs.root]
  parent q h hq := by
    dsimp only at h ⊢
    split_ifs at h with h1
    · exact absurd rfl h
    · rw [if_neg (fun h2 => h1 ⟨h2.1.trans (List.dropLast_prefix q), hq⟩)]
      exact fs.parent q h hq
  supported q h := fs.supported q (by dsimp only at h; split_ifs at h <;> simp_all)
  plain q h := fs.plain q (by dsimp only at h; split_ifs at h <;> simp_all)

/-- The tree with every missing non-root prefix of `p` made a directory; no
prefix may be a file. -/
def FS.mkdirs (fs : FS C) (p : Loc) (hp : ∀ c ∈ p, Plain c)
    (hnf : ∀ q, q <+: p → (fs.node q).any Entry.isFile = false) : FS C where
  node q := if q <+: p ∧ q ≠ [] ∧ (fs.node q).isNone then some .dir else fs.node q
  support := fs.support ++ p.inits
  root := by simp [fs.root]
  parent q h hq := by
    dsimp only at h ⊢
    split_ifs at h with h1
    · have hd : q.dropLast <+: p := (List.dropLast_prefix q).trans h1.1
      by_cases h0 : q.dropLast = []
      · simp [h0, fs.root]
      · split_ifs with h2
        · rfl
        · have hnf' := hnf _ hd
          rcases hx : fs.node q.dropLast with _ | _ | c
          · exact absurd ⟨hd, h0, by simp [hx]⟩ h2
          · rfl
          · simp [hx, Entry.isFile] at hnf'
    · have hpar := fs.parent q h hq
      rw [if_neg (by simp [hpar])]
      exact hpar
  supported q h := by
    dsimp only at h
    split_ifs at h with hq
    · exact List.mem_append_right _ ((List.mem_inits _ _).2 hq.1)
    · exact List.mem_append_left _ (fs.supported q h)
  plain q h := by
    dsimp only at h
    split_ifs at h with hq
    · exact fun c hc => hp c (hq.1.subset hc)
    · exact fs.plain q h

/-- The tree with a file holding `c` at `p`, which is not a directory and whose
parent is one. -/
def FS.write (fs : FS C) (p : Loc) (hp : p ≠ []) (hpl : ∀ c ∈ p, Plain c)
    (hd : (fs.node p).any Entry.isDir = false) (hpar : fs.node p.dropLast = some .dir) (c : C) : FS C where
  node q := if q = p then some (.file c) else fs.node q
  support := p :: fs.support
  root := by simp [Ne.symm hp, fs.root]
  parent q h hq := by
    dsimp only at h ⊢
    by_cases hqp : q = p
    · subst hqp
      rw [if_neg (dropLast_ne_self hq)]
      exact hpar
    · rw [if_neg hqp] at h
      have hq' := fs.parent q h hq
      rw [if_neg (fun e => by simp [← e, hq', Entry.isDir] at hd)]
      exact hq'
  supported q h := by
    by_cases hq : q = p
    · exact hq ▸ List.mem_cons_self _ _
    · exact List.mem_cons_of_mem _ (fs.supported q (by simpa [hq] using h))
  plain q h := by
    by_cases hq : q = p
    · exact hq ▸ hpl
    · exact fs.plain q (by simpa [hq] using h)

/-- Every directory on the way to an entry exists. -/
theorem FS.dir_of_prefix (fs : FS C) {p : Loc} (hp : fs.node p ≠ none) {q : Loc} (hq : q <+: p)
    (hne : q ≠ p) : fs.node q = some .dir := by
  induction p using List.reverseRecOn with
  | nil => exact absurd (List.prefix_nil.1 hq) hne
  | append_singleton p a ih =>
    have hpar : fs.node p = some .dir := by
      simpa using fs.parent (p ++ [a]) hp (by simp)
    rcases List.prefix_concat_iff.1 hq with h | h
    · exact absurd h hne
    · by_cases hqp : q = p
      · exact hqp ▸ hpar
      · exact ih (by simp [hpar]) h hqp

/-! ## Operations -/

/-- Some prefix of `p` holds a file. -/
def fileOnPath (fs : FS C) (p : Loc) : Bool := p.inits.any fun q => (fs.node q).any Entry.isFile

theorem fileOnPath_eq_false {fs : FS C} {p : Loc} :
    fileOnPath fs p = false ↔ ∀ q, q <+: p → (fs.node q).any Entry.isFile = false := by
  simp [fileOnPath, List.mem_inits]

/-- `os.RemoveAll(path)` -/
def removeAll (fs : FS C) (path : String) : FS C :=
  if path = "" then fs else fs.removeTree (resolve path)

/-- The parent `os.MkdirAll` recurses on (os/path.go): `path` without its
trailing separators, its last element and the separator before it. -/
def mkdirAllParent (path : String) : String :=
  ⟨(((path.data.reverse.dropWhile (· = '/')).dropWhile (· ≠ '/')).drop 1).reverse⟩

/-- The path `os.MkdirAll` names when a file stands on the way: it stats
`path`, then each parent in turn, and stops at the first that exists, or
when no parent is left. A path is looked up cleaned, as `resolve` gives it;
Go's `Stat` of `f/..` below a file `f` fails instead. -/
def mkdirAllStop (node : Loc → Option (Entry C)) : Nat → String → String
  | 0, path => path
  | n + 1, path =>
    if (node (resolve path)).isSome ∨ mkdirAllParent path = "" then path
    else mkdirAllStop node n (mkdirAllParent path)

/-- `os.MkdirAll(path, perm)` -/
def mkdirAll (fs : FS C) (path : String) : Except PathError (FS C) :=
  if path = "" then .error ⟨"mkdir", path, .enoent⟩
  else if hnf : fileOnPath fs (resolve path) = false then
    .ok (fs.mkdirs (resolve path) (resolve_plain path) (fileOnPath_eq_false.1 hnf))
  else .error ⟨"mkdir", mkdirAllStop fs.node path.length path, .enotdir⟩

/-- `os.WriteFile(name, data, perm)`, and `os.Create` followed by a write:
open with `O_CREATE|O_TRUNC`, which fails on a directory and below a missing
or non-directory parent. -/
def writeFile (fs : FS C) (name : String) (c : C) : Except PathError (FS C) :=
  if name = "" then .error ⟨"open", name, .enoent⟩
  else if hp : resolve name = [] then .error ⟨"open", name, .eisdir⟩
  else if hd : (fs.node (resolve name)).any Entry.isDir then .error ⟨"open", name, .eisdir⟩
  else if hpar : (fs.node (resolve name).dropLast).any Entry.isDir then
    .ok (fs.write (resolve name) hp (resolve_plain name) (by simpa using hd) (any_isDir_iff.1 hpar) c)
  else if fileOnPath fs (resolve name) then .error ⟨"open", name, .enotdir⟩
  else .error ⟨"open", name, .enoent⟩

/-- `fileutil.WriteFileWithContext(ctx, name, O_WRONLY|O_CREATE|O_TRUNC, perm, render, dryRun)`
(not under `src/`): `os.WriteFile` of what `render` produces, and on a dry run
nothing at all. -/
def writeFileWithContext (fs : FS C) (name : String) (c : C) (dryRun : Bool) : Except PathError (FS C) :=
  if dryRun then .ok fs else writeFile fs name c

/-- `os.DirEntry`, with what the configurer reads of it. -/
structure DirEntry where
  name : String
  isDir : Bool
  deriving DecidableEq, Repr

/-- The entry a listed location gives when it lies directly in `d`. -/
def childEntry (fs : FS C) (d p : Loc) : Option DirEntry :=
  match p.getLast?, fs.node p with
  | some n, some e => if p = d ++ [n] then some ⟨n, e.isDir⟩ else none
  | _, _ => none

/-- `os.ReadDir(name)`; Go sorts the entries by name, which nothing here reads. -/
def readDir (fs : FS C) (name : String) : Except PathError (List DirEntry) :=
  if name = "" then .error ⟨"open", name, .enoent⟩
  else match fs.node (resolve name) with
    | none => .error ⟨"open", name, if fileOnPath fs (resolve name) then .enotdir else .enoent⟩
    | some (.file _) => .error ⟨"readdirent", name, .enotdir⟩
    | some .dir => .ok (fs.support.dedup.filterMap (childEntry fs (resolve name)))

/-- The tree after a call whose error is only logged: a failed call leaves it as it was. -/
def logged (r : Except PathError (FS C)) (fs : FS C) : FS C :=
  match r with
  | .ok fs' => fs'
  | .error _ => fs

@[simp] theorem logged_ok (fs' fs : FS C) : logged (.ok fs') fs = fs' := rfl

@[simp] theorem logged_error (e : PathError) (fs : FS C) : logged (.error e) fs = fs := rfl

theorem logged_congr {r r' : Except PathError (FS C)} {fs fs' : FS C} (h : r.map FS.node = r'.map FS.node)
    (hfs : fs.node = fs'.node) : (logged r fs).node = (logged r' fs').node := by
  cases r <;> cases r' <;> simp_all [Except.map]

/-! ## What each operation leaves -/

theorem node_removeAll (fs : FS C) {path : String} (hp : path ≠ "") (q : Loc) :
    (removeAll fs path).node q = if resolve path <+: q ∧ q ≠ [] then none else fs.node q := by
  simp only [removeAll, hp, if_false]
  rfl

/-- A run of `RemoveAll` calls leaves nothing at or below any of its non-empty paths, except the root. -/
theorem node_foldl_removeAll : ∀ (paths : List String) (fs : FS C) (q : Loc),
    (paths.foldl removeAll fs).node q =
      if ∃ p ∈ paths, p ≠ "" ∧ resolve p <+: q ∧ q ≠ [] then none else fs.node q
  | [], fs, q => by simp
  | p :: paths, fs, q => by
    rw [List.foldl_cons, node_foldl_removeAll paths]
    by_cases hp : p = ""
    · simp [removeAll, hp]
    · rw [node_removeAll fs hp]
      by_cases hq : resolve p <+: q ∧ q ≠ []
      · simp [hq, hp]
      · simp only [List.mem_cons, exists_eq_or_imp, hp, hq, if_false]
        simp

theorem mkdirAll_ok_iff (fs : FS C) (path : String) :
    (∃ fs', mkdirAll fs path = .ok fs') ↔
      path ≠ "" ∧ ∀ q, q <+: resolve path → (fs.node q).any Entry.isFile = false := by
  unfold mkdirAll
  by_cases hp : path = ""
  · simp [hp]
  rw [if_neg hp, ← fileOnPath_eq_false]
  split_ifs with hnf <;> simp [hp, hnf]

/-- With a file at `/etc`, `MkdirAll("/etc/containerd/certs.d")` names `/etc`. -/
example : (match mkdirAll ((writeFile (FS.empty : FS Unit) "/etc" ()).toOption.getD FS.empty)
    "/etc/containerd/certs.d" with
    | .error e => e.path
    | .ok _ => "") = "/etc" := by decide

theorem node_mkdirAll {fs fs' : FS C} {path : String} (h : mkdirAll fs path = .ok fs') (q : Loc) :
    fs'.node q = if q <+: resolve path ∧ q ≠ [] ∧ (fs.node q).isNone then some .dir else fs.node q := by
  unfold mkdirAll at h
  split_ifs at h
  cases h
  rfl

/-- After `MkdirAll`, every non-root prefix is a directory. -/
theorem mkdirAll_dir {fs fs' : FS C} {path : String} (h : mkdirAll fs path = .ok fs') {q : Loc}
    (hq : q <+: resolve path) (hne : q ≠ []) : fs'.node q = some .dir := by
  have hnf := ((mkdirAll_ok_iff fs path).1 ⟨fs', h⟩).2 q hq
  rw [node_mkdirAll h]
  split_ifs with h1
  · rfl
  · rcases hx : fs.node q with _ | _ | c
    · exact absurd ⟨hq, hne, by simp [hx]⟩ h1
    · rfl
    · simp [hx, Entry.isFile] at hnf

/-- `MkdirAll` changes no location that holds something. -/
theorem mkdirAll_keeps {fs fs' : FS C} {path : String} (h : mkdirAll fs path = .ok fs') {q : Loc}
    (hq : fs.node q ≠ none) : fs'.node q = fs.node q := by
  rw [node_mkdirAll h, if_neg (by simp [Option.isNone_iff_eq_none, hq])]

/-- `MkdirAll` changes nothing off the path it creates. -/
theorem mkdirAll_keeps_off_path {fs fs' : FS C} {path : String} (h : mkdirAll fs path = .ok fs')
    {q : Loc} (hq : ¬ q <+: resolve path) : fs'.node q = fs.node q := by
  rw [node_mkdirAll h, if_neg (fun h' => hq h'.1)]

theorem writeFile_ok_iff (fs : FS C) (name : String) (c : C) :
    (∃ fs', writeFile fs name c = .ok fs') ↔
      name ≠ "" ∧ resolve name ≠ [] ∧ fs.node (resolve name) ≠ some .dir ∧
        fs.node (resolve name).dropLast = some .dir := by
  unfold writeFile
  by_cases h0 : name = ""
  · simp [h0]
  by_cases hp : resolve name = []
  · simp [h0, hp]
  simp only [h0, hp, if_false, dif_neg, ne_eq, not_false_eq_true, true_and]
  split_ifs with hd hpar
  · exact iff_of_false (by simp) (fun h => h.1 (any_isDir_iff.1 hd))
  · exact iff_of_true ⟨_, rfl⟩ ⟨fun e => hd (any_isDir_iff.2 e), any_isDir_iff.1 hpar⟩
  all_goals exact iff_of_false (by simp) (fun h => hpar (any_isDir_iff.2 h.2))

theorem node_writeFile {fs fs' : FS C} {name : String} {c : C} (h : writeFile fs name c = .ok fs')
    (q : Loc) : fs'.node q = if q = resolve name then some (.file c) else fs.node q := by
  obtain ⟨h0, hp, hd, hpar⟩ := (writeFile_ok_iff fs name c).1 ⟨fs', h⟩
  rw [writeFile, if_neg h0, dif_neg hp, dif_neg (fun e => hd (any_isDir_iff.1 e)),
    dif_pos (any_isDir_iff.2 hpar)] at h
  cases h
  rfl

/-- A write that succeeds does not land on a directory, so directories stay. -/
theorem writeFile_keeps_dir {fs fs' : FS C} {name : String} {c : C} (h : writeFile fs name c = .ok fs')
    {q : Loc} (hq : fs.node q = some .dir) : fs'.node q = some .dir := by
  have hnd := ((writeFile_ok_iff fs name c).1 ⟨fs', h⟩).2.2.1
  rw [node_writeFile h, if_neg (fun e => hnd (by rw [← e]; exact hq)), hq]

/-! ## Repeating an operation -/

/-- `MkdirAll` of a path whose directories all exist changes nothing. -/
theorem mkdirAll_noop {fs : FS C} {path : String} (h0 : path ≠ "")
    (hd : ∀ q, q <+: resolve path → q ≠ [] → fs.node q = some .dir) :
    ∃ fs', mkdirAll fs path = .ok fs' ∧ fs'.node = fs.node := by
  have hdir : ∀ q, q <+: resolve path → fs.node q = some .dir := fun q hq => by
    by_cases hq0 : q = []
    · exact hq0 ▸ fs.root
    · exact hd q hq hq0
  obtain ⟨fs', h⟩ := (mkdirAll_ok_iff fs path).2 ⟨h0, fun q hq => by simp [hdir q hq, Entry.isFile]⟩
  refine ⟨fs', h, funext fun q => ?_⟩
  rw [node_mkdirAll h]
  split_ifs with hc
  · simp [hdir q hc.1] at hc
  · rfl

/-- Writing a file with the content it already holds changes nothing. -/
theorem writeFile_noop {fs : FS C} {name : String} {c : C} (h0 : name ≠ "") (hp : resolve name ≠ [])
    (hf : fs.node (resolve name) = some (.file c)) (hpar : fs.node (resolve name).dropLast = some .dir) :
    ∃ fs', writeFile fs name c = .ok fs' ∧ fs'.node = fs.node := by
  obtain ⟨fs', h⟩ := (writeFile_ok_iff fs name c).2 ⟨h0, hp, by simp [hf], hpar⟩
  refine ⟨fs', h, funext fun q => ?_⟩
  rw [node_writeFile h]
  split_ifs with hq
  · rw [hq, hf]
  · rfl

/-- Whether `MkdirAll` succeeds depends only on the path's prefixes. -/
theorem mkdirAll_ok_congr {X Z : FS C} {path : String} (h : ∀ q, q <+: resolve path → Z.node q = X.node q) :
    (∃ Z', mkdirAll Z path = .ok Z') ↔ ∃ X', mkdirAll X path = .ok X' := by
  rw [mkdirAll_ok_iff, mkdirAll_ok_iff]
  exact and_congr_right fun _ => forall_congr' fun q => imp_congr_right fun hq => by rw [h q hq]

/-! ## Operations read only the tree's entries -/

theorem fileOnPath_congr {A B : FS C} (h : A.node = B.node) (p : Loc) : fileOnPath A p = fileOnPath B p := by
  simp [fileOnPath, h]

theorem mkdirAll_congr {A B : FS C} (h : A.node = B.node) (path : String) :
    (mkdirAll A path).map FS.node = (mkdirAll B path).map FS.node := by
  by_cases h0 : path = ""
  · simp [mkdirAll, h0, Except.map]
  by_cases hf : fileOnPath A (resolve path) = false
  · have hf' : fileOnPath B (resolve path) = false := fileOnPath_congr h _ ▸ hf
    simp only [mkdirAll, h0, if_false, dif_pos hf, dif_pos hf', Except.map, Except.ok.injEq]
    funext q
    have hq := congrFun h q
    simp only [FS.mkdirs]
    split_ifs <;> simp_all
  · have hf' : ¬ fileOnPath B (resolve path) = false := fileOnPath_congr h _ ▸ hf
    simp only [mkdirAll, h0, if_false, dif_neg hf, dif_neg hf', Except.map, h]

theorem writeFile_congr {A B : FS C} (h : A.node = B.node) (name : String) (c : C) :
    (writeFile A name c).map FS.node = (writeFile B name c).map FS.node := by
  by_cases h0 : name = ""
  · simp [writeFile, h0, Except.map]
  by_cases hp : resolve name = []
  · simp [writeFile, h0, hp, Except.map]
  by_cases hd : (A.node (resolve name)).any Entry.isDir
  · have hd' : (B.node (resolve name)).any Entry.isDir := h ▸ hd
    simp [writeFile, h0, hp, hd, hd', Except.map]
  have hd' : ¬ (B.node (resolve name)).any Entry.isDir := h ▸ hd
  by_cases hpar : (A.node (resolve name).dropLast).any Entry.isDir
  · have hpar' : (B.node (resolve name).dropLast).any Entry.isDir := h ▸ hpar
    simp only [writeFile, h0, if_false, dif_neg hp, dif_neg hd, dif_neg hd', dif_pos hpar, dif_pos hpar',
      Except.map, Except.ok.injEq]
    funext q
    simp [FS.write, congrFun h q]
  · have hpar' : ¬ (B.node (resolve name).dropLast).any Entry.isDir := h ▸ hpar
    simp [writeFile, h0, hp, hd, hd', hpar, hpar', Except.map, fileOnPath_congr h]

/-- `ReadDir` lists exactly the entries directly inside the directory. -/
theorem mem_readDir {fs : FS C} {name : String} {es : List DirEntry} (h : readDir fs name = .ok es)
    (e : DirEntry) : e ∈ es ↔ ∃ ent, fs.node (resolve name ++ [e.name]) = some ent ∧ e.isDir = ent.isDir := by
  by_cases h0 : name = ""
  · simp [readDir, h0] at h
  rw [readDir, if_neg h0] at h
  split at h <;> cases h
  simp only [List.mem_filterMap, List.mem_dedup]
  constructor
  · rintro ⟨p, -, hp⟩
    unfold childEntry at hp
    split at hp
    · next n ent hn hent =>
      split_ifs at hp with hpd
      cases hp
      exact ⟨ent, hpd ▸ hent, rfl⟩
    · cases hp
  · rintro ⟨ent, hent, hdir⟩
    refine ⟨resolve name ++ [e.name], fs.supported _ (by simp [hent]), ?_⟩
    simp [childEntry, hent, ← hdir]

/-- `ReadDir` of a directory succeeds; of a missing location below no file it
fails with `ENOENT`. -/
theorem readDir_of_dir {fs : FS C} {name : String} (h0 : name ≠ "") (hd : fs.node (resolve name) = some .dir) :
    ∃ es, readDir fs name = .ok es := by
  simp [readDir, h0, hd]

theorem readDir_of_none {fs : FS C} {name : String} (h0 : name ≠ "") (hn : fs.node (resolve name) = none)
    (hf : fileOnPath fs (resolve name) = false) : readDir fs name = .error ⟨"open", name, .enoent⟩ := by
  simp [readDir, h0, hn, hf]

end KubeClipper.L1.Go
