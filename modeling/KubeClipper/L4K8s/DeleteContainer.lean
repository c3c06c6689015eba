import KubeClipper.L2Api.Types
/-!
# Tearing down the containers of a namespace (`deleteContainer`)

`deleteContainer` (k8s/utils.go:102-162) connects to containerd, lists the
containers of a namespace and, for each in turn, looks up its task, waits for
it, kills it, reads its exit status, deletes the task and deletes the
container. containerd is an oracle: `Containerd` holds the outcome of the
connection and of the listing, and each listed container carries the outcome
of every call made for it (`ContainerCalls`), so the results hold for every
answer the daemon may give. The exit status is received from the channel
`Wait` returned; the model takes it as delivered once the task is killed.

A failed task lookup, a `Kill` that fails with NotFound, a failed task delete
and a failed container delete are logged and the loop moves on. A failed
`Wait`, a `Kill` that fails otherwise, and a failed exit status return the
error at once (`StopsWith`).

Results:
* `deleteOne_snd_eq_some`: one container's teardown returns exactly the
  errors of `StopsWith`.
* `deleteContainer_spec`: once connected and listed, the call returns an error
  only when some container stops the loop, with that container's error, after
  visiting the containers before it and no later one; when none stops it,
  every container is visited in order and no error is returned.
* `wait_failure_stops_teardown`: a failed `Wait` stops the teardown although
  no `Kill` failed.
* `deleteContainer_deletes`: a teardown without error deletes exactly the
  containers whose task lookup failed or whose task was killed; one whose
  `Kill` fails with NotFound is left in place.
-/
namespace KubeClipper.L4.K8s

/-- The errors of the containerd client, as `errdefs.IsNotFound` tells them apart. -/
inductive ContainerdError
  | notFound (msg : String)
  | other (msg : String)
  deriving DecidableEq, Repr

/-- `errdefs.IsNotFound(err)` -/
def ContainerdError.isNotFound : ContainerdError → Bool
  | .notFound _ => true
  | .other _ => false

/-- containerd's answer to each call made for one container: `ctr.Task`,
`task.Wait`, `task.Kill`, `status.Result`, `task.Delete` and `ctr.Delete`.
The values they return besides the error are only logged. -/
structure ContainerCalls where
  id : String
  task : Except ContainerdError Unit
  wait : Except ContainerdError Unit
  kill : Except ContainerdError Unit
  result : Except ContainerdError Unit
  deleteTask : Except ContainerdError Unit
  delete : Except ContainerdError Unit
  deriving DecidableEq, Repr

/-- The daemon at `/run/containerd/containerd.sock`: `containerd.New`, and
`client.Containers` in each namespace. -/
structure Containerd where
  connect : Except ContainerdError Unit
  containers : String → Except ContainerdError (List ContainerCalls)

/-- A call made to containerd, with the container it is made for. -/
inductive Call
  | task (id : String)
  | wait (id : String)
  | kill (id : String)
  | result (id : String)
  | deleteTask (id : String)
  | delete (id : String)
  deriving DecidableEq, Repr

def Call.isTask : Call → Bool
  | .task _ => true
  | _ => false

/-- One iteration of the loop (utils.go:119-158): the calls it makes, and the
error it returns with. A failed task or container delete is only logged. -/
def deleteOne (c : ContainerCalls) : List Call × Option ContainerdError :=
  match c.task with
  | .error _ => ([.task c.id, .delete c.id], none)
  | .ok _ =>
    match c.wait with
    | .error e => ([.task c.id, .wait c.id], some e)
    | .ok _ =>
      match c.kill with
      | .error e =>
        if e.isNotFound then ([.task c.id, .wait c.id, .kill c.id], none)
        else ([.task c.id, .wait c.id, .kill c.id], some e)
      | .ok _ =>
        match c.result with
        | .error e => ([.task c.id, .wait c.id, .kill c.id, .result c.id], some e)
        | .ok _ =>
          ([.task c.id, .wait c.id, .kill c.id, .result c.id, .deleteTask c.id, .delete c.id], none)

/-- `for _, ctr := range ctrs`, returning at the first error. -/
def deleteLoop : List ContainerCalls → List Call × Option ContainerdError
  | [] => ([], none)
  | c :: cs =>
    match deleteOne c with
    | (calls, some e) => (calls, some e)
    | (calls, none) => (calls ++ (deleteLoop cs).1, (deleteLoop cs).2)

/-- mirrors k8s/utils.go:102-162 -/
def deleteContainer (d : Containerd) (ns : String) : List Call × Option ContainerdError :=
  match d.connect with
  | .error e => ([], some e)
  | .ok _ =>
    match d.containers ns with
    | .error e => ([], some e)
    | .ok ctrs => deleteLoop ctrs

/-! ## One container -/

/-- `c`'s teardown returns `e`: its task is found, and `Wait` fails with `e`,
or `Kill` fails with `e` other than NotFound, or the exit status fails with `e`. -/
def StopsWith (c : ContainerCalls) (e : ContainerdError) : Prop :=
  c.task.isOk ∧ (c.wait = .error e ∨ c.wait.isOk ∧ c.kill = .error e ∧ e.isNotFound = false ∨
    c.wait.isOk ∧ c.kill.isOk ∧ c.result = .error e)

theorem deleteOne_snd_eq_some (c : ContainerCalls) (e : ContainerdError) :
    (deleteOne c).2 = some e ↔ StopsWith c e := by
  rcases c with ⟨id, _ | _, _ | _, k | _, _ | _, _, _⟩ <;>
    simp [deleteOne, StopsWith, Except.isOk, Except.toBool]
  all_goals by_cases hk : k.isNotFound <;> simp [hk] <;> rintro rfl <;> simp_all

theorem deleteOne_snd_eq_none (c : ContainerCalls) : (deleteOne c).2 = none ↔ ∀ e, ¬ StopsWith c e := by
  simp only [← deleteOne_snd_eq_some, Option.eq_none_iff_forall_not_mem, Option.mem_def]

/-- Every iteration starts with the task lookup of its container, and makes no other. -/
theorem deleteOne_tasks (c : ContainerCalls) : (deleteOne c).1.filter Call.isTask = [.task c.id] := by
  unfold deleteOne
  split
  · rfl
  · split
    · rfl
    · split
      · split_ifs <;> rfl
      · split <;> rfl

/-! ## The loop -/

theorem deleteLoop_cons_of_none {c : ContainerCalls} (h : (deleteOne c).2 = none) (cs : List ContainerCalls) :
    deleteLoop (c :: cs) = ((deleteOne c).1 ++ (deleteLoop cs).1, (deleteLoop cs).2) := by
  rw [deleteLoop]
  rcases hd : deleteOne c with ⟨calls, _ | e⟩ <;> rw [hd] at h
  cases h

theorem deleteLoop_cons_of_some {c : ContainerCalls} {e : ContainerdError} (h : (deleteOne c).2 = some e)
    (cs : List ContainerCalls) : deleteLoop (c :: cs) = ((deleteOne c).1, some e) := by
  rw [deleteLoop]
  rcases hd : deleteOne c with ⟨calls, _ | e'⟩ <;> rw [hd] at h <;> cases h
  rfl

/-- A loop that returns an error stopped at the first container whose teardown
failed, after visiting the ones before it. -/
theorem deleteLoop_eq_some : ∀ {cs : List ContainerCalls} {e : ContainerdError},
    (deleteLoop cs).2 = some e → ∃ pre c post, cs = pre ++ c :: post ∧
      (∀ x ∈ pre, (deleteOne x).2 = none) ∧ (deleteOne c).2 = some e ∧
      (deleteLoop cs).1 = pre.flatMap (fun x => (deleteOne x).1) ++ (deleteOne c).1
  | [], _, h => by cases h
  | c :: cs, e, h => by
    cases hc : (deleteOne c).2 with
    | some e' =>
      rw [deleteLoop_cons_of_some hc] at h ⊢
      cases h
      exact ⟨[], c, cs, rfl, by simp, hc, by simp⟩
    | none =>
      rw [deleteLoop_cons_of_none hc] at h ⊢
      obtain ⟨pre, x, post, rfl, hpre, hx, hcalls⟩ := deleteLoop_eq_some h
      refine ⟨c :: pre, x, post, rfl, List.forall_mem_cons.2 ⟨hc, hpre⟩, hx, ?_⟩
      rw [hcalls, List.flatMap_cons, List.append_assoc]

/-- A loop in which no teardown fails visits every container, in order. -/
theorem deleteLoop_of_none : ∀ {cs : List ContainerCalls}, (∀ c ∈ cs, (deleteOne c).2 = none) →
    deleteLoop cs = (cs.flatMap (fun c => (deleteOne c).1), none)
  | [], _ => rfl
  | c :: cs, h => by
    rw [deleteLoop_cons_of_none (h c (List.mem_cons_self _ _)),
      deleteLoop_of_none fun x hx => h x (List.mem_cons_of_mem _ hx), List.flatMap_cons]

theorem flatMap_deleteOne_tasks (cs : List ContainerCalls) :
    (cs.flatMap fun c => (deleteOne c).1).filter Call.isTask = cs.map fun c => .task c.id := by
  induction cs with
  | nil => rfl
  | cons c cs ih => rw [List.flatMap_cons, List.filter_append, deleteOne_tasks, ih, List.map_cons]; rfl

/-! ## The call -/

/-- Once the client is connected and the containers are listed, the call
returns an error only when some container's teardown stops with it: the
containers before it tolerated every failure, and the containers after it are
not visited. When no container's teardown stops, every container is visited
in order and no error is returned. -/
theorem deleteContainer_spec (d : Containerd) (ns : String) (cs : List ContainerCalls)
    (hconn : d.connect.isOk) (hlist : d.containers ns = .ok cs) :
    (∀ e, (deleteContainer d ns).2 = some e → ∃ pre c post, cs = pre ++ c :: post ∧
      (∀ x ∈ pre, ∀ e', ¬ StopsWith x e') ∧ StopsWith c e ∧
      (deleteContainer d ns).1.filter Call.isTask = (pre ++ [c]).map fun x => .task x.id) ∧
    ((∀ c ∈ cs, ∀ e, ¬ StopsWith c e) → (deleteContainer d ns).2 = none ∧
      (deleteContainer d ns).1.filter Call.isTask = cs.map fun x => .task x.id) := by
  have hrun : deleteContainer d ns = deleteLoop cs := by
    unfold deleteContainer
    cases hc : d.connect with
    | error e => simp [hc, Except.isOk, Except.toBool] at hconn
    | ok _ => simp only [hlist]
  rw [hrun]
  refine ⟨fun e h => ?_, fun h => ?_⟩
  · obtain ⟨pre, c, post, rfl, hpre, hc, hcalls⟩ := deleteLoop_eq_some h
    refine ⟨pre, c, post, rfl, fun x hx => (deleteOne_snd_eq_none x).1 (hpre x hx),
      (deleteOne_snd_eq_some c e).1 hc, ?_⟩
    rw [hcalls, List.filter_append, flatMap_deleteOne_tasks, deleteOne_tasks, List.map_append]
    rfl
  · rw [deleteLoop_of_none fun c hc => (deleteOne_snd_eq_none c).2 (h c hc)]
    exact ⟨rfl, flatMap_deleteOne_tasks cs⟩

/-- Two containers: one without a task, and one whose task is gone when it is
killed and which containerd then refuses to delete. -/
def toleratedContainers : List ContainerCalls :=
  [⟨"a", .error (.notFound "no task"), .ok (), .ok (), .ok (), .ok (), .ok ()⟩,
   ⟨"b", .ok (), .ok (), .error (.notFound "gone"), .ok (), .ok (), .error (.other "busy")⟩]

def toleratedDaemon : Containerd := ⟨.ok (), fun _ => .ok toleratedContainers⟩

theorem toleratedDaemon_teardown : toleratedDaemon.connect.isOk ∧
    toleratedDaemon.containers "k8s.io" = .ok toleratedContainers ∧
    (deleteContainer toleratedDaemon "k8s.io").2 = none ∧
    (deleteContainer toleratedDaemon "k8s.io").1.filter Call.isTask = [.task "a", .task "b"] :=
  have hnone : ∀ c ∈ toleratedContainers, (deleteOne c).2 = none := by decide
  ⟨rfl, rfl, (deleteContainer_spec toleratedDaemon "k8s.io" toleratedContainers rfl rfl).2
    fun c hc => (deleteOne_snd_eq_none c).1 (hnone c hc)⟩

/-- Two containers; the first task's `Wait` fails, and no `Kill` fails. -/
def waitFailureContainers : List ContainerCalls :=
  [⟨"a", .ok (), .error (.other "wait"), .ok (), .ok (), .ok (), .ok ()⟩,
   ⟨"b", .ok (), .ok (), .ok (), .ok (), .ok (), .ok ()⟩]

def waitFailureDaemon : Containerd := ⟨.ok (), fun _ => .ok waitFailureContainers⟩

/-- The call returns the error of `Wait`, and the second container is never
visited, although no `Kill` failed. -/
theorem wait_failure_stops_teardown :
    waitFailureDaemon.containers "k8s.io" = .ok waitFailureContainers ∧
    (∀ c ∈ waitFailureContainers, c.kill = .ok ()) ∧
    deleteContainer waitFailureDaemon "k8s.io" = ([.task "a", .wait "a"], some (.other "wait")) :=
  ⟨rfl, by decide, by decide⟩

/-! ## Which containers are deleted -/

def Call.isDelete : Call → Bool
  | .delete _ => true
  | _ => false

/-- An iteration that does not stop the loop deletes its container exactly
when the task lookup failed or the task was killed: a `Kill` that fails with
NotFound `continue`s past `ctr.Delete`. -/
theorem deleteOne_deletes {c : ContainerCalls} (h : (deleteOne c).2 = none) :
    (deleteOne c).1.filter Call.isDelete = if !c.task.isOk || c.kill.isOk then [.delete c.id] else [] := by
  obtain ⟨id, task, wait, kill, result, _, _⟩ := c
  cases task with
  | error _ => rfl
  | ok _ =>
    cases wait with
    | error _ => cases h
    | ok _ =>
      cases kill with
      | error k =>
        by_cases hk : k.isNotFound
        · simp [deleteOne, hk, Call.isDelete, Except.isOk, Except.toBool]
        · simp [deleteOne, hk] at h
      | ok _ =>
        cases result with
        | error _ => cases h
        | ok _ => rfl

theorem deleteLoop_snd_eq_none : ∀ {cs : List ContainerCalls}, (deleteLoop cs).2 = none →
    ∀ c ∈ cs, (deleteOne c).2 = none
  | [], _ => fun _ h => absurd h (List.not_mem_nil _)
  | c :: cs, h => by
    cases hc : (deleteOne c).2 with
    | some e => rw [deleteLoop_cons_of_some hc] at h; cases h
    | none =>
      rw [deleteLoop_cons_of_none hc] at h
      exact List.forall_mem_cons.2 ⟨hc, deleteLoop_snd_eq_none h⟩

theorem flatMap_deleteOne_deletes : ∀ {cs : List ContainerCalls}, (∀ c ∈ cs, (deleteOne c).2 = none) →
    (cs.flatMap fun c => (deleteOne c).1).filter Call.isDelete =
      (cs.filter fun c => !c.task.isOk || c.kill.isOk).map fun c => .delete c.id
  | [], _ => rfl
  | c :: cs, h => by
    rw [List.flatMap_cons, List.filter_append, deleteOne_deletes (h c (List.mem_cons_self _ _)),
      flatMap_deleteOne_deletes fun x hx => h x (List.mem_cons_of_mem _ hx), List.filter_cons]
    split_ifs <;> rfl

/-- A teardown that returns no error deletes, in order, exactly the containers
whose task lookup failed or whose task was killed. A container whose `Kill`
fails with NotFound stays: its task vanished, and the loop moves on without
deleting it. -/
theorem deleteContainer_deletes (d : Containerd) (ns : String) (cs : List ContainerCalls)
    (hconn : d.connect.isOk) (hlist : d.containers ns = .ok cs) (hok : (deleteContainer d ns).2 = none) :
    (deleteContainer d ns).1.filter Call.isDelete =
      (cs.filter fun c => !c.task.isOk || c.kill.isOk).map fun c => .delete c.id := by
  have hrun : deleteContainer d ns = deleteLoop cs := by
    unfold deleteContainer
    cases hc : d.connect with
    | error e => simp [hc, Except.isOk, Except.toBool] at hconn
    | ok _ => simp only [hlist]
  rw [hrun] at hok ⊢
  rw [deleteLoop_of_none (deleteLoop_snd_eq_none hok), flatMap_deleteOne_deletes (deleteLoop_snd_eq_none hok)]

/-- Of the two tolerated containers, the one without a task is deleted and
the one whose task was gone at `Kill` is left. -/
theorem toleratedDaemon_deletes :
    (deleteContainer toleratedDaemon "k8s.io").1.filter Call.isDelete =
      (toleratedContainers.filter fun c => !c.task.isOk || c.kill.isOk).map (fun c => .delete c.id) ∧
    (toleratedContainers.filter fun c => !c.task.isOk || c.kill.isOk).map (fun c => Call.delete c.id) =
      [.delete "a"] :=
  ⟨deleteContainer_deletes toleratedDaemon "k8s.io" toleratedContainers rfl rfl rfl, rfl⟩

/-! ## The removal step -/

/-- mirrors pkg/scheme/core/v1/k8s/utils.go:84-100: a shell step that runs
`rm -rf` on `dirs`, with a timeout of five seconds, its error ignored;
`id` is the `strutil.GetUUID()` of the call. -/
def doCommandRemoveStep {P : Type} (id name : String) (nodes : List L2.Api.StepNode) (dirs : List String) :
    L2.Api.Step P :=
  { id := id, name := name, timeout := 5 * 1000000000, errIgnore := true, retryTimes := 1, nodes := nodes,
    action := .uninstall, commands := [{ type := .shell, shellCommand := ["rm", "-rf"] ++ dirs }] }

end KubeClipper.L4.K8s
