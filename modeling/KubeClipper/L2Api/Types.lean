import KubeClipper.L1Go.Builtins
/-!
# The `v1` API objects the provisioning core reads and writes

Only the fields that a modelled function reads or writes are kept; the rest of
each Kubernetes-style object is left out (see `MODEL_MAP.json`). The package
`pkg/scheme/core/v1` itself is not under `src/`: the fields below are the ones
that `cri_utils.go`, `containerd.go` and `k8s/utils.go` touch, with the types
those uses force.

* Go pointers that the code only compares with `nil` or dereferences are
  `Option`s. `RegistrySpec.RegistryAuth` is a pointer that Go's `!=` on the
  struct compares by address, so it is an `Option` of an address.
* A `Step`'s `CustomCommand` is the JSON text of a component; it is modelled
  by the JSON object it encodes, a type parameter `P` of `Step`.
* `metav1.Duration` is a count of nanoseconds.
-/
namespace KubeClipper.L2.Api

/-- Outcomes compare by value, so that a call's result can be decided. -/
instance instDecidableEqExcept {ε α : Type} [DecidableEq ε] [DecidableEq α] :
    DecidableEq (Except ε α)
  | .error a, .error b => decidable_of_iff (a = b) (by simp)
  | .ok a, .ok b => decidable_of_iff (a = b) (by simp)
  | .error _, .ok _ => isFalse (by simp)
  | .ok _, .error _ => isFalse (by simp)

/-! ## Registries -/

/-- `v1.RegistrySpec`: one registry endpoint. -/
structure RegistrySpec where
  scheme : String
  host : String
  skipVerify : Bool := false
  ca : String := ""
  registryAuth : Option Nat := none
  deriving DecidableEq, Repr, Inhabited

/-- The identity key `r.Scheme + r.Host` (cri_utils.go:101,103). -/
def RegistrySpec.key (r : RegistrySpec) : String := r.scheme ++ r.host

/-- An explicit registry of the cluster: an insecure host, or a reference
(`*string`) to a named `v1.Registry`. -/
structure CRIRegistry where
  insecureRegistry : String := ""
  registryRef : Option String := none
  deriving DecidableEq, Repr, Inhabited

/-! ## Clusters -/

structure ContainerRuntime where
  version : String := ""
  dataRootDir : String := ""
  insecureRegistry : List String := []
  registries : List CRIRegistry := []
  deriving DecidableEq, Repr, Inhabited

/-- An addon; `Config.Raw` is its opaque JSON configuration. -/
structure Addon where
  configRaw : List UInt8
  deriving DecidableEq, Repr, Inhabited

structure ClusterStatus where
  registries : List RegistrySpec := []
  deriving DecidableEq, Repr, Inhabited

structure Cluster where
  name : String := ""
  kubernetesVersion : String := ""
  containerRuntime : ContainerRuntime := {}
  addons : List Addon := []
  status : ClusterStatus := {}
  deriving DecidableEq, Repr, Inhabited

/-- A cluster member as `ListNodes` returns it. -/
structure Node where
  name : String
  deriving DecidableEq, Repr, Inhabited

/-! ## The cluster store -/

/-- Errors of `GetRegistry`: `apimachineryErrors.IsNotFound`, or anything else. -/
inductive LookupError where
  | notFound
  | other (msg : String)
  deriving DecidableEq, Repr

def LookupError.isNotFound : LookupError → Bool
  | .notFound => true
  | .other _ => false

/-- `%w` of a lookup error. -/
def LookupError.msg : LookupError → String
  | .notFound => "not found"
  | .other m => m

/-- The label query `ListNodes` is called with. -/
structure Query where
  labelSelector : String
  deriving DecidableEq, Repr

/-- `h.clusterOperator`: the two calls the reconciler makes. `GetRegistry`
returns the named `v1.Registry`, of which only `RegistrySpec` is read. -/
structure ClusterOperator where
  getRegistry : String → Except LookupError RegistrySpec
  listNodes : Query → Except String (List Node)

/-! ## Steps -/

inductive StepAction where
  | install
  | uninstall
  | upgrade
  deriving DecidableEq, Repr

inductive CommandType where
  | shell
  | custom
  deriving DecidableEq, Repr

/-- A node a step targets. -/
structure StepNode where
  id : String
  deriving DecidableEq, Repr

/-- `v1.Command`; `customCommand` is the JSON object the custom payload encodes. -/
structure Command (P : Type) where
  type : CommandType
  shellCommand : List String := []
  identity : String := ""
  customCommand : Option P := none
  deriving DecidableEq, Repr

/-- `v1.Step`; `timeout` in nanoseconds. -/
structure Step (P : Type) where
  id : String
  name : String
  timeout : Nat
  errIgnore : Bool
  retryTimes : Nat
  nodes : List StepNode
  action : StepAction
  commands : List (Command P)
  deriving DecidableEq, Repr

/-- `time.Minute` in nanoseconds. -/
def minute : Nat := 60 * 1000000000

end KubeClipper.L2.Api
