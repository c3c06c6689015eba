import KubeClipper.L1Go.Builtins
import KubeClipper.L1Go.Filepath
import KubeClipper.L1Go.Os
import KubeClipper.L1Go.Strings
import KubeClipper.L1Go.Regexp
import KubeClipper.L2Api.Types
import KubeClipper.L3Reconcile.AppendUnique
import KubeClipper.L3Reconcile.ClusterRegistries
import KubeClipper.L3Reconcile.UpdateStep
import KubeClipper.L4Containerd.Runnable
import KubeClipper.L4Containerd.HostsToml
import KubeClipper.L4Containerd.RegistryConfigure
import KubeClipper.L4Containerd.Reconcile
import KubeClipper.L4Containerd.Lifecycle
import KubeClipper.L4Containerd.NodeRuns
import KubeClipper.L4Containerd.ConfigToml
import KubeClipper.L4Containerd.TrustStore
import KubeClipper.L4Containerd.IterationOrder
import KubeClipper.L4Containerd.Rerun
import KubeClipper.L4K8s.DeleteContainer
import KubeClipper.L4K8s.JoinCommands
import KubeClipper.L4Cni.Calico
import KubeClipper.L5System.Pipeline
