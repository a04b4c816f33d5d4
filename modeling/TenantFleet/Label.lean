/-
# Labels, tags and names

The keys that mark objects and resources, and the names that are made from the ID of a cluster or
from the name of a pool.
-/

namespace TenantFleet

/-! ## Labels of objects -/

namespace Label

/-- The cluster of an object. -/
def cluster : String := "giantswarm.io/cluster"

/-- The component of a certificate. -/
def certificate : String := "giantswarm.io/certificate"

/-- Who manages an object. -/
def managedBy : String := "giantswarm.io/managed-by"

/-- The organization of a cluster. -/
def organization : String := "giantswarm.io/organization"

/-- The pool of a node. -/
def machinePool : String := "giantswarm.io/machine-pool"

/-- The operator version that a node was made with. -/
def operatorVersion : String := "azure-operator.giantswarm.io/version"

/-- The role of a node. -/
def nodeRole : String := "kubernetes.io/role"

/-- The role of a master. -/
def masterRole : String := "master"

/-- The name of this operator. -/
def operatorName : String := "azure-operator"

end Label

/-! ## Tags of resources -/

namespace Tag

/-- The role of a disk or snapshot. -/
def diskRole : String := "gs-role"

/-- The role of a member disk. -/
def etcdRole : String := "etcd"

/-- The disk that a snapshot was taken from. -/
def snapshotDisk : String := "gs-disk-name"

/-- The operator version that a scale set or instance was made with. -/
def operatorVersion : String := "gs-operator-version"

/-- Whether the autoscaler may size a scale set. -/
def autoscalerEnabled : String := "cluster-autoscaler-enabled"

end Tag

/-! ## Names -/

namespace Name

/-- The scale set of the masters. -/
def masterScaleSet (clusterId : String) : String := clusterId ++ "-master"

/-- The network interface of a master. -/
def masterInterface (clusterId : String) : String := clusterId ++ "-master-nic"

/-- The selector of the master nodes. -/
def masterSelector : String := Label.nodeRole ++ "=" ++ Label.masterRole

/-- The deployment of the masters. -/
def mastersDeployment : String := "cluster-main-template"

/-- The scale set and the deployment of a pool. -/
def poolScaleSet (pool : String) : String := "nodepool-" ++ pool

/-- The selector of the nodes of a pool. -/
def poolSelector (pool : String) : String := Label.machinePool ++ "=" ++ pool

/-- The network of a cluster. -/
def virtualNetwork (clusterId : String) : String := clusterId ++ "-VirtualNetwork"

/-- The gateway of a cluster. -/
def vpnGateway (clusterId : String) : String := clusterId ++ "-VPNGateway"

/-- The public address of the gateway of a cluster. -/
def vpnGatewayPublicIp (clusterId : String) : String := vpnGateway clusterId ++ "-PublicIP"

/-- The secret with the kubeconfig of a cluster. -/
def kubeconfigSecret (clusterId : String) : String := clusterId ++ "-kubeconfig"

/-- The disk of the member of the given index. -/
def memberDisk (index : Nat) : String := "etcd" ++ toString index

/-- The snapshot taken from a disk. -/
def snapshotOf (disk : String) : String := disk ++ "-snapshot"

end Name

end TenantFleet
