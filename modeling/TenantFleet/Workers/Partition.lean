/-
# Old and new workers

An instance of a pool's scale set is a worker when its node has joined. Its node tells the version
it was made with; a worker is old when that version is older than the operator's, or when its
machine size is not that of the scale set.

* `nodeName` : the name of the node of an instance;
* `Partition.of` : the workers of a pool.
-/
import TenantFleet.Label
import TenantFleet.Object.Node
import TenantFleet.Resource.ScaleSet
import TenantFleet.Text.Base36
import TenantFleet.Text.Unsigned
import TenantFleet.Version.Basic

namespace TenantFleet

/-! ## Names of nodes -/

/-- The least number of digits of an instance in the name of its node. -/
def nodeDigits : Nat := 6

/-- The name of the node of an instance: the scale set and the ID in base 36, or the ID itself when
it is no number. -/
def nodeName (scaleSet inst : String) : String :=
  match Unsigned.parse inst with
  | .ok id => scaleSet ++ "-" ++ String.ofList (Base36.padded nodeDigits id)
  | .error _ => scaleSet ++ "-" ++ inst

/-! ## Workers -/

/-- An instance with its node. -/
structure Worker where
  /-- The instance. -/
  inst : Instance
  /-- The node. -/
  node : Node
  deriving DecidableEq, Inhabited

/-- The name of the node. -/
def Worker.nodeName (w : Worker) : String := w.node.name

/-- The workers of a pool. -/
structure Partition where
  /-- Those that are replaced. -/
  old : List Worker := []
  /-- Those that stay. -/
  new : List Worker := []
  deriving DecidableEq, Inhabited

namespace Partition

/-- The nodes by name; of two with one name the later one stays. -/
def byName (nodes : List Node) : Dict Node := Dict.ofList (nodes.map fun n => (n.name, n))

/-- The version that a node was made with, if it can be read. -/
def versionOf (n : Node) : Option Version := (n.label? Label.operatorVersion).bind Version.parse?

/-- Whether an instance has a machine size other than that of its scale set, both being known. -/
def isResized (size : Option String) (v : Instance) : Bool :=
  match v.skuName, size with
  | some a, some b => a ≠ b
  | _, _ => false

/-- Puts the instances of a list to the workers; each node is taken by the first instance of its
name. -/
def collect (scaleSet : String) (size : Option String) (version : Version) :
    List Instance → Dict Node → Partition
  | [], _ => {}
  | v :: rest, nodes =>
    let name := TenantFleet.nodeName scaleSet v.instanceId
    match nodes.get? name with
    | none => collect scaleSet size version rest nodes
    | some node =>
      let others := collect scaleSet size version rest (nodes.erase name)
      match versionOf node with
      | none => others
      | some made =>
        if made.older version || isResized size v
          then { others with old := ⟨v, node⟩ :: others.old }
        else { others with new := ⟨v, node⟩ :: others.new }

/-- The workers of a pool. -/
def of (scaleSet : String) (size : Option String) (instances : List Instance) (nodes : List Node)
    (version : Version) : Partition :=
  collect scaleSet size version instances (byName nodes)

end Partition

end TenantFleet
