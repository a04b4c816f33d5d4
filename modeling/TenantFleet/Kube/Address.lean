/-
# Addresses of objects

The objects of a kind, those of a namespace or all of them, are a collection with a path of its own;
an object is a part of its collection, and its status a part of the object. A path goes into a
request only if it is made of characters that may stand there.
-/
import TenantFleet.Object.Metadata
import TenantFleet.Http.Url
import TenantFleet.Error

namespace TenantFleet

/-! ## Collections -/

namespace ObjectKind

/-- The path of a group and version. -/
def groupPath (k : ObjectKind) : String :=
  if k.group.isEmpty then "/api/" ++ k.version else "/apis/" ++ k.group ++ "/" ++ k.version

/-- The path of the objects of a kind in a namespace, or in all of them. -/
def collectionPath (k : ObjectKind) (space : Option String) : String :=
  k.groupPath ++
    (match space with
      | some s => "/namespaces/" ++ s
      | none => "") ++
    "/" ++ k.collection

/-- The path of an object; an object must have a name. -/
def objectPath (k : ObjectKind) (space : Option String) (name : String) : Except KubeError String :=
  if name.isEmpty then .error .badRequest else .ok (k.collectionPath space ++ "/" ++ name)

end ObjectKind

end TenantFleet
