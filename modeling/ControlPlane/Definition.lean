import ControlPlane.Json.Form
import ControlPlane.Meta.Kind

/-!
# Definitions of the kinds

What an API server is told of each kind before it serves it: the names of the kind, the columns in
which its objects are listed, and its one version, with the status as a part of its own.
-/

namespace ControlPlane

/-- The type of the values in a column. -/
inductive ColumnType where
  | string
  | integer
  | date
deriving DecidableEq

/-- The name of a column type. -/
def ColumnType.name : ColumnType → String
  | .string => "string"
  | .integer => "integer"
  | .date => "date"

/-- A column of a listing: its heading, and where in an object its value stands. -/
structure Column where
  name : String
  type : ColumnType
  path : String
deriving DecidableEq

namespace Column

/-- The form in which a definition carries a column. -/
def toJson (c : Column) : Json :=
  .obj [("name", .str c.name), ("type", .str c.type.name), ("jsonPath", .str c.path)]

/-- The age of an object. -/
def age : Column := ⟨"Age", .date, ".metadata.creationTimestamp"⟩

/-- The status of a condition. -/
def condition (type : String) : Column :=
  ⟨type, .string, ".status.conditions[?(@.type==\"" ++ type ++ "\")].status"⟩

end Column

namespace Kind

/-- The short name of a kind. -/
def shortName : Kind → String
  | .workload => "wl"
  | .workloadDeployment => "wd"
  | .inst => "inst"
  | .location => "loc"
  | .network => "net"
  | .networkBinding => "netbinding"
  | .networkContext => "netctx"
  | .subnetClaim => "subnetclaim"
  | .subnet => "subnet"

/-- The columns in which the objects of a kind are listed. -/
def columns : Kind → List Column
  | .workload =>
    [.condition "Available", ⟨"Replicas", .integer, ".status.replicas"⟩,
      ⟨"Ready", .integer, ".status.readyReplicas"⟩, .age]
  | .workloadDeployment =>
    [⟨"City", .string, ".spec.cityCode"⟩, ⟨"Location", .string, ".status.location.name"⟩,
      ⟨"Desired", .integer, ".status.desiredReplicas"⟩,
      ⟨"Ready", .integer, ".status.readyReplicas"⟩, .age]
  | .inst =>
    [⟨"Type", .string, ".spec.runtime.resources.instanceType"⟩,
      ⟨"Location", .string, ".spec.location.name"⟩, .condition "Ready", .age]
  | .location =>
    [⟨"Class", .string, ".spec.locationClassName"⟩,
      ⟨"City", .string, ".spec.topology.topology\\.datum\\.net/city-code"⟩]
  | .networkBinding =>
    [⟨"Network", .string, ".spec.network.name"⟩, ⟨"Location", .string, ".spec.location.name"⟩]
  | .subnetClaim =>
    [⟨"Class", .string, ".spec.subnetClass"⟩, ⟨"Family", .string, ".spec.ipFamily"⟩]
  | .network | .networkContext | .subnet => []

/-- The names under which a kind is served. -/
def names (k : Kind) : Json :=
  .obj [
    ("categories", .arr []),
    ("kind", .str k.name),
    ("plural", .str k.plural),
    ("shortNames", .arr [.str k.shortName]),
    ("singular", .str k.singular)]

/-- The version in which a kind is served and stored. -/
def servedVersion (k : Kind) : Json :=
  .obj [
    ("additionalPrinterColumns", .arr (k.columns.map Column.toJson)),
    ("name", .str version),
    ("served", .bool true),
    ("storage", .bool true),
    ("subresources", .obj [("status", .obj [])])]

/-- The definition of a kind, apart from the schema of its objects. -/
def definition (k : Kind) : Json :=
  .obj [
    ("apiVersion", .str "apiextensions.k8s.io/v1"),
    ("kind", .str "CustomResourceDefinition"),
    ("metadata", .obj [("name", .str (k.plural ++ "." ++ k.group))]),
    ("spec", .obj [
      ("group", .str k.group),
      ("names", k.names),
      ("scope", .str "Namespaced"),
      ("versions", .arr [k.servedVersion])])]

end Kind

end ControlPlane
