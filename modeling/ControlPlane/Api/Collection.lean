import ControlPlane.Api.Target
import ControlPlane.Schema.Any

/-!
# Collections of resources

A server keeps the resources of a kind in collections: one for each namespace, and one of all of
them. A collection is addressed by its path. A watcher asks for a listing of a collection, and then
for the changes to it. Since the name of a namespace is written into the path as it is, the requests
may lead to another collection, may lose what they ask for, or may lead nowhere.

* `Collection.path`, `Collection.ofPath?`: the path of a collection, and the way back.
* `Collection.view?`: what a watcher of a collection comes to see.
-/

namespace ControlPlane

/-- The resources of a kind, those of one namespace or all of them. -/
structure Collection where
  kind : Kind
  ns : Option String
deriving DecidableEq

namespace Collection

/-- The path of a collection. -/
def path (c : Collection) : String :=
  "/apis/" ++ c.kind.apiVersion ++ (c.ns.elim "" ("/namespaces/" ++ ·)) ++ "/" ++ c.kind.plural

/-- The collection to which a path leads. Its last part names the kind, and the part after
`namespaces` the namespace. -/
def ofPath? (path : String) : Option Collection := do
  let parts := (Target.partsBetween '/' path.toList).map String.ofList
  let kind ← Kind.ofPlural? (← parts.getLast?)
  return ⟨kind, ((parts.dropWhile (· ≠ "namespaces")).drop 1).head?⟩

/-- Whether a resource is in a collection. -/
def holds (c : Collection) (r : AnyResource) : Bool :=
  r.kind = c.kind && c.ns.all (r.metadata.ns.getD "" = ·)

end Collection

/-- Whether a text occurs in another. -/
def Target.occurs (part : List Char) : List Char → Bool
  | [] => part.isEmpty
  | c :: rest => part.isPrefixOf (c :: rest) || occurs part rest

/-- Whether a request is one for the changes to a collection: its query says so somewhere. -/
def Target.asksForChanges (t : Target) : Bool :=
  occurs "watch=true".toList t.queryText.toList

/-- What a watcher sees. -/
structure View where
  /-- The collection that is listed at first. -/
  source : Collection
  /-- Whether the changes to it are seen as well. -/
  follows : Bool
deriving DecidableEq

/-- What a watcher of a collection comes to see: nothing, if the first of its requests leads to no
collection or is not one for a listing. -/
def Collection.view? (c : Collection) : Option View := do
  let listing ← Target.ofText? (Target.withQuery c.path [("limit", "500")])
  let changes ← Target.ofText? (Target.withQuery c.path [("watch", "true")])
  let source ← Collection.ofPath? listing.path
  if listing.asksForChanges then none else some ⟨source, changes.asksForChanges⟩

end ControlPlane
