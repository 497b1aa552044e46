import Provisioning.Api.Deletion
import Provisioning.Api.Refusal
import Provisioning.Capability.Basic
import Provisioning.Defaults
import Provisioning.Labels.Selector
import Provisioning.Pod.Codec

/-!
# Collections of the API server

The objects of one kind on the server: reading one or a list of them, creating and deleting.
-/

namespace Provisioning.Api

/-- The objects of one kind on the server. -/
structure Collection (α : Type) where
  /-- The path under which the kind is served. -/
  root : String
  /-- The name of the collection. -/
  plural : String
  decoder : Json.Decoder α

def capabilities : Collection Capability where
  root := "/apis/" ++ Capability.apiVersion
  plural := Conventions.resourcePlural
  decoder := Capability.decoder

def pods : Collection Pod where
  root := "/api/v1"
  plural := "pods"
  decoder := Pod.decoder

/-- Reads the operator's defaults: the data of an object, which may be absent. -/
def defaultsDecoder : Json.Decoder Defaults :=
  .resource "ConfigMap"
    [.checked "apiVersion" (.constant "v1"),
      .checked "kind" (.constant "ConfigMap"),
      .checked "metadata" (.option Metadata.decoder),
      .checked "immutable" (.option .bool),
      .lastOf "data" (fun _ value => ⟨value⟩) (.orDefault .empty (.dictionary .string))]
    {}

/-- The objects on the server that can hold the operator's defaults. -/
def defaultsObjects : Collection Defaults where
  root := "/api/v1"
  plural := "configmaps"
  decoder := defaultsDecoder

namespace Collection

variable {α : Type}

/-- The path of the objects of one namespace. -/
def pathIn (collection : Collection α) (namespaceName : String) : String :=
  collection.root ++ "/namespaces/" ++ namespaceName ++ "/" ++ collection.plural

def pathAll (collection : Collection α) : String :=
  collection.root ++ "/" ++ collection.plural

/-- The path of one object. -/
def pathOf (collection : Collection α) (namespaceName name : String) : String :=
  collection.pathIn namespaceName ++ "/" ++ name

end Collection

/-- A list of objects with the version of the collection, and with the token for what follows. -/
structure Listing (α : Type) where
  version : Option String := none
  continuation : Option String := none
  items : List α := []

variable {α : Type}

/-- The metadata of a list. -/
structure ListMetadata where
  version : Option String := none
  continuation : Option String := none

/-- Reads the metadata of a list, where an empty text counts as absent. -/
def ListMetadata.decoder : Json.Decoder ListMetadata :=
  .resource "ListMeta"
    [.lastOf "continue" (fun metadata value => { metadata with continuation := nonEmpty? value })
        (.option .string),
      .checked "remainingItemCount" (.option .int64),
      .lastOf "resourceVersion" (fun metadata value => { metadata with version := nonEmpty? value })
        (.option .string),
      .checked "selfLink" (.option .string)]
    {}

namespace Listing

/-- The members of a list as they are read. -/
structure Draft (α : Type) where
  metadata : Option ListMetadata := none
  items : Option (Option (List α)) := none

/-- The list that has been read; items have to be there and can be null. -/
def Draft.finish (draft : Draft α) : Except DecodeError (Listing α) :=
  let metadata := draft.metadata.getD {}
  match draft.items with
  | some items => .ok ⟨metadata.version, metadata.continuation, items.getD []⟩
  | none => .error (.missingField "items")

/-- Reads a list of objects.  What it holds besides is read and dropped. -/
def decoder (decoder : Json.Decoder α) : Json.Decoder (Listing α) :=
  .record
    { expected := "struct ObjectList"
      fields :=
        [.of "metadata" (·.metadata) (fun draft value => { draft with metadata := some value })
            ListMetadata.decoder,
          .of "items" (·.items) (fun draft value => { draft with items := some value })
            (.option (.list decoder))]
      start := {}
      arrays := .unopened
      others := some fun _ draft => draft
      finish := fun _ draft => Draft.finish draft }

end Listing

/-- Sends a request and reads the body of its answer. -/
def fetch {β : Type} (read : String → Except Json.ReadError β)
    (request : Except ServerError Request) : Exchange (Except ServerError β) := do
  match request with
  | .error error => return .error error
  | .ok request =>
      return (bodyOf (← Program.perform (Call.fetch request))).bind fun body =>
        (read body).mapError fun error => .unreadable error.message

/-- Reads one object, nothing if the server says that it is not there. -/
def get (collection : Collection α) (namespaceName name : String) :
    Exchange (Except ServerError (Option α)) :=
  if name = "" then pure (.error .unnamed)
  else do
    let answer ← fetch collection.decoder.parse
      (Request.to .get (collection.pathOf namespaceName name))
    match answer with
    | .ok object => return .ok (some object)
    | .error (.refused response) =>
        if response.reason = "NotFound" then return .ok none
        else return .error (.refused response)
    | .error error => return .error error

/-- Reads the objects under a path that carry the labels. -/
def list (collection : Collection α) (path : String) (labels : Labels) :
    Exchange (Except ServerError (List α)) := do
  let answer ← fetch (Listing.decoder collection.decoder).parse
    (Request.to .get (Address.textOf path [("labelSelector", labels.selector)]))
  return answer.map (·.items)

def create (collection : Collection α) (namespaceName : String) (object : Json) :
    Exchange (Except ServerError α) :=
  fetch collection.decoder.parse
    (Request.to .post
      (Address.textOf (collection.pathIn namespaceName)
        [("fieldManager", Conventions.fieldManager)])
      (some object))

def delete (collection : Collection α) (namespaceName name : String) :
    Exchange (Except ServerError Unit) :=
  if name = "" then pure (.error .unnamed)
  else
    fetch (Deletion.ofText collection.decoder)
      (Request.to .delete (Address.textOf (collection.pathOf namespaceName name) [])
        (some (.object [])))

end Provisioning.Api
