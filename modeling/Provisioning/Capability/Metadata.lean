import Provisioning.Json.Record
import Provisioning.Labels.Basic

/-!
# Object metadata

The part that all objects of the cluster have in common: names, labels and the server's bookkeeping.
An object is known by its name or, before the server gave it one, by the beginning of that name.
-/

namespace Provisioning

/-- What all objects of the cluster have in common. -/
structure Metadata where
  name : Option String := none
  generateName : Option String := none
  namespaceName : Option String := none
  labels : Option Labels := none
  annotations : Option Labels := none
  resourceVersion : Option String := none
  uid : Option String := none
  generation : Option Int64 := none
  finalizers : Option (List String) := none
  deriving DecidableEq, Inhabited

namespace Metadata

/-- The name by which an object is known: its name, else the beginning of a generated one, else
nothing. -/
def anyName (metadata : Metadata) : String :=
  (metadata.name <|> metadata.generateName).getD ""

/-- The namespace of an object, empty where there is none. -/
def home (metadata : Metadata) : String :=
  metadata.namespaceName.getD ""

def allLabels (metadata : Metadata) : Labels :=
  metadata.labels.getD .empty

/-! ## JSON -/

/-- The members of the metadata that are read; a null counts as absent. -/
def fields : List (Json.Field Metadata) :=
  [.lastOf "name" (fun metadata value => { metadata with name := value })
      (.option .string),
    .lastOf "generateName" (fun metadata value => { metadata with generateName := value })
      (.option .string),
    .lastOf "namespace" (fun metadata value => { metadata with namespaceName := value })
      (.option .string),
    .lastOf "labels" (fun metadata value => { metadata with labels := value })
      (.option (.dictionary .string)),
    .lastOf "annotations" (fun metadata value => { metadata with annotations := value })
      (.option (.dictionary .string)),
    .lastOf "resourceVersion" (fun metadata value => { metadata with resourceVersion := value })
      (.option .string),
    .lastOf "uid" (fun metadata value => { metadata with uid := value })
      (.option .string),
    .lastOf "generation" (fun metadata value => { metadata with generation := value })
      (.option .int64),
    .lastOf "finalizers" (fun metadata value => { metadata with finalizers := value })
      (.option (.list .string))]

/-- Reads metadata, which has no form as an array. -/
def decoder : Json.Decoder Metadata :=
  .resource "ObjectMeta" fields {}

/-- Writes metadata, without what is absent. -/
def toJson (metadata : Metadata) : Json :=
  .ofPresent
    [("annotations", metadata.annotations.map (Json.ofMap .string)),
      ("finalizers", metadata.finalizers.map fun names => .array (names.map .string)),
      ("generateName", metadata.generateName.map .string),
      ("generation", metadata.generation.map fun value => .int value.toInt),
      ("labels", metadata.labels.map (Json.ofMap .string)),
      ("name", metadata.name.map .string),
      ("namespace", metadata.namespaceName.map .string),
      ("resourceVersion", metadata.resourceVersion.map .string),
      ("uid", metadata.uid.map .string)]

end Metadata

end Provisioning
