import Provisioning.Api.Refusal
import Provisioning.Json.Tagged

/-!
# Lines of a watch

The answer to a watch has a line for every change: the kind of change and the object, a bookmark, or
an error.  A line that stops too early says nothing; any other line that cannot be read is an error
of the watch, described by the line itself if it is an error response.
-/

namespace Provisioning.Api

/-- One line of a watched collection. -/
inductive WatchLine (α : Type) where
  | applied (object : α)
  | deleted (object : α)
  /-- Nothing changed up to this version. -/
  | bookmark (version : String)
  /-- The server reports an error. -/
  | failed (response : ErrorResponse)
  /-- The answer is an error in place of a watch. -/
  | refused (error : ServerError)
  /-- The line stops too early. -/
  | cutOff

namespace Bookmark

/-- The metadata of a bookmark as it is read. -/
structure MetadataDraft where
  version : Option String := none
  annotations : Option (StringMap String) := none

/-- Reads the metadata of a bookmark, of which only the version is kept. -/
def metadataDecoder : Json.Decoder String :=
  .record
    { expected := "struct BookmarkMeta"
      fields :=
        [.of "resourceVersion" (·.version)
            (fun draft value => { draft with version := some value }) .string,
          .of "annotations" (·.annotations)
            (fun draft value => { draft with annotations := some value }) (.dictionary .string)]
      start := ({} : MetadataDraft)
      finish := fun form draft =>
        Json.required "resourceVersion" "BookmarkMeta" 2 0 form draft.version }

/-- The version and kind of an object as they are read. -/
structure TypeDraft where
  apiVersion : Option String := none
  kind : Option String := none

/-- Reads the version and kind that an object states; both have to be there. -/
def typeDecoder : Json.Decoder Unit :=
  .record
    { expected := "struct TypeMeta"
      fields :=
        [.of "apiVersion" (·.apiVersion)
            (fun draft value => { draft with apiVersion := some value }) .string,
          .of "kind" (·.kind) (fun draft value => { draft with kind := some value }) .string]
      start := ({} : TypeDraft)
      finish := fun form draft => do
        let _ ← Json.required "apiVersion" "TypeMeta" 2 0 form draft.apiVersion
        let _ ← Json.required "kind" "TypeMeta" 2 1 form draft.kind
        return }

/-- A bookmark as it is read: its version, and the other members. -/
structure Draft where
  version : Option String := none
  /-- The other members, the latest one first. -/
  others : List (String × Json) := []

/-- The version of the bookmark that has been read. -/
def Draft.finish (draft : Draft) : Except DecodeError String := do
  match draft.version with
  | none => .error (.missingField "metadata")
  | some version =>
      typeDecoder.ofValue .heldBack (.object draft.others.reverse)
      return version

def decoder : Json.Decoder String :=
  .record
    { expected := "struct Bookmark"
      fields :=
        [.of "metadata" (·.version) (fun draft value => { draft with version := some value })
          metadataDecoder]
      start := ({} : Draft)
      arrays := .unopened
      others := some fun member draft => { draft with others := member :: draft.others }
      finish := fun _ draft => draft.finish }

end Bookmark

namespace WatchLine

/-- How a line is read: its type, and the object of that type. -/
def tagged {α : Type} (object : Json.Decoder α) : Json.Tagged (WatchLine α) where
  name := "WatchEvent"
  tag := "type"
  content := "object"
  types :=
    [("ADDED", object.map .applied), ("MODIFIED", object.map .applied),
      ("DELETED", object.map .deleted), ("BOOKMARK", Bookmark.decoder.map .bookmark),
      ("ERROR", ErrorResponse.decoder.map .failed)]

def ofText {α : Type} (object : Json.Decoder α) (text : String) : WatchLine α :=
  match Json.readText (tagged object).ofText text with
  | .ok line => line
  | .error error =>
      if error.isCutOff then .cutOff
      else
        match ErrorResponse.ofText? text with
        | some response => .refused (.refused response)
        | none => .refused (.unreadable error.message)

end WatchLine

end Provisioning.Api
