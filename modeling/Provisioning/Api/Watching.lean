import Provisioning.Api.Collection
import Provisioning.Api.Report
import Provisioning.Api.WatchLine
import Provisioning.Cluster.ObjectKey

/-!
# Watching a collection

A watch lists the objects first, page by page, and reports each of them.  It then follows the changes
from the version of the list on: whenever the answer of the server ends, it asks again from the last
version that it saw.  After an error it goes on where it can: from a new list if it
lost its place, else from the same version.
-/

namespace Provisioning.Api

variable {α : Type}

/-- How far a watch has come. -/
inductive Watching (α : Type) where
  /-- Nothing is known. -/
  | start
  /-- A page of the list was read and is being reported. -/
  | page (continuation : Option String) (objects : List α) (version : Option String)
  /-- The list is complete. -/
  | listed (version : String)
  /-- Changes are being read. -/
  | following (version : String) (lines : Nat)

namespace Watching

/-- The parameter that selects the objects of a locator. -/
def selection : Locator → String × String
  | .named _ name => ("fieldSelector", "metadata.name=" ++ name)
  | .labeled _ selector => ("labelSelector", selector.selector)

/-- The objects on one page of a list. -/
def pageSize : Nat := 500

/-- The seconds after which the server ends the answer to a watch. -/
def watchSeconds : Nat := 290

/-- The address of the objects of a locator with parameters. -/
def addressText (collection : Collection α) (locator : Locator)
    (parameters : List (String × String)) : String :=
  Address.textOf (collection.pathIn locator.namespaceName) parameters

def listRequest (collection : Collection α) (locator : Locator) (continuation : Option String) :
    Except ServerError Request :=
  Request.to .get <| addressText collection locator <|
    [selection locator, ("limit", toString pageSize)] ++
      (continuation.map fun token => ("continue", token)).toList

def watchRequest (collection : Collection α) (locator : Locator) (version : String) :
    Except ServerError Request :=
  Request.to .get <| addressText collection locator
    [("watch", "true"), ("timeoutSeconds", toString watchSeconds), selection locator,
      ("allowWatchBookmarks", "true"), ("resourceVersion", version)]

/-- Sends a request whose answer is read line by line. -/
def openLines (request : Except ServerError Request) : Exchange (Except ServerError Nat) := do
  match request with
  | .error error => return .error error
  | .ok request => return (← Program.perform (Call.openLines request)).mapError .unreachable

/-- What is said when the server gives no version to go on from. -/
def noVersion : String :=
  "no metadata.resourceVersion in watch result (does resource support watch?)"

/-- What one step of a watch yields, if anything: a report, or the text of an error. -/
abbrev Item (α : Type) := Option (Except String (Report α))

def readPage (collection : Collection α) (locator : Locator) (continuation : Option String) :
    Exchange (Item α × Watching α) := do
  match ← fetch (Listing.decoder collection.decoder).parse
      (listRequest collection locator continuation) with
  | .error error =>
      return (some (.error s!"failed to perform initial object list: {error.message}"), .start)
  | .ok listing =>
      if listing.version.isNone && listing.continuation.isNone then
        return (some (.error noVersion), .start)
      else return (none, .page listing.continuation listing.items listing.version)

/-- Reports a change of an object, which has to give the version from which to go on. -/
def reportChange [ClusterObject α] (object : α) (report : Report α) (lines : Nat) :
    Item α × Watching α :=
  match nonEmpty? (ClusterObject.metadata object).resourceVersion with
  | some version => (some (.ok report), .following version lines)
  | none => (some (.error noVersion), .start)

def onLine [ClusterObject α] (version : String) (lines : Nat) :
    WatchLine α → Item α × Watching α
  | .applied object => reportChange object (.applied object) lines
  | .deleted object => reportChange object (.deleted object) lines
  | .bookmark later => (none, .following later lines)
  | .failed response =>
      (some (.error
        s!"error returned by apiserver during watch: {response.message}: {response.reason}"),
        if response.code = 410 then .start else .following version lines)
  | .refused error => (some (.error s!"watch stream failed: {error.message}"),
      .following version lines)
  | .cutOff => (none, .following version lines)

def step [ClusterObject α] (collection : Collection α) (locator : Locator) :
    Watching α → Exchange (Item α × Watching α)
  | .start => pure (some (.ok .listing), .page none [] none)
  | .page continuation (object :: rest) version =>
      pure (some (.ok (.listed object)), .page continuation rest version)
  | .page none [] (some version) => pure (some (.ok .complete), .listed version)
  | .page continuation [] _ => readPage collection locator continuation
  | .listed version => do
      match ← openLines (watchRequest collection locator version) with
      | .error error =>
          return (some (.error s!"failed to start watching object: {error.message}"),
            .listed version)
      | .ok lines => return (none, .following version lines)
  | .following version lines => do
      match ← Program.perform (Call.nextLine lines) with
      | none => return (none, .listed version)
      | some text => return onLine version lines (WatchLine.ofText collection.decoder text)

/-- Goes on with a watch until there is something for the subscriber, for no more steps than
given. -/
def next [ClusterObject α] (collection : Collection α) (locator : Locator) :
    Nat → Watching α → Exchange (Option (Except WaitError (WatchEvent α)) × Watching α)
  | 0, watching => pure (none, watching)
  | steps + 1, watching => do
      let (item, reached) ← step collection locator watching
      match item.bind (Report.delivered? locator) with
      | some delivered => return (some delivered, reached)
      | none => next collection locator steps reached

end Watching

end Provisioning.Api
