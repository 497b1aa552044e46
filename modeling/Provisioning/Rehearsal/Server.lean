import Provisioning.Api.Resources
import Provisioning.Api.Watching
import Provisioning.Json.Printer
import Provisioning.Provision.Basic
import Provisioning.Reference.Choice
import Provisioning.Rehearsal.Clock
import Provisioning.Text.Pieces

/-!
# A scripted API server

A server that gives prepared replies, in their order, whatever it is asked.  A reply can be withheld
for ever, be lost, or have a body that never ends.
-/

namespace Provisioning.Rehearsal

/-- What a reply says. -/
inductive Body where
  /-- A text that was prepared. -/
  | prepared (text : String)
  /-- The body of the request. -/
  | echo

/-- A prepared reply. -/
inductive Reply where
  | answered (code : Nat) (body : Body) (neverEnds : Bool)
  | lost (reason : String)
  | withheld

/-- The rest of a body that is read line by line. -/
structure OpenBody where
  lines : List String
  neverEnds : Bool

/-- A scripted server, and the watches of objects that it answers. -/
structure Server (α : Type) extends Clock where
  replies : List Reply := []
  /-- The requests that were sent, the latest one first. -/
  requests : List Api.Request := []
  bodies : List OpenBody := []
  watches : List (Locator × Api.Watching α) := []

instance {α : Type} : Clocked (Server α) where
  clock server := server.toClock
  withClock clock server := { server with toClock := clock }

variable {α β : Type}

def Body.text (request : Api.Request) : Body → String
  | .prepared text => text
  | .echo => (request.body.map Json.render).getD ""

/-- A line without the carriage return before its end. -/
def withoutReturn (line : List Char) : List Char :=
  if line.getLast? = some '\r' then line.dropLast else line

/-- The lines of a text; what follows the last line end is a line unless it is empty or a mere
carriage return, or more of the text is still to come. -/
def linesOf (text : String) (neverEnds : Bool) : List String :=
  let pieces := Text.pieces '\n' text.toList
  let last := pieces.getLast?.getD []
  let lines := if neverEnds || last.isEmpty || last == ['\r'] then pieces.dropLast else pieces
  lines.map fun line => String.ofList (withoutReturn line)

/-- Sends a request and takes the next reply; without one the request is lost. -/
def takeReply (request : Api.Request) : Action (Server α) Reply := do
  let server ← get
  set { server with requests := request :: server.requests, replies := server.replies.tail }
  return server.replies.head?.getD (.lost "no scripted response left")

def serve : (call : Api.Call) → Action (Server α) call.Answer
  | .fetch request => do
      match ← takeReply request with
      | .withheld => stall
      | .lost reason => return .error reason
      | .answered code body neverEnds =>
          if neverEnds then stall
          else return .ok ⟨code, body.text request⟩
  | .openLines request => do
      match ← takeReply request with
      | .withheld => stall
      | .lost reason => return .error reason
      | .answered _ body neverEnds => do
          let server ← get
          let opened : OpenBody := ⟨linesOf (body.text request) neverEnds, neverEnds⟩
          set { server with bodies := server.bodies ++ [opened] }
          return .ok server.bodies.length
  | .nextLine number => do
      let server ← get
      match server.bodies[number]? with
      | none => return none
      | some body =>
          match body.lines with
          | line :: rest => do
              set { server with bodies := server.bodies.set number { body with lines := rest } }
              return some line
          | [] => if body.neverEnds then stall else return none

def exchange (program : Api.Exchange β) : Action (Server α) β :=
  program.run (fun message => throw (.panicked message)) serve

/-- A bound for the steps of a watch and for the events that it delivers: both use up replies, or
text in them. -/
def Server.patience (server : Server α) : Nat :=
  let size : Reply → Nat
    | .answered _ (.prepared text) _ => text.length + 4
    | _ => 4
  let unread := server.replies.foldl (fun total reply => total + size reply) 8
  2 * server.bodies.foldl (fun total body => total + 2 * body.lines.length + 2) unread

def nextWatched [ClusterObject α] (collection : Api.Collection α) (number : Nat) :
    Action (Server α) (Option (Except WaitError (WatchEvent α))) := do
  let server ← get
  match server.watches[number]? with
  | none => return none
  | some (locator, watching) => do
      let (item, reached) ← exchange
        (Api.Watching.next collection locator server.patience watching)
      modify fun server => { server with watches := server.watches.set number (locator, reached) }
      match item with
      | none => stall
      | some item => return some item

/-- Opens a watch; nothing is sent before the first item is asked for. -/
def openWatch (locator : Locator) : Action (Server α) Nat := do
  let server ← get
  set { server with watches := server.watches ++ [(locator, Api.Watching.start)] }
  return server.watches.length

/-- The server as a source of objects and events. -/
def serverSource [ClusterObject α] (collection : Api.Collection α) :
    WatchSource (Action (Server α)) Nat α where
  now := (·.now) <$> readClock
  current locator deadline := within deadline (exchange (Api.current collection locator))
  subscribe locator deadline := within deadline (.ok <$> openWatch locator)
  next number deadline := within deadline (nextWatched collection number)

def waitOnServer [ClusterObject α] (collection : Api.Collection α) (condition : α → Bool)
    (locator : Locator) (timeout : Duration) : Action (Server α) (Wait.End α) := do
  let events := (← get).patience
  match ← Wait.run (serverSource collection) (fun object => return condition object) locator
      timeout events with
  | some result => return result
  | none => stall

def endOfWait (result : Wait.End α) : Action (Server α) (Except WaitError α) :=
  match result with
  | .met object => return .ok object
  | .failed error => return .error error
  | .beyondClock => throw (.panicked Wait.beyondClockMessage)

/-- The first events of a new watch. -/
def firstEvents [ClusterObject α] (collection : Api.Collection α) (locator : Locator) (count : Nat) :
    Action (Server α) (List (Option (Except WaitError (WatchEvent α)))) := do
  let number ← openWatch locator
  (List.replicate count ()).mapM fun _ => nextWatched collection number

/-! ## Provisioning against the server -/

/-- Answers a call of provisioning; the operator's defaults are kept in the object named. -/
def answerByServer (operatorNamespace defaultsObject : String) :
    (request : CapabilityCall) → Action (Server Capability) request.Answer
  | .get namespaceName name => exchange (Api.getCapability namespaceName name)
  | .listIn namespaceName labels => exchange (Api.listCapabilitiesIn namespaceName labels)
  | .listAll labels => exchange (Api.listAllCapabilities labels)
  | .create capability => exchange (Api.createCapability capability)
  | .loadDefaults => exchange (Api.loadDefaults operatorNamespace defaultsObject)
  | .awaitSettled namespaceName name timeout =>
      waitOnServer Api.capabilities (·.phase.isTerminal) (.named namespaceName name) timeout

/-- Runs a program that makes the calls of provisioning. -/
def runAgainstServer (operatorNamespace defaultsObject : String) (program : CapabilityProgram β) :
    Action (Server Capability) β :=
  program.run (fun message => throw (.panicked message))
    (answerByServer operatorNamespace defaultsObject)

end Provisioning.Rehearsal
