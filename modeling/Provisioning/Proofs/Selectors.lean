import Mathlib.Data.List.Basic
import Provisioning.Api.Resources
import Provisioning.Api.Watching
import Provisioning.Json.Printer
import Provisioning.Proofs.AddressText
import Provisioning.Proofs.Exchanges

/-!
# Selectors stand for labels

Labels are asked for by a text.  Who reads it as a selector is told the labels again, as long as none
of the marks of a selector is part of one.  So a server that knows no more than the text gives what
carries the labels, and a watch asks for nothing else.

Main statement: what is read from the selector of some labels, and who is given what by it
(`selector_stands_for_labels`).
-/

namespace Provisioning

namespace Labels

variable {wanted other : Labels} {entry : String × String}

/-- Labels with none of the marks of a selector: no comma, no equals sign, and in the keys no
exclamation mark. -/
structure Separable (labels : Labels) : Prop where
  key : ∀ entry ∈ labels.entries,
    ',' ∉ entry.1.toList ∧ '=' ∉ entry.1.toList ∧ '!' ∉ entry.1.toList
  value : ∀ entry ∈ labels.entries, ',' ∉ entry.2.toList ∧ '=' ∉ entry.2.toList

/-! ## Reading a selector -/

@[simp]
theorem toList_requirementText (entry : String × String) :
    (requirementText entry).toList = entry.1.toList ++ '=' :: entry.2.toList := by
  rw [requirementText, String.toList_append, String.toList_append, List.append_assoc]
  rfl

private theorem Separable.notMem_requirementText (separable : wanted.Separable)
    (member : entry ∈ wanted.entries) : ',' ∉ (requirementText entry).toList := by
  rw [toList_requirementText, List.mem_append, List.mem_cons]
  rintro (inKey | isEquals | inValue)
  · exact (separable.key entry member).1 inKey
  · cases isEquals
  · exact (separable.value entry member).1 inValue

@[simp]
theorem toList_intercalate_comma (first : String) (rest : List String) :
    (",".intercalate (first :: rest)).toList =
      first.toList ++ rest.flatMap fun text => ',' :: text.toList := by
  induction rest generalizing first with
  | nil => simp
  | cons second others inductionHypothesis =>
      rw [String.intercalate_cons_cons, String.toList_append, String.toList_append,
        inductionHypothesis, List.append_assoc]
      rfl

private theorem readDemand_requirementText (unmarked : '=' ∉ entry.1.toList ∧ '!' ∉ entry.1.toList)
    (single : '=' ∉ entry.2.toList) :
    readDemand (requirementText entry).toList = .equals entry.1 entry.2 := by
  have positive : entry.1.toList.getLast? ≠ some '!' := fun isLast =>
    unmarked.2 (List.mem_of_getLast? isLast)
  have noSecond : entry.2.toList.head? ≠ some '=' := fun isFirst =>
    single (List.mem_of_head? isFirst)
  rw [readDemand, toList_requirementText, Text.takeWhile_ne_append unmarked.1,
    Text.dropWhile_ne_append unmarked.1]
  dsimp only
  rw [if_neg positive, if_neg noSecond, String.ofList_toList, String.ofList_toList]

/-- What a selector demands is each of the labels with its value. -/
@[simp]
theorem readSelector_selector (separable : wanted.Separable) :
    readSelector wanted.selector =
      wanted.entries.map fun entry => .equals entry.1 entry.2 := by
  obtain ⟨entries, sorted⟩ := wanted
  cases entries with
  | nil => rfl
  | cons first rest =>
      have whole : ∀ entry ∈ first :: rest, ',' ∉ (requirementText entry).toList := fun _ =>
        separable.notMem_requirementText
      have cut : Text.pieces ',' (selector ⟨first :: rest, sorted⟩).toList =
          (first :: rest).map fun entry => (requirementText entry).toList := by
        rw [selector, List.map_cons, toList_intercalate_comma, List.flatMap_map,
          Text.pieces_append (whole first List.mem_cons_self)
            (Text.pieces_flatMap fun entry member => whole entry (List.mem_cons_of_mem _ member)),
          List.map_cons]
      have filled : (selector ⟨first :: rest, sorted⟩).toList.isEmpty = false := by
        rw [selector, List.map_cons, toList_intercalate_comma, toList_requirementText]
        simp
      rw [readSelector, filled, if_neg (by simp), cut, List.map_map]
      refine List.map_congr_left fun entry member => ?_
      exact readDemand_requirementText (separable.key entry member).2
        (separable.value entry member).2

/-- Labels with the same selector are the same. -/
theorem eq_of_selector_eq (separable : wanted.Separable) (otherSeparable : other.Separable)
    (same : other.selector = wanted.selector) : other = wanted := by
  have sameDemands := congrArg readSelector same
  rw [readSelector_selector separable, readSelector_selector otherSeparable] at sameDemands
  have injective : Function.Injective fun entry : String × String =>
      Demand.equals entry.1 entry.2 := by
    rintro ⟨_, _⟩ ⟨_, _⟩ sameDemand
    cases sameDemand
    rfl
  rw [← StringMap.ofList_entries other, ← StringMap.ofList_entries wanted,
    List.map_injective_iff.mpr injective sameDemands]

/-- A selector selects what carries the labels. -/
@[simp]
theorem selectedBy_selector (separable : wanted.Separable) (actual : Labels) :
    selectedBy wanted.selector actual = actual.carries wanted := by
  rw [selectedBy, readSelector_selector separable, List.all_map]
  rfl

end Labels

namespace Api

open ClusterObject Labels

variable {α : Type} {path : String} {wanted : Labels} {request : Request}

/-! ## Requests that select -/

/-- The value of a parameter of a request, the first one of several. -/
def Request.parameter? (request : Request) (name : String) : Option String :=
  request.address.query.lookup name

/-- Whether a request selects objects with these labels; without a label selector it selects all. -/
def Request.selects (request : Request) (actual : Labels) : Bool :=
  (request.parameter? "labelSelector").all fun text => selectedBy text actual

/-- A request reads what there is under a path and carries some labels. -/
structure Request.ReadsLabeled (request : Request) (path : String) (wanted : Labels) : Prop where
  method : request.method = .get
  path : request.address.path = path
  selects : ∀ actual, request.selects actual = actual.carries wanted

private theorem Request.address_of_sent {method : Method} {body : Option Json} {request : Request}
    {parameters : List (String × String)} (unmarked : Address.Unmarked path)
    (sent : Request.to method (Address.textOf path parameters) body = .ok request) :
    request = ⟨method, ⟨path, parameters⟩, body⟩ := by
  rw [Request.to, Address.ofText_textOf unmarked] at sent
  split_ifs at sent
  exact (Except.ok.inj sent).symm

/-- Whoever sends the selector of some labels along reads what carries them. -/
theorem Request.readsLabeled_of_sent (separable : wanted.Separable)
    (unmarked : Address.Unmarked path) {parameters : List (String × String)}
    (selecting : parameters.lookup "labelSelector" = some wanted.selector)
    (sent : Request.to .get (Address.textOf path parameters) = .ok request) :
    request.ReadsLabeled path wanted := by
  obtain rfl := Request.address_of_sent unmarked sent
  refine ⟨rfl, rfl, fun actual => ?_⟩
  rw [Request.selects, Request.parameter?, selecting, Option.all_some,
    selectedBy_selector separable]

/-- A request by which a watch reads the objects of a locator: for a page of the list, or for the
changes from a version on. -/
def Watching.Sends (collection : Collection α) (locator : Locator) (request : Request) : Prop :=
  (∃ continuation, Watching.listRequest collection locator continuation = .ok request) ∨
    ∃ version, Watching.watchRequest collection locator version = .ok request

private theorem Watching.Sends.readsLabeled {collection : Collection α} {namespaceName : String}
    (separable : wanted.Separable) (unmarked : Address.Unmarked (collection.pathIn namespaceName))
    (sends : Sends collection (.labeled namespaceName wanted) request) :
    request.ReadsLabeled (collection.pathIn namespaceName) wanted := by
  rcases sends with ⟨continuation, sent⟩ | ⟨version, sent⟩
  · exact Request.readsLabeled_of_sent separable unmarked rfl sent
  · exact Request.readsLabeled_of_sent separable unmarked rfl sent

/-! ## Servers that select -/

/-- The path of the objects of a namespace, or of all of them. -/
def Collection.pathAt (collection : Collection α) : Option String → String
  | some namespaceName => collection.pathIn namespaceName
  | none => collection.pathAll

/-- A path tells its place. -/
theorem Collection.eq_of_pathAt_eq {collection : Collection α} {place other : Option String}
    (same : collection.pathAt place = collection.pathAt other) : place = other := by
  have noNamespace (namespaceName : String) :
      collection.pathIn namespaceName ≠ collection.pathAll := by
    intro samePath
    have sameLength := congrArg String.length samePath
    have longer : "/namespaces/".length = 12 := by decide
    have shorter : "/".length = 1 := by decide
    simp only [pathIn, pathAll, String.length_append, longer, shorter] at sameLength
    omega
  cases place with
  | none =>
      cases other with
      | none => rfl
      | some namespaceName => exact absurd same.symm (noNamespace namespaceName)
  | some namespaceName =>
      cases other with
      | none => exact absurd same (noNamespace namespaceName)
      | some otherName =>
          simp only [pathAt, pathIn, String.append_left_inj, String.append_right_inj] at same
          rw [same]

/-- The request for the objects under a path that carry some labels. -/
def labeledRequest (path : String) (wanted : Labels) : Request where
  method := .get
  address := ⟨path, [("labelSelector", wanted.selector)]⟩

/-- The selector of some labels can be sent to a path. -/
structure Sendable (path : String) (wanted : Labels) : Prop where
  unmarked : Address.Unmarked path
  isPath : path.toList.all Address.isPathCharacter = true
  fits : (Address.textOf path [("labelSelector", wanted.selector)]).utf8ByteSize ≤ Address.maxSize

theorem Sendable.sent (sendable : Sendable path wanted) :
    Request.to .get (Address.textOf path [("labelSelector", wanted.selector)]) =
      .ok (labeledRequest path wanted) := by
  rw [Request.to, Address.ofText_textOf sendable.unmarked, if_neg (Nat.not_lt.mpr sendable.fits),
    if_pos sendable.isPath]
  rfl

/-- A server that answers with the objects that a request selects, of the namespace in its path or of
all namespaces, unless the request limits their number. -/
structure SelectingServer {α : Type} [ClusterObject α] (collection : Collection α) where
  objects : List α
  body : Request → String
  listed : ∀ request : Request, request.method = .get → request.parameter? "limit" = none →
    ∀ place, request.address.path = collection.pathAt place →
      ∃ listing, (Listing.decoder collection.decoder).parse (body request) = .ok listing ∧
        listing.items = objects.filter fun object =>
          place.all (· == (key object).namespaceName) && request.selects (labels object)

namespace SelectingServer

variable [ClusterObject α] {collection : Collection α} {place : Option String}

/-- The objects of a namespace, or of all of them, that carry some labels. -/
def carriers (server : SelectingServer collection) (place : Option String) (wanted : Labels) :
    List α :=
  server.objects.filter fun object =>
    place.all (· == (key object).namespaceName) && (labels object).carries wanted

def response (server : SelectingServer collection) (request : Request) : Response where
  code := 200
  body := server.body request

/-- Requests are answered, and nothing is read line by line. -/
def Answers (server : SelectingServer collection) (_ : Unit) :
    (call : Call) → call.Answer → Unit → Prop
  | .fetch request, answer, _ => answer = .ok (server.response request)
  | .openLines _, _, _ => False
  | .nextLine _, _, _ => False

theorem decided {server : SelectingServer collection} {start finish later : Unit} {call : Call}
    {answer other : call.Answer} (given : server.Answers start call answer finish)
    (otherGiven : server.Answers start call other later) : other = answer ∧ later = finish := by
  cases call with
  | fetch request => exact ⟨otherGiven.trans given.symm, rfl⟩
  | openLines request => exact given.elim
  | nextLine lines => exact given.elim

/-- Against the server an exchange ends with this value, and cannot end otherwise. -/
def Ends {β : Type} (server : SelectingServer collection) (exchange : Exchange β) (value : β) :
    Prop :=
  ∃ exchanges, exchange.OnlyRun server.Answers () exchanges value ()

theorem goes_fetch {β : Type} (server : SelectingServer collection)
    {read : String → Except Json.ReadError β} {value : β}
    (isRead : read (server.body request) = .ok value) :
    (fetch read (.ok request)).Goes server.Answers ()
      [⟨.fetch request, .ok (server.response request)⟩] (.done (.ok value)) () := by
  have answered : ((bodyOf (.ok (server.response request))).bind fun body =>
      (read body).mapError fun error => ServerError.unreadable error.message) = .ok value := by
    show (read (server.body request)).mapError _ = _
    rw [isRead]
    rfl
  rw [← answered]
  exact .call rfl (.still _ _)

private theorem exists_listing (server : SelectingServer collection) (separable : wanted.Separable)
    (place : Option String) :
    ∃ listing, (Listing.decoder collection.decoder).parse
        (server.body (labeledRequest (collection.pathAt place) wanted)) = .ok listing ∧
      listing.items = server.carriers place wanted := by
  obtain ⟨listing, isListing, items⟩ :=
    server.listed (labeledRequest (collection.pathAt place) wanted) rfl rfl place rfl
  refine ⟨listing, isListing, items.trans ?_⟩
  refine List.filter_congr fun object _ => congrArg _ ?_
  exact selectedBy_selector separable (labels object)

theorem goes_list (server : SelectingServer collection) (separable : wanted.Separable)
    (sendable : Sendable (collection.pathAt place) wanted) :
    ∃ exchanges, (list collection (collection.pathAt place) wanted).Goes server.Answers ()
      exchanges (.done (.ok (server.carriers place wanted))) () := by
  obtain ⟨listing, isListing, items⟩ := server.exists_listing separable place
  unfold list
  rw [sendable.sent, ← items]
  exact ⟨_, (server.goes_fetch isListing).bind⟩

private theorem ends_list {β : Type} (server : SelectingServer collection) (separable : wanted.Separable)
    (place : Option String) (sendable : Sendable (collection.pathAt place) wanted)
    (next : Except ServerError (List α) → β) :
    server.Ends (do return next (← list collection (collection.pathAt place) wanted))
      (next (.ok (server.carriers place wanted))) := by
  obtain ⟨exchanges, goes⟩ := server.goes_list separable sendable
  exact ⟨exchanges, .of_goes decided goes.bind⟩

end SelectingServer

end Api

namespace Labels

open Api (SelectingServer Sendable)

/-- A selector stands for its labels.  Read as a list of demands it gives each label with its value and
nothing else, so other labels have another selector, and an object meets all the demands exactly if it
carries the labels.  Hence a server that selects by the text gives what carries the labels, be it to
who lists the capabilities of one or of all namespaces, or to who looks at what a wait is about; and
every request of a watch selects that as well. -/
theorem selector_stands_for_labels (wanted : Labels) (separable : wanted.Separable) :
    readSelector wanted.selector = wanted.entries.map (fun entry => .equals entry.1 entry.2) ∧
    (∀ other : Labels, other.Separable → other.selector = wanted.selector → other = wanted) ∧
    (∀ actual : Labels, (∀ demand ∈ readSelector wanted.selector, demand.holds actual = true) ↔
      actual.carries wanted = true) ∧
    (∀ server : SelectingServer Api.capabilities,
      (∀ namespaceName, Sendable (Api.capabilities.pathIn namespaceName) wanted →
        server.Ends (Api.listCapabilitiesIn namespaceName wanted)
          (.ok (server.carriers (some namespaceName) wanted))) ∧
      (Sendable Api.capabilities.pathAll wanted →
        server.Ends (Api.listAllCapabilities wanted) (.ok (server.carriers none wanted)))) ∧
    (∀ (α : Type) [ClusterObject α] (collection : Api.Collection α) (namespaceName : String),
      (∀ server : SelectingServer collection, Sendable (collection.pathIn namespaceName) wanted →
        server.Ends (Api.current collection (.labeled namespaceName wanted))
          (.ok (server.carriers (some namespaceName) wanted))) ∧
      (Api.Address.Unmarked (collection.pathIn namespaceName) → ∀ request,
        Api.Watching.Sends collection (.labeled namespaceName wanted) request →
          request.ReadsLabeled (collection.pathIn namespaceName) wanted)) := by
  refine ⟨readSelector_selector separable, fun _ => eq_of_selector_eq separable, ?_, ?_, ?_⟩
  · intro actual
    rw [← selectedBy_selector separable actual, selectedBy, List.all_eq_true]
  · intro server
    refine ⟨fun namespaceName sendable => ?_, fun sendable => ?_⟩
    · exact server.ends_list separable (some namespaceName) sendable Api.orFailure
    · exact server.ends_list separable none sendable Api.orFailure
  · intro α object collection namespaceName
    refine ⟨fun server sendable => ?_, fun unmarked _ sends => sends.readsLabeled separable unmarked⟩
    exact server.ends_list separable (some namespaceName) sendable _

/-- A database of the namespace `retail`. -/
def shopDatabase : Capability where
  metadata :=
    { name := some "shop-db", namespaceName := some "retail"
      labels := some (StringMap.empty.insert Conventions.kindLabel "dbms") }
  spec := { capability := .dbms }

/-- The text of a list of capabilities. -/
def listText (capabilities : List Capability) : String :=
  Json.render (.object [("items", .array (capabilities.map Capability.toJson))])

private theorem exists_listing_of_items {text : String} {items : List Capability}
    (isItems : ((Api.Listing.decoder Capability.decoder).parse text).toOption.map (·.items) =
      some items) :
    ∃ listing, (Api.Listing.decoder Capability.decoder).parse text = .ok listing ∧
      listing.items = items := by
  cases isRead : (Api.Listing.decoder Capability.decoder).parse text with
  | error error =>
      rw [isRead] at isItems
      cases isItems
  | ok listing =>
      rw [isRead] at isItems
      exact ⟨listing, rfl, Option.some.inj isItems⟩

/-- A server in a cluster with one database. -/
def shopServer : SelectingServer Api.capabilities where
  objects := [shopDatabase]
  body request := listText
    (if (request.address.path = Api.capabilities.pathAt none ∨
        request.address.path = Api.capabilities.pathAt (some "retail")) ∧
        request.selects shopDatabase.labels = true then [shopDatabase] else [])
  listed := by
    intro request _ _ place isPath
    have inPlace : (request.address.path = Api.capabilities.pathAt none ∨
        request.address.path = Api.capabilities.pathAt (some "retail")) ↔
          place.all (· == "retail") = true := by
      have samePlace (other : Option String) :
          request.address.path = Api.capabilities.pathAt other ↔ place = other := by
        rw [isPath]
        exact ⟨Api.Collection.eq_of_pathAt_eq, congrArg _⟩
      rw [samePlace, samePlace]
      cases place <;> simp
    rw [List.filter_cons, List.filter_nil]
    simp only [inPlace]
    show ∃ listing, (Api.Listing.decoder Capability.decoder).parse _ = .ok listing ∧
      listing.items =
        if (place.all (· == "retail") && request.selects shopDatabase.labels) = true then _ else _
    by_cases selected :
      place.all (· == "retail") = true ∧ request.selects shopDatabase.labels = true
    · rw [if_pos selected, if_pos (Bool.and_eq_true_iff.mpr selected)]
      exact exists_listing_of_items (by decide +kernel)
    · rw [if_neg selected, if_neg (mt Bool.and_eq_true_iff.mp selected)]
      exact exists_listing_of_items (by decide +kernel)

/-- Whoever asks the server for databases in the namespace is given the one that there is; whoever
asks anywhere for identity providers is given nothing. -/
theorem selector_stands_for_labels_of_shopServer :
    shopServer.Ends
        (Api.listCapabilitiesIn "retail" (StringMap.empty.insert Conventions.kindLabel "dbms"))
        (.ok [shopDatabase]) ∧
      shopServer.Ends
        (Api.listAllCapabilities (StringMap.empty.insert Conventions.kindLabel "sso")) (.ok []) := by
  have databases : Separable (StringMap.empty.insert Conventions.kindLabel "dbms") :=
    ⟨by decide, by decide⟩
  have identities : Separable (StringMap.empty.insert Conventions.kindLabel "sso") :=
    ⟨by decide, by decide⟩
  obtain ⟨_, _, _, stores, _⟩ := selector_stands_for_labels _ databases
  obtain ⟨_, _, _, otherStores, _⟩ := selector_stands_for_labels _ identities
  have sendable : Sendable (Api.capabilities.pathIn "retail")
      (StringMap.empty.insert Conventions.kindLabel "dbms") :=
    ⟨⟨by decide, by decide⟩, by decide, by decide +kernel⟩
  have otherSendable : Sendable Api.capabilities.pathAll
      (StringMap.empty.insert Conventions.kindLabel "sso") :=
    ⟨⟨by decide, by decide⟩, by decide, by decide +kernel⟩
  exact ⟨(stores shopServer).1 "retail" sendable, (otherStores shopServer).2 otherSendable⟩

end Labels

end Provisioning
