import Lifecycle.Document.Snapshot
import Lifecycle.Binary.Snapshot
import Lifecycle.Preflight
import Lifecycle.Scenario.Script

/-!
# Sessions

A session plays through a scenario: a list of commands on named records, against one machine and
one host. Every command has an answer and the events that were logged meanwhile.
-/

namespace Lifecycle

namespace Scenario

/-- A predicate for checks, as data. -/
inductive Rule where
  /-- The action has another name. -/
  | denyAction (name : String)
  /-- The record is in a state. -/
  | stateIs (state : State)
  /-- The record has an attribute. -/
  | hasAttribute (name : String)
  /-- The action drives a transition. -/
  | drivesTransition
  /-- Always. -/
  | allow
  /-- Never. -/
  | deny
deriving DecidableEq, Repr

namespace Rule

/-- Whether the predicate holds. -/
def holds : Rule → Record → Action → Bool
  | denyAction name, _, action => action.name != name
  | stateIs state, record, _ => record.state == state
  | hasAttribute name, record, _ => (record.attribute? name).isSome
  | drivesTransition, _, action => action.transition.isSome
  | allow, _, _ => true
  | deny, _, _ => false

end Rule

/-- A check, as data. -/
inductive CheckPlan where
  /-- The transition check of the machine. -/
  | transition
  /-- A predicate with its description. -/
  | predicate (description : String) (rule : Rule)
deriving DecidableEq, Repr

namespace CheckPlan

/-- The check that is meant. -/
def check (machine : Machine) : CheckPlan → Check
  | transition => .transition machine
  | .predicate description rule => .predicate description rule.holds

/-- The description of a predicate. -/
def description? : CheckPlan → Option String
  | transition => none
  | .predicate description _ => some description

end CheckPlan

/-- Which record of the store is meant. -/
inductive Address where
  /-- The one with an identifier. -/
  | id (id : Uuid)
  /-- The one with the identifier of a named record. -/
  | named (name : String)
deriving DecidableEq, Repr

/-- Which calls of the store an outage concerns. -/
inductive CallKind where
  /-- Saves. -/
  | save
  /-- Loads. -/
  | load
deriving DecidableEq, Repr

/-- One command of a scenario. Where a name is given to keep a record under, that happens when the
command succeeds. -/
inductive Command where
  /-- Create a record, in the default initial state or a chosen one. -/
  | create (state : Option State) (id : Option Uuid) (keep : Option String)
  /-- Read a record from a document. -/
  | parse (document : String) (keep : Option String)
  /-- Give a record a second name. -/
  | copy (record : String) (keep : String)
  /-- Write an attribute of a named record. -/
  | set (record name text : String)
  /-- Save a record. -/
  | save (record : String) (keep : Option String)
  /-- Load a record. -/
  | load (address : Address) (keep : Option String)
  /-- Let the next calls of the store fail. -/
  | outage (kind : CallKind) (count : Nat) (reason : String)
  /-- Ask how many records are stored. -/
  | count
  /-- Ask for the pending record of a transition. -/
  | prepare (record transition : String) (target : State) (keep : Option String)
  /-- Execute a transition. -/
  | execute (record transition : String) (target : State) (script : Script String)
      (context : Context) (keep : Option String)
  /-- Let a record recover from an error. -/
  | onFailure (record : String) (target : State) (error : HostError) (context : Context)
      (keep : Option String)
  /-- Ask checks about an action. -/
  | check (record : String) (action : Action) (checks : List CheckPlan)
  /-- Take a snapshot of a record and restore it. -/
  | snapshot (record : String) (keep : Option String)

/-- What the checks of a command answered. -/
structure CheckAnswer where
  /-- The action. -/
  action : Action
  /-- Each check in words, and whether it allows by itself. -/
  checks : List (String × Bool)
  /-- Whether all checks allow. -/
  allAllow : Bool
  /-- The predicates that were asked to find that out. -/
  asked : List String
  /-- The predicates as they are shown to developers. -/
  debug : List String
deriving DecidableEq, Repr

/-- The answer to a command. -/
inductive Answer where
  /-- No record has the name. -/
  | unknownRecord
  /-- There is nothing to tell. -/
  | done
  /-- A record. -/
  | record (record : Record)
  /-- The state is not initial. -/
  | invalidInitialState (error : InvalidInitialState)
  /-- The document is no record. -/
  | unreadable (error : Json.Error)
  /-- The store refused. -/
  | storeError (error : StoreError)
  /-- The number of stored records. -/
  | count (size : Nat)
  /-- The transition is refused. -/
  | invalidTransition (rejected : InvalidTransition)
  /-- The result of an execution, the stored copy of the record afterwards, and the calls of
  scripts. -/
  | executed (result : Except (ExecutionError HostError) Record) (stored : Option Record)
      (calls : List Call)
  /-- What came of a recovery, whether the context and the one marked as recovering are part of a
  recovery, and the stored copy of the record afterwards. -/
  | recovery (outcome : RecoveryOutcome) (context : Context) (stored : Option Record)
  /-- What the checks said. -/
  | checked (answer : CheckAnswer)
  /-- The restored record, the version of the snapshot, and whether it was restored equal from
  text and from bytes. -/
  | restored (record : Record) (version : UInt32) (fromText fromBytes : Bool)
  /-- The snapshot could not be restored. -/
  | unrestored (error : Snapshot.ReadError)

/-- The state of a session. -/
structure Session where
  /-- The machine that governs the records. -/
  machine : Machine
  /-- The host and the events. -/
  world : World Stage := { host := {} }
  /-- The named records; of two with one name, the first counts. -/
  records : List (String × Record) := []
  /-- The number of records created so far. -/
  created : Nat := 0

namespace Session

/-- The record with a name. -/
def find? (session : Session) (name : String) : Option Record :=
  (session.records.find? fun entry => entry.1 == name).map Prod.snd

/-- Give a record a name. -/
def name (session : Session) (name : String) (record : Record) : Session :=
  { session with records := (name, record) :: session.records }

/-- Give a record a name, if there is one to keep it under. -/
def keep (session : Session) (keep : Option String) (record : Record) : Session :=
  keep.elim session fun name => session.name name record

/-- The stored copy of a record, whatever outages are planned. -/
def stored? (session : Session) (id : Uuid) : Option Record :=
  session.world.host.store.memory.get? id

/-- The identifier of the record with the given number, where none was chosen: a fixed beginning,
and the number in the last group. -/
def numbered (number : Nat) : Uuid :=
  .ofNat (0x00000000000040008000000000000000 + number)

/-- Answer with a record and keep it, or with an error. -/
def answer (session : Session) (result : Except ε Record) (keep : Option String)
    (refusal : ε → Answer) : Answer × Session :=
  match result with
  | .ok record => (.record record, session.keep keep record)
  | .error error => (refusal error, session)

/-- Create a record. -/
def create (session : Session) (state : Option State) (id : Option Uuid)
    (keep : Option String) : Answer × Session :=
  let id := id.getD (numbered (session.created + 1))
  let result : Except InvalidInitialState Record := match state with
    | none => .ok (Record.create session.machine id)
    | some state => Record.createIn session.machine id state
  match result with
  | .ok record =>
    (.record record, { session with created := session.created + 1 }.keep keep record)
  | .error error => (.invalidInitialState error, session)

/-- Plan an outage. -/
def plan (session : Session) (kind : CallKind) (plan : Outages) : Session :=
  let store := session.world.host.store
  let store := match kind with
    | .save => { store with saves := plan }
    | .load => { store with loads := plan }
  { session with world := { session.world with host := { session.world.host with store } } }

/-- Execute a scripted transition. -/
def execute (session : Session) (record : Record) (transition : String) (target : State)
    (script : Script Record) (context : Context) (keep : Option String) : Answer × Session :=
  let host := { session.world.host with calls := [] }
  let (result, world) := session.machine.executeIn context record transition target
    (script.operation session.machine context) { session.world with host }
  let session := { session with world }
  let answer : Answer := .executed result (session.stored? record.id) world.host.calls
  match result with
  | .ok stored => (answer, session.keep keep stored)
  | .error _ => (answer, session)

/-- Let a record recover. -/
def onFailure (session : Session) (record : Record) (target : State) (error : HostError)
    (context : Context) (keep : Option String) : Answer × Session :=
  let (outcome, world) := session.machine.onFailure context record target error session.world
  let session := { session with world }
  let answer : Answer := .recovery outcome context (session.stored? record.id)
  match outcome with
  | .recovered stored => (answer, session.keep keep stored)
  | _ => (answer, session)

/-- Ask checks, each by itself and then all of them. -/
def check (session : Session) (record : Record) (action : Action) (plans : List CheckPlan) :
    Answer × Session :=
  let checks := plans.map (CheckPlan.check session.machine)
  -- every check is asked by itself first, and then those that all of them together need
  let asked := Check.asked record action checks
  let events := (checks ++ asked).flatMap fun check => check.events record action
  let answer : CheckAnswer :=
    { action
      checks := checks.map fun check => (check.describe, check.allows record action)
      allAllow := Check.allAllow checks record action
      asked := (plans.take asked.length).filterMap CheckPlan.description?
      debug := (plans.filterMap CheckPlan.description?).map Check.debug }
  (.checked answer, { session with world := events.foldl World.emit session.world })

/-- Take a snapshot and restore it. -/
def snapshot (session : Session) (record : Record) (keep : Option String) : Answer × Session :=
  let snapshot := Snapshot.take record session.world.now
  let fromText := Snapshot.ofText snapshot.toText
  match Snapshot.ofBytes snapshot.toBytes with
  | .error error => (.unrestored error, session)
  | .ok restored =>
    (.restored restored.record snapshot.version (fromText.toOption == some snapshot)
      (restored == snapshot), session.keep keep restored.record)

/-- Load a record. -/
def load (session : Session) (id : Uuid) (keep : Option String) : Answer × Session :=
  let (answer, world) := session.world.load id
  { session with world }.answer answer keep .storeError

/-- Save a record. -/
def save (session : Session) (record : Record) (keep : Option String) : Answer × Session :=
  let (answer, world) := session.world.save record
  { session with world }.answer answer keep .storeError

/-- Go on with the record of a name. -/
def withRecord (session : Session) (name : String) (go : Record → Answer × Session) :
    Answer × Session :=
  match session.find? name with
  | some record => go record
  | none => (.unknownRecord, session)

/-- Carry out one command. -/
def run (session : Session) : Command → Answer × Session
  | .create state id keep => session.create state id keep
  | .parse document keep => session.answer (Record.format.parse document) keep .unreadable
  | .copy record keep => session.withRecord record fun found =>
    (.record found, session.name keep found)
  | .set record name text => session.withRecord record fun found =>
    let changed := found.setAttribute name text
    (.record changed, session.name record changed)
  | .save record keep => session.withRecord record fun found => session.save found keep
  | .load (.id id) keep => session.load id keep
  | .load (.named record) keep => session.withRecord record fun found =>
    session.load found.id keep
  | .outage kind count reason => (.done, session.plan kind (.next count reason))
  | .count => (.count session.world.host.store.memory.size, session)
  | .prepare record transition target keep => session.withRecord record fun found =>
    session.answer (session.machine.prepare found transition target session.world.now) keep
      .invalidTransition
  | .execute record transition target script context keep =>
    session.withRecord record fun found =>
      match script.lookUp? session.find? with
      | some script => session.execute found transition target script context keep
      | none => (.unknownRecord, session)
  | .onFailure record target error context keep => session.withRecord record fun found =>
    session.onFailure found target error context keep
  | .check record action checks => session.withRecord record fun found =>
    session.check found action checks
  | .snapshot record keep => session.withRecord record fun found =>
    session.snapshot found keep

/-- Carry out one command, and return its answer with the events meanwhile. -/
def step (session : Session) (command : Command) : (Answer × List Event) × Session :=
  let (answer, session) := { session with world := { session.world with log := [] } }.run command
  ((answer, session.world.log), session)

/-- Carry out commands one after the other. -/
def play (session : Session) : List Command → List (Answer × List Event)
  | [] => []
  | command :: commands =>
    let (answer, session) := session.step command
    answer :: session.play commands

end Session

end Scenario

end Lifecycle
