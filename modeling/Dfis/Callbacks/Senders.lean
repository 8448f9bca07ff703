import Dfis.Callbacks.Handler
import Dfis.Network.Client

/-! The server, the threads that send its callbacks, the network and the
clients that listen. A datagram once sent may reach its listener at any later
time, any number of times or never. -/

namespace Dfis

open Base Wire Machine

/-- What is fixed in a run: the semantic of the server and of the clients, the
flights in the file, and which process listens at an address. -/
structure Deployment (Process : Type) where
  semantic : InvocationSemantic
  clientSemantic : InvocationSemantic
  lines : List Flight
  home : SocketAddress → Process

def Deployment.flightsInput {Process : Type} (deployment : Deployment Process) :
    Table Int32 Flight :=
  readFlightsFromFile deployment.lines

/-- The loop of `SendSeatAvailabilityCallbackRequest`: the id drawn, the attempt
it is at, and whether this attempt has sent its datagram and waits. -/
structure Transmission where
  id : UInt64
  attempt : Nat
  within : attempt ≤ retryTimes
  sent : Bool

/-- `++attempt <= retry_times`, or else the loop ends with no response. -/
def Transmission.retry (transmission : Transmission) : Option Transmission :=
  if within : transmission.attempt + 1 ≤ retryTimes then
    some ⟨transmission.id, transmission.attempt + 1, within, false⟩
  else none

/-- Where a thread is; once its loop is left it only writes to its log. -/
inductive Phase where
  | started
  | looping (transmission : Transmission)
  | ended

/-- A `SendSeatAvailabilityCallbackRequest` thread. The number of the execution
that started it is a ghost. -/
structure Sender where
  launch : Launch
  change : Nat
  phase : Phase

/-- A callback as it is sent; the thread and the number of the execution are ghosts. -/
structure Update where
  sender : Nat
  change : Nat
  request : SeatAvailabilityCallbackRequest

/-- `srpc::Marshal<SeatAvailabilityCallbackRequest>{}(req)`. -/
def Update.marshal (srpc : Srpc) (update : Update) : List UInt8 :=
  Message.callbackRequest.marshal srpc update.request

/-- A callback shown to the user; the number of the execution is a ghost. -/
structure Shown where
  change : Nat
  request : SeatAvailabilityCallbackRequest
  deriving DecidableEq

/-- A client process: its history, what it has shown, and as a ghost what has reached it. -/
structure Listener where
  history : CallbackHistory
  presented : List Shown
  arrived : List (Arrival × Update)

def Listener.idle : Listener := ⟨∅, [], []⟩

/-- Everything together. Replies go to the thread that waits for them. The
executions and the calls of `Serve` so far are ghosts. -/
structure Callbacks (srpc : Srpc) (Process : Type) where
  server : State
  senders : List Sender
  sent : List (Datagram (Update.marshal srpc))
  replies : List (Nat × List UInt8)
  listeners : Process → Listener
  log : List Execution
  deliveries : List Delivery

namespace Callbacks

inductive Event where
  /-- A call of `Serve`. -/
  | serve (delivery : Delivery)
  /-- A thread creates its client and draws an id. -/
  | create (index : Nat) (id : UInt64)
  /-- A thread cannot create its client. -/
  | fail (index : Nat)
  /-- `client->SendAndReceive` sends the bytes. -/
  | send (index : Nat)
  /-- `client->SendAndReceive` returns an error. -/
  | timeout (index : Nat)
  /-- `client->SendAndReceive` returns a reply. -/
  | receive (index position : Nat)
  /-- A datagram reaches the listener at its address. -/
  | arrive (position : Nat) (reqLost resLost : Bool)

variable {srpc : Srpc} {Process : Type} [DecidableEq Process]

def start (srpc : Srpc) (deployment : Deployment Process) : Callbacks srpc Process where
  server := .start deployment.flightsInput
  senders := []
  sent := []
  replies := []
  listeners _ := .idle
  log := []
  deliveries := []

/-- One call of `Serve` and the threads it starts. -/
def serve (deployment : Deployment Process) (system : Callbacks srpc Process)
    (delivery : Delivery) : Callbacks srpc Process :=
  let (server, outcome) :=
    Dfis.serve srpc deployment.semantic deployment.flightsInput system.server delivery
  { system with
    server := server
    senders := system.senders ++ outcome.launched.map fun launch =>
      ⟨launch, system.log.length, .started⟩
    log := system.log ++ outcome.executed.toList
    deliveries := system.deliveries ++ [delivery] }

/-- A thread moves on. -/
def setPhase (system : Callbacks srpc Process) (index : Nat) (sender : Sender) (phase : Phase) :
    Callbacks srpc Process :=
  { system with senders := system.senders.set index { sender with phase := phase } }

/-- The callback that a thread sends, on every attempt the same. -/
def Sender.update (sender : Sender) (index : Nat) (id : UInt64) : Update :=
  ⟨index, sender.change, { sender.launch.request with id := id }⟩

def send (system : Callbacks srpc Process) (index : Nat) (sender : Sender)
    (transmission : Transmission) : Callbacks srpc Process :=
  { system.setPhase index sender (.looping { transmission with sent := true }) with
    sent := system.sent ++ (Datagram.of? (Update.marshal srpc) sender.launch.toAddr
      (Sender.update sender index transmission.id)).toList }

/-- The handler runs on a datagram; a reply goes back to the thread that sent it. -/
def arrive (deployment : Deployment Process) (system : Callbacks srpc Process)
    (datagram : Datagram (Update.marshal srpc)) (reqLost resLost : Bool) : Callbacks srpc Process :=
  let process := deployment.home datagram.client
  let listener := system.listeners process
  let arrival : Arrival := ⟨.ok datagram.data, reqLost, resLost⟩
  let (history, handled) :=
    serveSeatAvailabilityCallbacks srpc deployment.clientSemantic listener.history arrival
  { system with
    listeners := Function.update system.listeners process
      { history := history
        presented := listener.presented ++
          (handled.presented.map (Shown.mk datagram.value.change)).toList
        arrived := listener.arrived ++ [(arrival, datagram.value)] }
    replies := system.replies ++ ((handled.reply srpc).map fun bytes =>
      (datagram.value.sender, bytes)).toList }

/-- What an event does; nothing where it cannot happen. -/
def step (deployment : Deployment Process) (system : Callbacks srpc Process) :
    Event → Callbacks srpc Process
  | .serve delivery => system.serve deployment delivery
  | .create index id =>
    match system.senders[index]? with
    | some ⟨launch, change, .started⟩ =>
      system.setPhase index ⟨launch, change, .started⟩
        (.looping ⟨id, 0, Nat.zero_le retryTimes, false⟩)
    | _ => system
  | .fail index =>
    match system.senders[index]? with
    | some ⟨launch, change, .started⟩ => system.setPhase index ⟨launch, change, .started⟩ .ended
    | _ => system
  | .send index =>
    match system.senders[index]? with
    | some ⟨launch, change, .looping ⟨id, attempt, within, false⟩⟩ =>
      system.send index ⟨launch, change, .looping ⟨id, attempt, within, false⟩⟩
        ⟨id, attempt, within, false⟩
    | _ => system
  | .timeout index =>
    match system.senders[index]? with
    | some ⟨launch, change, .looping ⟨id, attempt, within, true⟩⟩ =>
      system.setPhase index ⟨launch, change, .looping ⟨id, attempt, within, true⟩⟩
        (match Transmission.retry ⟨id, attempt, within, true⟩ with
          | some again => .looping again
          | none => .ended)
    | _ => system
  | .receive index position =>
    match system.senders[index]?, system.replies[position]? with
    | some ⟨launch, change, .looping ⟨id, attempt, within, true⟩⟩, some (owner, _) =>
      if owner = index then
        system.setPhase index ⟨launch, change, .looping ⟨id, attempt, within, true⟩⟩ .ended
      else system
    | _, _ => system
  | .arrive position reqLost resLost =>
    match system.sent[position]? with
    | some datagram => system.arrive deployment datagram reqLost resLost
    | none => system

/-- Everything an event can do. -/
inductive Stepped (deployment : Deployment Process) (system : Callbacks srpc Process) :
    Event → Callbacks srpc Process → Prop
  | still (event : Event)
      (quiet : ∀ position reqLost resLost, event = .arrive position reqLost resLost →
        system.sent[position]? = none) : Stepped deployment system event system
  | serve (delivery : Delivery) :
      Stepped deployment system (.serve delivery) (system.serve deployment delivery)
  | moved {event index sender} (phase : Phase)
      (silent : ∀ position reqLost resLost, event ≠ .arrive position reqLost resLost)
      (found : system.senders[index]? = some sender) :
      Stepped deployment system event (system.setPhase index sender phase)
  | send {index sender} (transmission : Transmission)
      (found : system.senders[index]? = some sender) :
      Stepped deployment system (.send index) (system.send index sender transmission)
  | arrive {position reqLost resLost datagram} (found : system.sent[position]? = some datagram) :
      Stepped deployment system (.arrive position reqLost resLost)
        (system.arrive deployment datagram reqLost resLost)

theorem step_stepped (deployment : Deployment Process) (system : Callbacks srpc Process)
    (event : Event) : Stepped deployment system event (system.step deployment event) := by
  cases event with
  | serve delivery => exact .serve delivery
  | create index id =>
    simp only [step]
    split
    · rename_i found
      exact .moved _ (by simp) found
    · exact .still _ (by simp)
  | fail index =>
    simp only [step]
    split
    · rename_i found
      exact .moved _ (by simp) found
    · exact .still _ (by simp)
  | send index =>
    simp only [step]
    split
    · rename_i found
      exact .send _ found
    · exact .still _ (by simp)
  | timeout index =>
    simp only [step]
    split
    · rename_i found
      exact .moved _ (by simp) found
    · exact .still _ (by simp)
  | receive index position =>
    simp only [step]
    split
    · rename_i found _
      split
      · exact .moved _ (by simp) found
      · exact .still _ (by simp)
    · exact .still _ (by simp)
  | arrive position reqLost resLost =>
    simp only [step]
    split
    · rename_i found
      exact .arrive found
    · rename_i nothing
      refine .still _ fun other lost lost' same => ?_
      rw [← (Event.arrive.inj same).1, nothing]

/-- The system as a machine; what there is to see is in the state. -/
def machine (srpc : Srpc) (deployment : Deployment Process) :
    Machine (Callbacks srpc Process) Event Unit :=
  fun system event => (system.step deployment event, ())

end Callbacks

end Dfis
