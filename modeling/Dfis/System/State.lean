import Dfis.Callbacks.Order
import Dfis.Client.Script
import Dfis.Network.Agreement

/-! The whole system: clients with their consoles, the server with its threads,
and the listeners. It is the network and the callbacks side by side, with every
call of `Serve` and every datagram of a thread made in both. -/

namespace Dfis

open Base Wire Machine

/-- What is fixed in a run: a deployment whose processes are the clients by
their addresses, what is typed at their consoles, and what the memory of a
request's id happens to hold. -/
structure Setting extends Deployment SocketAddress where
  stdin : SocketAddress → Text
  unset : UInt64

/-- Where the main thread of a client is. -/
inductive Stage where
  /-- In the loop of `main`, `SendAndReceive` included. -/
  | menu
  /-- About to create the server for the callbacks at this port. -/
  | opening (port : UInt16) (monitorEnd : Int64)
  | sleeping (monitorEnd : Int64)
  | exited
  deriving DecidableEq

/-- The main thread of a client, with the lines it has not read yet. -/
structure Main where
  stage : Stage
  lines : List Text
  firstLaunch : Bool

/-- What a `SendSeatAvailabilityCallbackRequest` thread writes in the end. -/
inductive Report where
  | noClient
  | noResponse
  | invalidResponse
  | nonZeroStatus (statusCode : Int32)
  | received
  deriving DecidableEq

/-- What it makes of the bytes it receives. -/
def Report.ofReply (srpc : Srpc) (respBytes : Span) : Report :=
  match value? (Message.callbackResponse.unmarshal srpc respBytes) with
  | none => .invalidResponse
  | some resp => if resp.statusCode ≠ 0 then .nonZeroStatus resp.statusCode else .received

/-- The terminals that issued the commands are a ghost. -/
structure System (srpc : Srpc) where
  network : Network srpc
  callbacks : Callbacks srpc SocketAddress
  mains : SocketAddress → Main
  listening : List SocketAddress
  issuedBy : List (SocketAddress × Command)
  reports : List (Nat × Report)

namespace System

inductive Event where
  /-- A client reads its console up to the next request, which gets an id that no command has had. -/
  | type (address : SocketAddress) (id : UInt64)
  /-- `client->SendAndReceive` of a client sends, returns an error, or returns a datagram. -/
  | send (address : SocketAddress)
  | timeout (address : SocketAddress)
  | receive (address : SocketAddress)
  /-- A client creates the server for its callbacks, or fails to. -/
  | listen (address : SocketAddress) (created : Bool)
  /-- The clock of a client shows this time. -/
  | wake (address : SocketAddress) (now : TimePoint)
  /-- `Serve` is called with a request or with an error of the socket. -/
  | serve (position : Nat) (now : TimePoint) (reqLost resLost : Bool)
  | fail (fromAddr : SocketAddress) (message : Text) (now : TimePoint)
  /-- A thread creates its client, or fails to. -/
  | create (index : Nat) (id : UInt64)
  | refuse (index : Nat)
  /-- `client->SendAndReceive` of a thread sends, returns an error, or returns a reply. -/
  | transmit (index : Nat)
  | expire (index : Nat)
  | acknowledge (index position : Nat)
  /-- A datagram reaches the socket of a client's main thread. -/
  | arrive (position : Nat)
  /-- A callback reaches a socket that listens. -/
  | present (position : Nat) (reqLost resLost : Bool)

variable {srpc : Srpc}

def start (srpc : Srpc) (setting : Setting) : System srpc where
  network := .start srpc
  callbacks := .start srpc setting.toDeployment
  mains address := ⟨.menu, Input.getlines (setting.stdin address), true⟩
  listening := []
  issuedBy := []
  reports := []

/-- The command that is issued for a request typed. -/
def identified (typed : Command) (id : UInt64) : Command :=
  ⟨typed.kind, typed.kind.identify typed.request id⟩

def setMain (system : System srpc) (address : SocketAddress) (main : Main) : System srpc :=
  { system with mains := Function.update system.mains address main }

/-- An event of the network alone. -/
def onNetwork (setting : Setting) (system : System srpc) (event : Dfis.Event) : System srpc :=
  { system with network := system.network.step setting.semantic setting.flightsInput event }

/-- An event of the callbacks alone. -/
def onCallbacks (setting : Setting) (system : System srpc) (event : Callbacks.Event) : System srpc :=
  { system with callbacks := system.callbacks.step setting.toDeployment event }

/-- The request typed goes to `SendAndReceive`. -/
def issue (setting : Setting) (system : System srpc) (address : SocketAddress) (typed : Command)
    (id : UInt64) (rest : List Text) : System srpc :=
  { (system.onNetwork setting (.issue address typed.kind typed.request id)).setMain address
      ⟨.menu, rest, false⟩ with
    issuedBy := system.issuedBy ++ [(address, identified typed id)] }

/-- Where the main thread is once `SendAndReceive` has returned this. -/
def stageAfter : (command : Command) → Option command.kind.Response → Stage
  | ⟨.seatAvailabilityMonitoring, req⟩, some res => .opening req.port res.monitorEnd
  | ⟨.seatAvailabilityMonitoring, _⟩, none => .menu
  | ⟨.flightSearch, _⟩, _ | ⟨.flightInfo, _⟩, _ | ⟨.seatReservation, _⟩, _
  | ⟨.priceRangeSearch, _⟩, _ | ⟨.seatReservationCancellation, _⟩, _ => .menu

theorem stageAfter_cases (command : Command) (res? : Option command.kind.Response) :
    stageAfter command res? = .menu ∨
      ∃ port monitorEnd, stageAfter command res? = .opening port monitorEnd := by
  unfold stageAfter
  split
  · exact .inr ⟨_, _, rfl⟩
  all_goals exact .inl rfl

theorem stageAfter_running (command : Command) (res? : Option command.kind.Response) :
    stageAfter command res? ≠ .exited := by
  rcases stageAfter_cases command res? with same | ⟨port, monitorEnd, same⟩ <;> simp [same]

def receive (setting : Setting) (system : System srpc) (address : SocketAddress)
    (command : Command) (datagram : Datagram (Sent.marshal srpc)) : System srpc :=
  (system.onNetwork setting (.receive address)).setMain address
    { system.mains address with
      stage := stageAfter command (command.unmarshalResponse srpc datagram.data) }

/-- The socket at which a client listens. -/
def socketAt (address : SocketAddress) (port : UInt16) : SocketAddress := { address with port := port }

/-- The server for the callbacks is created. -/
def opened (system : System srpc) (address : SocketAddress) (port : UInt16) (monitorEnd : Int64) :
    System srpc :=
  { system.setMain address { system.mains address with stage := .sleeping monitorEnd } with
    listening := system.listening ++ [socketAt address port] }

/-- A call of `Serve`, by an event of the network. -/
def serve (setting : Setting) (system : System srpc) (event : Dfis.Event) (delivery : Delivery) :
    System srpc :=
  (system.onNetwork setting event).onCallbacks setting (.serve delivery)

/-- A thread ends with this report. -/
def report (system : System srpc) (index : Nat) (report : Report) : System srpc :=
  { system with reports := system.reports ++ [(index, report)] }

/-- What an event does; nothing where it cannot happen. -/
def step (setting : Setting) (system : System srpc) : Event → System srpc
  | .type address id =>
    if (system.mains address).stage = .menu ∧ (system.network.clients address).exchange.isNone ∧
        id ∉ system.network.issued.map Command.id then
      match nextRequest setting.unset (system.mains address).firstLaunch
          (system.mains address).lines with
      | (some typed, rest, _) => system.issue setting address typed id rest
      | (none, rest, _) => system.setMain address ⟨.exited, rest, false⟩
    else system
  | .send address => system.onNetwork setting (.send address)
  | .timeout address => system.onNetwork setting (.timeout address)
  | .receive address =>
    match system.network.pending address with
    | some (command, datagram, _) =>
      if (system.mains address).stage = .menu then
        system.receive setting address command datagram
      else system
    | none => system
  | .listen address created =>
    match (system.mains address).stage with
    | .opening port monitorEnd =>
      if created ∧ setting.home (socketAt address port) = address then
        system.opened address port monitorEnd
      else system.setMain address { system.mains address with stage := .menu }
    | _ => system
  | .wake address now =>
    match (system.mains address).stage with
    | .sleeping monitorEnd =>
      if monitorEnd.toInt * 1000000000 ≤ now then
        system.setMain address { system.mains address with stage := .menu }
      else system
    | _ => system
  | .serve position now reqLost resLost =>
    match system.network.requests[position]? with
    | some datagram =>
      system.serve setting (.serve position now reqLost resLost)
        ⟨datagram.client, .ok datagram.data, now, reqLost, resLost⟩
    | none => system
  | .fail fromAddr message now =>
    system.serve setting (.fail fromAddr message now) ⟨fromAddr, .error message, now, false, false⟩
  | .create index id => system.onCallbacks setting (.create index id)
  | .refuse index =>
    match system.callbacks.senders[index]? with
    | some ⟨_, _, .started⟩ => (system.onCallbacks setting (.fail index)).report index .noClient
    | _ => system
  | .transmit index =>
    match system.callbacks.senders[index]? with
    | some ⟨_, _, .looping ⟨id, _, _, false⟩⟩ =>
      (system.onCallbacks setting (.send index)).onNetwork setting (.callback index id)
    | _ => system
  | .expire index =>
    match system.callbacks.senders[index]? with
    | some ⟨_, _, .looping ⟨id, attempt, within, true⟩⟩ =>
      let next := system.onCallbacks setting (.timeout index)
      if (Transmission.retry ⟨id, attempt, within, true⟩).isNone then next.report index .noResponse
      else next
    | _ => system
  | .acknowledge index position =>
    match system.callbacks.senders[index]?, system.callbacks.replies[position]? with
    | some ⟨_, _, .looping ⟨_, _, _, true⟩⟩, some (owner, bytes) =>
      -- A reply that no memory holds is not received.
      if fits : owner = index ∧ bytes.length < 2 ^ 63 then
        (system.onCallbacks setting (.receive index position)).report index
          (.ofReply srpc ⟨bytes, fits.2⟩)
      else system
    | _, _ => system
  | .arrive position => system.onNetwork setting (.arrive position)
  | .present position reqLost resLost =>
    match system.callbacks.sent[position]? with
    | some datagram =>
      if datagram.client ∈ system.listening ∧
          (system.mains (setting.home datagram.client)).stage ≠ .exited then
        system.onCallbacks setting (.arrive position reqLost resLost)
      else system
    | none => system

/-- Everything an event can do. -/
inductive Stepped (setting : Setting) (system : System srpc) : System srpc → Prop
  | still : Stepped setting system system
  | typed {address typed id rest written} (menu : (system.mains address).stage = .menu)
      (idle : (system.network.clients address).exchange.isNone = true)
      (fresh : id ∉ system.network.issued.map Command.id)
      (next : nextRequest setting.unset (system.mains address).firstLaunch
        (system.mains address).lines = (some typed, rest, written)) :
      Stepped setting system (system.issue setting address typed id rest)
  | exits {address rest written} (menu : (system.mains address).stage = .menu)
      (idle : (system.network.clients address).exchange.isNone = true)
      (next : nextRequest setting.unset (system.mains address).firstLaunch
        (system.mains address).lines = (none, rest, written)) :
      Stepped setting system (system.setMain address ⟨.exited, rest, false⟩)
  | called {event address} (calls : event = .send address ∨ event = .timeout address) :
      Stepped setting system (system.onNetwork setting event)
  | received {address command datagram queue}
      (waiting : system.network.pending address = some (command, datagram, queue))
      (menu : (system.mains address).stage = .menu) :
      Stepped setting system (system.receive setting address command datagram)
  | opened {address port monitorEnd}
      (opening : (system.mains address).stage = .opening port monitorEnd)
      (home : setting.home (socketAt address port) = address) :
      Stepped setting system (system.opened address port monitorEnd)
  | returned {address} (waited : (system.mains address).stage ≠ .exited) :
      Stepped setting system (system.setMain address { system.mains address with stage := .menu })
  | served {event delivery}
      (serves : system.network.step setting.semantic setting.flightsInput event =
        system.network.serve setting.semantic setting.flightsInput delivery)
      (noIssue : ∀ address kind req id, event ≠ .issue address kind req id) :
      Stepped setting system (system.serve setting event delivery)
  | moved {event index} (moves : (∃ id, event = .create index id) ∨ event = .timeout index) :
      Stepped setting system (system.onCallbacks setting event)
  | gaveUp {event index report} (moves : event = .fail index ∨ event = .timeout index)
      (failed : report = .noClient ∨ report = .noResponse) :
      Stepped setting system ((system.onCallbacks setting event).report index report)
  | acknowledged {index position sender bytes}
      (found : system.callbacks.senders[index]? = some sender)
      (replied : system.callbacks.replies[position]? = some (index, bytes))
      (fits : bytes.length < 2 ^ 63) :
      Stepped setting system ((system.onCallbacks setting (.receive index position)).report index
        (.ofReply srpc ⟨bytes, fits⟩))
  | transmitted {index launch change id attempt within}
      (found : system.callbacks.senders[index]? =
        some ⟨launch, change, .looping ⟨id, attempt, within, false⟩⟩) :
      Stepped setting system
        ((system.onCallbacks setting (.send index)).onNetwork setting (.callback index id))
  | arrived {position} : Stepped setting system (system.onNetwork setting (.arrive position))
  | presented {position reqLost resLost datagram}
      (found : system.callbacks.sent[position]? = some datagram)
      (listening : datagram.client ∈ system.listening) :
      Stepped setting system (system.onCallbacks setting (.arrive position reqLost resLost))

theorem step_stepped (setting : Setting) (system : System srpc) (event : Event) :
    Stepped setting system (system.step setting event) := by
  cases event with
  | type address id =>
    simp only [step]
    split
    · rename_i ready
      split
      · rename_i next
        exact .typed ready.1 ready.2.1 ready.2.2 next
      · rename_i next
        exact .exits ready.1 ready.2.1 next
    · exact .still
  | send address => exact .called (.inl rfl)
  | timeout address => exact .called (.inr rfl)
  | receive address =>
    simp only [step]
    split
    · rename_i waiting
      split
      · rename_i menu
        exact .received waiting menu
      · exact .still
    · exact .still
  | listen address created =>
    simp only [step]
    split
    · rename_i opening
      split
      · rename_i home
        exact .opened opening home.2
      · exact .returned (by simp [opening])
    · exact .still
  | wake address now =>
    simp only [step]
    split
    · rename_i sleeping
      split
      · exact .returned (by simp [sleeping])
      · exact .still
    · exact .still
  | serve position now reqLost resLost =>
    simp only [step]
    split
    · rename_i found
      exact .served (by simp only [Network.step, found]) (by simp)
    · exact .still
  | fail fromAddr message now => exact .served rfl (by simp)
  | create index id => exact .moved (.inl ⟨id, rfl⟩)
  | refuse index =>
    simp only [step]
    split
    · exact .gaveUp (.inl rfl) (.inl rfl)
    · exact .still
  | transmit index =>
    simp only [step]
    split
    · rename_i found
      exact .transmitted found
    · exact .still
  | expire index =>
    simp only [step]
    split
    · split
      · exact .gaveUp (.inr rfl) (.inr rfl)
      · exact .moved (.inr rfl)
    · exact .still
  | acknowledge index position =>
    simp only [step]
    split
    · rename_i found replied
      split
      · rename_i fits
        obtain ⟨rfl, small⟩ := fits
        exact .acknowledged found replied small
      · exact .still
    · exact .still
  | arrive position => exact .arrived
  | present position reqLost resLost =>
    simp only [step]
    split
    · rename_i found
      split
      · rename_i listening
        exact .presented found listening.1
      · exact .still
    · exact .still

/-- The system as a machine; what there is to see is in the state. -/
def machine (srpc : Srpc) (setting : Setting) : Machine (System srpc) Event Unit :=
  fun system event => (system.step setting event, ())

end System

end Dfis
