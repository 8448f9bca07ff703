import Dfis.Network.Client

/-! Clients, the server and the network between them. A datagram once sent may
reach its receiver at any later time, any number of times or never. -/

namespace Dfis

open Base Wire Machine

/-- The clients by their addresses, the server, and everything sent so far. The
last three fields are ghosts: the commands issued, the calls of `Serve`, and
the responses that `SendAndReceive` returned, as answers to their commands. -/
structure Network (srpc : Srpc) where
  clients : SocketAddress → Client srpc
  server : State
  requests : List (Datagram (Command.marshal srpc))
  responses : List (Datagram (Sent.marshal srpc))
  launched : List Launch
  issued : List Command
  deliveries : List Delivery
  returned : List Answer

inductive Event where
  /-- An idle client enters `SendAndReceive` with an id that no command has had. -/
  | issue (client : SocketAddress) (kind : Kind) (req : kind.Request) (id : UInt64)
  /-- `client->SendAndReceive` sends the bytes. -/
  | send (client : SocketAddress)
  /-- `client->SendAndReceive` returns an error. -/
  | timeout (client : SocketAddress)
  /-- `client->SendAndReceive` returns the next datagram queued. -/
  | receive (client : SocketAddress)
  /-- A request datagram reaches `Serve`. -/
  | serve (position : Nat) (now : TimePoint) (reqLost resLost : Bool)
  /-- `Serve` is called with an error of the socket. -/
  | fail (fromAddr : SocketAddress) (message : Text) (now : TimePoint)
  /-- A thread that `Serve` has started sends its callback. -/
  | callback (position : Nat) (id : UInt64)
  /-- A datagram reaches the socket of its client. -/
  | arrive (position : Nat)

namespace Network

variable {srpc : Srpc}

def start (srpc : Srpc) : Network srpc where
  clients _ := .idle srpc
  server := .zero
  requests := []
  responses := []
  launched := []
  issued := []
  deliveries := []
  returned := []

/-- The client at this address moves on. -/
def setClient (network : Network srpc) (address : SocketAddress) (client : Client srpc) :
    Network srpc :=
  { network with clients := Function.update network.clients address client }

theorem setClient_self (network : Network srpc) (address : SocketAddress) (client : Client srpc) :
    (network.setClient address client).clients address = client :=
  Function.update_self _ _ _

theorem setClient_other (network : Network srpc) {address other : SocketAddress}
    (different : other ≠ address) (client : Client srpc) :
    (network.setClient address client).clients other = network.clients other :=
  Function.update_of_ne different _ _

def issue (network : Network srpc) (address : SocketAddress) (command : Command) : Network srpc :=
  { network.setClient address { network.clients address with exchange := some (.start command) } with
    issued := network.issued ++ [command] }

def send (network : Network srpc) (address : SocketAddress) (exchange : Exchange) : Network srpc :=
  { network.setClient address
      { network.clients address with exchange := some { exchange with sent := true } } with
    requests := network.requests ++
      (Datagram.of? (Command.marshal srpc) address exchange.command).toList }

def timeout (network : Network srpc) (address : SocketAddress) (exchange : Exchange) :
    Network srpc :=
  network.setClient address { network.clients address with exchange := exchange.retry }

/-- The command that a client waits for, the datagram it is about to get and the ones behind. -/
def pending (network : Network srpc) (address : SocketAddress) :
    Option (Command × Datagram (Sent.marshal srpc) × List (Datagram (Sent.marshal srpc))) :=
  match (network.clients address).exchange, (network.clients address).queue with
  | some ⟨command, _, _, true⟩, datagram :: queue => some (command, datagram, queue)
  | _, _ => none

theorem pending_queue {network : Network srpc} {address : SocketAddress}
    (waiting : network.pending address = some (command, datagram, queue)) :
    (network.clients address).queue = datagram :: queue := by
  unfold pending at waiting
  split at waiting
  · rename_i queued
    cases waiting
    exact queued
  · cases waiting

/-- The loop is left with these bytes, and what they decode to is returned. -/
def receive (network : Network srpc) (address : SocketAddress) (command : Command)
    (datagram : Datagram (Sent.marshal srpc)) (queue : List (Datagram (Sent.marshal srpc))) :
    Network srpc :=
  { network.setClient address ⟨none, queue⟩ with
    returned := network.returned ++
      ((command.unmarshalResponse srpc datagram.data).map fun res =>
        (⟨command.kind, command.request, res⟩ : Answer)).toList }

/-- One call of `Serve`; a reply goes to where the request came from. -/
def serve (semantic : InvocationSemantic) (flightsInput : Table Int32 Flight)
    (network : Network srpc) (delivery : Delivery) : Network srpc :=
  let (server, outcome) := Dfis.serve srpc semantic flightsInput network.server delivery
  { network with
    server := server
    responses := network.responses ++ (outcome.answer.bind fun answer =>
      Datagram.of? (Sent.marshal srpc) delivery.fromAddr (.reply answer)).toList
    launched := network.launched ++ outcome.launched
    deliveries := network.deliveries ++ [delivery] }

theorem serve_responses (semantic : InvocationSemantic) (flightsInput : Table Int32 Flight)
    (network : Network srpc) (delivery : Delivery) :
    (network.serve semantic flightsInput delivery).responses = network.responses ++
      ((Dfis.serve srpc semantic flightsInput network.server delivery).2.answer.bind fun answer =>
        Datagram.of? (Sent.marshal srpc) delivery.fromAddr (.reply answer)).toList :=
  rfl

def callback (network : Network srpc) (launch : Launch) (id : UInt64) : Network srpc :=
  { network with
    responses := network.responses ++ (Datagram.of? (Sent.marshal srpc) launch.toAddr
      (.callback { launch.request with id := id })).toList }

def arrive (network : Network srpc) (datagram : Datagram (Sent.marshal srpc)) : Network srpc :=
  network.setClient datagram.client
    { network.clients datagram.client with
      queue := (network.clients datagram.client).queue ++ [datagram] }

/-- What an event does; nothing where it cannot happen. -/
def step (semantic : InvocationSemantic) (flightsInput : Table Int32 Flight)
    (network : Network srpc) : Event → Network srpc
  | .issue address kind req id =>
    if (network.clients address).exchange.isNone ∧ id ∉ network.issued.map Command.id then
      network.issue address ⟨kind, kind.identify req id⟩
    else network
  | .send address =>
    match (network.clients address).exchange with
    | some ⟨command, attempt, within, false⟩ => network.send address ⟨command, attempt, within, false⟩
    | _ => network
  | .timeout address =>
    match (network.clients address).exchange with
    | some ⟨command, attempt, within, true⟩ => network.timeout address ⟨command, attempt, within, true⟩
    | _ => network
  | .receive address =>
    match network.pending address with
    | some (command, datagram, queue) => network.receive address command datagram queue
    | none => network
  | .serve position now reqLost resLost =>
    match network.requests[position]? with
    | some datagram =>
      network.serve semantic flightsInput ⟨datagram.client, .ok datagram.data, now, reqLost, resLost⟩
    | none => network
  | .fail fromAddr message now =>
    network.serve semantic flightsInput ⟨fromAddr, .error message, now, false, false⟩
  | .callback position id =>
    match network.launched[position]? with
    | some launch => network.callback launch id
    | none => network
  | .arrive position =>
    match network.responses[position]? with
    | some datagram => network.arrive datagram
    | none => network

/-- Everything an event can do. -/
inductive Stepped (semantic : InvocationSemantic) (flightsInput : Table Int32 Flight)
    (network : Network srpc) : Event → Network srpc → Prop
  | still (event : Event)
      (quiet : ∀ address, event = .receive address → network.pending address = none) :
      Stepped semantic flightsInput network event network
  | issue {address kind req id} (fresh : id ∉ network.issued.map Command.id) :
      Stepped semantic flightsInput network (.issue address kind req id)
        (network.issue address ⟨kind, kind.identify req id⟩)
  | send {address exchange} (calling : (network.clients address).exchange = some exchange) :
      Stepped semantic flightsInput network (.send address) (network.send address exchange)
  | timeout {address exchange} (calling : (network.clients address).exchange = some exchange) :
      Stepped semantic flightsInput network (.timeout address) (network.timeout address exchange)
  | receive {address command datagram queue}
      (waiting : network.pending address = some (command, datagram, queue)) :
      Stepped semantic flightsInput network (.receive address)
        (network.receive address command datagram queue)
  | serve {event} (delivery : Delivery) (calls : ∀ address, event ≠ .receive address)
      (requested : ∀ data, delivery.reqData = .ok data →
        ∃ datagram ∈ network.requests, datagram.data = data) :
      Stepped semantic flightsInput network event (network.serve semantic flightsInput delivery)
  | callback {position id} (launch : Launch) :
      Stepped semantic flightsInput network (.callback position id) (network.callback launch id)
  | arrive {position datagram} (sent : datagram ∈ network.responses) :
      Stepped semantic flightsInput network (.arrive position) (network.arrive datagram)

theorem step_stepped (semantic : InvocationSemantic) (flightsInput : Table Int32 Flight)
    (network : Network srpc) (event : Event) :
    Stepped semantic flightsInput network event (network.step semantic flightsInput event) := by
  cases event with
  | issue address kind req id =>
    simp only [step]
    split
    · rename_i free
      exact .issue free.2
    · exact .still _ (by simp)
  | send address =>
    simp only [step]
    split
    · rename_i calling
      exact .send calling
    · exact .still _ (by simp)
  | timeout address =>
    simp only [step]
    split
    · rename_i calling
      exact .timeout calling
    · exact .still _ (by simp)
  | receive address =>
    simp only [step]
    split
    · rename_i waiting
      exact .receive waiting
    · rename_i quiet
      exact .still _ fun other same => Event.receive.inj same ▸ quiet
  | serve position now reqLost resLost =>
    simp only [step]
    split
    · rename_i datagram found
      refine .serve _ (by simp) fun data same => ?_
      exact ⟨datagram, List.mem_of_getElem? found, Except.ok.inj same⟩
    · exact .still _ (by simp)
  | fail fromAddr message now =>
    simp only [step]
    refine .serve _ ?_ ?_
    · exact fun address same => by cases same
    · exact fun data same => by cases same
  | callback position id =>
    simp only [step]
    split
    · exact .callback _
    · exact .still _ (by simp)
  | arrive position =>
    simp only [step]
    split
    · rename_i found
      exact .arrive (List.mem_of_getElem? found)
    · exact .still _ (by simp)

/-- The network as a machine; what there is to see is in the state. -/
def machine (srpc : Srpc) (semantic : InvocationSemantic) (flightsInput : Table Int32 Flight) :
    Machine (Network srpc) Event Unit :=
  fun network event => (network.step semantic flightsInput event, ())

end Network

end Dfis
