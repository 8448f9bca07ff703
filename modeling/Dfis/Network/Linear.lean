import Dfis.Base.Linearize
import Dfis.Network.Agreement

/-! Under at-most-once the server is linearizable: what the clients see is
explained by its log, the handlers run on one store in the order of the log. -/

namespace Dfis

open Base Wire Machine

/-- The handlers as an object that serves one request after the other. -/
def handlers : Machine Store Call Answer := fun store call =>
  ((call.execute store).store, (call.execute store).answer)

section Replay

variable (srpc : Srpc) (semantic : InvocationSemantic) (flightsInput : Table Int32 Flight)

/-- Running the handlers over the requests of the log gives the answers of the log. -/
theorem executions_replayed (deliveries : List Delivery) :
    after handlers ⟨flightsInput, ∅, ∅⟩
        ((executions srpc semantic flightsInput deliveries).map Execution.toCall) =
        (reached srpc semantic flightsInput deliveries).store ∧
      outputs handlers ⟨flightsInput, ∅, ∅⟩
        ((executions srpc semantic flightsInput deliveries).map Execution.toCall) =
        (executions srpc semantic flightsInput deliveries).map Execution.answer := by
  refine executions_induct srpc semantic flightsInput (P := fun store log =>
    after handlers ⟨flightsInput, ∅, ∅⟩ (log.map Execution.toCall) = store ∧
      outputs handlers ⟨flightsInput, ∅, ∅⟩ (log.map Execution.toCall) = log.map Execution.answer)
    ⟨rfl, rfl⟩ ?_ deliveries
  rintro store log call ⟨replayed, answers⟩ -
  rw [List.map_append, List.map_singleton, after_snoc, outputs_snoc, replayed, answers,
    List.map_append]
  exact ⟨rfl, rfl⟩

end Replay

namespace Network

variable {srpc : Srpc} (semantic : InvocationSemantic) (flightsInput : Table Int32 Flight)

/-- What the clients see as the network moves on: the commands issued since, the answers returned since. -/
def shows (network next : Network srpc) : List (Action Command Answer) :=
  (next.issued.drop network.issued.length).map .invoke ++
    (next.returned.drop network.returned.length).map fun answer => .respond answer.command answer

/-- The network as a machine that shows what its clients see. -/
def observed (srpc : Srpc) : Machine (Network srpc) Event (List (Action Command Answer)) :=
  fun network event =>
    (network.step semantic flightsInput event,
      network.shows (network.step semantic flightsInput event))

/-- The history of the clients in a run. -/
def history (srpc : Srpc) (events : List Event) : List (Action Command Answer) :=
  (outputs (observed semantic flightsInput srpc) (.start srpc) events).flatten

theorem after_observed (network : Network srpc) (events : List Event) :
    after (observed semantic flightsInput srpc) network events =
      after (machine srpc semantic flightsInput) network events := by
  induction events generalizing network with
  | nil => rfl
  | cons event events ih => exact ih _

theorem history_snoc (srpc : Srpc) (events : List Event) (event : Event) :
    history semantic flightsInput srpc (events ++ [event]) =
      history semantic flightsInput srpc events ++
        (after (machine srpc semantic flightsInput) (.start srpc) events).shows
          ((after (machine srpc semantic flightsInput) (.start srpc) events).step semantic
            flightsInput event) := by
  rw [history, history, outputs_snoc, List.flatten_concat, after_observed]
  rfl

variable {semantic flightsInput} {network next : Network srpc}

theorem shows_nothing (issued : next.issued = network.issued)
    (returned : next.returned = network.returned) : network.shows next = [] := by
  simp [shows, issued, returned]

/-- The clients' history and the log of the server as long as nothing stale was read. -/
structure Explained (flightsInput : Table Int32 Flight) (network : Network srpc)
    (history : List (Action Command Answer)) : Prop where
  sound : network.Sound .atMostOnce flightsInput
  agrees : network.Agrees .atMostOnce flightsInput
  invoked : ∀ command, .invoke command ∈ history ↔ command ∈ network.issued
  linear : Linearization handlers ⟨flightsInput, ∅, ∅⟩ Call.command history
    ((network.log .atMostOnce flightsInput).map Execution.toCall)

namespace Explained

variable {history : List (Action Command Answer)}

theorem quiet (explained : network.Explained flightsInput history)
    (sound : next.Sound .atMostOnce flightsInput) (agrees : next.Agrees .atMostOnce flightsInput)
    (issued : next.issued = network.issued) (returned : next.returned = network.returned)
    (delivered : next.deliveries = network.deliveries) :
    next.Explained flightsInput (history ++ network.shows next) := by
  rw [shows_nothing issued returned, List.append_nil]
  refine ⟨sound, agrees, issued ▸ explained.invoked, ?_⟩
  rw [log, delivered]
  exact explained.linear

theorem issue (explained : network.Explained flightsInput history) {command : Command}
    (address : SocketAddress) (fresh : command.id ∉ network.issued.map Command.id)
    (sound : (network.issue address command).Sound .atMostOnce flightsInput)
    (agrees : (network.issue address command).Agrees .atMostOnce flightsInput) :
    (network.issue address command).Explained flightsInput
      (history ++ network.shows (network.issue address command)) := by
  have shown : network.shows (network.issue address command) = [.invoke command] := by
    simp [shows, Network.issue, setClient]
  rw [shown]
  refine ⟨sound, agrees, ?_, explained.linear.invoke ?_⟩
  · intro other
    have issued : (network.issue address command).issued = network.issued ++ [command] := rfl
    simp [issued, explained.invoked]
  · intro served
    obtain ⟨call, listed, rfl⟩ := List.mem_map.mp served
    have known := (explained.invoked _).mp (explained.linear.invoked call listed)
    exact fresh (List.mem_map_of_mem known)

theorem receive (explained : network.Explained flightsInput history) {address : SocketAddress}
    {command : Command} {datagram : Datagram (Sent.marshal srpc)}
    {queue : List (Datagram (Sent.marshal srpc))}
    (sound : (network.receive address command datagram queue).Sound .atMostOnce flightsInput)
    (agrees : (network.receive address command datagram queue).Agrees .atMostOnce flightsInput) :
    (network.receive address command datagram queue).Explained flightsInput
      (history ++ network.shows (network.receive address command datagram queue)) := by
  cases decoded : command.unmarshalResponse srpc datagram.data with
  | none =>
    refine explained.quiet sound agrees rfl ?_ rfl
    simp [Network.receive, decoded]
  | some res =>
    set answer : Answer := ⟨command.kind, command.request, res⟩ with answered
    have returned : (network.receive address command datagram queue).returned =
        network.returned ++ [answer] := by
      simp [Network.receive, decoded, answered]
    have shown : network.shows (network.receive address command datagram queue) =
        [.respond answer.command answer] := by
      have issued : (network.receive address command datagram queue).issued = network.issued := rfl
      simp [shows, issued, returned]
    obtain ⟨⟨before, execution, behind, split, computed, -⟩, -⟩ := agrees answer (by simp [returned])
    have logged : network.log .atMostOnce flightsInput = before ++ execution :: behind := split
    have replayed := (executions_replayed srpc .atMostOnce flightsInput network.deliveries).2
    have served : (handlers (after handlers ⟨flightsInput, ∅, ∅⟩ (before.map Execution.toCall))
        execution.toCall).2 = answer := by
      rw [← computed]
      change outputs handlers _ ((network.log .atMostOnce flightsInput).map _) =
        (network.log .atMostOnce flightsInput).map _ at replayed
      rw [logged, List.map_append, List.map_cons, List.map_append, List.map_cons] at replayed
      exact output_of_split handlers replayed (by simp)
    have named : execution.toCall.command = answer.command := congrArg Answer.command computed
    have linear := explained.linear.respond (before.map Execution.toCall) execution.toCall
      (behind.map Execution.toCall) (by rw [logged, List.map_append, List.map_cons])
    rw [served, named] at linear
    rw [shown]
    exact ⟨sound, agrees, fun other => by simp [explained.invoked, Network.receive, setClient], linear⟩

theorem serve (explained : network.Explained flightsInput history) {delivery : Delivery}
    (sound : (network.serve .atMostOnce flightsInput delivery).Sound .atMostOnce flightsInput)
    (agrees : (network.serve .atMostOnce flightsInput delivery).Agrees .atMostOnce flightsInput) :
    (network.serve .atMostOnce flightsInput delivery).Explained flightsInput
      (history ++ network.shows (network.serve .atMostOnce flightsInput delivery)) := by
  have nothing : network.shows (network.serve .atMostOnce flightsInput delivery) = [] :=
    shows_nothing rfl rfl
  rw [nothing, List.append_nil]
  refine ⟨sound, agrees, explained.invoked, ?_⟩
  have logged := executions_snoc srpc .atMostOnce flightsInput network.deliveries delivery
  cases executed : (Dfis.serve srpc .atMostOnce flightsInput
      (reached srpc .atMostOnce flightsInput network.deliveries) delivery).2.executed with
  | none =>
    rw [executed, Option.toList_none, List.append_nil] at logged
    have same : (network.serve .atMostOnce flightsInput delivery).log .atMostOnce flightsInput =
        network.log .atMostOnce flightsInput := logged
    rw [same]
    exact explained.linear
  | some execution =>
    obtain ⟨call, received, -, rfl⟩ := call_of_executed executed
    rw [executed, Option.toList_some] at logged
    have grown : (network.serve .atMostOnce flightsInput delivery).log .atMostOnce flightsInput =
        network.log .atMostOnce flightsInput ++ [call.execute _] := logged
    have issued : call.command ∈ network.issued :=
      sound.delivered delivery (by simp [Network.serve]) call received
    have distinct := executions_distinct srpc flightsInput (network.deliveries ++ [delivery])
    rw [logged] at distinct
    rw [grown, List.map_append, List.map_singleton]
    refine explained.linear.serve ((explained.invoked _).mpr issued) ?_
    intro served
    obtain ⟨other, listed, same⟩ := List.mem_map.mp served
    obtain ⟨earlier, member, rfl⟩ := List.mem_map.mp listed
    have differ := (List.pairwise_append.mp distinct).2.2 earlier member _ (List.mem_singleton_self _)
    exact differ (Call.key_command same)

theorem step (lawful : srpc.RoundTrips) (strict : srpc.Sound) (counts : srpc.CountsStrings)
    (explained : network.Explained flightsInput history) {event : Event}
    (noStale : network.ReadsNoStale event) :
    (network.step .atMostOnce flightsInput event).Explained flightsInput
      (history ++ network.shows (network.step .atMostOnce flightsInput event)) := by
  have sound := explained.sound.step lawful strict counts event
  have agrees := (agrees_step lawful explained.sound explained.agrees event).mpr noStale
  have stepped := step_stepped .atMostOnce flightsInput network event
  generalize network.step .atMostOnce flightsInput event = next at stepped sound agrees ⊢
  cases stepped with
  | still _ quiet => exact explained.quiet sound agrees rfl rfl rfl
  | issue fresh => exact explained.issue _ (by simpa [Command.id] using fresh) sound agrees
  | send calling => exact explained.quiet sound agrees rfl rfl rfl
  | timeout calling => exact explained.quiet sound agrees rfl rfl rfl
  | receive waiting => exact explained.receive sound agrees
  | serve delivery calls requested => exact explained.serve sound agrees
  | callback launch => exact explained.quiet sound agrees rfl rfl rfl
  | arrive sent => exact explained.quiet sound agrees rfl rfl rfl

end Explained

end Network

section Runs

variable (srpc : Srpc) (flightsInput : Table Int32 Flight)

theorem network_explained (lawful : srpc.RoundTrips) (strict : srpc.Sound)
    (counts : srpc.CountsStrings) (events : List Event)
    (noStale : Along (Network.machine srpc .atMostOnce flightsInput) Network.ReadsNoStale
      (.start srpc) events) :
    (after (Network.machine srpc .atMostOnce flightsInput) (.start srpc) events).Explained
      flightsInput (Network.history .atMostOnce flightsInput srpc events) := by
  induction events using List.reverseRecOn with
  | nil =>
    refine ⟨.start, ?_, ?_, .empty⟩
    · intro answer none
      cases none
    · exact fun command => iff_of_false List.not_mem_nil List.not_mem_nil
  | append_singleton events event ih =>
    have earlier := ih (noStale.earlier (List.prefix_append events [event]))
    rw [Network.history_snoc, after_snoc]
    exact earlier.step lawful strict counts noStale.last

/-- In every run under at-most-once in which no client reads a stale reply, the
log is a linearization of what the clients see. -/
theorem linearizable (lawful : srpc.RoundTrips) (strict : srpc.Sound) (counts : srpc.CountsStrings)
    (events : List Event)
    (noStale : Along (Network.machine srpc .atMostOnce flightsInput) Network.ReadsNoStale
      (.start srpc) events) :
    Linearization handlers ⟨flightsInput, ∅, ∅⟩ Call.command
      (Network.history .atMostOnce flightsInput srpc events)
      (((after (Network.machine srpc .atMostOnce flightsInput) (.start srpc) events).log
        .atMostOnce flightsInput).map Execution.toCall) :=
  (network_explained srpc flightsInput lawful strict counts events noStale).linear

/-- Two clients reserve at the same time, the second one served first; once
both are answered the first asks for the flight. -/
def twoClients : List Event :=
  [.issue someClient .seatReservation ⟨0, 4003, 2⟩ 7,
    .issue otherClient .seatReservation ⟨0, 4003, 3⟩ 8, .send someClient, .send otherClient,
    .serve 1 0 false false, .serve 0 1 false false, .arrive 1, .receive someClient, .arrive 0,
    .receive otherClient, .issue someClient .flightInfo ⟨0, 4003⟩ 9, .send someClient,
    .serve 2 2 false false, .arrive 2, .receive someClient]

theorem linearizable_twoClients :
    Linearization handlers ⟨oneFlight, ∅, ∅⟩ Call.command
      (Network.history .atMostOnce oneFlight .reference twoClients)
      (((after (Network.machine .reference .atMostOnce oneFlight) (.start .reference)
        twoClients).log .atMostOnce oneFlight).map Execution.toCall) :=
  linearizable .reference oneFlight Srpc.reference_roundTrips Srpc.reference_sound
    Srpc.reference_countsStrings twoClients (by decide +kernel)

end Runs

end Dfis
