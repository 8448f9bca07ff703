import Dfis.Callbacks.Senders
import Dfis.Messages.RoundTrip
import Dfis.Server.Monitoring

/-! What clients show is what the server changed, in the order in which the
callbacks happen to reach them. -/

namespace Dfis

open Base Wire Machine

/-- The callback is one that the numbered execution called for, sent to this address. -/
def Reports (log : List Execution) (address : SocketAddress) (number : Nat)
    (req : SeatAvailabilityCallbackRequest) : Prop :=
  ∃ change launch id, log[number]? = some change ∧ launch ∈ change.launched ∧
    launch.toAddr = address ∧ req = { launch.request with id := id }

/-- A thread was started by the execution it is numbered with. -/
def Sender.Launched (log : List Execution) (sender : Sender) : Prop :=
  ∃ change, log[sender.change]? = some change ∧ sender.launch ∈ change.launched

variable {srpc : Srpc} {Process : Type} {deployment : Deployment Process} {log : List Execution}

theorem numbered_append {number : Nat} {change : Execution} (numbered : log[number]? = some change)
    (more : List Execution) : (log ++ more)[number]? = some change := by
  rwa [List.getElem?_append_left (List.getElem?_eq_some_iff.mp numbered).1]

theorem numbered_split {number : Nat} {change : Execution} (numbered : log[number]? = some change) :
    ∃ before after, log = before ++ change :: after ∧ before.length = number := by
  obtain ⟨within, rfl⟩ := List.getElem?_eq_some_iff.mp numbered
  refine ⟨log.take number, log.drop (number + 1), ?_, List.length_take_of_le within.le⟩
  rw [← List.drop_eq_getElem_cons within, List.take_append_drop]

theorem Reports.mono (reports : Reports log address number req) (more : List Execution) :
    Reports (log ++ more) address number req := by
  obtain ⟨change, launch, id, numbered, rest⟩ := reports
  exact ⟨change, launch, id, numbered_append numbered more, rest⟩

theorem Sender.Launched.mono {sender : Sender} (launched : sender.Launched log)
    (more : List Execution) : sender.Launched (log ++ more) := by
  obtain ⟨change, numbered, member⟩ := launched
  exact ⟨change, numbered_append numbered more, member⟩

/-- What a listener holds comes from what has reached it, all of it sent to its process. -/
structure Listener.Sound (srpc : Srpc) (deployment : Deployment Process) (log : List Execution)
    (process : Process) (listener : Listener) : Prop where
  handled : listener.history =
    historyAfter srpc deployment.clientSemantic (listener.arrived.map Prod.fst)
  presented : listener.presented = listener.arrived.map fun entry =>
    ⟨entry.2.change, entry.2.request⟩
  reported : ∀ entry ∈ listener.arrived, ∃ address, deployment.home address = process ∧
    Reports log address entry.2.change entry.2.request

/-- The invariant of the system. -/
structure Callbacks.Sound (deployment : Deployment Process) (system : Callbacks srpc Process) :
    Prop where
  server : system.server =
    reached srpc deployment.semantic deployment.flightsInput system.deliveries
  logged : system.log =
    executions srpc deployment.semantic deployment.flightsInput system.deliveries
  senders : ∀ sender ∈ system.senders, sender.Launched system.log
  sent : ∀ datagram ∈ system.sent,
    Reports system.log datagram.client datagram.value.change datagram.value.request
  listeners : ∀ process,
    (system.listeners process).Sound srpc deployment system.log process

namespace Callbacks.Sound

variable {system : Callbacks srpc Process}

theorem start : Callbacks.Sound deployment (.start srpc deployment) where
  server := rfl
  logged := rfl
  senders sender member := by cases member
  sent datagram member := by cases member
  listeners process := ⟨rfl, rfl, fun entry member => by cases member⟩

theorem setPhase (sound : system.Sound deployment) {index : Nat} {sender : Sender}
    (found : system.senders[index]? = some sender) (phase : Phase) :
    (system.setPhase index sender phase).Sound deployment :=
  { sound with
    senders := fun other member => by
      rcases List.mem_or_eq_of_mem_set member with old | rfl
      · exact sound.senders other old
      · exact sound.senders sender (List.mem_of_getElem? found) }

theorem send (sound : system.Sound deployment) {index : Nat} {sender : Sender}
    (found : system.senders[index]? = some sender) (transmission : Transmission) :
    (system.send index sender transmission).Sound deployment :=
  { sound.setPhase found (.looping { transmission with sent := true }) with
    sent := fun datagram member => by
      rcases List.mem_append.mp member with old | new
      · exact sound.sent datagram old
      · obtain ⟨client, value⟩ := Datagram.of?_value (Option.mem_toList.mp new)
        obtain ⟨change, numbered, launched⟩ := sound.senders sender (List.mem_of_getElem? found)
        rw [client, value]
        exact ⟨change, sender.launch, transmission.id, numbered, launched, rfl, rfl⟩ }

theorem listener_mono {listener : Listener} {process : Process}
    (sound : listener.Sound srpc deployment log process) (more : List Execution) :
    listener.Sound srpc deployment (log ++ more) process :=
  { sound with
    reported := fun entry member => by
      obtain ⟨address, home, reports⟩ := sound.reported entry member
      exact ⟨address, home, reports.mono more⟩ }

theorem serve (sound : system.Sound deployment) (delivery : Delivery) :
    (system.serve deployment delivery).Sound deployment where
  server := by
    change _ = reached srpc _ _ (system.deliveries ++ [delivery])
    rw [reached_snoc, ← sound.server]
    rfl
  logged := by
    change _ = executions srpc _ _ (system.deliveries ++ [delivery])
    rw [executions_snoc, ← sound.server, ← sound.logged]
    rfl
  senders sender member := by
    rcases List.mem_append.mp member with old | new
    · exact (sound.senders sender old).mono _
    · obtain ⟨launch, launched, rfl⟩ := List.mem_map.mp new
      change launch ∈ (Dfis.serve srpc deployment.semantic deployment.flightsInput system.server
        delivery).2.launched at launched
      rcases serve_store srpc deployment.semantic deployment.flightsInput system.server delivery with
        ⟨_, _, silent⟩ | ⟨call, _, _, _, executed, started⟩
      · rw [silent] at launched
        cases launched
      · rw [started] at launched
        refine ⟨call.execute (system.server.seen deployment.flightsInput), ?_, launched⟩
        simp [Callbacks.serve, executed]
  sent datagram member := (sound.sent datagram member).mono _
  listeners process := listener_mono (sound.listeners process) _

theorem arrival_request (datagram : Datagram (Update.marshal srpc)) (reqLost resLost : Bool) :
    (Arrival.mk (.ok datagram.data) reqLost resLost).request? srpc = some datagram.value.request := by
  have lawful : (Message.callbackRequest.codec srpc).RoundTrips :=
    Reader.Yields.roundTrips yieldsSeatAvailabilityCallbackRequest
  refine lawful.value? (?_ : _ = _ ++ [])
  rw [datagram.encoded, List.append_nil]
  rfl

variable [DecidableEq Process]

theorem arrive (sound : system.Sound deployment) {datagram : Datagram (Update.marshal srpc)}
    (sent : datagram ∈ system.sent) (reqLost resLost : Bool) :
    (system.arrive deployment datagram reqLost resLost).Sound deployment :=
  { sound with
    listeners := fun process => by
      by_cases own : process = deployment.home datagram.client
      · subst own
        have before := sound.listeners (deployment.home datagram.client)
        simp only [Callbacks.arrive, Function.update_self]
        constructor
        · rw [List.map_append, before.handled]
          exact (after_snoc _ _ _ _).symm
        · rw [presented_request, arrival_request, before.presented, List.map_append]
          rfl
        · intro entry member
          rcases List.mem_append.mp member with old | new
          · exact before.reported entry old
          · obtain rfl := List.mem_singleton.mp new
            exact ⟨datagram.client, rfl, sound.sent datagram sent⟩
      · simp only [Callbacks.arrive, Function.update_of_ne own]
        exact sound.listeners process }

theorem step (sound : system.Sound deployment) (event : Event) :
    (system.step deployment event).Sound deployment := by
  have stepped := step_stepped deployment system event
  generalize system.step deployment event = next at stepped ⊢
  cases stepped with
  | still _ quiet => exact sound
  | serve delivery => exact sound.serve delivery
  | moved phase silent found => exact sound.setPhase found phase
  | send transmission found => exact sound.send found transmission
  | arrive found => exact sound.arrive (List.mem_of_getElem? found) _ _

end Callbacks.Sound

section Order

variable {system : Callbacks srpc Process}

variable [DecidableEq Process]

end Order

section Runs

variable [DecidableEq Process] (srpc) (deployment)

end Runs

/-- One client, and the flight of ten seats. -/
def oneClient : Deployment Unit := ⟨.atMostOnce, .atMostOnce, [tenSeats], fun _ => ()⟩

end Dfis
