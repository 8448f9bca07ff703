import Dfis.Callbacks.Threads
import Dfis.System.State

/-! Each part of the system runs as it does alone, and both have the same
server: what was proved of the network and of the callbacks holds in the whole. -/

namespace Dfis

open Base Wire Machine

namespace System

variable {srpc : Srpc} {setting : Setting} {system next : System srpc}

theorem Stepped.network (stepped : Stepped setting system next) :
    next.network = system.network ∨
      ∃ event, next.network = system.network.step setting.semantic setting.flightsInput event := by
  cases stepped with
  | still | exits | returned | opened | moved | gaveUp | acknowledged | presented => exact .inl rfl
  | typed => exact .inr ⟨.issue _ _ _ _, rfl⟩
  | @called event _ _ => exact .inr ⟨event, rfl⟩
  | received => exact .inr ⟨.receive _, rfl⟩
  | @served event _ _ _ => exact .inr ⟨event, rfl⟩
  | transmitted => exact .inr ⟨.callback _ _, rfl⟩
  | arrived => exact .inr ⟨.arrive _, rfl⟩

theorem Stepped.callbacks (stepped : Stepped setting system next) :
    next.callbacks = system.callbacks ∨
      ∃ event, next.callbacks = system.callbacks.step setting.toDeployment event := by
  cases stepped with
  | still | exits | returned | opened | typed | received | called | arrived => exact .inl rfl
  | @moved event _ _ => exact .inr ⟨event, rfl⟩
  | @gaveUp event _ _ _ _ => exact .inr ⟨event, rfl⟩
  | acknowledged => exact .inr ⟨.receive _ _, rfl⟩
  | presented => exact .inr ⟨.arrive _ _ _, rfl⟩
  | served => exact .inr ⟨.serve _, rfl⟩
  | transmitted => exact .inr ⟨.send _, rfl⟩

theorem callbacks_simulates (srpc : Srpc) (setting : Setting) :
    Simulates (machine srpc setting) (Callbacks.machine srpc setting.toDeployment) callbacks := by
  intro system event
  rcases (step_stepped setting system event).callbacks with same | ⟨event', moved⟩
  · exact ⟨[], same⟩
  · exact ⟨[event'], moved⟩

/-- Both parts have been given the same calls of `Serve`, and the network has
listed the threads that the callbacks run. -/
structure Coherent (setting : Setting) (system : System srpc) : Prop where
  network : system.network.Sound setting.semantic setting.flightsInput
  callbacks : system.callbacks.Sound setting.toDeployment
  deliveries : system.callbacks.deliveries = system.network.deliveries
  launched : system.callbacks.senders.map Sender.launch = system.network.launched

namespace Coherent

theorem log (coherent : system.Coherent setting) :
    system.network.log setting.semantic setting.flightsInput = system.callbacks.log := by
  rw [coherent.callbacks.logged, coherent.deliveries]
  rfl

theorem start : Coherent setting (.start srpc setting) where
  network := .start
  callbacks := .start
  deliveries := rfl
  launched := rfl

/-- Only calls of `Serve` start threads. -/
theorem senders_step (deployment : Deployment SocketAddress)
    (callbacks : Callbacks srpc SocketAddress) {event : Callbacks.Event}
    (noServe : ∀ delivery, event ≠ .serve delivery) :
    (callbacks.step deployment event).senders.map Sender.launch = callbacks.senders.map Sender.launch ∧
      (callbacks.step deployment event).deliveries = callbacks.deliveries := by
  have stepped := Callbacks.step_stepped deployment callbacks event
  generalize callbacks.step deployment event = next at stepped ⊢
  cases stepped with
  | still => exact ⟨rfl, rfl⟩
  | serve delivery => exact absurd rfl (noServe delivery)
  | moved phase silent found => exact ⟨Callbacks.map_setPhase found phase rfl, rfl⟩
  | send transmission found => exact ⟨Callbacks.map_setPhase found _ rfl, rfl⟩
  | arrive found => exact ⟨rfl, rfl⟩

theorem network_step (semantic : InvocationSemantic) (flightsInput : Table Int32 Flight)
    (network : Network srpc) {event : Dfis.Event}
    (noServe : ∀ position now reqLost resLost, event ≠ .serve position now reqLost resLost)
    (noFail : ∀ fromAddr message now, event ≠ .fail fromAddr message now) :
    (network.step semantic flightsInput event).deliveries = network.deliveries ∧
      (network.step semantic flightsInput event).launched = network.launched := by
  cases event with
  | serve position now reqLost resLost => exact absurd rfl (noServe _ _ _ _)
  | fail fromAddr message now => exact absurd rfl (noFail _ _ _)
  | issue | send | timeout | receive | callback | arrive =>
    simp only [Network.step]
    split <;> exact ⟨rfl, rfl⟩

theorem served (coherent : system.Coherent setting) (delivery : Delivery) :
    ((system.callbacks.serve setting.toDeployment delivery).senders.map Sender.launch =
      (system.network.serve setting.semantic setting.flightsInput delivery).launched) ∧
    (system.callbacks.serve setting.toDeployment delivery).deliveries =
      (system.network.serve setting.semantic setting.flightsInput delivery).deliveries := by
  have same : Dfis.serve srpc setting.semantic setting.flightsInput system.network.server delivery =
      Dfis.serve srpc setting.semantic setting.flightsInput system.callbacks.server delivery := by
    rw [coherent.network.serve_reached, coherent.callbacks.server, coherent.deliveries]
  constructor
  · simp only [Callbacks.serve, Network.serve, same, List.map_append, coherent.launched, List.map_map]
    exact congrArg (system.network.launched ++ ·) (List.map_id _)
  · simp only [Callbacks.serve, Network.serve, coherent.deliveries]

theorem step (lawful : srpc.RoundTrips) (strict : srpc.Sound) (counts : srpc.CountsStrings)
    (coherent : system.Coherent setting) (event : Event) :
    (system.step setting event).Coherent setting := by
  have stepped := step_stepped setting system event
  generalize system.step setting event = next at stepped ⊢
  have network : next.network.Sound setting.semantic setting.flightsInput := by
    rcases stepped.network with same | ⟨event', moved⟩
    · rw [same]
      exact coherent.network
    · rw [moved]
      exact coherent.network.step lawful strict counts event'
  have callbacks : next.callbacks.Sound setting.toDeployment := by
    rcases stepped.callbacks with same | ⟨event', moved⟩
    · rw [same]
      exact coherent.callbacks
    · rw [moved]
      exact coherent.callbacks.step event'
  suffices calls : next.callbacks.deliveries = next.network.deliveries ∧
      next.callbacks.senders.map Sender.launch = next.network.launched from
    ⟨network, callbacks, calls.1, calls.2⟩
  have quiet {event' : Dfis.Event}
      (noServe : ∀ position now reqLost resLost, event' ≠ .serve position now reqLost resLost)
      (noFail : ∀ fromAddr message now, event' ≠ .fail fromAddr message now) :
      system.callbacks.deliveries =
        (system.network.step setting.semantic setting.flightsInput event').deliveries ∧
      system.callbacks.senders.map Sender.launch =
        (system.network.step setting.semantic setting.flightsInput event').launched := by
    obtain ⟨deliveries, launched⟩ := network_step setting.semantic setting.flightsInput
      system.network noServe noFail
    rw [deliveries, launched]
    exact ⟨coherent.deliveries, coherent.launched⟩
  have threads {event' : Callbacks.Event} (noServe : ∀ delivery, event' ≠ .serve delivery) :
      (system.callbacks.step setting.toDeployment event').deliveries = system.network.deliveries ∧
      (system.callbacks.step setting.toDeployment event').senders.map Sender.launch =
        system.network.launched := by
    obtain ⟨launched, deliveries⟩ := senders_step setting.toDeployment system.callbacks noServe
    rw [deliveries, launched]
    exact ⟨coherent.deliveries, coherent.launched⟩
  cases stepped with
  | still | exits | returned | opened => exact ⟨coherent.deliveries, coherent.launched⟩
  | typed => exact quiet (by simp) (by simp)
  | called calls => rcases calls with rfl | rfl <;> exact quiet (by simp) (by simp)
  | received => exact quiet (by simp) (by simp)
  | arrived => exact quiet (by simp) (by simp)
  | served serves =>
    obtain ⟨launched, deliveries⟩ := coherent.served _
    simp only [System.serve, onCallbacks, onNetwork, serves]
    exact ⟨deliveries, launched⟩
  | moved moves => rcases moves with ⟨id, rfl⟩ | rfl <;> exact threads (by simp)
  | gaveUp moves => rcases moves with rfl | rfl <;> exact threads (by simp)
  | acknowledged => exact threads (by simp)
  | presented => exact threads (by simp)
  | @transmitted index _ _ id _ _ found =>
    obtain ⟨deliveries, launched⟩ := network_step setting.semantic setting.flightsInput
      system.network (show ∀ _ _ _ _, Dfis.Event.callback index id ≠ _ by simp) (by simp)
    simp only [onNetwork, onCallbacks, deliveries, launched]
    exact threads (by simp)

end Coherent

theorem run_coherent (lawful : srpc.RoundTrips) (strict : srpc.Sound) (counts : srpc.CountsStrings)
    (setting : Setting) (events : List Event) :
    (after (machine srpc setting) (.start srpc setting) events).Coherent setting :=
  invariant (P := fun system : System srpc => system.Coherent setting) .start
    (fun _ event coherent => coherent.step lawful strict counts event) events

end System

end Dfis
