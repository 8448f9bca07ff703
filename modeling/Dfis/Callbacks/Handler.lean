import Dfis.Base.Machine
import Dfis.Base.Table
import Dfis.Messages.Codec

/-! The client's `ServeSeatAvailabilityCallbacks`: what it shows its user, and
what it answers. -/

namespace Dfis

open Base Wire Machine

/-- The static history of the handler. -/
abbrev CallbackHistory : Type :=
  Table UInt64 (SeatAvailabilityCallbackRequest × SeatAvailabilityCallbackResponse)

/-- What one call of the handler reads: its data, and its two `RandomLoss` coins. -/
structure Arrival where
  reqData : Except Text Span
  reqLost : Bool
  resLost : Bool

/-- What one call did: the callback it wrote to `std::cout`, and the response it returned. -/
structure Handled where
  presented : Option SeatAvailabilityCallbackRequest
  response : Option SeatAvailabilityCallbackResponse
  deriving DecidableEq

/-- The bytes the call returned. -/
def Handled.reply (srpc : Srpc) (handled : Handled) : Option (List UInt8) :=
  handled.response.map (Message.callbackResponse.marshal srpc)

/-- The callback an arrival carries, lost or not. -/
def Arrival.request? (srpc : Srpc) (arrival : Arrival) : Option SeatAvailabilityCallbackRequest :=
  match arrival.reqData with
  | .error _ => none
  | .ok reqData => value? (Message.callbackRequest.unmarshal srpc reqData)

def serveSeatAvailabilityCallbacks (srpc : Srpc) (semantic : InvocationSemantic) :
    Machine CallbackHistory Arrival Handled := fun history arrival =>
  match arrival.reqData with
  | .error _ => (history, ⟨none, none⟩)
  | .ok reqData =>
    match value? (Message.callbackRequest.unmarshal srpc reqData) with
    | none => (history, ⟨none, none⟩)
    | some req =>
      -- The callback goes to `std::cout` before the coins are tossed and the history is looked up.
      if arrival.reqLost then (history, ⟨some req, none⟩)
      else
        match if semantic = .atMostOnce then history.lookup req.id else none with
        | some saved => (history, ⟨some req, if arrival.resLost then none else some saved.2⟩)
        | none =>
          let res : SeatAvailabilityCallbackResponse := ⟨req.id, 0⟩
          (if semantic = .atMostOnce then history.insert req.id (req, res) else history,
            ⟨some req, if arrival.resLost then none else some res⟩)

/-- Every response saved is the one for its id. -/
def CallbackHistory.Plain (history : CallbackHistory) : Prop :=
  ∀ id saved, history.lookup id = some saved → saved.2 = ⟨id, 0⟩

section Step

variable {srpc : Srpc} {semantic : InvocationSemantic} (history : CallbackHistory) (arrival : Arrival)

theorem presented_request :
    (serveSeatAvailabilityCallbacks srpc semantic history arrival).2.presented =
      arrival.request? srpc := by
  unfold serveSeatAvailabilityCallbacks Arrival.request?
  split
  · rfl
  · rename_i reqData carries
    cases value? (Message.callbackRequest.unmarshal srpc reqData) with
    | none => rfl
    | some req =>
      simp only
      split
      · rfl
      · split <;> rfl

variable {history arrival}

/-- A callback that is not lost is answered with the response for its id. -/
theorem response_plain (plain : history.Plain) {req : SeatAvailabilityCallbackRequest}
    (carries : arrival.request? srpc = some req) (kept : arrival.reqLost = false)
    (sent : arrival.resLost = false) :
    (serveSeatAvailabilityCallbacks srpc semantic history arrival).2.response =
      some ⟨req.id, 0⟩ := by
  obtain ⟨reqData, reqLost, resLost⟩ := arrival
  subst kept sent
  cases reqData with
  | error message => cases carries
  | ok reqData =>
    have decoded : value? (Message.callbackRequest.unmarshal srpc reqData) = some req := carries
    simp only [serveSeatAvailabilityCallbacks, decoded, Bool.false_eq_true, if_false]
    split
    · rename_i saved found
      split at found
      · rw [plain req.id saved found]
      · cases found
    · rfl

theorem CallbackHistory.Plain.step (plain : history.Plain) :
    (serveSeatAvailabilityCallbacks srpc semantic history arrival).1.Plain := by
  unfold serveSeatAvailabilityCallbacks
  split
  · exact plain
  · split
    · exact plain
    · rename_i req decoded
      split
      · exact plain
      · split
        · exact plain
        · split
          · intro id saved found
            rw [Table.lookup_insert] at found
            split at found
            · rename_i same
              subst same
              obtain rfl := Option.some.inj found
              rfl
            · exact plain id saved found
          · exact plain

end Step

section Run

variable (srpc : Srpc) (semantic : InvocationSemantic)

/-- The history after these arrivals. -/
def historyAfter (arrivals : List Arrival) : CallbackHistory :=
  after (serveSeatAvailabilityCallbacks srpc semantic) ∅ arrivals

/-- All callbacks shown, in order. -/
def presentations (arrivals : List Arrival) : List SeatAvailabilityCallbackRequest :=
  (outputs (serveSeatAvailabilityCallbacks srpc semantic) ∅ arrivals).filterMap Handled.presented

theorem historyAfter_plain (arrivals : List Arrival) :
    (historyAfter srpc semantic arrivals).Plain := by
  refine invariant (P := CallbackHistory.Plain) ?_ (fun _ _ plain => plain.step) arrivals
  intro id saved found
  simp at found

theorem presentations_requests (arrivals : List Arrival) :
    presentations srpc semantic arrivals = arrivals.filterMap (Arrival.request? srpc) := by
  induction arrivals using List.reverseRecOn with
  | nil => rfl
  | append_singleton arrivals arrival ih =>
    rw [presentations, outputs_snoc, List.filterMap_append, List.filterMap_append]
    simp only [List.filterMap_cons, List.filterMap_nil, presented_request]
    exact congrArg (· ++ _) ih

end Run

end Dfis
