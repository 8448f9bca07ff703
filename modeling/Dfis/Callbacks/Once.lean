import Dfis.Callbacks.Order

/-! How often a client shows a callback: on every arrival, since its handler
writes to `std::cout` before it knows that the arrival is lost or a duplicate. -/

namespace Dfis

open Base Wire Machine

/-- The handler under at-most-once. -/
abbrev handler (srpc : Srpc) : Machine CallbackHistory Arrival Handled :=
  serveSeatAvailabilityCallbacks srpc .atMostOnce

/-- What at-most-once promises about these arrivals: no callback is shown
twice, none that is lost is shown, and a repeat that is not lost is answered
with the bytes its earlier arrival was answered with, if that answer was not lost. -/
structure PresentsOnce (srpc : Srpc) (arrivals : List Arrival) : Prop where
  once : (presentations srpc .atMostOnce arrivals).Pairwise fun first second => first.id ≠ second.id
  lost : ∀ earlier arrival, earlier ++ [arrival] <+: arrivals → arrival.reqLost = true →
    (handler srpc (historyAfter srpc .atMostOnce earlier) arrival).2.presented = none
  repeats : ∀ before first between again req req',
    before ++ first :: (between ++ [again]) <+: arrivals → first.request? srpc = some req →
    again.request? srpc = some req' → req.id = req'.id → first.reqLost = false →
    again.reqLost = false → again.resLost = false →
    ∃ bytes, (handler srpc (historyAfter srpc .atMostOnce before)
        { first with resLost := false }).2.reply srpc = some bytes ∧
      (handler srpc (historyAfter srpc .atMostOnce (before ++ first :: between)) again).2.reply srpc =
        some bytes

/-- No callback is lost on arrival, and no id arrives twice. -/
structure ArrivesOnce (srpc : Srpc) (arrivals : List Arrival) : Prop where
  kept : ∀ arrival ∈ arrivals, ∀ req, arrival.request? srpc = some req → arrival.reqLost = false
  distinct : (arrivals.filterMap (Arrival.request? srpc)).Pairwise fun first second =>
    first.id ≠ second.id

variable (srpc : Srpc) (arrivals : List Arrival)

private theorem reply_plain {arrival : Arrival} {req : SeatAvailabilityCallbackRequest}
    (carries : arrival.request? srpc = some req) (kept : arrival.reqLost = false)
    (sent : arrival.resLost = false) (earlier : List Arrival) :
    (handler srpc (historyAfter srpc .atMostOnce earlier) arrival).2.reply srpc =
      some (Message.callbackResponse.marshal srpc ⟨req.id, 0⟩) := by
  rw [Handled.reply, response_plain (historyAfter_plain srpc .atMostOnce earlier) carries kept sent,
    Option.map_some]

/-- Under at-most-once, callbacks are shown as promised exactly when none is
lost on arrival and no id arrives twice. -/
theorem presents_once_iff_arrives_once :
    PresentsOnce srpc arrivals ↔ ArrivesOnce srpc arrivals := by
  constructor
  · intro presents
    constructor
    · intro arrival member req carries
      by_contra lost
      obtain ⟨earlier, rest, rfl⟩ := List.append_of_mem member
      have isPrefix : earlier ++ [arrival] <+: earlier ++ arrival :: rest := ⟨rest, by simp⟩
      have hidden := presents.lost earlier arrival isPrefix (by simpa using lost)
      rw [presented_request, carries] at hidden
      cases hidden
    · rw [← presentations_requests srpc .atMostOnce arrivals]
      exact presents.once
  · intro arrives
    constructor
    · rw [presentations_requests]
      exact arrives.distinct
    · intro earlier arrival isPrefix lost
      rw [presented_request]
      cases carries : arrival.request? srpc with
      | none => rfl
      | some req =>
        have member : arrival ∈ arrivals := isPrefix.subset (by simp)
        cases lost.symm.trans (arrives.kept arrival member req carries)
    · intro before first between again req req' _ carries carries' same kept kept' sent
      have answered : ({ first with resLost := false } : Arrival).request? srpc = some req := carries
      refine ⟨_, reply_plain srpc answered kept rfl before, ?_⟩
      rw [reply_plain srpc carries' kept' sent, same]

/-- The reply to a callback is lost, and the thread sends the callback again. -/
def retransmitting : List Callbacks.Event :=
  [.serve watch, .serve reserveTwo, .create 0 100, .send 0, .arrive 0 false true, .timeout 0, .send 0,
    .arrive 1 false false, .receive 0 0]

/-- The client is shown the one callback twice. -/
theorem retransmission_shown_twice :
    ¬ PresentsOnce .reference (((after (Callbacks.machine .reference oneClient)
      (.start .reference oneClient) retransmitting).listeners ()).arrived.map Prod.fst) := by
  have shown : presentations .reference .atMostOnce
      (((after (Callbacks.machine .reference oneClient) (.start .reference oneClient)
        retransmitting).listeners ()).arrived.map Prod.fst) = [⟨100, 4003, 8⟩, ⟨100, 4003, 8⟩] := by
    decide +kernel
  intro presents
  have distinct := presents.once
  rw [shown] at distinct
  exact absurd distinct (by decide)

end Dfis
