import Dfis.Network.Sound

/-! What the response that `SendAndReceive` returns says about its command, and
the replies left over from another command that break it. -/

namespace Dfis

open Base Wire Machine

variable {srpc : Srpc} {semantic : InvocationSemantic} {flightsInput : Table Int32 Flight}

/-- The response was computed by an execution of the request, under
at-most-once the only execution of it. -/
def Answered (semantic : InvocationSemantic) (log : List Execution) (answer : Answer) : Prop :=
  ∃ before execution after, log = before ++ execution :: after ∧ execution.answer = answer ∧
    (semantic = .atMostOnce → ∀ other ∈ before ++ after, other.toCall.command ≠ answer.command)

/-- Every response returned for a command was computed for it and has its id. -/
def Network.Agrees (semantic : InvocationSemantic) (flightsInput : Table Int32 Flight)
    (network : Network srpc) : Prop :=
  ∀ answer ∈ network.returned, Answered semantic (network.log semantic flightsInput) answer ∧
    answer.kind.responseId answer.response = answer.command.id

/-- A reply to another command whose type the decoder takes for the one it expects. -/
def Sent.Stale (command : Command) : Sent → Prop
  | .reply answer => answer.command ≠ command ∧
    (Message.response answer.kind).kMessageType = (Message.response command.kind).kMessageType
  | .callback _ => False

instance decidableStale (command : Command) : (sent : Sent) → Decidable (sent.Stale command)
  | .reply answer => inferInstanceAs (Decidable (answer.command ≠ command ∧
      (Message.response answer.kind).kMessageType = (Message.response command.kind).kMessageType))
  | .callback _ => .isFalse id

/-- The next datagram a client gets is not stale. -/
def Network.ReadsNoStale (network : Network srpc) : Event → Prop
  | .receive address =>
    ∀ waiting ∈ network.pending address, ¬ waiting.2.1.value.Stale waiting.1
  | _ => True

instance decidableReadsNoStale (network : Network srpc) : (event : Event) →
    Decidable (network.ReadsNoStale event)
  | .receive address => inferInstanceAs (Decidable
      (∀ waiting ∈ network.pending address, ¬ waiting.2.1.value.Stale waiting.1))
  | .issue .. | .send .. | .timeout .. | .serve .. | .fail .. | .callback .. | .arrive .. =>
    .isTrue trivial

section Responses

/-- Every response has the id of its request. -/
theorem Call.run_id (call : Call) (store : Store) :
    call.kind.responseId (call.run store).response = call.id := by
  obtain ⟨kind, req, fromAddr, now⟩ := call
  cases kind with
  | flightSearch =>
    simp only [Call.run, executeKind, executeFlightSearch, Kind.responseId]
    split <;> rfl
  | flightInfo =>
    simp only [Call.run, executeKind, executeFlightInfo, Kind.responseId]
    split <;> rfl
  | seatReservation =>
    simp only [Call.run, executeKind, executeSeatReservation, Kind.responseId]
    split
    · rfl
    · split <;> rfl
  | seatAvailabilityMonitoring =>
    simp only [Call.run, executeKind, executeSeatAvailabilityMonitoring, Kind.responseId]
    split <;> rfl
  | priceRangeSearch =>
    simp only [Call.run, executeKind, executePriceRangeSearch, Kind.responseId]
    split <;> rfl
  | seatReservationCancellation =>
    simp only [Call.run, executeKind, executeSeatReservationCancellation, Kind.responseId]
    split
    · rfl
    · split
      · rfl
      · split <;> rfl

theorem computed_id {network : Network srpc} {answer : Answer}
    (computed : (Sent.reply answer).Computed (network.log semantic flightsInput)) :
    answer.kind.responseId answer.response = answer.command.id := by
  obtain ⟨execution, member, rfl⟩ := computed
  obtain ⟨delivery, _, call, store, _, rfl⟩ :=
    executions_received srpc semantic flightsInput network.deliveries execution member
  exact call.run_id store

theorem computed_answered {network : Network srpc} {answer : Answer}
    (computed : (Sent.reply answer).Computed (network.log semantic flightsInput)) :
    Answered semantic (network.log semantic flightsInput) answer := by
  obtain ⟨execution, member, rfl⟩ := computed
  obtain ⟨before, after, split⟩ := List.append_of_mem member
  refine ⟨before, execution, after, split, rfl, ?_⟩
  intro once other listed same
  subst once
  have distinct := executions_distinct srpc flightsInput network.deliveries
  exact distinct_alone distinct split other listed (Call.key_command same)

variable {datagram : Datagram (Sent.marshal srpc)} {command : Command} {answer : Answer}

private theorem unmarshal_own (lawful : srpc.RoundTrips) (reply : datagram.value = .reply answer) :
    answer.command.unmarshalResponse srpc datagram.data = some answer.response := by
  refine ((Message.response answer.kind).codec_roundTrips lawful).value? (?_ : _ = _ ++ [])
  rw [datagram.encoded, reply, List.append_nil]
  rfl

private theorem unmarshal_foreign
    (differ : (Message.response answer.kind).kMessageType ≠
      (Message.response command.kind).kMessageType)
    (reply : datagram.value = .reply answer) :
    command.unmarshalResponse srpc datagram.data = none := by
  have encoded := datagram.encoded
  rw [reply] at encoded
  rw [Command.unmarshalResponse, Message.unmarshal_other differ answer.response encoded]
  rfl

private theorem unmarshal_callback {req : SeatAvailabilityCallbackRequest}
    (reply : datagram.value = .callback req) :
    command.unmarshalResponse srpc datagram.data = none := by
  have encoded := datagram.encoded
  rw [reply] at encoded
  have differ : Message.callbackRequest.kMessageType ≠
      (Message.response command.kind).kMessageType := by
    cases command.kind <;> decide
  rw [Command.unmarshalResponse, Message.unmarshal_other differ req encoded]
  rfl

/-- A response of a type with the expected tag is decoded, with its id. -/
private theorem unmarshal_shared (lawful : srpc.RoundTrips)
    (shared : (Message.response answer.kind).kMessageType =
      (Message.response command.kind).kMessageType)
    (reply : datagram.value = .reply answer) :
    ∃ res, command.unmarshalResponse srpc datagram.data = some res ∧
      command.kind.responseId res = answer.kind.responseId answer.response := by
  have encoded := datagram.encoded
  rw [reply] at encoded
  obtain ⟨kind, req, res⟩ := answer
  obtain ⟨kind', req'⟩ := command
  by_cases distinct : Message.response kind = Message.response kind'
  · obtain rfl := Message.response.inj distinct
    exact ⟨res, unmarshal_own lawful reply, rfl⟩
  · rcases Message.shared_tag distinct shared with
      ⟨other, _⟩ | ⟨other, _⟩ | ⟨search, range⟩ | ⟨range, search⟩
    · cases other
    · cases other
    · obtain rfl := Message.response.inj search
      obtain rfl := Message.response.inj range
      exact ⟨_, flightSearchResponse_as_priceRange lawful res encoded, rfl⟩
    · obtain rfl := Message.response.inj range
      obtain rfl := Message.response.inj search
      exact ⟨_, priceRangeResponse_as_flightSearch lawful res encoded, rfl⟩

end Responses

section Steps

variable {network next : Network srpc}

theorem Network.Agrees.grow (agrees : network.Agrees semantic flightsInput)
    (same : next.returned = network.returned)
    (grows : network.log semantic flightsInput ⊆ next.log semantic flightsInput) :
    next.Agrees semantic flightsInput := by
  intro answer returned
  rw [same] at returned
  obtain ⟨⟨before, execution, after, split, computed, _⟩, id⟩ := agrees answer returned
  have member : execution ∈ network.log semantic flightsInput := by simp [split]
  have known : (Sent.reply answer).Computed (network.log semantic flightsInput) :=
    ⟨execution, member, computed⟩
  exact ⟨computed_answered (known.mono grows), id⟩

/-- A client gets a stale reply exactly when a response is returned that is not the command's. -/
theorem agrees_receive (lawful : srpc.RoundTrips) (sound : network.Sound semantic flightsInput)
    (agrees : network.Agrees semantic flightsInput) {address : SocketAddress}
    (waiting : network.pending address = some (command, datagram, queue)) :
    (network.receive address command datagram queue).Agrees semantic flightsInput ↔
      ¬ datagram.value.Stale command := by
  have computed := sound.queued address datagram (by simp [Network.pending_queue waiting])
  have nothing (rejected : command.unmarshalResponse srpc datagram.data = none) :
      (network.receive address command datagram queue).Agrees semantic flightsInput :=
    agrees.grow (by simp [Network.receive, rejected]) (List.Subset.refl _)
  cases reply : datagram.value with
  | callback req => exact iff_of_true (nothing (unmarshal_callback reply)) id
  | reply answer =>
    rw [reply] at computed
    by_cases shared : (Message.response answer.kind).kMessageType =
        (Message.response command.kind).kMessageType
    · by_cases own : answer.command = command
      · subst own
        refine iff_of_true ?_ fun stale => stale.1 rfl
        intro returned member
        rw [Network.receive, unmarshal_own lawful reply] at member
        rcases List.mem_append.mp member with old | new
        · exact agrees returned old
        · obtain rfl : returned = answer := List.mem_singleton.mp new
          exact ⟨computed_answered computed, computed_id computed⟩
      · refine iff_of_false ?_ (not_not_intro ⟨own, shared⟩)
        intro after
        -- The response returned has the id of the other command, which is not this one's.
        obtain ⟨res, decoded, sameId⟩ := unmarshal_shared lawful shared reply
        have member : (⟨command.kind, command.request, res⟩ : Answer) ∈
            (network.receive address command datagram queue).returned := by
          simp [Network.receive, decoded]
        have id := (after _ member).2
        refine own (sound.same_command (sound.computed_issued computed)
          (sound.pending_command waiting) ?_)
        rw [← computed_id computed, ← sameId]
        exact id
    · exact iff_of_true (nothing (unmarshal_foreign shared reply)) fun stale => shared stale.2

theorem readsNoStale_quiet {event : Event}
    (quiet : ∀ address, event = .receive address → network.pending address = none) :
    network.ReadsNoStale event := by
  cases event with
  | receive address =>
    intro waiting member
    rw [quiet address rfl] at member
    cases member
  | _ => trivial

theorem agrees_step (lawful : srpc.RoundTrips) (sound : network.Sound semantic flightsInput)
    (agrees : network.Agrees semantic flightsInput) (event : Event) :
    (network.step semantic flightsInput event).Agrees semantic flightsInput ↔
      network.ReadsNoStale event := by
  have stepped := Network.step_stepped semantic flightsInput network event
  generalize network.step semantic flightsInput event = next at stepped ⊢
  cases stepped with
  | still _ quiet => exact iff_of_true agrees (readsNoStale_quiet quiet)
  | issue fresh => exact iff_of_true (agrees.grow rfl (List.Subset.refl _)) trivial
  | send calling => exact iff_of_true (agrees.grow rfl (List.Subset.refl _)) trivial
  | timeout calling => exact iff_of_true (agrees.grow rfl (List.Subset.refl _)) trivial
  | receive waiting =>
    rw [agrees_receive lawful sound agrees waiting]
    simp [Network.ReadsNoStale, waiting]
  | serve delivery calls requested =>
    exact iff_of_true (agrees.grow rfl log_grows)
      (readsNoStale_quiet fun address same => absurd same (calls address))
  | callback launch => exact iff_of_true (agrees.grow rfl (List.Subset.refl _)) trivial
  | arrive sent => exact iff_of_true (agrees.grow rfl (List.Subset.refl _)) trivial

end Steps

section Runs

variable (srpc semantic flightsInput)

/-- In every run of clients, server and network the responses returned agree
with their commands exactly when no client reads a stale reply. -/
theorem agreement (lawful : srpc.RoundTrips) (strict : srpc.Sound) (counts : srpc.CountsStrings)
    (events : List Event) :
    (∀ earlier, earlier <+: events →
      (after (Network.machine srpc semantic flightsInput) (.start srpc) earlier).Agrees
        semantic flightsInput) ↔
    Along (Network.machine srpc semantic flightsInput) Network.ReadsNoStale (.start srpc) events := by
  refine holds_iff_along
    (Q := fun network => network.Sound semantic flightsInput ∧ network.Agrees semantic flightsInput)
    ⟨.start, ?_⟩ ?_ ?_ ?_ events
  · intro answer none
    cases none
  · intro answer none
    cases none
  · intro network event known quiet
    rcases known with ⟨sound, agrees⟩
    exact ⟨sound.step lawful strict counts event, (agrees_step lawful sound agrees event).mpr quiet⟩
  · intro network event known
    exact agrees_step lawful known.1 known.2 event

end Runs

/-- A client reserves two seats, times out once and gets the reply to its
second attempt while the reply to its first is still on its way. -/
def firstCommand : List Event :=
  [.issue someClient .seatReservation ⟨0, 4003, 2⟩ 7, .send someClient, .serve 0 0 false false,
    .timeout someClient, .send someClient, .serve 1 1 false false, .arrive 1, .receive someClient]

theorem agreement_firstCommand :
    (after (Network.machine .reference .atMostOnce oneFlight) (.start .reference)
      firstCommand).Agrees .atMostOnce oneFlight :=
  (agreement .reference .atMostOnce oneFlight Srpc.reference_roundTrips Srpc.reference_sound
    Srpc.reference_countsStrings firstCommand).mpr (by decide +kernel) _ (List.prefix_refl _)

/-- It then reserves three more, and gets the reply it did not wait for. -/
def secondCommand : List Event :=
  [.arrive 0, .issue someClient .seatReservation ⟨0, 4003, 3⟩ 8, .send someClient,
    .receive someClient]

/-- The response returned for the second command, which the server never saw, is the first's. -/
theorem late_reply_returned :
    ¬ (after (Network.machine .reference .atMostOnce oneFlight) (.start .reference)
      (firstCommand ++ secondCommand)).Agrees .atMostOnce oneFlight := by
  have ids : ((after (Network.machine .reference .atMostOnce oneFlight) (.start .reference)
      (firstCommand ++ secondCommand)).returned.map fun answer =>
        (answer.command.id, answer.kind.responseId answer.response)) = [(7, 7), (8, 7)] := by
    decide +kernel
  intro agrees
  have member : ((8, 7) : UInt64 × UInt64) ∈ [((7, 7) : UInt64 × UInt64), (8, 7)] := by simp
  rw [← ids] at member
  obtain ⟨answer, returned, same⟩ := List.mem_map.mp member
  obtain ⟨asked, given⟩ := Prod.mk.inj same
  have id := (agrees answer returned).2
  rw [asked, given] at id
  exact absurd id (by decide)

end Dfis
