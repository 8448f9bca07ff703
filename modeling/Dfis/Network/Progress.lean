import Dfis.Network.Dispatch
import Dfis.Network.Retries

/-! A call that has not given up can still get through, whatever was lost or
has happened before. -/

namespace Dfis

open Base Wire Machine

variable {srpc : Srpc} {semantic : InvocationSemantic} {flightsInput : Table Int32 Flight}

namespace Network

/-- What the server would answer the command from this client now. -/
def answerTo (semantic : InvocationSemantic) (flightsInput : Table Int32 Flight)
    (network : Network srpc) (command : Command) (address : SocketAddress) (now : TimePoint) : Answer :=
  ⟨command.kind, command.request, (network.server.initialise flightsInput).response semantic
    ⟨command.kind, command.request, address, now⟩⟩

/-- The client has returned this answer, which was computed for it, and waits
no more. Other clients are where they were. -/
structure Returns (semantic : InvocationSemantic) (flightsInput : Table Int32 Flight)
    (before next : Network srpc) (address : SocketAddress) (answer : Answer) : Prop where
  returned : next.returned = before.returned ++ [answer]
  answered : Answered semantic (next.log semantic flightsInput) answer
  clients : next.clients = Function.update before.clients address (.idle srpc)

/-- The reply with this answer. -/
def replyTo (address : SocketAddress) (answer : Answer)
    (fits : (answer.marshal srpc).length < 2 ^ 63) : Datagram (Sent.marshal srpc) :=
  ⟨address, ⟨answer.marshal srpc, fits⟩, .reply answer, rfl⟩

variable {network : Network srpc}

theorem serve_replies (lawful : srpc.RoundTrips) (strict : srpc.Sound) (counts : srpc.CountsStrings)
    (datagram : Datagram (Command.marshal srpc)) (now : TimePoint)
    (fits : ((network.answerTo semantic flightsInput datagram.value datagram.client now).marshal
      srpc).length < 2 ^ 63) :
    (network.serve semantic flightsInput (.carrying datagram.data datagram.client now)).responses =
      network.responses ++ [replyTo datagram.client _ fits] := by
  have encoded : datagram.data.bytes =
      (Message.request datagram.value.kind).marshal srpc datagram.value.request := datagram.encoded
  have made : Datagram.of? (Sent.marshal srpc) datagram.client
      (.reply (network.answerTo semantic flightsInput datagram.value datagram.client now)) =
        some (replyTo datagram.client _ fits) := dif_pos fits
  rw [serve_responses, serve_carrying lawful strict counts encoded, handle_answer, Option.bind_some]
  exact congrArg (fun reply => network.responses ++ reply.toList) made

theorem receive_returns (lawful : srpc.RoundTrips) {address : SocketAddress} {answer : Answer}
    {attempt : Nat} {within : attempt ≤ retryTimes}
    {fits : (answer.marshal srpc).length < 2 ^ 63}
    (client : network.clients address =
      ⟨some ⟨answer.command, attempt, within, true⟩, [replyTo address answer fits]⟩) :
    network.step semantic flightsInput (.receive address) =
      { network.setClient address (.idle srpc) with returned := network.returned ++ [answer] } := by
  have waiting : network.pending address =
      some (answer.command, replyTo address answer fits, []) := by
    simp [pending, client]
  have read : answer.command.unmarshalResponse srpc (replyTo address answer fits).data =
      some answer.response := unmarshalResponse_marshal lawful answer rfl
  simp only [step, waiting, receive, read]
  rfl

/-- A client that waits gets the reply to a copy of its datagram. -/
theorem waiting_returns (lawful : srpc.RoundTrips) (strict : srpc.Sound) (counts : srpc.CountsStrings)
    (sound : network.Sound semantic flightsInput) {address : SocketAddress} {command : Command}
    {attempt : Nat} {within : attempt ≤ retryTimes}
    (waiting : network.clients address = ⟨some ⟨command, attempt, within, true⟩, []⟩)
    (sent : ∃ datagram ∈ network.requests, datagram.client = address ∧ datagram.value = command)
    (now : TimePoint)
    (fits : ((network.answerTo semantic flightsInput command address now).marshal srpc).length <
      2 ^ 63) :
    ∃ later, later.length ≤ 3 ∧ Returns semantic flightsInput network
      (after (machine srpc semantic flightsInput) network later) address
      (network.answerTo semantic flightsInput command address now) := by
  obtain ⟨datagram, member, rfl, rfl⟩ := sent
  obtain ⟨position, found⟩ := List.getElem?_of_mem member
  set answer := network.answerTo semantic flightsInput datagram.value datagram.client now
  set served := network.serve semantic flightsInput (.carrying datagram.data datagram.client now)
    with serves
  have responses : served.responses = network.responses ++ [replyTo datagram.client answer fits] :=
    serve_replies lawful strict counts datagram now fits
  have computed : (Sent.reply answer).Computed (served.log semantic flightsInput) := by
    have sound' : served.Sound semantic flightsInput :=
      sound.serve lawful strict counts fun data same => ⟨datagram, member, Except.ok.inj same⟩
    exact sound'.responded (replyTo datagram.client answer fits) (by simp [responses])
  set arrived := served.arrive (replyTo datagram.client answer fits) with arrives
  have client : arrived.clients datagram.client =
      ⟨some ⟨answer.command, attempt, within, true⟩, [replyTo datagram.client answer fits]⟩ := by
    rw [arrives, arrive]
    change Function.update network.clients datagram.client
      ⟨(network.clients datagram.client).exchange,
        (network.clients datagram.client).queue ++ _⟩ datagram.client = _
    rw [Function.update_self, waiting]
    rfl
  have first : network.step semantic flightsInput (.serve position now false false) = served := by
    simp only [step, found]
    rfl
  have second : served.step semantic flightsInput (.arrive network.responses.length) = arrived := by
    simp [step, responses, arrives]
  have third : arrived.step semantic flightsInput (.receive datagram.client) = _ :=
    receive_returns lawful client
  refine ⟨[.serve position now false false, .arrive network.responses.length,
    .receive datagram.client], le_rfl, ?_⟩
  have left : after (machine srpc semantic flightsInput) network [.serve position now false false,
      .arrive network.responses.length, .receive datagram.client] =
        { arrived.setClient datagram.client (.idle srpc) with
          returned := arrived.returned ++ [answer] } := by
    rw [← third, ← second, ← first]
    rfl
  rw [left]
  refine ⟨rfl, computed_answered computed, ?_⟩
  change Function.update (Function.update network.clients datagram.client _) datagram.client _ = _
  rw [Function.update_idem]

/-- A client in a call, with nothing queued, gets an answer when no more is lost. -/
theorem calling_returns (lawful : srpc.RoundTrips) (strict : srpc.Sound) (counts : srpc.CountsStrings)
    (counted : network.Counted) (sound : network.Sound semantic flightsInput)
    {address : SocketAddress} {exchange : Exchange}
    (calling : network.clients address = ⟨some exchange, []⟩)
    (small : (exchange.command.marshal srpc).length < 2 ^ 63) (now : TimePoint)
    (fits : ((network.answerTo semantic flightsInput exchange.command address now).marshal
      srpc).length < 2 ^ 63) :
    ∃ later, later.length ≤ 4 ∧ Returns semantic flightsInput network
      (after (machine srpc semantic flightsInput) network later) address
      (network.answerTo semantic flightsInput exchange.command address now) := by
  obtain ⟨command, attempt, within, sent⟩ := exchange
  have active : (network.clients address).exchange = some ⟨command, attempt, within, sent⟩ := by
    rw [calling]
  have made : Datagram.of? (Command.marshal srpc) address command =
      some ⟨address, ⟨command.marshal srpc, small⟩, command, rfl⟩ := dif_pos small
  cases sent with
  | true =>
    have transmitted := counted.calling address _ active
    rw [Transmitted, made] at transmitted
    obtain ⟨later, few, returns⟩ := waiting_returns lawful strict counts sound calling
      ⟨_, transmitted.sent_mem (Nat.succ_pos attempt), rfl, rfl⟩ now fits
    exact ⟨later, few.trans (by decide), returns⟩
  | false =>
    set asked := network.send address ⟨command, attempt, within, false⟩ with asks
    have sends : network.step semantic flightsInput (.send address) = asked := by
      simp only [step, active, asks]
    have waiting : asked.clients address = ⟨some ⟨command, attempt, within, true⟩, []⟩ := by
      rw [asks, send, setClient_self, calling]
    have requested : ⟨address, ⟨command.marshal srpc, small⟩, command, rfl⟩ ∈ asked.requests := by
      rw [asks, send, made]
      exact List.mem_append_right _ (List.mem_singleton_self _)
    obtain ⟨later, few, returned, answered, clients⟩ := waiting_returns lawful strict counts
      (sound.send active) waiting ⟨_, requested, rfl, rfl⟩ now fits
    refine ⟨.send address :: later, Nat.succ_le_succ few, ?_⟩
    have left : after (machine srpc semantic flightsInput) network (.send address :: later) =
        after (machine srpc semantic flightsInput) asked later := by
      rw [← sends]
      rfl
    rw [left]
    refine ⟨returned, answered, clients.trans ?_⟩
    change Function.update (Function.update network.clients address _) address _ = _
    rw [Function.update_idem]

end Network

/-- In every run, as long as a client has not given up its call and has nothing
queued, one more copy that reaches the server and the reply to it complete the
call, and no other client is involved. -/
theorem call_gets_through (lawful : srpc.RoundTrips) (strict : srpc.Sound)
    (counts : srpc.CountsStrings) (events : List Event) {address : SocketAddress}
    {exchange : Exchange} (small : (exchange.command.marshal srpc).length < 2 ^ 63)
    (now : TimePoint) :
    let network := after (Network.machine srpc semantic flightsInput) (.start srpc) events
    let answer := network.answerTo semantic flightsInput exchange.command address now
    network.clients address = ⟨some exchange, []⟩ → (answer.marshal srpc).length < 2 ^ 63 →
    ∃ later, later.length ≤ 4 ∧ Network.Returns semantic flightsInput network
      (after (Network.machine srpc semantic flightsInput) (.start srpc) (events ++ later)) address
      answer := by
  intro network answer calling fits
  obtain ⟨counted, sound⟩ := run_counted srpc semantic flightsInput lawful strict counts events
  obtain ⟨later, few, returns⟩ :=
    Network.calling_returns lawful strict counts counted sound calling small now fits
  refine ⟨later, few, ?_⟩
  rw [after_append]
  exact returns

/-- Two attempts fail: the server loses its reply to the first, and the second never arrives. -/
def twoFailed : List Event :=
  [.issue someClient .seatReservation ⟨0, 4003, 2⟩ 7, .send someClient, .serve 0 0 false true,
    .timeout someClient, .send someClient, .timeout someClient]

/-- The third gets the answer of the first. -/
theorem call_gets_through_third :
    ∃ later, later.length ≤ 4 ∧ Network.Returns .atMostOnce oneFlight
      (after (Network.machine .reference .atMostOnce oneFlight) (.start .reference) twoFailed)
      (after (Network.machine .reference .atMostOnce oneFlight) (.start .reference)
        (twoFailed ++ later)) someClient ⟨.seatReservation, ⟨7, 4003, 2⟩, ⟨7, 0, [], 4003, 2⟩⟩ := by
  have calling : (after (Network.machine .reference .atMostOnce oneFlight) (.start .reference)
      twoFailed).clients someClient =
        ⟨some ⟨⟨.seatReservation, ⟨7, 4003, 2⟩⟩, 2, by decide, false⟩, []⟩ := rfl
  exact call_gets_through Srpc.reference_roundTrips Srpc.reference_sound
    Srpc.reference_countsStrings twoFailed (by decide +kernel) 9 calling (by decide +kernel)

end Dfis
