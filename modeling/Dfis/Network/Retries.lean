import Dfis.Base.Copies
import Dfis.Network.Agreement

/-! What a client sends for a command: copies of one datagram, one for each attempt. -/

namespace Dfis

open Base Wire Machine

variable {srpc : Srpc} {semantic : InvocationSemantic} {flightsInput : Table Int32 Flight}

namespace Network

/-- The requests with the id of a command are so many copies of its datagram from this client. -/
def Transmitted (network : Network srpc) (address : SocketAddress) (command : Command) (count : Nat) :
    Prop :=
  Copies (fun datagram => datagram.value.id) network.requests command.id
    (Datagram.of? (Command.marshal srpc) address command) count

/-- All requests of one id are copies of one datagram of one client, at most
four; while their client is still calling there is one for each attempt, and no
other client is calling with this id. -/
structure Counted (network : Network srpc) : Prop where
  issued : ∀ command ∈ network.issued, ∃ address, ∃ count ≤ retryTimes + 1,
    network.Transmitted address command count
  calling : ∀ address exchange, (network.clients address).exchange = some exchange →
    network.Transmitted address exchange.command (exchange.attempt + exchange.sent.toNat)
  apart : ∀ address other exchange exchange', (network.clients address).exchange = some exchange →
    (network.clients other).exchange = some exchange' → exchange.command.id = exchange'.command.id →
    address = other

namespace Counted

variable {network : Network srpc}

theorem start : Counted (.start srpc) where
  issued command member := by cases member
  calling address exchange active := by cases active
  apart address other exchange exchange' active := by cases active

theorem quiet (counted : network.Counted) {next : Network srpc}
    (issued : next.issued = network.issued) (requests : next.requests = network.requests)
    (calling : ∀ address exchange, (next.clients address).exchange = some exchange →
      ∃ before, (network.clients address).exchange = some before ∧
        before.command = exchange.command ∧
        before.attempt + before.sent.toNat = exchange.attempt + exchange.sent.toNat) :
    next.Counted where
  issued command member := by
    rw [issued] at member
    simpa only [Transmitted, requests] using counted.issued command member
  calling address exchange active := by
    obtain ⟨before, active, command, count⟩ := calling address exchange active
    rw [← command, ← count, Transmitted, requests]
    exact counted.calling address before active
  apart address other exchange exchange' active active' same := by
    obtain ⟨before, active, command, -⟩ := calling address exchange active
    obtain ⟨before', active', command', -⟩ := calling other exchange' active'
    exact counted.apart address other before before' active active' (by rw [command, command', same])

theorem issue (counted : network.Counted) (sound : network.Sound semantic flightsInput)
    (address : SocketAddress) {command : Command}
    (fresh : command.id ∉ network.issued.map Command.id) :
    (network.issue address command).Counted := by
  have unsent : network.Transmitted address command 0 := Copies.zero_iff.mpr fun datagram member same =>
    fresh (List.mem_map.mpr ⟨_, sound.requested datagram member, same⟩)
  have exchanges (other : SocketAddress) (exchange : Exchange)
      (active : ((network.issue address command).clients other).exchange = some exchange) :
      other = address ∧ exchange = .start command ∨
        other ≠ address ∧ (network.clients other).exchange = some exchange := by
    by_cases own : other = address
    · subst own
      simp only [Network.issue, setClient_self] at active
      exact .inl ⟨rfl, (Option.some.inj active).symm⟩
    · simp only [Network.issue, setClient_other _ own] at active
      exact .inr ⟨own, active⟩
  constructor
  · intro other member
    rcases List.mem_append.mp member with old | new
    · exact counted.issued other old
    · obtain rfl := List.mem_singleton.mp new
      exact ⟨address, 0, Nat.zero_le _, unsent⟩
  · intro other exchange active
    rcases exchanges other exchange active with ⟨rfl, rfl⟩ | ⟨-, active⟩
    · exact unsent
    · exact counted.calling other exchange active
  · intro first second exchange exchange' active active' same
    have known {other : SocketAddress} {exchange : Exchange}
        (active : (network.clients other).exchange = some exchange) :
        exchange.command.id ∈ network.issued.map Command.id :=
      List.mem_map_of_mem (sound.calling other exchange active)
    rcases exchanges first exchange active with ⟨rfl, rfl⟩ | ⟨-, before⟩
    · rcases exchanges second exchange' active' with ⟨rfl, rfl⟩ | ⟨-, before'⟩
      · rfl
      · exact absurd (same ▸ known before') fresh
    · rcases exchanges second exchange' active' with ⟨rfl, rfl⟩ | ⟨-, before'⟩
      · exact absurd (same ▸ known before) fresh
      · exact counted.apart first second exchange exchange' before before' same

theorem transmit_other {address address' : SocketAddress} {command sent : Command} {count : Nat}
    (transmitted : network.Transmitted address command count) (different : sent.id ≠ command.id) :
    Copies (fun datagram => datagram.value.id)
      (network.requests ++ (Datagram.of? (Command.marshal srpc) address' sent).toList) command.id
      (Datagram.of? (Command.marshal srpc) address command) count := by
  refine Copies.other transmitted fun datagram made => ?_
  rw [(Datagram.of?_value (Option.mem_toList.mp made)).2]
  exact different

theorem send (counted : network.Counted) (sound : network.Sound semantic flightsInput)
    {address : SocketAddress} {exchange : Exchange}
    (active : (network.clients address).exchange = some exchange) (unsent : exchange.sent = false) :
    (network.send address exchange).Counted := by
  have again : (network.send address exchange).Transmitted address exchange.command
      (exchange.attempt + true.toNat) := by
    have sent := Copies.again (counted.calling address exchange active) fun datagram made => by
      rw [(Datagram.of?_value made).2]
    rw [unsent] at sent
    exact sent
  have exchanges (other : SocketAddress) (next : Exchange)
      (after : ((network.send address exchange).clients other).exchange = some next) :
      other = address ∧ next = { exchange with sent := true } ∨
        other ≠ address ∧ (network.clients other).exchange = some next := by
    by_cases own : other = address
    · subst own
      simp only [Network.send, setClient_self] at after
      exact .inl ⟨rfl, (Option.some.inj after).symm⟩
    · simp only [Network.send, setClient_other _ own] at after
      exact .inr ⟨own, after⟩
  constructor
  · intro command member
    by_cases own : exchange.command.id = command.id
    · obtain rfl := sound.same_command (sound.calling address exchange active) member own
      exact ⟨address, _, Nat.add_le_add exchange.within (Bool.toNat_le _), again⟩
    · obtain ⟨other, count, few, transmitted⟩ := counted.issued command member
      exact ⟨other, count, few, transmit_other transmitted own⟩
  · intro other next after
    rcases exchanges other next after with ⟨rfl, rfl⟩ | ⟨different, before⟩
    · exact again
    · refine transmit_other (counted.calling other next before) fun same => different ?_
      exact (counted.apart address other exchange next active before same).symm
  · intro first second next next' after after' same
    rcases exchanges first next after with ⟨rfl, rfl⟩ | ⟨-, before⟩
    · rcases exchanges second next' after' with ⟨rfl, rfl⟩ | ⟨-, before'⟩
      · rfl
      · exact counted.apart first second exchange next' active before' same
    · rcases exchanges second next' after' with ⟨rfl, rfl⟩ | ⟨-, before'⟩
      · exact counted.apart first second next exchange before active same
      · exact counted.apart first second next next' before before' same

theorem retry_count {exchange next : Exchange} (sent : exchange.sent = true)
    (retried : exchange.retry = some next) :
    exchange.attempt + exchange.sent.toNat = next.attempt + next.sent.toNat := by
  unfold Exchange.retry at retried
  split at retried
  · cases retried
    simp [sent]
  · cases retried

theorem setClient (counted : network.Counted) {address : SocketAddress} {client : Client srpc}
    (calling : ∀ exchange, client.exchange = some exchange →
      ∃ before, (network.clients address).exchange = some before ∧
        before.command = exchange.command ∧
        before.attempt + before.sent.toNat = exchange.attempt + exchange.sent.toNat) :
    (network.setClient address client).Counted := by
  refine counted.quiet rfl rfl fun other exchange active => ?_
  by_cases own : other = address
  · subst own
    rw [setClient_self] at active
    exact calling exchange active
  · rw [setClient_other _ own] at active
    exact ⟨exchange, active, rfl, rfl⟩

theorem step (counted : network.Counted) (sound : network.Sound semantic flightsInput) (event : Event) :
    (network.step semantic flightsInput event).Counted := by
  cases event with
  | issue address kind req id =>
    simp only [Network.step]
    split
    · rename_i free
      refine counted.issue sound address ?_
      simpa [Command.id] using free.2
    · exact counted
  | send address =>
    simp only [Network.step]
    split
    · rename_i active
      exact counted.send sound active rfl
    · exact counted
  | timeout address =>
    simp only [Network.step]
    split
    · rename_i active
      refine counted.setClient fun next retried => ⟨_, active, ?_, retry_count rfl retried⟩
      exact (Exchange.retry_command retried).symm
    · exact counted
  | receive address =>
    simp only [Network.step]
    split
    · rename_i queue waiting
      have left : (network.setClient address ⟨none, queue⟩).Counted :=
        counted.setClient fun exchange idle => by cases idle
      exact left.quiet rfl rfl fun other exchange active => ⟨exchange, active, rfl, rfl⟩
    · exact counted
  | serve position now reqLost resLost =>
    simp only [Network.step]
    split
    · exact counted.quiet rfl rfl fun other exchange active => ⟨exchange, active, rfl, rfl⟩
    · exact counted
  | fail fromAddr message now =>
    exact counted.quiet rfl rfl fun other exchange active => ⟨exchange, active, rfl, rfl⟩
  | callback position id =>
    simp only [Network.step]
    split
    · exact counted.quiet rfl rfl fun other exchange active => ⟨exchange, active, rfl, rfl⟩
    · exact counted
  | arrive position =>
    simp only [Network.step]
    split
    · exact counted.setClient fun exchange active => ⟨exchange, active, rfl, rfl⟩
    · exact counted

end Counted

end Network

section Runs

variable (srpc) (semantic) (flightsInput)

theorem run_counted (lawful : srpc.RoundTrips) (strict : srpc.Sound) (counts : srpc.CountsStrings)
    (events : List Event) :
    (after (Network.machine srpc semantic flightsInput) (.start srpc) events).Counted ∧
      (after (Network.machine srpc semantic flightsInput) (.start srpc) events).Sound semantic
        flightsInput := by
  refine invariant (P := fun network : Network srpc =>
    network.Counted ∧ network.Sound semantic flightsInput) ⟨.start, .start⟩ ?_ events
  rintro network event ⟨counted, sound⟩
  exact ⟨counted.step sound event, sound.step lawful strict counts event⟩

/-- In every run, requests are sent so, and all are of issued commands. -/
theorem requests_counted (lawful : srpc.RoundTrips) (strict : srpc.Sound)
    (counts : srpc.CountsStrings) (events : List Event) :
    (after (Network.machine srpc semantic flightsInput) (.start srpc) events).Counted ∧
      ∀ datagram ∈
        (after (Network.machine srpc semantic flightsInput) (.start srpc) events).requests,
        datagram.value ∈
          (after (Network.machine srpc semantic flightsInput) (.start srpc) events).issued := by
  obtain ⟨counted, sound⟩ := run_counted srpc semantic flightsInput lawful strict counts events
  exact ⟨counted, sound.requested⟩

end Runs

theorem requests_counted_firstCommand :
    (after (Network.machine .reference .atMostOnce oneFlight) (.start .reference)
        firstCommand).Counted ∧
      ∀ datagram ∈ (after (Network.machine .reference .atMostOnce oneFlight) (.start .reference)
        firstCommand).requests,
        datagram.value ∈ (after (Network.machine .reference .atMostOnce oneFlight)
          (.start .reference) firstCommand).issued :=
  requests_counted .reference .atMostOnce oneFlight Srpc.reference_roundTrips Srpc.reference_sound
    Srpc.reference_countsStrings firstCommand

end Dfis
