import Dfis.Base.Rank
import Dfis.System.Provenance

/-! How a client's session comes to its end: its main thread makes so many moves
for each line typed and no more, is never stuck, and exits only when everything
typed has been issued. -/

namespace Dfis

open Base Wire Machine

variable {srpc : Srpc} {setting : Setting}

deriving instance DecidableEq for Exchange, Main

namespace System

/-- The main thread of a client, with the call of `SendAndReceive` it is in. -/
structure Thread where
  main : Main
  call : Option Exchange
  deriving DecidableEq

def thread (system : System srpc) (address : SocketAddress) : Thread :=
  ⟨system.mains address, (system.network.clients address).exchange⟩

/-- Everything a step can do to the main thread of a client. -/
inductive Moves (setting : Setting) : Thread → Thread → Prop
  | still (thread : Thread) : Moves setting thread thread
  | typed {main typed rest written} (id : UInt64) (menu : main.stage = .menu)
      (next : nextRequest setting.unset main.firstLaunch main.lines = (some typed, rest, written)) :
      Moves setting ⟨main, none⟩ ⟨⟨.menu, rest, false⟩, some (.start (identified typed id))⟩
  | exits {main} (rest : List Text) (menu : main.stage = .menu) :
      Moves setting ⟨main, none⟩ ⟨⟨.exited, rest, false⟩, none⟩
  | sent {main command attempt within} :
      Moves setting ⟨main, some ⟨command, attempt, within, false⟩⟩
        ⟨main, some ⟨command, attempt, within, true⟩⟩
  | failed {main command attempt within} :
      Moves setting ⟨main, some ⟨command, attempt, within, true⟩⟩
        ⟨main, Exchange.retry ⟨command, attempt, within, true⟩⟩
  | received {main call command} (res? : Option command.kind.Response)
      (menu : main.stage = .menu) :
      Moves setting ⟨main, some call⟩ ⟨{ main with stage := stageAfter command res? }, none⟩
  | opened {main call port monitorEnd} (opening : main.stage = .opening port monitorEnd) :
      Moves setting ⟨main, call⟩ ⟨{ main with stage := .sleeping monitorEnd }, call⟩
  | returned {main call} (waited : main.stage ≠ .exited) :
      Moves setting ⟨main, call⟩ ⟨{ main with stage := .menu }, call⟩

variable {system next : System srpc} {address other : SocketAddress}

theorem setMain_thread (main : Main) :
    (system.setMain other main).thread address =
      if address = other then ⟨main, (system.network.clients address).exchange⟩
      else system.thread address := by
  by_cases own : address = other
  · subst own
    simp [thread, setMain]
  · simp [thread, setMain, own]

theorem Moves.alone {moved : Thread} (own : address = other → Moves setting (system.thread other) moved) :
    Moves setting (system.thread address)
      (if address = other then moved else system.thread address) := by
  split
  · rename_i same
    exact same ▸ own same
  · exact .still _

theorem Moves.update {client : Client srpc} (mains : next.mains = system.mains)
    (clients : next.network.clients = Function.update system.network.clients other client)
    (own : address = other →
      Moves setting (system.thread other) ⟨system.mains other, client.exchange⟩) :
    Moves setting (system.thread address) (next.thread address) := by
  have moved : next.thread address =
      if address = other then ⟨system.mains other, client.exchange⟩ else system.thread address := by
    by_cases own : address = other
    · subst own
      simp [thread, mains, clients]
    · simp [thread, mains, clients, own]
  rw [moved]
  exact .alone own

/-- A step does at most one of these to the main thread of a client. -/
theorem step_moves (setting : Setting) (system : System srpc) (event : Event) (address : SocketAddress) :
    Moves setting (system.thread address) ((system.step setting event).thread address) := by
  have stepped := step_stepped setting system event
  generalize system.step setting event = next at stepped ⊢
  cases stepped with
  | still => exact .still _
  | @typed other typed id rest written menu idle fresh next =>
    have moved : (system.issue setting other typed id rest).thread address =
        if address = other then ⟨⟨.menu, rest, false⟩, some (.start (identified typed id))⟩
        else system.thread address := by
      rw [thread, issue_network idle fresh]
      by_cases own : address = other
      · subst own
        simp [issue, setMain, Network.issue, Network.setClient]
      · simp [thread, issue, setMain, onNetwork, Network.issue, Network.setClient, own]
    rw [moved]
    refine .alone fun _ => ?_
    rw [thread, Option.isNone_iff_eq_none.mp idle]
    exact .typed id menu next
  | @exits other rest written menu idle next =>
    rw [setMain_thread]
    refine .alone ?_
    rintro rfl
    rw [thread, Option.isNone_iff_eq_none.mp idle]
    exact .exits rest menu
  | @called event other calls =>
    have active (exchange : Option Exchange) (call : (system.network.clients other).exchange = exchange) :
        system.thread other = ⟨system.mains other, exchange⟩ := by rw [thread, call]
    rcases calls with rfl | rfl
    · simp only [onNetwork, Network.step]
      split
      · rename_i command attempt within call
        refine .update rfl rfl fun _ => ?_
        rw [active _ call]
        exact .sent
      · exact .still _
    · simp only [onNetwork, Network.step]
      split
      · rename_i command attempt within call
        refine .update rfl rfl fun _ => ?_
        rw [active _ call]
        exact .failed
      · exact .still _
  | @received other command datagram queue waiting menu =>
    obtain ⟨call, active⟩ : ∃ call, (system.network.clients other).exchange = some call := by
      unfold Network.pending at waiting
      split at waiting
      · rename_i active _
        exact ⟨_, active⟩
      · cases waiting
    have moved : (system.receive setting other command datagram).thread address =
        if address = other then ⟨{ system.mains other with
          stage := stageAfter command (command.unmarshalResponse srpc datagram.data) }, none⟩
        else system.thread address := by
      rw [receive, setMain_thread]
      simp only [onNetwork, Network.step, waiting]
      by_cases own : address = other
      · subst own
        simp [Network.receive, Network.setClient]
      · simp [thread, Network.receive, Network.setClient, own]
    rw [moved]
    refine .alone fun _ => ?_
    rw [thread, active]
    exact .received _ menu
  | @opened other port monitorEnd opening home =>
    change Moves setting _ ((system.setMain other _).thread address)
    rw [setMain_thread]
    refine .alone ?_
    rintro rfl
    exact .opened opening
  | @returned other waited =>
    rw [setMain_thread]
    refine .alone ?_
    rintro rfl
    exact .returned waited
  | @served event delivery serves =>
    have same : (system.serve setting event delivery).thread address = system.thread address := by
      simp only [thread, System.serve, onNetwork, onCallbacks, serves]
      rfl
    rw [same]
    exact .still _
  | moved => exact .still _
  | gaveUp => exact .still _
  | acknowledged => exact .still _
  | @transmitted index _ _ id _ _ found =>
    have same : ((system.onCallbacks setting (.send index)).onNetwork setting
        (.callback index id)).thread address = system.thread address := by
      simp only [thread, onNetwork, onCallbacks, Network.step]
      split <;> rfl
    rw [same]
    exact .still _
  | @arrived position =>
    simp only [onNetwork, Network.step]
    split
    · exact .update rfl rfl fun _ => .still _
    · exact .still _
  | presented => exact .still _

namespace Thread

/-- How many moves a thread has before it at most: eleven for each line it has
left, and those of the call it is in and of the callbacks it waits for. -/
def rank (thread : Thread) : Nat :=
  match thread.main.stage, thread.call with
  | .exited, _ => 0
  | .menu, none => 11 * thread.main.lines.length + 1
  | .sleeping _, _ => 11 * thread.main.lines.length + 2
  | .opening _ _, _ => 11 * thread.main.lines.length + 3
  | .menu, some call =>
    11 * thread.main.lines.length + 4 + 2 * (retryTimes - call.attempt) + (!call.sent).toNat

/-- Only in the loop of `main` is a thread in a call. -/
def CallsInMenu (thread : Thread) : Prop := thread.main.stage ≠ .menu → thread.call = none

theorem CallsInMenu.menu {main : Main} {call : Exchange}
    (calls : CallsInMenu ⟨main, some call⟩) : main.stage = .menu := by
  by_contra other
  cases calls other

end Thread

variable {earlier later : Thread}

theorem Moves.callsInMenu (moves : Moves setting earlier later) (calls : earlier.CallsInMenu) :
    later.CallsInMenu := by
  cases moves with
  | still => exact calls
  | typed id menu next => exact fun other => absurd rfl other
  | exits => exact fun _ => rfl
  | sent => exact fun other => nomatch calls other
  | failed => exact fun other => nomatch calls other
  | received => exact fun _ => rfl
  | opened opening => exact fun _ => calls (by simp [opening])
  | returned => exact fun other => absurd rfl other

/-- Every move brings the thread to a lower rank. -/
theorem Moves.rank_lt (moves : Moves setting earlier later) (calls : earlier.CallsInMenu)
    (moved : later ≠ earlier) : later.rank < earlier.rank := by
  cases moves with
  | still => exact absurd rfl moved
  | @typed main typed rest written id menu next =>
    have shorter : rest.length < main.lines.length := (behind_of_nextRequest ⟨written, next⟩).length_lt
    simp only [Thread.rank, menu, Exchange.start, retryTimes, Bool.not_false, Bool.toNat_true]
    omega
  | exits rest menu => simp [Thread.rank, menu]
  | @sent main command attempt within =>
    have menu : main.stage = .menu := calls.menu
    simp [Thread.rank, menu]
  | @failed main command attempt within =>
    have menu : main.stage = .menu := calls.menu
    unfold Exchange.retry
    split
    · rename_i more
      have more : attempt + 1 ≤ retryTimes := more
      simp only [Thread.rank, menu, Bool.not_false, Bool.not_true, Bool.toNat_true, Bool.toNat_false]
      omega
    · simp only [Thread.rank, menu, Bool.not_true, Bool.toNat_false]
      omega
  | received res? menu =>
    rcases stageAfter_cases _ res? with same | ⟨port, monitorEnd, same⟩
    · simp only [Thread.rank, menu, same]
      omega
    · simp only [Thread.rank, menu, same]
      omega
  | opened opening => simp [Thread.rank, opening]
  | @returned main call waited =>
    by_cases menu : main.stage = .menu
    · refine absurd ?_ moved
      rw [← menu]
    · obtain rfl : call = none := calls menu
      cases stage : main.stage with
      | menu => exact absurd stage menu
      | opening => simp [Thread.rank, stage]
      | sleeping => simp [Thread.rank, stage]
      | exited => exact absurd stage waited

theorem fresh_id (ids : List UInt64) (few : ids.length < 2 ^ 64) : ∃ id, id ∉ ids := by
  by_contra all
  have every : List.range (2 ^ 64) ⊆ ids.map UInt64.toNat := by
    intro number member
    refine List.mem_map.mpr ⟨UInt64.ofNat number, not_not.mp (not_exists.mp all _), ?_⟩
    exact UInt64.toNat_ofNat_of_lt' (List.mem_range.mp member)
  have length := (List.nodup_range.subperm every).length_le
  rw [List.length_range, List.length_map] at length
  omega

/-- A client that has not exited can move on. -/
theorem not_stuck (setting : Setting) (system : System srpc) (address : SocketAddress)
    (running : (system.mains address).stage ≠ .exited)
    (few : system.network.issued.length < 2 ^ 64) :
    ∃ event, (system.step setting event).thread address ≠ system.thread address := by
  have other {event : Event} {main : Main} (moves : (system.step setting event).mains address = main)
      (differs : main.stage ≠ (system.mains address).stage) :
      (system.step setting event).thread address ≠ system.thread address := by
    intro same
    have stage := congrArg (·.main.stage) same
    simp only [thread, moves] at stage
    exact differs stage
  cases stage : (system.mains address).stage with
  | exited => exact absurd stage running
  | opening port monitorEnd =>
    refine ⟨.listen address false, other (?_ : _ = { system.mains address with stage := .menu }) ?_⟩
    · simp [step, stage, setMain]
    · simp [stage]
  | sleeping monitorEnd =>
    refine ⟨.wake address (monitorEnd.toInt * 1000000000),
      other (?_ : _ = { system.mains address with stage := .menu }) ?_⟩
    · simp [step, stage, setMain]
    · simp [stage]
  | menu =>
    cases call : (system.network.clients address).exchange with
    | none =>
      obtain ⟨id, fresh⟩ := fresh_id (system.network.issued.map Command.id) (by simpa using few)
      refine ⟨.type address id, ?_⟩
      simp only [step]
      rw [if_pos ⟨stage, by rw [call]; rfl, fresh⟩]
      split
      · rename_i typed rest written next
        have shorter := (behind_of_nextRequest ⟨written, next⟩).length_lt
        intro same
        have lines := congrArg (·.main.lines.length) same
        simp [thread, issue, setMain] at lines
        omega
      · intro same
        have stays := congrArg (·.main.stage) same
        simp [thread, setMain, stage] at stays
    | some exchange =>
      obtain ⟨command, attempt, within, sent⟩ := exchange
      cases sent with
      | false =>
        refine ⟨.send address, fun same => ?_⟩
        have flag := congrArg (fun thread : Thread => thread.call.map Exchange.sent) same
        simp [thread, step, onNetwork, Network.step, call, Network.send, Network.setClient] at flag
      | true =>
        refine ⟨.timeout address, fun same => ?_⟩
        have flag := congrArg (fun thread : Thread => thread.call.map Exchange.sent) same
        simp only [thread, step, onNetwork, Network.step, call, Network.timeout, Network.setClient,
          Function.update_self, Exchange.retry] at flag
        split at flag <;> cases flag

theorem issued_step (setting : Setting) (system : System srpc) (event : Event) :
    (system.step setting event).network.issued.length ≤ system.network.issued.length + 1 := by
  rcases (step_stepped setting system event).network with same | ⟨event', moved⟩
  · rw [same]
    exact Nat.le_succ _
  · rw [moved]
    cases event' with
    | issue address kind req id =>
      simp only [Network.step]
      split
      · simp [Network.issue]
      · exact Nat.le_succ _
    | fail => exact Nat.le_succ _
    | send | timeout | receive | callback | arrive | serve =>
      simp only [Network.step]
      split <;> exact Nat.le_succ _

theorem rank_pos (running : (system.mains address).stage ≠ .exited) :
    0 < (system.thread address).rank := by
  unfold Thread.rank
  split
  · rename_i exited
    exact absurd exited running
  all_goals omega

/-- From wherever it is, a client can still be brought to its exit. -/
theorem finishes (setting : Setting) (system : System srpc) (address : SocketAddress)
    (calls : (system.thread address).CallsInMenu)
    (room : system.network.issued.length + (system.thread address).rank ≤ 2 ^ 64) :
    ∃ more, ((after (machine srpc setting) system more).mains address).stage = .exited := by
  induction left : (system.thread address).rank using Nat.strong_induction_on generalizing system with
  | _ left ih =>
    subst left
    by_cases gone : (system.mains address).stage = .exited
    · exact ⟨[], gone⟩
    · have positive := rank_pos gone
      obtain ⟨event, moved⟩ := not_stuck setting system address gone (by omega)
      have moves := step_moves setting system event address
      have falls := moves.rank_lt calls moved
      have issued := issued_step setting system event
      obtain ⟨more, exited⟩ :=
        ih _ falls (system.step setting event) (moves.callsInMenu calls) (by omega) rfl
      exact ⟨event :: more, exited⟩

section Runs

variable (setting : Setting) (events : List Event)

theorem run_callsInMenu (address : SocketAddress) :
    ((after (machine srpc setting) (.start srpc setting) events).thread address).CallsInMenu :=
  invariant (P := fun system : System srpc => (system.thread address).CallsInMenu)
    (fun other => absurd rfl other)
    (fun system event calls => (step_moves setting system event address).callsInMenu calls) events

/-- In every run, whatever the order of its steps, the session of each client
comes to an end. Its main thread makes at most eleven moves for each line typed
and one more. It can always be brought to its exit, as long as there are ids left.
And when it has exited, it has issued the requests typed at its console, all of
them and in this order. -/
theorem sessions_end (lawful : srpc.RoundTrips) (strict : srpc.Sound)
    (counts : srpc.CountsStrings) (address : SocketAddress) :
    changes (machine srpc setting) (fun system => system.thread address) (.start srpc setting) events ≤
        11 * (Input.getlines (setting.stdin address)).length + 1 ∧
      ((after (machine srpc setting) (.start srpc setting) events).network.issued.length +
          11 * (Input.getlines (setting.stdin address)).length < 2 ^ 64 →
        ∃ more, ((after (machine srpc setting) (.start srpc setting) (events ++ more)).mains
          address).stage = .exited) ∧
      (((after (machine srpc setting) (.start srpc setting) events).mains address).stage = .exited →
        List.Forall₂ Issues (requestsOf setting.unset (setting.stdin address))
          ((after (machine srpc setting) (.start srpc setting) events).issuedAt address)) := by
  have first : ((start srpc setting).thread address).CallsInMenu := fun other => absurd rfl other
  have begins : ((start srpc setting).thread address).rank =
      11 * (Input.getlines (setting.stdin address)).length + 1 := rfl
  have bounded := changes_add_rank
    (P := fun system : System srpc => (system.thread address).CallsInMenu)
    (machine srpc setting) (fun system => system.thread address) Thread.rank
    (fun system event calls => (step_moves setting system event address).callsInMenu calls)
    (fun system event calls moved => (step_moves setting system event address).rank_lt calls moved)
    first events
  refine ⟨by omega, ?_, ?_⟩
  · intro room
    obtain ⟨more, exited⟩ := finishes setting (after (machine srpc setting) (.start srpc setting) events)
      address (run_callsInMenu setting events address) (by omega)
    refine ⟨more, ?_⟩
    rw [after_append]
    exact exited
  · intro gone
    obtain ⟨typed, left, same, none, issues⟩ :=
      (run_typed setting events lawful strict counts).follows address
    rw [if_pos gone] at none
    rw [same, none, List.append_nil]
    exact issues

end Runs

/-- A client reserves two seats, gets its response, and finds nothing more to read. -/
def reservedAndDone : List Event :=
  [.type otherClient 7, .send otherClient, .serve 0 5 false false, .arrive 0, .receive otherClient,
    .type otherClient 8]

/-- It has issued all that was typed. -/
theorem sessions_end_reserved :
    List.Forall₂ Issues (requestsOf 0 (.ofString "3\n4003\n2\n"))
      ((after (machine .reference watchedFlight) (.start .reference watchedFlight)
        reservedAndDone).issuedAt otherClient) :=
  (sessions_end watchedFlight reservedAndDone Srpc.reference_roundTrips Srpc.reference_sound
    Srpc.reference_countsStrings otherClient).2.2 (by decide +kernel)

end System

end Dfis
