import Dfis.Base.Copies
import Dfis.Callbacks.Order

/-! What a thread sends and what comes back to it: copies of its one callback,
one for each attempt, and replies of clients that have shown it. -/

namespace Dfis

open Base Wire Machine

variable {srpc : Srpc} {Process : Type} {deployment : Deployment Process}

/-- How often a thread has sent its callback, and with which id, by where it is. -/
def Phase.Counts : Phase → UInt64 → Nat → Prop
  | .started, _, count => count = 0
  | .looping transmission, id, count =>
    id = transmission.id ∧ count = transmission.attempt + transmission.sent.toNat
  | .ended, _, count => count ≤ retryTimes + 1

theorem Phase.Counts.bounded {phase : Phase} {id : UInt64} {count : Nat} (counts : phase.Counts id count) :
    count ≤ retryTimes + 1 := by
  cases phase with
  | started => exact counts ▸ Nat.zero_le _
  | looping transmission =>
    obtain ⟨-, rfl⟩ := counts
    exact Nat.add_le_add transmission.within (Bool.toNat_le _)
  | ended => exact counts

theorem Transmission.retry_counts {id : UInt64} {attempt : Nat} {within : attempt ≤ retryTimes}
    {again : Transmission} (retried : retry ⟨id, attempt, within, true⟩ = some again) :
    (Phase.looping again).Counts id (attempt + true.toNat) := by
  unfold retry at retried
  split at retried
  · cases retried
    exact ⟨rfl, rfl⟩
  · cases retried

namespace Callbacks

/-- A thread has sent its callback with this id so many times, and nothing else. -/
def Transmitted (callbacks : Callbacks srpc Process) (index : Nat) (sender : Sender) (id : UInt64)
    (count : Nat) : Prop :=
  Copies (fun datagram => datagram.value.sender) callbacks.sent index
    (Datagram.of? (Update.marshal srpc) sender.launch.toAddr (Sender.update sender index id)) count

/-- A callback always fits a datagram, so each attempt sends one. -/
theorem update_fits (update : Update) : (update.marshal srpc).length < 2 ^ 63 := by
  have length : (update.marshal srpc).length = 4 + (8 + (4 + 4)) := by
    simp [Update.marshal, Message.marshal, marshalSeatAvailabilityCallbackRequest, marshalTag]
  omega

theorem Transmitted.length_eq {callbacks : Callbacks srpc Process} {index : Nat} {sender : Sender}
    {id : UInt64} {count : Nat} (transmitted : callbacks.Transmitted index sender id count) :
    (callbacks.sent.filter fun datagram => datagram.value.sender = index).length = count := by
  have made : ((Datagram.of? (Update.marshal srpc) sender.launch.toAddr
      (Sender.update sender index id)).toList).length = 1 := by
    rw [Datagram.of?, dif_pos (update_fits _)]
    rfl
  rw [Copies.length_eq transmitted, made, Nat.mul_one]

/-- Every thread has sent one callback, once for each attempt. -/
structure Counted (callbacks : Callbacks srpc Process) : Prop where
  known : ∀ datagram ∈ callbacks.sent, datagram.value.sender < callbacks.senders.length
  counted : ∀ index sender, callbacks.senders[index]? = some sender →
    ∃ id count, sender.phase.Counts id count ∧ callbacks.Transmitted index sender id count

namespace Counted

variable {callbacks : Callbacks srpc Process}

theorem start : Counted (.start srpc deployment) where
  known datagram member := by cases member
  counted index sender found := by cases found

theorem serve (counted : callbacks.Counted) (delivery : Delivery) :
    (callbacks.serve deployment delivery).Counted where
  known datagram member := by
    simp only [Callbacks.serve, List.length_append]
    exact Nat.lt_add_right _ (counted.known datagram member)
  counted index sender found := by
    by_cases old : index < callbacks.senders.length
    · rw [Callbacks.serve, List.getElem?_append_left old] at found
      exact counted.counted index sender found
    · rw [Callbacks.serve, List.getElem?_append_right (Nat.not_lt.mp old)] at found
      obtain ⟨launch, -, rfl⟩ := List.mem_map.mp (List.mem_of_getElem? found)
      refine ⟨0, 0, rfl, Copies.zero_iff.mpr fun datagram member same => old ?_⟩
      exact same ▸ counted.known datagram member

theorem setPhase (counted : callbacks.Counted) {index : Nat} {sender : Sender}
    (found : callbacks.senders[index]? = some sender) {phase : Phase}
    (moves : ∀ id count, sender.phase.Counts id count → callbacks.Transmitted index sender id count →
      ∃ id count, phase.Counts id count ∧ callbacks.Transmitted index sender id count) :
    (callbacks.setPhase index sender phase).Counted where
  known datagram member := by
    simp only [Callbacks.setPhase, List.length_set]
    exact counted.known datagram member
  counted other sender' found' := by
    simp only [Callbacks.setPhase, List.getElem?_set] at found'
    split at found'
    · rename_i same
      subst same
      split at found'
      · obtain rfl := Option.some.inj found'
        obtain ⟨id, count, counts, transmitted⟩ := counted.counted index sender found
        exact moves id count counts transmitted
      · cases found'
    · exact counted.counted other sender' found'

theorem send (counted : callbacks.Counted) {index : Nat} {launch : Launch} {change : Nat}
    {transmission : Transmission} (unsent : transmission.sent = false)
    (found : callbacks.senders[index]? = some ⟨launch, change, .looping transmission⟩) :
    (callbacks.send index ⟨launch, change, .looping transmission⟩ transmission).Counted where
  known datagram member := by
    simp only [Callbacks.send, Callbacks.setPhase, List.length_set]
    rcases List.mem_append.mp member with old | new
    · exact counted.known datagram old
    · rw [(Datagram.of?_value (Option.mem_toList.mp new)).2]
      exact (List.getElem?_eq_some_iff.mp found).1
  counted other sender found' := by
    simp only [Callbacks.send, Callbacks.setPhase, List.getElem?_set] at found'
    split at found'
    · rename_i same
      subst same
      split at found'
      · obtain rfl := Option.some.inj found'
        obtain ⟨id, count, ⟨rfl, rfl⟩, transmitted⟩ := counted.counted index _ found
        refine ⟨_, _, ⟨rfl, rfl⟩, ?_⟩
        have again := Copies.again transmitted fun datagram made => by
          rw [(Datagram.of?_value made).2]
          rfl
        simp only [unsent, Bool.toNat_false, Nat.add_zero] at again
        exact again
      · cases found'
    · rename_i different
      obtain ⟨id, count, counts, transmitted⟩ := counted.counted other sender found'
      refine ⟨id, count, counts, Copies.other transmitted fun datagram member => ?_⟩
      rw [(Datagram.of?_value (Option.mem_toList.mp member)).2]
      exact different

variable [DecidableEq Process]

theorem step (counted : callbacks.Counted) (event : Event) :
    (callbacks.step deployment event).Counted := by
  cases event with
  | serve delivery => exact counted.serve delivery
  | create index id =>
    simp only [Callbacks.step]
    split
    · rename_i found
      refine counted.setPhase found fun id' count none transmitted => ⟨id, 0, ⟨rfl, rfl⟩, ?_⟩
      obtain rfl : count = 0 := none
      exact Copies.zero_iff.mpr (Copies.zero_iff.mp transmitted)
    · exact counted
  | fail index =>
    simp only [Callbacks.step]
    split
    · rename_i found
      refine counted.setPhase found fun id count none transmitted => ⟨id, count, ?_, transmitted⟩
      exact Phase.Counts.bounded none
    · exact counted
  | send index =>
    simp only [Callbacks.step]
    split
    · rename_i found
      exact counted.send rfl found
    · exact counted
  | timeout index =>
    simp only [Callbacks.step]
    split
    · rename_i found
      refine counted.setPhase found fun id count counts transmitted => ⟨id, count, ?_, transmitted⟩
      cases retried : Transmission.retry _ with
      | some again =>
        obtain ⟨rfl, rfl⟩ := counts
        exact Transmission.retry_counts retried
      | none => exact Phase.Counts.bounded counts
    · exact counted
  | receive index position =>
    simp only [Callbacks.step]
    split
    · rename_i found _
      split
      · refine counted.setPhase found fun id count counts transmitted => ⟨id, count, ?_, transmitted⟩
        exact Phase.Counts.bounded counts
      · exact counted
    · exact counted
  | arrive position reqLost resLost =>
    simp only [Callbacks.step]
    split
    · exact ⟨counted.known, counted.counted⟩
    · exact counted

end Counted

/-- The handler answers a callback, if at all, with the response for its id. -/
theorem replied_plain {history : CallbackHistory} (plain : history.Plain)
    {semantic : InvocationSemantic} {arrival : Arrival} {req : SeatAvailabilityCallbackRequest}
    (carries : arrival.request? srpc = some req) {bytes : List UInt8}
    (replied : bytes ∈ (serveSeatAvailabilityCallbacks srpc semantic history arrival).2.reply srpc) :
    bytes = Message.callbackResponse.marshal srpc ⟨req.id, 0⟩ := by
  obtain ⟨res, responded, rfl⟩ := Option.map_eq_some_iff.mp replied
  -- There is a response only if neither coin says that it is lost.
  have kept : arrival.reqLost = false ∧ arrival.resLost = false := by
    obtain ⟨reqData, reqLost, resLost⟩ := arrival
    cases reqData with
    | error message => cases carries
    | ok reqData =>
      have decoded : value? (Message.callbackRequest.unmarshal srpc reqData) = some req := carries
      simp only [serveSeatAvailabilityCallbacks, decoded] at responded
      cases reqLost with
      | true => cases responded
      | false =>
        cases resLost with
        | true =>
          simp only [Bool.false_eq_true, if_false, if_true] at responded
          split at responded <;> cases responded
        | false => exact ⟨rfl, rfl⟩
  rw [response_plain plain carries kept.1 kept.2] at responded
  rw [Option.some.inj responded]

/-- Every reply is the one to a callback that its client has shown. -/
def Answered (deployment : Deployment Process) (callbacks : Callbacks srpc Process) : Prop :=
  ∀ reply ∈ callbacks.replies, ∃ datagram ∈ callbacks.sent, datagram.value.sender = reply.1 ∧
    ⟨datagram.value.change, datagram.value.request⟩ ∈
      (callbacks.listeners (deployment.home datagram.client)).presented ∧
    reply.2 = Message.callbackResponse.marshal srpc ⟨datagram.value.request.id, 0⟩

namespace Answered

variable {callbacks : Callbacks srpc Process}

theorem start : Answered deployment (.start srpc deployment) := by
  intro reply member
  cases member

theorem quiet (answered : callbacks.Answered deployment) {next : Callbacks srpc Process}
    (replies : next.replies = callbacks.replies) (sent : callbacks.sent ⊆ next.sent)
    (listeners : next.listeners = callbacks.listeners) : next.Answered deployment := by
  intro reply member
  rw [replies] at member
  obtain ⟨datagram, listed, rest⟩ := answered reply member
  rw [listeners]
  exact ⟨datagram, sent listed, rest⟩

variable [DecidableEq Process]

theorem presented_arrive (datagram : Datagram (Update.marshal srpc)) (reqLost resLost : Bool) :
    ((callbacks.arrive deployment datagram reqLost resLost).listeners
      (deployment.home datagram.client)).presented =
      (callbacks.listeners (deployment.home datagram.client)).presented ++
        [⟨datagram.value.change, datagram.value.request⟩] := by
  simp only [Callbacks.arrive, Function.update_self, presented_request, Sound.arrival_request]
  rfl

theorem presented_grows (datagram : Datagram (Update.marshal srpc)) (reqLost resLost : Bool)
    (process : Process) :
    (callbacks.listeners process).presented ⊆
      ((callbacks.arrive deployment datagram reqLost resLost).listeners process).presented := by
  by_cases own : process = deployment.home datagram.client
  · subst own
    rw [presented_arrive]
    exact List.subset_append_left _ _
  · simp only [Callbacks.arrive, Function.update_of_ne own]
    exact List.Subset.refl _

theorem arrive (answered : callbacks.Answered deployment) (sound : callbacks.Sound deployment)
    {datagram : Datagram (Update.marshal srpc)} (sent : datagram ∈ callbacks.sent)
    (reqLost resLost : Bool) :
    (callbacks.arrive deployment datagram reqLost resLost).Answered deployment := by
  intro reply member
  rcases List.mem_append.mp member with old | new
  · obtain ⟨earlier, listed, owned, shown, same⟩ := answered reply old
    exact ⟨earlier, listed, owned, presented_grows datagram reqLost resLost _ shown, same⟩
  · obtain ⟨bytes, replied, rfl⟩ := Option.map_eq_some_iff.mp (Option.mem_toList.mp new)
    have plain : (callbacks.listeners (deployment.home datagram.client)).history.Plain := by
      rw [(sound.listeners (deployment.home datagram.client)).handled]
      exact historyAfter_plain srpc deployment.clientSemantic _
    refine ⟨datagram, sent, rfl, ?_, ?_⟩
    · rw [presented_arrive]
      exact List.mem_append_right _ (List.mem_singleton_self _)
    · exact replied_plain plain (Sound.arrival_request datagram reqLost resLost) replied

theorem step (answered : callbacks.Answered deployment) (sound : callbacks.Sound deployment)
    (event : Event) : (callbacks.step deployment event).Answered deployment := by
  have stepped := step_stepped deployment callbacks event
  generalize callbacks.step deployment event = next at stepped ⊢
  cases stepped with
  | still _ quiet => exact answered
  | serve delivery => exact answered.quiet rfl (List.Subset.refl _) rfl
  | moved phase silent found => exact answered.quiet rfl (List.Subset.refl _) rfl
  | send transmission found => exact answered.quiet rfl (List.subset_append_left _ _) rfl
  | arrive found => exact answered.arrive sound (List.mem_of_getElem? found) _ _

end Answered

variable {callbacks : Callbacks srpc Process}

theorem Answered.thread (answered : callbacks.Answered deployment) (counted : callbacks.Counted)
    {index : Nat} {sender : Sender} (found : callbacks.senders[index]? = some sender)
    {bytes : List UInt8} (replied : (index, bytes) ∈ callbacks.replies) :
    ∃ id, ⟨sender.change, { sender.launch.request with id := id }⟩ ∈
        (callbacks.listeners (deployment.home sender.launch.toAddr)).presented ∧
      bytes = Message.callbackResponse.marshal srpc ⟨id, 0⟩ := by
  obtain ⟨datagram, sent, own, shown, same⟩ := answered _ replied
  obtain ⟨id, count, -, transmitted⟩ := counted.counted index sender found
  obtain ⟨client, value⟩ := Datagram.of?_value (Copies.mem transmitted sent own)
  rw [client, value] at shown
  rw [value] at same
  exact ⟨id, shown, same⟩

section Ended

variable {index : Nat} {launch : Launch} {change : Nat}

theorem setPhase_getElem? {other : Nat} {sender : Sender} {phase : Phase}
    (found : callbacks.senders[other]? = some sender) :
    (callbacks.setPhase other sender phase).senders[index]? =
      if other = index then some { sender with phase := phase } else callbacks.senders[index]? := by
  have within := (List.getElem?_eq_some_iff.mp found).1
  simp only [Callbacks.setPhase, List.getElem?_set, within, if_true]

variable [DecidableEq Process]

/-- A thread that has ended stays so, and sends no more. -/
theorem ended_step (ended : callbacks.senders[index]? = some ⟨launch, change, .ended⟩)
    (event : Event) :
    (callbacks.step deployment event).senders[index]? = some ⟨launch, change, .ended⟩ ∧
      (callbacks.step deployment event).sent.filter (fun datagram => datagram.value.sender = index) =
        callbacks.sent.filter (fun datagram => datagram.value.sender = index) := by
  have moved {other : Nat} {sender : Sender} (found : callbacks.senders[other]? = some sender)
      (running : sender.phase ≠ .ended) (phase : Phase) : other ≠ index ∧
      (callbacks.setPhase other sender phase).senders[index]? = some ⟨launch, change, .ended⟩ := by
    have different : other ≠ index := by
      rintro rfl
      rw [ended] at found
      cases found
      exact running rfl
    rw [setPhase_getElem? found, if_neg different]
    exact ⟨different, ended⟩
  cases event with
  | serve delivery =>
    have within := (List.getElem?_eq_some_iff.mp ended).1
    exact ⟨(List.getElem?_append_left within).trans ended, rfl⟩
  | create other id =>
    simp only [step]
    split
    · rename_i found
      exact ⟨(moved found (by simp) _).2, rfl⟩
    · exact ⟨ended, rfl⟩
  | fail other =>
    simp only [step]
    split
    · rename_i found
      exact ⟨(moved found (by simp) _).2, rfl⟩
    · exact ⟨ended, rfl⟩
  | send other =>
    simp only [step]
    split
    · rename_i found
      obtain ⟨different, still⟩ := moved found (by simp) _
      refine ⟨still, filter_append_others (fun datagram made => ?_) _⟩
      rw [(Datagram.of?_value (Option.mem_toList.mp made)).2]
      exact different
    · exact ⟨ended, rfl⟩
  | timeout other =>
    simp only [step]
    split
    · rename_i found
      exact ⟨(moved found (by simp) _).2, rfl⟩
    · exact ⟨ended, rfl⟩
  | receive other position =>
    simp only [step]
    split
    · rename_i found _
      split
      · exact ⟨(moved found (by simp) _).2, rfl⟩
      · exact ⟨ended, rfl⟩
    · exact ⟨ended, rfl⟩
  | arrive position reqLost resLost =>
    simp only [step]
    split <;> exact ⟨ended, rfl⟩

end Ended

end Callbacks

end Dfis
