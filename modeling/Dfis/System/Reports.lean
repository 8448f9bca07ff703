import Dfis.Callbacks.Retries
import Dfis.System.Views

/-! What the threads of the server write to its log: each writes one report
when it ends, and what it reports is so. -/

namespace Dfis

open Base Wire Machine

variable {srpc : Srpc} {setting : Setting}

/-- What it takes for a report of a thread to be right. -/
def Report.Holds (setting : Setting) (callbacks : Callbacks srpc SocketAddress) (index : Nat)
    (launch : Launch) (change : Nat) : Report → Prop
  | .noClient => callbacks.sent.filter (fun datagram => datagram.value.sender = index) = []
  | .noResponse =>
    (callbacks.sent.filter fun datagram => datagram.value.sender = index).length = retryTimes + 1
  | .received => ∃ id, ⟨change, { launch.request with id := id }⟩ ∈
      (callbacks.listeners (setting.home launch.toAddr)).presented
  | .invalidResponse | .nonZeroStatus _ => False

/-- What a thread has reported stays right as long as it sends nothing more. -/
theorem Report.Holds.mono {callbacks next : Callbacks srpc SocketAddress} {index change : Nat}
    {launch : Launch} {report : Report} (holds : report.Holds setting callbacks index launch change)
    (silent : next.sent.filter (fun datagram => datagram.value.sender = index) =
      callbacks.sent.filter (fun datagram => datagram.value.sender = index))
    (shown : ∀ process, (callbacks.listeners process).presented ⊆
      (next.listeners process).presented) : report.Holds setting next index launch change := by
  cases report with
  | noClient => exact silent.trans holds
  | noResponse => exact (congrArg List.length silent).trans holds
  | received =>
    obtain ⟨id, presented⟩ := holds
    exact ⟨id, shown _ presented⟩
  | invalidResponse | nonZeroStatus => exact holds

theorem Report.ofReply_plain {id : UInt64}
    (fits : (Message.callbackResponse.marshal srpc ⟨id, 0⟩).length < 2 ^ 63) :
    Report.ofReply srpc ⟨_, fits⟩ = .received := by
  have lawful : (Message.callbackResponse.codec srpc).RoundTrips :=
    Reader.Yields.roundTrips yieldsSeatAvailabilityCallbackResponse
  have decoded : value? (Message.callbackResponse.unmarshal srpc ⟨_, fits⟩) =
      some (⟨id, 0⟩ : SeatAvailabilityCallbackResponse) :=
    lawful.value? (List.append_nil _).symm
  unfold Report.ofReply
  rw [decoded]
  rfl

theorem Callbacks.presented_step (deployment : Deployment SocketAddress)
    (callbacks : Callbacks srpc SocketAddress) (event : Callbacks.Event) (process : SocketAddress) :
    (callbacks.listeners process).presented ⊆
      ((callbacks.step deployment event).listeners process).presented := by
  have stepped := Callbacks.step_stepped deployment callbacks event
  generalize callbacks.step deployment event = next at stepped ⊢
  cases stepped with
  | still | serve | moved | send => exact List.Subset.refl _
  | arrive found => exact Callbacks.Answered.presented_grows _ _ _ process

namespace System

/-- Exactly the threads that have ended have reported, once each, and they are right. -/
structure Reported (setting : Setting) (system : System srpc) : Prop where
  once : (system.reports.map Prod.fst).Nodup
  ended : ∀ index launch change, system.callbacks.senders[index]? = some ⟨launch, change, .ended⟩ →
    index ∈ system.reports.map Prod.fst
  right : ∀ index report, (index, report) ∈ system.reports →
    ∃ launch change, system.callbacks.senders[index]? = some ⟨launch, change, .ended⟩ ∧
      report.Holds setting system.callbacks index launch change

namespace Reported

variable {system : System srpc}

theorem start : Reported setting (.start srpc setting) where
  once := List.nodup_nil
  ended index launch change found := by cases found
  right index report member := by cases member

theorem onCallbacks (reported : system.Reported setting) {event : Callbacks.Event}
    (running : ∀ (index : Nat) (ended : Sender), ended.phase = .ended →
      (system.callbacks.step setting.toDeployment event).senders[index]? = some ended →
      system.callbacks.senders[index]? = some ended) :
    (system.onCallbacks setting event).Reported setting where
  once := reported.once
  ended index launch change found := reported.ended index launch change (running index _ rfl found)
  right index report member := by
    obtain ⟨launch, change, ended, holds⟩ := reported.right index report member
    obtain ⟨still, silent⟩ := Callbacks.ended_step ended event
    exact ⟨launch, change, still, holds.mono silent (Callbacks.presented_step _ _ event)⟩

/-- A thread ends with a report that is right. -/
theorem report (reported : system.Reported setting) {event : Callbacks.Event} {index change : Nat}
    {launch : Launch} {phase : Phase} {report : Report}
    (found : system.callbacks.senders[index]? = some ⟨launch, change, phase⟩)
    (running : phase ≠ .ended)
    (ends : system.callbacks.step setting.toDeployment event =
      system.callbacks.setPhase index ⟨launch, change, phase⟩ .ended)
    (holds : report.Holds setting system.callbacks index launch change) :
    ((system.onCallbacks setting event).report index report).Reported setting := by
  have senders (other : Nat) :
      ((system.onCallbacks setting event).report index report).callbacks.senders[other]? =
        if index = other then some ⟨launch, change, .ended⟩
        else system.callbacks.senders[other]? := by
    simp only [System.report, System.onCallbacks, ends]
    exact Callbacks.setPhase_getElem? found
  have fresh : index ∉ system.reports.map Prod.fst := by
    intro member
    obtain ⟨⟨_, earlier⟩, listed, rfl⟩ := List.mem_map.mp member
    obtain ⟨_, _, ended, -⟩ := reported.right _ earlier listed
    rw [found] at ended
    cases ended
    exact running rfl
  have still {other : Nat} {earlier : Report} {launch : Launch} {change : Nat}
      (holds : earlier.Holds setting system.callbacks other launch change) :
      earlier.Holds setting ((system.onCallbacks setting event).report index report).callbacks other
        launch change := by
    simp only [System.report, System.onCallbacks, ends]
    exact holds.mono rfl fun process => List.Subset.refl _
  constructor
  · simp only [System.report, List.map_append]
    exact List.Nodup.append reported.once (List.nodup_singleton _)
      (List.disjoint_singleton.mpr fresh)
  · intro other launch' change' ended
    simp only [System.report, List.map_append, List.mem_append, List.map_singleton,
      List.mem_singleton]
    rw [senders] at ended
    split at ended
    · rename_i same
      exact .inr same.symm
    · exact .inl (reported.ended other launch' change' ended)
  · intro other earlier member
    rw [senders]
    rcases List.mem_append.mp member with old | new
    · have different : index ≠ other := by
        rintro rfl
        exact fresh (List.mem_map_of_mem old)
      obtain ⟨launch', change', ended, right⟩ := reported.right other earlier old
      rw [if_neg different]
      exact ⟨launch', change', ended, still right⟩
    · obtain ⟨rfl, rfl⟩ := Prod.mk.inj (List.mem_singleton.mp new)
      rw [if_pos rfl]
      exact ⟨launch, change, rfl, still holds⟩

theorem quiet (reported : system.Reported setting) {next : System srpc}
    (callbacks : next.callbacks = system.callbacks) (reports : next.reports = system.reports) :
    next.Reported setting := by
  obtain ⟨once, ended, right⟩ := reported
  rw [← reports] at once ended right
  rw [← callbacks] at ended right
  exact ⟨once, ended, right⟩

theorem setPhase (reported : system.Reported setting) {event : Callbacks.Event} {index : Nat}
    {sender : Sender} (found : system.callbacks.senders[index]? = some sender) (phase : Phase)
    (moves : (system.callbacks.step setting.toDeployment event).senders =
      (system.callbacks.setPhase index sender phase).senders) (running : phase ≠ .ended) :
    (system.onCallbacks setting event).Reported setting := by
  refine reported.onCallbacks fun other ended finished found' => ?_
  rw [moves, Callbacks.setPhase_getElem? found] at found'
  split at found'
  · obtain rfl := Option.some.inj found'
    exact absurd finished running
  · exact found'

theorem serve (reported : system.Reported setting) (delivery : Delivery) :
    (system.onCallbacks setting (.serve delivery)).Reported setting := by
  refine reported.onCallbacks fun index ended finished found => ?_
  simp only [Callbacks.step, Callbacks.serve, List.getElem?_append] at found
  split at found
  · exact found
  · obtain ⟨launch, -, rfl⟩ := List.mem_map.mp (List.mem_of_getElem? found)
    cases finished

theorem step (reported : system.Reported setting) (counted : system.callbacks.Counted)
    (answered : system.callbacks.Answered setting.toDeployment) (event : Event) :
    (system.step setting event).Reported setting := by
  cases event with
  | type | send | timeout | receive | listen | wake | arrive =>
    refine reported.quiet ?_ ?_ <;> simp only [System.step] <;> (repeat' split) <;> rfl
  | serve position now reqLost resLost =>
    simp only [System.step]
    split
    · exact (reported.serve _).quiet rfl rfl
    · exact reported
  | fail fromAddr message now => exact (reported.serve _).quiet rfl rfl
  | create index id =>
    simp only [System.step]
    cases found : system.callbacks.senders[index]? with
    | none => exact reported.quiet (by simp [System.onCallbacks, Callbacks.step, found]) rfl
    | some sender =>
      obtain ⟨launch, change, phase⟩ := sender
      cases phase with
      | started =>
        exact reported.setPhase found (.looping ⟨id, 0, Nat.zero_le retryTimes, false⟩)
          (by simp only [Callbacks.step, found]) (by simp)
      | looping | ended =>
        exact reported.quiet (by simp [System.onCallbacks, Callbacks.step, found]) rfl
  | refuse index =>
    simp only [System.step]
    split
    · rename_i launch change found
      refine reported.report found (by simp) (by simp only [Callbacks.step, found]) ?_
      obtain ⟨id, count, rfl, transmitted⟩ := counted.counted index _ found
      exact List.length_eq_zero_iff.mp transmitted.length_eq
    · exact reported
  | transmit index =>
    simp only [System.step]
    split
    · rename_i launch change id attempt within found
      have sent : (system.onCallbacks setting (.send index)).Reported setting :=
        reported.setPhase found (.looping _) (by simp only [Callbacks.step, found]; rfl) (by simp)
      exact sent.quiet rfl rfl
    · exact reported
  | expire index =>
    simp only [System.step]
    split
    · rename_i launch change id attempt within found
      cases retried : Transmission.retry ⟨id, attempt, within, true⟩ with
      | some again =>
        exact reported.setPhase found (.looping again) (by simp only [Callbacks.step, found, retried])
          (by simp)
      | none =>
        refine reported.report found (by simp) (by simp only [Callbacks.step, found, retried]) ?_
        obtain ⟨_, _, ⟨rfl, rfl⟩, transmitted⟩ := counted.counted index _ found
        have last : attempt = retryTimes := by
          unfold Transmission.retry at retried
          split at retried
          · cases retried
          · rename_i more
            exact Nat.le_antisymm within (Nat.not_lt.mp more)
        subst last
        exact transmitted.length_eq
    · exact reported
  | acknowledge index position =>
    simp only [System.step]
    split
    · rename_i launch change id attempt within owner bytes found replied
      split
      · rename_i fits
        obtain ⟨rfl, small⟩ := fits
        obtain ⟨id', shown, rfl⟩ := answered.thread counted found (List.mem_of_getElem? replied)
        rw [Report.ofReply_plain]
        exact reported.report found (by simp) (by simp only [Callbacks.step, found, replied, if_true])
          ⟨id', shown⟩
      · exact reported
    · exact reported
  | present position reqLost resLost =>
    simp only [System.step]
    split
    · rename_i datagram found
      split
      · refine reported.onCallbacks fun index ended finished same => ?_
        simp only [Callbacks.step, found] at same
        exact same
      · exact reported
    · exact reported

end Reported

section Runs

variable (srpc : Srpc) (setting : Setting) (events : List Event)

theorem run_reported :
    let system := after (machine srpc setting) (.start srpc setting) events
    system.Reported setting ∧ system.callbacks.Sound setting.toDeployment ∧
      system.callbacks.Counted ∧ system.callbacks.Answered setting.toDeployment := by
  refine invariant (P := fun system : System srpc =>
    system.Reported setting ∧ system.callbacks.Sound setting.toDeployment ∧
      system.callbacks.Counted ∧ system.callbacks.Answered setting.toDeployment)
    ⟨.start, .start, .start, .start⟩ ?_ events
  rintro system event ⟨reported, sound, counted, answered⟩
  refine ⟨reported.step counted answered event, ?_⟩
  simp only [machine]
  rcases (step_stepped setting system event).callbacks with same | ⟨event', moved⟩
  · rw [same]
    exact ⟨sound, counted, answered⟩
  · rw [moved]
    exact ⟨sound.step event', counted.step event', answered.step sound event'⟩

/-- In every run, the threads that have ended are exactly those that have
written a report, one each: that they could not create a client, and then they
have sent nothing; that they got no response, and then they have sent their
callback four times; or that it was received, and then the client at its address
has shown it. No thread writes anything else, and none has sent anything but one
callback, at most four times. -/
theorem reports_right :
    (after (machine srpc setting) (.start srpc setting) events).Reported setting ∧
      ∀ index sender,
        (after (machine srpc setting) (.start srpc setting) events).callbacks.senders[index]? =
          some sender →
        ∃ id, ∃ count ≤ retryTimes + 1,
          (after (machine srpc setting) (.start srpc setting) events).callbacks.Transmitted index
            sender id count := by
  obtain ⟨reported, -, counted, -⟩ := run_reported srpc setting events
  refine ⟨reported, fun index sender found => ?_⟩
  obtain ⟨id, count, counts, transmitted⟩ := counted.counted index sender found
  exact ⟨id, count, counts.bounded, transmitted⟩

end Runs

end System

end Dfis
