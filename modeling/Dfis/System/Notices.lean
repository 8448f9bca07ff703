import Dfis.System.Provenance
import Dfis.System.Reports

/-! From a change of seats to the screens: every callback that a change calls
for has its thread and in the end its report, and a thread that is at work can
still get its callback shown. -/

namespace Dfis

open Base Wire Machine

variable {srpc : Srpc} {setting : Setting}

namespace System

/-- A thread is about this callback. Either it is at work and has written
nothing, or it has ended and written one report, which is right. -/
def FollowsUp (setting : Setting) (system : System srpc) (number : Nat) (launch : Launch)
    (index : Nat) : Prop :=
  ∃ phase, system.callbacks.senders[index]? = some ⟨launch, number, phase⟩ ∧
    match phase with
    | .started | .looping _ => ∀ report, (index, report) ∉ system.reports
    | .ended => ∃ report, system.reports.filter (fun entry => entry.1 = index) = [(index, report)] ∧
        report.Holds setting system.callbacks index launch number

variable {system : System srpc}

theorem filter_reports {reports : List (Nat × Report)} (once : (reports.map Prod.fst).Nodup)
    {index : Nat} {report : Report} (member : (index, report) ∈ reports) :
    reports.filter (fun entry => entry.1 = index) = [(index, report)] := by
  obtain ⟨before, after, rfl⟩ := List.append_of_mem member
  rw [List.map_append, List.map_cons, List.nodup_middle, List.nodup_cons] at once
  have others {rest : List (Nat × Report)} (absent : index ∉ rest.map Prod.fst) :
      rest.filter (fun entry => entry.1 = index) = [] := by
    refine List.filter_eq_nil_iff.mpr fun entry listed same => absent ?_
    simp only [decide_eq_true_eq] at same
    exact same ▸ List.mem_map_of_mem listed
  obtain ⟨earlier, later⟩ : index ∉ before.map Prod.fst ∧ index ∉ after.map Prod.fst := by
    simpa only [List.mem_append, not_or] using once.1
  simp [List.filter_append, others earlier, others later]

theorem Reported.followsUp (reported : system.Reported setting) {number index : Nat}
    {launch : Launch} {phase : Phase}
    (found : system.callbacks.senders[index]? = some ⟨launch, number, phase⟩) :
    system.FollowsUp setting number launch index := by
  have silent (running : phase ≠ .ended) (report : Report) : (index, report) ∉ system.reports := by
    intro member
    obtain ⟨launch', number', found', -⟩ := reported.right index report member
    rw [found] at found'
    cases found'
    exact running rfl
  refine ⟨phase, found, ?_⟩
  cases phase with
  | started => exact silent (by simp)
  | looping => exact silent (by simp)
  | ended =>
    obtain ⟨⟨_, report⟩, member, rfl⟩ := List.mem_map.mp (reported.ended index launch number found)
    obtain ⟨launch', number', found', holds⟩ := reported.right _ report member
    rw [found] at found'
    cases found'
    exact ⟨report, filter_reports reported.once member, holds⟩

section Runs

variable (srpc) (setting) (events : List Event)

theorem run_threaded :
    (after (machine srpc setting) (.start srpc setting) events).callbacks.Threaded :=
  ((callbacks_simulates srpc setting).invariant
    (Q := fun callbacks => callbacks.Sound setting.toDeployment ∧ callbacks.Threaded)
    ⟨.start, .start⟩ (fun _ event known => ⟨known.1.step event, known.2.step known.1 event⟩)
    events).2

/-- In every run, no change of seats is passed over. For each execution, and for
each monitoring request before it whose flight it changes within the interval,
the execution has started one thread, in the order of the requests and with the
seats it left; the thread is still at work, or it has written one report: that
the client at the socket asked for has shown these seats, or else that nothing
could be sent to it, or that it was sent to four times in vain. -/
theorem changes_followed_up :
    ∀ before change later,
      (after (machine srpc setting) (.start srpc setting) events).callbacks.log =
        before ++ change :: later →
      List.Forall₂
        ((after (machine srpc setting) (.start srpc setting) events).FollowsUp setting before.length)
        (before.filterMap (callbackFor change))
        ((after (machine srpc setting) (.start srpc setting) events).callbacks.threadsOf
          before.length) := by
  obtain ⟨reported, sound, -, -⟩ := run_reported srpc setting events
  have threaded := run_threaded srpc setting events
  generalize after (machine srpc setting) (.start srpc setting) events = system at *
  intro before change later split
  have callsBack : CallsBack system.callbacks.log :=
    sound.logged ▸ executions_callsBack srpc setting.flightsInput setting.semantic
      (readFlightsFromFile_keyed setting.lines) system.callbacks.deliveries
  rw [← callsBack before change later split]
  refine (threaded.threads split).imp ?_
  rintro launch index ⟨phase, found⟩
  exact reported.followsUp found

end Runs

/-- The callback of the client that watches is followed up by thread 0, which has reported. -/
theorem changes_followed_up_watched :
    List.Forall₂
      ((after (machine .reference watchedFlight) (.start .reference watchedFlight)
        (watchedReservation ++ [.acknowledge 0 0])).FollowsUp watchedFlight 1)
      [⟨socketAt someClient 6000, ⟨0, 4003, 8⟩, 1⟩] [0] := by
  have followed := changes_followed_up .reference watchedFlight
    (watchedReservation ++ [.acknowledge 0 0])
  set system := after (machine .reference watchedFlight) (.start .reference watchedFlight)
    (watchedReservation ++ [.acknowledge 0 0])
  have two : system.callbacks.log.length = 2 := by decide +kernel
  have split : system.callbacks.log = system.callbacks.log.take 1 ++
      system.callbacks.log[1] :: system.callbacks.log.drop 2 := by
    rw [← List.drop_eq_getElem_cons, List.take_append_drop]
  have called : (system.callbacks.log.take 1).filterMap (callbackFor system.callbacks.log[1]) =
      [⟨socketAt someClient 6000, ⟨0, 4003, 8⟩, 1⟩] := by decide +kernel
  have threads : system.callbacks.threadsOf 1 = [0] := by decide +kernel
  have first : (system.callbacks.log.take 1).length = 1 := by simp [two]
  have result := followed _ _ _ split
  rwa [called, first, threads] at result

/-- The thread has ended in success, and the client at its address has shown its
callback. The other threads, the server and the main threads of the clients are
where they were. -/
structure Delivers (setting : Setting) (before next : System srpc) (index : Nat) (sender : Sender) :
    Prop where
  reports : next.reports = before.reports ++ [(index, .received)]
  shown : ∃ id, ⟨sender.change, { sender.launch.request with id := id }⟩ ∈
    (next.callbacks.listeners (setting.home sender.launch.toAddr)).presented
  senders : next.callbacks.senders =
    before.callbacks.senders.set index { sender with phase := .ended }
  server : next.callbacks.server = before.callbacks.server
  mains : next.mains = before.mains

/-- A client listens at this socket, and its program runs. -/
def ListensAt (setting : Setting) (system : System srpc) (socket : SocketAddress) : Prop :=
  socket ∈ system.listening ∧ (system.mains (setting.home socket)).stage ≠ .exited

/-- The datagram of a thread's callback. -/
def callbackOf (sender : Sender) (index : Nat) (id : UInt64) : Datagram (Update.marshal srpc) :=
  ⟨sender.launch.toAddr, ⟨(Callbacks.Sender.update sender index id).marshal srpc,
    Callbacks.update_fits _⟩, Callbacks.Sender.update sender index id, rfl⟩

theorem of?_callbackOf (sender : Sender) (index : Nat) (id : UInt64) :
    Datagram.of? (Update.marshal srpc) sender.launch.toAddr
      (Callbacks.Sender.update sender index id) = some (callbackOf sender index id) :=
  dif_pos (Callbacks.update_fits _)

theorem response_fits (res : SeatAvailabilityCallbackResponse) :
    (Message.callbackResponse.marshal srpc res).length < 2 ^ 63 := by
  have length : (Message.callbackResponse.marshal srpc res).length = 4 + (8 + 4) := by
    simp [Message.marshal, marshalSeatAvailabilityCallbackResponse, marshalTag]
  omega

theorem arrive_replies (sound : system.callbacks.Sound setting.toDeployment)
    (datagram : Datagram (Update.marshal srpc)) :
    (system.callbacks.arrive setting.toDeployment datagram false false).replies =
      system.callbacks.replies ++ [(datagram.value.sender,
        Message.callbackResponse.marshal srpc ⟨datagram.value.request.id, 0⟩)] := by
  have plain : (system.callbacks.listeners (setting.home datagram.client)).history.Plain := by
    rw [(sound.listeners (setting.home datagram.client)).handled]
    exact historyAfter_plain srpc setting.clientSemantic _
  have responded : (serveSeatAvailabilityCallbacks srpc setting.clientSemantic _ _).2.response = _ :=
    response_plain plain (Callbacks.Sound.arrival_request datagram false false) rfl rfl
  simp only [Callbacks.arrive, Handled.reply, responded]
  rfl

/-- A thread that waits gets its reply once its datagram arrives. -/
theorem waiting_delivers (sound : system.callbacks.Sound setting.toDeployment) {index : Nat}
    {launch : Launch} {change attempt : Nat} {id : UInt64} {within : attempt ≤ retryTimes}
    (found : system.callbacks.senders[index]? =
      some ⟨launch, change, .looping ⟨id, attempt, within, true⟩⟩)
    (listens : system.ListensAt setting launch.toAddr)
    (sent : callbackOf ⟨launch, change, .looping ⟨id, attempt, within, true⟩⟩ index id ∈
      system.callbacks.sent) :
    ∃ later, later.length ≤ 2 ∧ Delivers setting system (after (machine srpc setting) system later)
      index ⟨launch, change, .looping ⟨id, attempt, within, true⟩⟩ := by
  obtain ⟨position, placed⟩ := List.getElem?_of_mem sent
  set waiting : Sender := ⟨launch, change, .looping ⟨id, attempt, within, true⟩⟩
  set shown := system.callbacks.arrive setting.toDeployment (callbackOf waiting index id) false false
    with shows
  have replies : shown.replies[system.callbacks.replies.length]? =
      some (index, Message.callbackResponse.marshal srpc ⟨id, 0⟩) := by
    rw [shows, arrive_replies sound, List.getElem?_concat_length]
    rfl
  have first : system.step setting (.present position false false) =
      { system with callbacks := shown } := by
    simp only [step, placed]
    refine (if_pos listens).trans ?_
    simp only [onCallbacks, Callbacks.step, placed, shows]
  have second : ({ system with callbacks := shown } : System srpc).step setting
      (.acknowledge index system.callbacks.replies.length) =
        { system with
          callbacks := shown.setPhase index waiting .ended
          reports := system.reports ++ [(index, .received)] } := by
    have still : shown.senders[index]? = some waiting := found
    simp only [step, still, replies, waiting]
    refine (dif_pos ⟨trivial, response_fits _⟩).trans ?_
    rw [Report.ofReply_plain]
    simp only [report, onCallbacks, Callbacks.step, still, replies, waiting, if_true]
  refine ⟨[.present position false false, .acknowledge index system.callbacks.replies.length],
    le_rfl, ?_⟩
  have left : after (machine srpc setting) system [.present position false false,
      .acknowledge index system.callbacks.replies.length] =
        (system.step setting (.present position false false)).step setting
          (.acknowledge index system.callbacks.replies.length) := rfl
  rw [left, first, second]
  refine ⟨rfl, ⟨id, ?_⟩, rfl, rfl, rfl⟩
  have presented : (shown.listeners (setting.home launch.toAddr)).presented =
      (system.callbacks.listeners (setting.home launch.toAddr)).presented ++ [_] :=
    Callbacks.Answered.presented_arrive (callbackOf waiting index id) false false
  change _ ∈ (shown.listeners (setting.home launch.toAddr)).presented
  rw [presented]
  exact List.mem_append_right _ (List.mem_singleton_self _)

theorem Delivers.moved {next last : System srpc} {index : Nat} {sender : Sender} {phase : Phase}
    (delivers : Delivers setting next last index { sender with phase := phase })
    (reports : next.reports = system.reports)
    (senders : next.callbacks.senders =
      system.callbacks.senders.set index { sender with phase := phase })
    (server : next.callbacks.server = system.callbacks.server)
    (mains : next.mains = system.mains) : Delivers setting system last index sender where
  reports := by rw [delivers.reports, reports]
  shown := delivers.shown
  senders := by rw [delivers.senders, senders, List.set_set]
  server := delivers.server.trans server
  mains := delivers.mains.trans mains

/-- A thread that is about to send sends, and gets its reply. -/
theorem sending_delivers (sound : system.callbacks.Sound setting.toDeployment) {index : Nat}
    {launch : Launch} {change attempt : Nat} {id : UInt64} {within : attempt ≤ retryTimes}
    (found : system.callbacks.senders[index]? =
      some ⟨launch, change, .looping ⟨id, attempt, within, false⟩⟩)
    (listens : system.ListensAt setting launch.toAddr) :
    ∃ later, later.length ≤ 3 ∧ Delivers setting system (after (machine srpc setting) system later)
      index ⟨launch, change, .looping ⟨id, attempt, within, false⟩⟩ := by
  set sending : Sender := ⟨launch, change, .looping ⟨id, attempt, within, false⟩⟩
  set next := system.step setting (.transmit index) with sends
  have callbacks : next.callbacks = system.callbacks.send index sending ⟨id, attempt, within, false⟩ := by
    simp only [sends, step, found, sending, onNetwork, onCallbacks, Callbacks.step]
  have same : next.reports = system.reports ∧ next.mains = system.mains ∧
      next.listening = system.listening := by
    simp only [sends, step, found, sending, onNetwork, onCallbacks, and_self]
  obtain ⟨reports, mains, listening⟩ := same
  have waiting : next.callbacks.senders[index]? =
      some ⟨launch, change, .looping ⟨id, attempt, within, true⟩⟩ := by
    rw [callbacks]
    exact (Callbacks.setPhase_getElem? found).trans (if_pos rfl)
  have sent : callbackOf ⟨launch, change, .looping ⟨id, attempt, within, true⟩⟩ index id ∈
      next.callbacks.sent := by
    rw [callbacks, Callbacks.send, of?_callbackOf]
    exact List.mem_append_right _ (List.mem_singleton_self _)
  have sound' : next.callbacks.Sound setting.toDeployment := callbacks ▸ sound.send found _
  have listens' : next.ListensAt setting launch.toAddr := by
    rw [ListensAt, listening, mains]
    exact listens
  obtain ⟨later, few, delivers⟩ := waiting_delivers sound' waiting listens' sent
  refine ⟨.transmit index :: later, Nat.succ_le_succ few, ?_⟩
  exact Delivers.moved delivers reports (by rw [callbacks]; rfl)
    (by rw [callbacks]; rfl) mains

/-- A thread that has not ended gets its callback shown when no more is lost. -/
theorem running_delivers (sound : system.callbacks.Sound setting.toDeployment)
    (counted : system.callbacks.Counted) {index : Nat} {sender : Sender}
    (found : system.callbacks.senders[index]? = some sender) (running : sender.phase ≠ .ended)
    (listens : system.ListensAt setting sender.launch.toAddr) :
    ∃ later, later.length ≤ 4 ∧ Delivers setting system (after (machine srpc setting) system later)
      index sender := by
  obtain ⟨launch, change, phase⟩ := sender
  cases phase with
  | ended => exact absurd rfl running
  | looping transmission =>
    obtain ⟨id, attempt, within, sent⟩ := transmission
    cases sent with
    | false =>
      obtain ⟨later, few, delivers⟩ := sending_delivers sound found listens
      exact ⟨later, few.trans (by decide), delivers⟩
    | true =>
      obtain ⟨_, _, ⟨rfl, rfl⟩, transmitted⟩ := counted.counted index _ found
      rw [Callbacks.Transmitted, of?_callbackOf] at transmitted
      obtain ⟨later, few, delivers⟩ := waiting_delivers sound found listens
        (Copies.sent_mem transmitted (Nat.succ_pos attempt))
      exact ⟨later, few.trans (by decide), delivers⟩
  | started =>
    -- Any id will do.
    set next := system.step setting (.create index 0) with creates
    have callbacks : next.callbacks = system.callbacks.setPhase index ⟨launch, change, .started⟩
        (.looping ⟨0, 0, Nat.zero_le retryTimes, false⟩) := by
      simp only [creates, step, onCallbacks, Callbacks.step, found]
    have sending : next.callbacks.senders[index]? =
        some ⟨launch, change, .looping ⟨0, 0, Nat.zero_le retryTimes, false⟩⟩ := by
      rw [callbacks]
      exact (Callbacks.setPhase_getElem? found).trans (if_pos rfl)
    have sound' : next.callbacks.Sound setting.toDeployment := callbacks ▸ sound.setPhase found _
    obtain ⟨later, few, delivers⟩ := sending_delivers sound' sending listens
    refine ⟨.create index 0 :: later, Nat.succ_le_succ few, ?_⟩
    exact Delivers.moved delivers rfl
      (by rw [callbacks]; rfl) (by rw [callbacks]; rfl) rfl

/-- In every run, the callback of a thread that has not ended can still get
through: if a client listens at the socket, at most four steps (the thread draws
an id, it sends, the datagram arrives, the thread gets the reply) end the thread
in success with its callback on the client's screen. -/
theorem callback_gets_through (srpc : Srpc) (setting : Setting) (events : List Event) {index : Nat} {sender : Sender}
    (found : (after (machine srpc setting) (.start srpc setting) events).callbacks.senders[index]? =
      some sender) (running : sender.phase ≠ .ended)
    (listens : (after (machine srpc setting) (.start srpc setting) events).ListensAt setting
      sender.launch.toAddr) :
    ∃ later, later.length ≤ 4 ∧ Delivers setting
      (after (machine srpc setting) (.start srpc setting) events)
      (after (machine srpc setting) (.start srpc setting) (events ++ later)) index sender := by
  obtain ⟨-, sound, counted, -⟩ := run_reported srpc setting events
  obtain ⟨later, few, delivers⟩ := running_delivers sound counted found running listens
  refine ⟨later, few, ?_⟩
  rw [after_append]
  exact delivers

/-- The same run until the thread has sent its callback twice, with no reply. -/
def twoInVain : List Event :=
  watchedReservation.take 11 ++ [.expire 0, .transmit 0, .expire 0]

/-- The third attempt gets through. -/
theorem callback_gets_through_third :
    ∃ later, later.length ≤ 4 ∧ Delivers watchedFlight
      (after (machine .reference watchedFlight) (.start .reference watchedFlight) twoInVain)
      (after (machine .reference watchedFlight) (.start .reference watchedFlight)
        (twoInVain ++ later)) 0
      ⟨⟨socketAt someClient 6000, ⟨0, 4003, 8⟩, 1⟩, 1, .looping ⟨100, 2, by decide, false⟩⟩ := by
  refine callback_gets_through .reference watchedFlight twoInVain ?_ (by simp) ⟨?_, ?_⟩
  · rfl
  · decide +kernel
  · decide +kernel

end System

end Dfis
