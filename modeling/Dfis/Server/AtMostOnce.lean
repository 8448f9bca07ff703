import Dfis.Server.Runs

/-! At-most-once: the histories make repeated requests as if they had never
arrived, but for the saved response they are answered with. -/

namespace Dfis

open Base Machine

variable (srpc : Srpc) (flightsInput : Table Int32 Flight)

theorem serve_executes :
    Executes (reservationService srpc) (serve srpc .atLeastOnce flightsInput)
      (State.seen flightsInput) Outcome.executed where
  ignored state delivery nothing := by
    rw [serve_ignored nothing]
    simp [State.seen, Outcome.none]
  executes state delivery call received := by
    rw [serve_fresh received (by simp)]
    exact ⟨State.execute_seen _ _ _ _, rfl⟩

theorem serve_suppresses :
    Suppresses (reservationService srpc) Execution.answer (serve srpc .atMostOnce flightsInput)
      (State.seen flightsInput) State.remembered Outcome.executed where
  ignored state delivery nothing := by
    rw [serve_ignored nothing]
    simp [State.seen, Outcome.none]
  repeated state delivery call found received known := by
    obtain ⟨saved, recorded, _⟩ := Option.map_eq_some_iff.mp known
    rw [serve_repeated received recorded]
    simp [State.seen]
  fresh state delivery call received new := by
    rw [serve_fresh received fun _ => new]
    exact ⟨State.execute_seen _ _ _ _, State.execute_remembered _ _ _, rfl⟩

/-- A call starts the threads of the execution it makes, and none otherwise. -/
theorem outcome_launched {semantic : InvocationSemantic} (deliveries : List Delivery)
    (outcome : Outcome) (member : outcome ∈ outcomes srpc semantic flightsInput deliveries) :
    outcome.launched = (outcome.executed.map Execution.launched).getD [] := by
  induction deliveries using List.reverseRecOn with
  | nil => cases member
  | append_singleton deliveries delivery ih =>
    rw [outcomes, outputs_snoc] at member
    rcases List.mem_append.mp member with old | new
    · exact ih old
    · obtain rfl := List.mem_singleton.mp new
      rcases serve_store srpc semantic flightsInput
        (after (serve srpc semantic flightsInput) (.start flightsInput) deliveries) delivery with
        ⟨_, none, nothing⟩ | ⟨call, _, _, _, some, started⟩
      · simp [none, nothing]
      · simp [some, started, Call.execute]

private theorem flatMap_executed (outs : List Outcome)
    (each : ∀ outcome ∈ outs, outcome.launched = (outcome.executed.map Execution.launched).getD []) :
    outs.flatMap Outcome.launched =
      (outs.filterMap Outcome.executed).flatMap Execution.launched := by
  induction outs with
  | nil => rfl
  | cons outcome outs ih =>
    have own := each outcome List.mem_cons_self
    have rest := ih fun other member => each other (List.mem_cons_of_mem _ member)
    cases executed : outcome.executed with
    | none => simpa [own, executed] using rest
    | some execution => simpa [own, executed] using rest

theorem outcomes_launched (semantic : InvocationSemantic) (deliveries : List Delivery) :
    (outcomes srpc semantic flightsInput deliveries).flatMap Outcome.launched =
      (executions srpc semantic flightsInput deliveries).flatMap Execution.launched :=
  flatMap_executed _ (outcome_launched srpc flightsInput deliveries)

theorem reached_unknown {deliveries : List Delivery} {key : RequestKey}
    (absent : ∀ earlier ∈ deliveries, (reservationService srpc).keyOf earlier ≠ some key) :
    (reached srpc .atMostOnce flightsInput deliveries).remembered key = none :=
  (serve_suppresses srpc flightsInput).unknown (State.start_remembered flightsInput) absent

/-- A key is remembered with the answer of the execution its first delivery made. -/
theorem remembered_first {before : List Delivery} {first : Delivery} {call : Call}
    (received : first.received? srpc = some call)
    (absent : ∀ earlier ∈ before, (reservationService srpc).keyOf earlier ≠ some call.key)
    (between : List Delivery) :
    (serve srpc .atMostOnce flightsInput (reached srpc .atMostOnce flightsInput before)
        first).2.executed =
        some (call.execute (reached srpc .atMostOnce flightsInput before).store) ∧
      (reached srpc .atMostOnce flightsInput (before ++ first :: between)).remembered call.key =
        some (call.execute (reached srpc .atMostOnce flightsInput before).store).answer := by
  have suppresses := serve_suppresses srpc flightsInput
  have new := reached_unknown srpc flightsInput absent
  have served : serve srpc .atMostOnce flightsInput
      (reached srpc .atMostOnce flightsInput before) first = _ := serve_fresh received fun _ => new
  constructor
  · rw [served, reached_seen]
  · rw [reached, after_append]
    refine suppresses.remembers ?_ between
    change (serve _ _ _ (reached srpc .atMostOnce flightsInput before) first).1.remembered _ = _
    rw [served, State.execute_remembered, Function.update_self, reached_seen]

theorem repeated_reply {state : State} {again : Delivery} {later : Call} {answer : Answer}
    (received : again.received? srpc = some later) (known : state.remembered later.key = some answer)
    (replied : (serve srpc .atMostOnce flightsInput state again).2.reply srpc = some reply) :
    reply = answer.marshal srpc := by
  obtain ⟨saved, found, rfl⟩ := State.remembered_some known
  rw [serve_repeated received found] at replied
  cases lost : again.resLost with
  | true => simp [Outcome.reply, lost] at replied
  | false =>
    simp only [Outcome.reply, lost, Bool.false_eq_true, if_false, Option.map_some,
      Option.some.injEq] at replied
    exact replied.symm

/-- Under at-most-once any deliveries come to executing, at-least-once, the
first delivery of each request that is not lost, and every reply to a later
delivery of it is the marshalled response of that execution. -/
theorem at_most_once_refines (deliveries : List Delivery) :
    (reached srpc .atMostOnce flightsInput deliveries).store =
        (reached srpc .atLeastOnce flightsInput
          ((reservationService srpc).firsts deliveries)).store ∧
      (outcomes srpc .atMostOnce flightsInput deliveries).flatMap Outcome.launched =
        (outcomes srpc .atLeastOnce flightsInput
          ((reservationService srpc).firsts deliveries)).flatMap Outcome.launched ∧
      ∀ before first between again rest call later reply,
        deliveries = before ++ first :: (between ++ again :: rest) →
        first.received? srpc = some call → again.received? srpc = some later →
        later.key = call.key →
        (∀ earlier ∈ before, (reservationService srpc).keyOf earlier ≠ some call.key) →
        (serve srpc .atMostOnce flightsInput
          (reached srpc .atMostOnce flightsInput (before ++ first :: between)) again).2.reply srpc =
            some reply →
        ∃ execution, (serve srpc .atMostOnce flightsInput
            (reached srpc .atMostOnce flightsInput before) first).2.executed = some execution ∧
          reply = execution.answer.marshal srpc := by
  have refined := (serve_suppresses srpc flightsInput).refines (serve_executes srpc flightsInput)
    rfl (State.start_remembered flightsInput) deliveries
  refine ⟨?_, ?_, ?_⟩
  · rw [← reached_seen, ← reached_seen]
    exact refined.1
  · rw [outcomes_launched, outcomes_launched]
    exact congrArg (List.flatMap Execution.launched) refined.2
  · intro before first between again rest call later reply _ received receivedAgain same absent replied
    obtain ⟨executed, known⟩ := remembered_first srpc flightsInput received absent between
    rw [← same] at known
    exact ⟨_, executed, repeated_reply srpc flightsInput receivedAgain known replied⟩

end Dfis
