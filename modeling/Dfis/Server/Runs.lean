import Dfis.Server.Serve

/-! What one call of `Serve` can do, and runs of `Serve` as runs of executions
on its store. -/

namespace Dfis

open Base Machine

/-- The store a call works on, after the initialisation it may make. -/
def State.seen (flightsInput : Table Int32 Flight) (state : State) : Store :=
  (state.initialise flightsInput).store

/-- What the histories hold under a key. -/
def State.remembered (state : State) (key : RequestKey) : Option Answer :=
  ((state.history key.1).lookup key.2).map fun saved => ⟨key.1, saved.1, saved.2⟩

def Call.key (call : Call) : RequestKey := (call.kind, call.id)

def Execution.answer (execution : Execution) : Answer :=
  ⟨execution.kind, execution.request, execution.response⟩

section Initialise

@[simp] theorem State.initialise_initialise (state : State) (flightsInput : Table Int32 Flight) :
    (state.initialise flightsInput).initialise flightsInput = state.initialise flightsInput := by
  cases done : state.initialised with
  | false => simp [initialise, done]
  | true => simp [initialise, done]

@[simp] theorem State.initialise_history (state : State) (flightsInput : Table Int32 Flight) :
    (state.initialise flightsInput).history = state.history := by
  cases done : state.initialised with
  | false => simp [initialise, done]
  | true => simp [initialise, done]

@[simp] theorem State.initialise_remembered (state : State) (flightsInput : Table Int32 Flight) :
    (state.initialise flightsInput).remembered = state.remembered := by
  funext key
  simp [State.remembered]

theorem serve_initialise (srpc : Srpc) (semantic : InvocationSemantic)
    (flightsInput : Table Int32 Flight) (state : State) (delivery : Delivery) :
    serve srpc semantic flightsInput (state.initialise flightsInput) delivery =
      serve srpc semantic flightsInput state delivery := by
  simp [serve]

@[simp] theorem State.start_initialise (flightsInput : Table Int32 Flight) :
    (State.start flightsInput).initialise flightsInput = State.start flightsInput :=
  State.initialise_initialise State.zero flightsInput

@[simp] theorem State.start_remembered (flightsInput : Table Int32 Flight) (key : RequestKey) :
    (State.start flightsInput).remembered key = none := by
  rfl

theorem State.remembered_none {state : State} {call : Call} :
    state.remembered call.key = none ↔ (state.history call.kind).lookup call.id = none := by
  simp [State.remembered, Call.key]

theorem State.remembered_some {state : State} {call : Call} {answer : Answer}
    (known : state.remembered call.key = some answer) :
    ∃ saved : call.kind.Request × call.kind.Response,
      (state.history call.kind).lookup call.id = some saved ∧
      answer = ⟨call.kind, saved.1, saved.2⟩ := by
  obtain ⟨saved, found, rfl⟩ := Option.map_eq_some_iff.mp known
  exact ⟨saved, found, rfl⟩

theorem State.remembered_record (state : State) (call : Call) (res : call.kind.Response) :
    (state.record call.kind call.request res).remembered =
      Function.update state.remembered call.key (some ⟨call.kind, call.request, res⟩) := by
  funext key
  obtain ⟨kind, id⟩ := key
  by_cases sameKind : kind = call.kind
  · subst sameKind
    by_cases sameId : id = call.id
    · subst sameId
      simp [State.remembered, State.record, Call.key, Call.id]
    · have different : (call.kind, id) ≠ call.key := by simp [Call.key, sameId]
      rw [Function.update_of_ne different]
      have other : id ≠ call.kind.requestId call.request := sameId
      simp [State.remembered, State.record, other]
  · have different : (kind, id) ≠ call.key := by simp [Call.key, sameKind]
    rw [Function.update_of_ne different]
    simp [State.remembered, State.record, Function.update_of_ne sameKind]

end Initialise

section Step

variable (srpc : Srpc) (semantic : InvocationSemantic) (flightsInput : Table Int32 Flight)

/-- The state after an execution of the call. -/
def State.execute (state : State) (call : Call) : State :=
  let executed :=
    { state.initialise flightsInput with store := (call.run (state.seen flightsInput)).store }
  if semantic = .atMostOnce then
    executed.record call.kind call.request (call.run (state.seen flightsInput)).response
  else executed

/-- Everything one call of `Serve` can do. -/
inductive Served (state : State) (delivery : Delivery) : State × Outcome → Prop
  | ignored (nothing : delivery.received? srpc = none) :
      Served state delivery (state.initialise flightsInput, .none)
  | repeated {call : Call} {saved : call.kind.Request × call.kind.Response}
      (received : delivery.received? srpc = some call) (once : semantic = .atMostOnce)
      (found : (state.history call.kind).lookup call.id = some saved) :
      Served state delivery (state.initialise flightsInput,
        ⟨if delivery.resLost then none else some ⟨call.kind, call.request, saved.2⟩, [], none⟩)
  | executed {call : Call} (received : delivery.received? srpc = some call)
      (fresh : semantic = .atMostOnce → state.remembered call.key = none) :
      Served state delivery (state.execute semantic flightsInput call,
        ⟨if delivery.resLost then none
          else some ⟨call.kind, call.request, (call.run (state.seen flightsInput)).response⟩,
          (call.run (state.seen flightsInput)).launched,
          some (call.execute (state.seen flightsInput))⟩)

theorem serve_served (state : State) (delivery : Delivery) :
    Served srpc semantic flightsInput state delivery
      (serve srpc semantic flightsInput state delivery) := by
  cases data : delivery.reqData with
  | error message =>
    have nothing : delivery.received? srpc = none := by
      simp [Delivery.received?, Delivery.call?, data]
    simpa [serve, data] using Served.ignored nothing
  | ok reqData =>
    cases decoded : decode srpc reqData with
    | none =>
      have nothing : delivery.received? srpc = none := by
        simp [Delivery.received?, Delivery.call?, data, decoded]
      simpa [serve, data, decoded] using Served.ignored nothing
    | some request =>
      simp only [serve, data, decoded, handle]
      cases lost : delivery.reqLost with
      | true =>
        have nothing : delivery.received? srpc = none := by simp [Delivery.received?, lost]
        simpa using Served.ignored nothing
      | false =>
        have received : delivery.received? srpc =
            some ⟨request.1, request.2, delivery.fromAddr, delivery.now⟩ := by
          simp [Delivery.received?, Delivery.call?, data, decoded, lost]
        rw [if_neg (by simp)]
        split
        · rename_i saved found
          have once : semantic = .atMostOnce := by
            by_contra other
            simp [other] at found
          rw [if_pos once, State.initialise_history] at found
          exact .repeated received once found
        · rename_i missing
          refine .executed received fun once => State.remembered_none.mpr ?_
          rwa [if_pos once, State.initialise_history] at missing

variable {srpc semantic flightsInput}

theorem serve_ignored {delivery : Delivery} (nothing : delivery.received? srpc = none)
    (state : State) :
    serve srpc semantic flightsInput state delivery = (state.initialise flightsInput, .none) := by
  have served := serve_served srpc semantic flightsInput state delivery
  generalize serve srpc semantic flightsInput state delivery = result at served ⊢
  cases served with
  | ignored _ => rfl
  | repeated received => cases nothing.symm.trans received
  | executed received => cases nothing.symm.trans received

theorem serve_repeated {delivery : Delivery} {call : Call} {state : State}
    {saved : call.kind.Request × call.kind.Response} (received : delivery.received? srpc = some call)
    (found : (state.history call.kind).lookup call.id = some saved) :
    serve srpc .atMostOnce flightsInput state delivery = (state.initialise flightsInput,
      ⟨if delivery.resLost then none else some ⟨call.kind, call.request, saved.2⟩, [], none⟩) := by
  have served := serve_served srpc .atMostOnce flightsInput state delivery
  generalize serve srpc .atMostOnce flightsInput state delivery = result at served ⊢
  cases served with
  | ignored nothing => cases nothing.symm.trans received
  | repeated received' _ found' =>
    obtain rfl := Option.some.inj (received.symm.trans received')
    obtain rfl := Option.some.inj (found.symm.trans found')
    rfl
  | executed received' fresh =>
    obtain rfl := Option.some.inj (received.symm.trans received')
    cases (State.remembered_none.mp (fresh rfl)).symm.trans found

theorem serve_fresh {delivery : Delivery} {call : Call} {state : State}
    (received : delivery.received? srpc = some call)
    (fresh : semantic = .atMostOnce → state.remembered call.key = none) :
    serve srpc semantic flightsInput state delivery = (state.execute semantic flightsInput call,
      ⟨if delivery.resLost then none
        else some ⟨call.kind, call.request, (call.run (state.seen flightsInput)).response⟩,
        (call.run (state.seen flightsInput)).launched,
        some (call.execute (state.seen flightsInput))⟩) := by
  have served := serve_served srpc semantic flightsInput state delivery
  generalize serve srpc semantic flightsInput state delivery = result at served ⊢
  cases served with
  | ignored nothing => cases nothing.symm.trans received
  | repeated received' once found =>
    obtain rfl := Option.some.inj (received.symm.trans received')
    cases (State.remembered_none.mp (fresh once)).symm.trans found
  | executed received' _ =>
    obtain rfl := Option.some.inj (received.symm.trans received')
    rfl

variable (srpc semantic flightsInput)

@[simp] theorem State.execute_initialise (state : State) (call : Call) :
    (state.execute semantic flightsInput call).initialise flightsInput =
      state.execute semantic flightsInput call := by
  have done : (state.initialise flightsInput).initialised = true := by
    cases already : state.initialised with
    | false => simp [initialise, already]
    | true => simp [initialise, already]
  have kept : (state.execute semantic flightsInput call).initialised = true := by
    cases semantic with
    | atLeastOnce => exact done
    | atMostOnce => exact done
  simp [initialise, kept]

@[simp] theorem State.execute_store (state : State) (call : Call) :
    (state.execute semantic flightsInput call).store =
      (call.run (state.seen flightsInput)).store := by
  cases semantic with
  | atLeastOnce => rfl
  | atMostOnce => rfl

@[simp] theorem State.execute_seen (state : State) (call : Call) :
    (state.execute semantic flightsInput call).seen flightsInput =
      (call.run (state.seen flightsInput)).store := by
  rw [State.seen, State.execute_initialise, State.execute_store]

theorem State.execute_remembered (state : State) (call : Call) :
    (state.execute .atMostOnce flightsInput call).remembered =
      Function.update state.remembered call.key
        (some (call.execute (state.seen flightsInput)).answer) := by
  have recorded := State.remembered_record
    { state.initialise flightsInput with store := (call.run (state.seen flightsInput)).store }
    call (call.run (state.seen flightsInput)).response
  rw [← State.initialise_remembered state flightsInput]
  exact recorded

/-- A call of `Serve` leaves the store alone or makes one execution on it. -/
theorem serve_store (state : State) (delivery : Delivery) :
    ((serve srpc semantic flightsInput state delivery).1.seen flightsInput =
        state.seen flightsInput ∧
      (serve srpc semantic flightsInput state delivery).2.executed = none ∧
      (serve srpc semantic flightsInput state delivery).2.launched = []) ∨
    ∃ call, delivery.received? srpc = some call ∧
      (semantic = .atMostOnce → state.remembered call.key = none) ∧
      (serve srpc semantic flightsInput state delivery).1 =
        state.execute semantic flightsInput call ∧
      (serve srpc semantic flightsInput state delivery).2.executed =
        some (call.execute (state.seen flightsInput)) ∧
      (serve srpc semantic flightsInput state delivery).2.launched =
        (call.run (state.seen flightsInput)).launched := by
  have served := serve_served srpc semantic flightsInput state delivery
  generalize serve srpc semantic flightsInput state delivery = result at served
  cases served with
  | ignored nothing => exact .inl ⟨by simp [State.seen], rfl, rfl⟩
  | repeated received once found => exact .inl ⟨by simp [State.seen], rfl, rfl⟩
  | executed received fresh => exact .inr ⟨_, received, fresh, rfl, rfl, rfl⟩

theorem initialise_serve (state : State) (delivery : Delivery) :
    (serve srpc semantic flightsInput state delivery).1.initialise flightsInput =
      (serve srpc semantic flightsInput state delivery).1 := by
  have served := serve_served srpc semantic flightsInput state delivery
  generalize serve srpc semantic flightsInput state delivery = result at served
  cases served with
  | ignored nothing => exact State.initialise_initialise state flightsInput
  | repeated received once found => exact State.initialise_initialise state flightsInput
  | executed received fresh => exact State.execute_initialise semantic flightsInput state _

end Step

section Run

variable (srpc : Srpc) (semantic : InvocationSemantic) (flightsInput : Table Int32 Flight)

/-- The static variables after these deliveries. -/
def reached (deliveries : List Delivery) : State :=
  after (serve srpc semantic flightsInput) (.start flightsInput) deliveries

/-- What the calls on the way did. -/
def outcomes (deliveries : List Delivery) : List Outcome :=
  outputs (serve srpc semantic flightsInput) (.start flightsInput) deliveries

/-- The executions on the way. -/
def executions (deliveries : List Delivery) : List Execution :=
  (outcomes srpc semantic flightsInput deliveries).filterMap Outcome.executed

theorem reached_snoc (deliveries : List Delivery) (delivery : Delivery) :
    reached srpc semantic flightsInput (deliveries ++ [delivery]) =
      (serve srpc semantic flightsInput (reached srpc semantic flightsInput deliveries)
        delivery).1 :=
  after_snoc _ _ _ _

theorem executions_snoc (deliveries : List Delivery) (delivery : Delivery) :
    executions srpc semantic flightsInput (deliveries ++ [delivery]) =
      executions srpc semantic flightsInput deliveries ++
        (serve srpc semantic flightsInput (reached srpc semantic flightsInput deliveries)
          delivery).2.executed.toList := by
  rw [executions, outcomes, outputs_snoc, List.filterMap_append]
  rfl

@[simp] theorem reached_initialise (deliveries : List Delivery) :
    (reached srpc semantic flightsInput deliveries).initialise flightsInput =
      reached srpc semantic flightsInput deliveries := by
  refine invariant (P := fun state : State => state.initialise flightsInput = state)
    (State.start_initialise flightsInput) ?_ deliveries
  intro state delivery _
  exact initialise_serve srpc semantic flightsInput state delivery

@[simp] theorem reached_seen (deliveries : List Delivery) :
    (reached srpc semantic flightsInput deliveries).seen flightsInput =
      (reached srpc semantic flightsInput deliveries).store := by
  rw [State.seen, reached_initialise]

theorem call_of_executed {srpc : Srpc} {semantic : InvocationSemantic}
    {flightsInput : Table Int32 Flight} {deliveries : List Delivery} {delivery : Delivery}
    {execution : Execution}
    (executed : (serve srpc semantic flightsInput (reached srpc semantic flightsInput deliveries)
      delivery).2.executed = some execution) :
    ∃ call, delivery.received? srpc = some call ∧
      (semantic = .atMostOnce →
        (reached srpc semantic flightsInput deliveries).remembered call.key = none) ∧
      execution = call.execute (reached srpc semantic flightsInput deliveries).store := by
  rcases serve_store srpc semantic flightsInput (reached srpc semantic flightsInput deliveries)
    delivery with ⟨_, nothing, _⟩ | ⟨call, received, fresh, _, made, _⟩
  · cases nothing.symm.trans executed
  · rw [reached_seen] at made
    exact ⟨call, received, fresh, Option.some.inj (executed.symm.trans made)⟩

theorem reached_executed {srpc : Srpc} {semantic : InvocationSemantic}
    {flightsInput : Table Int32 Flight} {deliveries : List Delivery} {delivery : Delivery}
    {call : Call} (received : delivery.received? srpc = some call)
    (fresh : semantic = .atMostOnce →
      (reached srpc semantic flightsInput deliveries).remembered call.key = none) :
    (reached srpc semantic flightsInput (deliveries ++ [delivery])).store =
      (call.run (reached srpc semantic flightsInput deliveries).store).store := by
  rw [reached_snoc, serve_fresh received fresh, State.execute_store, reached_seen]

theorem executions_executed {srpc : Srpc} {semantic : InvocationSemantic}
    {flightsInput : Table Int32 Flight} {deliveries : List Delivery} {delivery : Delivery}
    {call : Call} (received : delivery.received? srpc = some call)
    (fresh : semantic = .atMostOnce →
      (reached srpc semantic flightsInput deliveries).remembered call.key = none) :
    executions srpc semantic flightsInput (deliveries ++ [delivery]) =
      executions srpc semantic flightsInput deliveries ++
        [call.execute (reached srpc semantic flightsInput deliveries).store] := by
  rw [executions_snoc, serve_fresh received fresh, reached_seen]
  rfl

/-- What every execution preserves holds after every run. Under at-most-once
an execution's key is new, since the keys of earlier ones are remembered. -/
theorem executions_induct {P : Store → List Execution → Prop} (start : P ⟨flightsInput, ∅, ∅⟩ [])
    (step : ∀ (store : Store) (log : List Execution) (call : Call), P store log →
      (semantic = .atMostOnce → ∀ earlier ∈ log, earlier.key ≠ call.key) →
      P (call.run store).store (log ++ [call.execute store]))
    (deliveries : List Delivery) :
    P (reached srpc semantic flightsInput deliveries).store
      (executions srpc semantic flightsInput deliveries) := by
  suffices strong :
      (semantic = .atMostOnce → ∀ execution ∈ executions srpc semantic flightsInput deliveries,
        (reached srpc semantic flightsInput deliveries).remembered execution.key ≠ none) ∧
      P (reached srpc semantic flightsInput deliveries).store
        (executions srpc semantic flightsInput deliveries) from strong.2
  induction deliveries using List.reverseRecOn with
  | nil => exact ⟨fun _ _ member => absurd member List.not_mem_nil, start⟩
  | append_singleton deliveries delivery ih =>
    obtain ⟨known, holds⟩ := ih
    have served := serve_served srpc semantic flightsInput
      (reached srpc semantic flightsInput deliveries) delivery
    rw [executions_snoc, ← reached_seen, reached_snoc]
    generalize serve srpc semantic flightsInput (reached srpc semantic flightsInput deliveries)
      delivery = result at served ⊢
    cases served with
    | ignored nothing => simpa [State.seen, Outcome.none] using ⟨known, holds⟩
    | repeated received once found => simpa [State.seen] using ⟨known, holds⟩
    | @executed call received fresh =>
      rw [State.execute_seen, reached_seen]
      constructor
      · intro once execution member
        subst once
        rw [State.execute_remembered]
        rcases List.mem_append.mp member with old | new
        · by_cases same : execution.key = call.key
          · simp [same]
          · rw [Function.update_of_ne same]
            exact known rfl execution old
        · obtain rfl := List.mem_singleton.mp new
          rw [show ((call.execute _).key : RequestKey) = call.key from rfl, Function.update_self]
          exact Option.some_ne_none _
      · refine step _ _ call holds fun once earlier member same => ?_
        rw [← same] at fresh
        exact known once earlier member (fresh once)

theorem executions_received (deliveries : List Delivery) (execution : Execution)
    (member : execution ∈ executions srpc semantic flightsInput deliveries) :
    ∃ delivery ∈ deliveries, ∃ call store, delivery.received? srpc = some call ∧
      execution = call.execute store := by
  induction deliveries using List.reverseRecOn with
  | nil => cases member
  | append_singleton deliveries delivery ih =>
    rw [executions_snoc] at member
    rcases List.mem_append.mp member with old | new
    · obtain ⟨earlier, listed, executed⟩ := ih old
      exact ⟨earlier, List.mem_append_left _ listed, executed⟩
    · rcases serve_store srpc semantic flightsInput
        (reached srpc semantic flightsInput deliveries) delivery with
        ⟨_, none, _⟩ | ⟨call, received, _, _, some, _⟩
      · rw [none] at new
        cases new
      · rw [some] at new
        obtain rfl := List.mem_singleton.mp new
        exact ⟨delivery, by simp, call, _, received, rfl⟩

/-- Under at-most-once no two executions are of requests of one kind and id. -/
theorem executions_distinct (deliveries : List Delivery) :
    (executions srpc .atMostOnce flightsInput deliveries).Pairwise fun first second =>
      first.key ≠ second.key := by
  refine executions_induct srpc .atMostOnce flightsInput (P := fun _ log =>
    log.Pairwise fun first second => first.key ≠ second.key) List.Pairwise.nil ?_ deliveries
  intro store log call distinct fresh
  refine List.pairwise_append.mpr ⟨distinct, List.pairwise_singleton _ _, ?_⟩
  intro earlier member execution last
  obtain rfl := List.mem_singleton.mp last
  exact fresh rfl earlier member

theorem distinct_alone {log before after : List Execution} {execution : Execution}
    (distinct : log.Pairwise fun first second => first.key ≠ second.key)
    (split : log = before ++ execution :: after) (other : Execution)
    (member : other ∈ before ++ after) : other.key ≠ execution.key := by
  rw [split, List.pairwise_append, List.pairwise_cons] at distinct
  obtain ⟨_, ⟨later, _⟩, earlier⟩ := distinct
  rcases List.mem_append.mp member with first | last
  · exact earlier other first execution List.mem_cons_self
  · exact Ne.symm (later other last)

end Run

end Dfis
