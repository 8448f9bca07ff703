import Dfis.Callbacks.Order

/-! Which threads an execution has started: one for each callback it launched,
in the same order, for good. -/

namespace Dfis

open Base Machine

namespace Callbacks

variable {srpc : Srpc} {Process : Type} {deployment : Deployment Process}
  {callbacks : Callbacks srpc Process}

theorem map_setPhase {V : Type} {index : Nat} {sender : Sender}
    (found : callbacks.senders[index]? = some sender) (phase : Phase) {view : Sender → V}
    (blind : view { sender with phase := phase } = view sender) :
    (callbacks.setPhase index sender phase).senders.map view = callbacks.senders.map view := by
  have same : (callbacks.senders.map view)[index]? = some (view sender) := by
    rw [List.getElem?_map, found, Option.map_some]
  obtain ⟨within, own⟩ := List.getElem?_eq_some_iff.mp same
  simp only [setPhase, List.map_set, blind]
  rw [← own]
  exact List.set_getElem_self within

/-- The callbacks of the threads that the numbered execution has started. -/
def startedBy (callbacks : Callbacks srpc Process) (number : Nat) : List Launch :=
  ((callbacks.senders.map fun sender => (sender.change, sender.launch)).filter
    fun entry => entry.1 = number).map Prod.snd

/-- Every execution has started a thread for each callback it launched. -/
def Threaded (callbacks : Callbacks srpc Process) : Prop :=
  ∀ before change after, callbacks.log = before ++ change :: after →
    callbacks.startedBy before.length = change.launched

namespace Threaded

theorem start : Threaded (.start srpc deployment) := by
  intro before change after split
  simp [Callbacks.start] at split

theorem setPhase (threaded : callbacks.Threaded) {index : Nat} {sender : Sender}
    (found : callbacks.senders[index]? = some sender) (phase : Phase) :
    (callbacks.setPhase index sender phase).Threaded := by
  intro before change after split
  rw [startedBy, map_setPhase found phase rfl]
  exact threaded before change after split

theorem serve (threaded : callbacks.Threaded) (sound : callbacks.Sound deployment)
    (delivery : Delivery) : (callbacks.serve deployment delivery).Threaded := by
  have earlier : ∀ sender ∈ callbacks.senders, sender.change < callbacks.log.length := by
    intro sender member
    obtain ⟨change, numbered, -⟩ := sound.senders sender member
    exact (List.getElem?_eq_some_iff.mp numbered).1
  rcases serve_store srpc deployment.semantic deployment.flightsInput callbacks.server delivery with
    ⟨_, none, silent⟩ | ⟨call, _, _, _, executed, started⟩
  · intro before change after split
    simp only [Callbacks.serve, none, Option.toList_none, List.append_nil] at split
    simp only [startedBy, Callbacks.serve, silent, List.map_nil, List.append_nil]
    exact threaded before change after split
  · set execution := call.execute (callbacks.server.seen deployment.flightsInput)
    have launched (number : Nat) : (callbacks.serve deployment delivery).startedBy number =
        callbacks.startedBy number ++
          if callbacks.log.length = number then execution.launched else [] := by
      simp only [startedBy, Callbacks.serve, started, List.map_append, List.filter_append, List.map_map,
        Function.comp_def]
      congr 1
      split
      · rename_i same
        simp [same, List.filter_map, Function.comp_def, execution, Call.execute]
      · rename_i different
        simp [different, List.filter_map, Function.comp_def]
    intro before change after split
    rw [launched]
    simp only [Callbacks.serve, executed, Option.toList_some] at split
    rcases List.eq_nil_or_concat after with rfl | ⟨between, last, rfl⟩
    · obtain ⟨rfl, same⟩ := List.append_inj' split rfl
      obtain rfl := List.singleton_inj.mp same
      have none : callbacks.startedBy callbacks.log.length = [] := by
        rw [startedBy, List.map_eq_nil_iff, List.filter_eq_nil_iff]
        intro entry member
        obtain ⟨sender, listed, rfl⟩ := List.mem_map.mp member
        simpa using (earlier sender listed).ne
      rw [none, if_pos rfl, List.nil_append]
    · have prior : callbacks.log ++ [execution] = (before ++ change :: between) ++ [last] := by
        simp [split]
      have log : callbacks.log = before ++ change :: between := List.append_inj_left' prior rfl
      have newer : callbacks.log.length ≠ before.length := by simp [log]
      rw [if_neg newer, List.append_nil]
      exact threaded before change between log

theorem step [DecidableEq Process] (threaded : callbacks.Threaded)
    (sound : callbacks.Sound deployment) (event : Event) :
    (callbacks.step deployment event).Threaded := by
  have stepped := step_stepped deployment callbacks event
  generalize callbacks.step deployment event = next at stepped ⊢
  cases stepped with
  | still => exact threaded
  | serve delivery => exact threaded.serve sound delivery
  | moved phase silent found => exact threaded.setPhase found phase
  | send transmission found => exact threaded.setPhase found _
  | arrive found => exact threaded

end Threaded

/-- The threads of the numbered execution, by their positions. -/
def threadsOf (callbacks : Callbacks srpc Process) (number : Nat) : List Nat :=
  (callbacks.senders.zipIdx.filter fun entry => entry.1.change = number).map Prod.snd

theorem Threaded.threads (threaded : callbacks.Threaded) {before after : List Execution}
    {change : Execution} (split : callbacks.log = before ++ change :: after) :
    List.Forall₂ (fun launch index => ∃ phase,
        callbacks.senders[index]? = some ⟨launch, before.length, phase⟩)
      change.launched (callbacks.threadsOf before.length) := by
  have launches : change.launched =
      (callbacks.senders.zipIdx.filter fun entry => entry.1.change = before.length).map
        fun entry => entry.1.launch := by
    rw [← threaded before change after split]
    calc callbacks.startedBy before.length
      _ = (callbacks.senders.filter fun sender => sender.change = before.length).map
            Sender.launch := by
          simp only [startedBy, List.filter_map, List.map_map, Function.comp_def]
      _ = ((callbacks.senders.zipIdx.map Prod.fst).filter fun sender =>
            sender.change = before.length).map Sender.launch := by rw [List.zipIdx_map_fst]
      _ = _ := by simp only [List.filter_map, List.map_map, Function.comp_def]
  rw [launches, threadsOf, List.forall₂_map_left_iff, List.forall₂_map_right_iff, List.forall₂_same]
  intro entry member
  obtain ⟨listed, own⟩ := List.mem_filter.mp member
  obtain ⟨⟨launch, change, phase⟩, index⟩ := entry
  obtain rfl : change = before.length := by simpa using own
  exact ⟨phase, List.mem_zipIdx_iff_getElem?.mp listed⟩

end Callbacks

end Dfis
