import Dfis.Base.Machine
import Mathlib.Logic.Function.Basic

/-! Duplicate suppression: a machine that executes the first query of each key
and answers the later ones from memory, against one that executes them all. -/

namespace Dfis.Base

/-- What a server does: it reads inputs as queries or ignores them, and
executes a query on its store. -/
structure Service (I Q K S R : Type) where
  read : I → Option Q
  key : Q → K
  execute : S → Q → S × R

namespace Service

variable {I Q K S R : Type}

/-- The key of the query an input carries. -/
def keyOf (service : Service I Q K S R) (input : I) : Option K :=
  (service.read input).map service.key

/-- The inputs that carry the first query of their key, the keys seen before aside. -/
def firstsFrom [DecidableEq K] (service : Service I Q K S R) (seen : List K) : List I → List I
  | [] => []
  | input :: inputs =>
    match service.keyOf input with
    | none => firstsFrom service seen inputs
    | some key =>
      if key ∈ seen then firstsFrom service seen inputs
      else input :: firstsFrom service (key :: seen) inputs

/-- The inputs that carry the first query of their key. -/
def firsts [DecidableEq K] (service : Service I Q K S R) (inputs : List I) : List I :=
  service.firstsFrom [] inputs

/-- The first query of a key. -/
def firstQuery [DecidableEq K] (service : Service I Q K S R) (inputs : List I) (key : K) : Option Q :=
  (inputs.filterMap service.read).find? fun query => service.key query = key

/-- The input after `earlier` carries this query, the first of its key. -/
structure First (service : Service I Q K S R) (inputs earlier : List I) (query : Q) : Prop where
  carried : ∃ input, service.read input = some query ∧ earlier ++ [input] <+: inputs
  first : ∀ before ∈ earlier, service.keyOf before ≠ some (service.key query)

theorem First.snoc {service : Service I Q K S R} (first : service.First inputs earlier query)
    (input : I) : service.First (inputs ++ [input]) earlier query := by
  obtain ⟨⟨own, read, isPrefix⟩, absent⟩ := first
  exact ⟨⟨own, read, isPrefix.trans (List.prefix_append _ _)⟩, absent⟩

theorem First.firstQuery [DecidableEq K] {service : Service I Q K S R}
    (first : service.First inputs earlier query) :
    service.firstQuery inputs (service.key query) = some query := by
  obtain ⟨⟨own, read, rest, rfl⟩, absent⟩ := first
  have passed : (earlier.filterMap service.read).find?
      (fun other => service.key other = service.key query) = none := by
    refine List.find?_eq_none.mpr fun other member same => ?_
    obtain ⟨input, listed, reads⟩ := List.mem_filterMap.mp member
    exact absent input listed (by simpa [keyOf, reads] using same)
  simp [Service.firstQuery, List.filterMap_append, List.find?_append, passed, read]

end Service

open Machine

variable {I Q K S R M C C' O O' : Type}

/-- The machine executes every query. -/
structure Executes (service : Service I Q K S R) (machine : Machine C I O) (store : C → S)
    (executed : O → Option R) : Prop where
  ignored : ∀ state input, service.read input = none →
    store (machine state input).1 = store state ∧ executed (machine state input).2 = none
  executes : ∀ state input query, service.read input = some query →
    store (machine state input).1 = (service.execute (store state) query).1 ∧
      executed (machine state input).2 = some (service.execute (store state) query).2

/-- The machine executes the queries whose key it does not remember. -/
structure Suppresses [DecidableEq K] (service : Service I Q K S R) (saved : R → M)
    (machine : Machine C I O) (store : C → S) (memory : C → K → Option M)
    (executed : O → Option R) : Prop where
  ignored : ∀ state input, service.read input = none →
    store (machine state input).1 = store state ∧ memory (machine state input).1 = memory state ∧
      executed (machine state input).2 = none
  repeated : ∀ state input query found, service.read input = some query →
    memory state (service.key query) = some found →
      store (machine state input).1 = store state ∧
      memory (machine state input).1 = memory state ∧ executed (machine state input).2 = none
  fresh : ∀ state input query, service.read input = some query →
    memory state (service.key query) = none →
      store (machine state input).1 = (service.execute (store state) query).1 ∧
      memory (machine state input).1 = Function.update (memory state) (service.key query)
        (some (saved (service.execute (store state) query).2)) ∧
      executed (machine state input).2 = some (service.execute (store state) query).2

namespace Suppresses

variable [DecidableEq K] {service : Service I Q K S R} {saved : R → M} {machine : Machine C I O}
  {store : C → S} {memory : C → K → Option M} {executed : O → Option R}

/-- A remembered result is remembered for good. -/
theorem remembers (suppresses : Suppresses service saved machine store memory executed)
    (found : memory state key = some result) (inputs : List I) :
    memory (after machine state inputs) key = some result := by
  refine invariant (P := fun state => memory state key = some result) found ?_ inputs
  intro state input found
  cases read : service.read input with
  | none => rw [(suppresses.ignored state input read).2.1, found]
  | some query =>
    cases known : memory state (service.key query) with
    | some other => rw [(suppresses.repeated state input query other read known).2.1, found]
    | none =>
      have different : key ≠ service.key query := by
        intro same
        rw [same, known] at found
        cases found
      rw [(suppresses.fresh state input query read known).2.1, Function.update_of_ne different, found]

/-- A key that a query carried is remembered. -/
theorem carried (suppresses : Suppresses service saved machine store memory executed)
    (inputs : List I) (state : C) (member : input ∈ inputs)
    (carries : service.keyOf input = some key) :
    ∃ result, memory (after machine state inputs) key = some result := by
  induction inputs generalizing state with
  | nil => cases member
  | cons first inputs ih =>
    cases member with
    | tail _ member => exact ih (machine state first).1 member
    | head =>
      obtain ⟨query, read, rfl⟩ := Option.map_eq_some_iff.mp carries
      cases known : memory state (service.key query) with
      | some found =>
        refine ⟨found, suppresses.remembers ?_ inputs⟩
        rw [(suppresses.repeated state input query found read known).2.1, known]
      | none =>
        refine ⟨saved (service.execute (store state) query).2, suppresses.remembers ?_ inputs⟩
        rw [(suppresses.fresh state input query read known).2.1, Function.update_self]

/-- What is remembered under a key was computed for the first query that carried it. -/
theorem origin (suppresses : Suppresses service saved machine store memory executed)
    (blank : ∀ key, memory state key = none) (inputs : List I)
    (found : memory (after machine state inputs) key = some result) :
    ∃ earlier query, service.First inputs earlier query ∧ service.key query = key ∧
      result = saved (service.execute (store (after machine state earlier)) query).2 := by
  induction inputs using List.reverseRecOn with
  | nil =>
    rw [show after machine state [] = state from rfl, blank key] at found
    cases found
  | append_singleton inputs input ih =>
    rw [after_snoc] at found
    by_cases old : memory (after machine state inputs) key = some result
    · obtain ⟨earlier, query, first, same, computed⟩ := ih old
      exact ⟨earlier, query, first.snoc input, same, computed⟩
    · cases read : service.read input with
      | none =>
        rw [(suppresses.ignored _ input read).2.1] at found
        exact absurd found old
      | some query =>
        cases known : memory (after machine state inputs) (service.key query) with
        | some other =>
          rw [(suppresses.repeated _ input query other read known).2.1] at found
          exact absurd found old
        | none =>
          rw [(suppresses.fresh _ input query read known).2.1] at found
          by_cases same : key = service.key query
          · subst same
            rw [Function.update_self] at found
            refine ⟨inputs, query, ⟨⟨input, read, List.prefix_refl _⟩, ?_⟩, rfl,
              (Option.some.inj found).symm⟩
            intro before member carries
            obtain ⟨result, present⟩ := suppresses.carried inputs state member carries
            rw [known] at present
            cases present
          · rw [Function.update_of_ne same] at found
            exact absurd found old

/-- Only the first query of a key is executed. -/
theorem executed_first (suppresses : Suppresses service saved machine store memory executed)
    (inputs : List I) (state : C)
    (done : result ∈ (outputs machine state inputs).filterMap executed) :
    ∃ earlier query, service.First inputs earlier query ∧
      result = (service.execute (store (after machine state earlier)) query).2 := by
  induction inputs using List.reverseRecOn with
  | nil => simp [outputs] at done
  | append_singleton inputs input ih =>
    rw [outputs_snoc, List.filterMap_append, List.mem_append] at done
    rcases done with old | new
    · obtain ⟨earlier, query, first, computed⟩ := ih old
      exact ⟨earlier, query, first.snoc input, computed⟩
    · obtain ⟨output, last, made⟩ := List.mem_filterMap.mp new
      obtain rfl := List.mem_singleton.mp last
      cases read : service.read input with
      | none => cases (suppresses.ignored _ input read).2.2.symm.trans made
      | some query =>
        cases known : memory (after machine state inputs) (service.key query) with
        | some other => cases (suppresses.repeated _ input query other read known).2.2.symm.trans made
        | none =>
          have computed := (suppresses.fresh _ input query read known).2.2.symm.trans made
          refine ⟨inputs, query, ⟨⟨input, read, List.prefix_refl _⟩, ?_⟩,
            (Option.some.inj computed).symm⟩
          intro before member carries
          obtain ⟨found, present⟩ := suppresses.carried inputs state member carries
          cases known.symm.trans present

theorem unknown (suppresses : Suppresses service saved machine store memory executed)
    (blank : ∀ key, memory state key = none) {inputs : List I}
    (absent : ∀ input ∈ inputs, service.keyOf input ≠ some key) :
    memory (after machine state inputs) key = none := by
  cases found : memory (after machine state inputs) key with
  | none => rfl
  | some result =>
    obtain ⟨earlier, query, ⟨⟨input, read, isPrefix⟩, _⟩, rfl, _⟩ :=
      suppresses.origin blank inputs found
    have member : input ∈ inputs := isPrefix.subset (by simp)
    exact absurd (by simp [Service.keyOf, read]) (absent input member)

theorem first_executed (suppresses : Suppresses service saved machine store memory executed)
    (blank : ∀ key, memory state key = none) (first : service.First inputs earlier query) :
    (service.execute (store (after machine state earlier)) query).2 ∈
      (outputs machine state inputs).filterMap executed := by
  obtain ⟨⟨input, read, rest, rfl⟩, absent⟩ := first
  have new := suppresses.unknown blank absent
  have done := (suppresses.fresh _ input query read new).2.2
  rw [outputs_append, outputs_snoc]
  refine List.mem_filterMap.mpr ⟨_, ?_, done⟩
  simp

private theorem refines_from (suppresses : Suppresses service saved machine store memory executed)
    {plain : Machine C' I O'} {store' : C' → S} {executed' : O' → Option R}
    (executes : Executes service plain store' executed') (inputs : List I) (state : C)
    (state' : C') (same : store state = store' state') (seen : List K)
    (sees : ∀ key, key ∈ seen ↔ memory state key ≠ none) :
    store (after machine state inputs) =
        store' (after plain state' (service.firstsFrom seen inputs)) ∧
      (outputs machine state inputs).filterMap executed =
        (outputs plain state' (service.firstsFrom seen inputs)).filterMap executed' := by
  induction inputs generalizing state state' seen with
  | nil => exact ⟨same, rfl⟩
  | cons input inputs ih =>
    cases read : service.read input with
    | none =>
      obtain ⟨kept, known, nothing⟩ := suppresses.ignored state input read
      have skipped : service.firstsFrom seen (input :: inputs) = service.firstsFrom seen inputs := by
        simp [Service.firstsFrom, Service.keyOf, read]
      rw [skipped]
      simpa [after, outputs, nothing] using
        ih (machine state input).1 state' (kept.trans same) seen (by simpa [known] using sees)
    | some query =>
      cases known : memory state (service.key query) with
      | some found =>
        obtain ⟨kept, memories, nothing⟩ := suppresses.repeated state input query found read known
        have member : service.key query ∈ seen := (sees _).mpr (by simp [known])
        have skipped : service.firstsFrom seen (input :: inputs) = service.firstsFrom seen inputs := by
          simp [Service.firstsFrom, Service.keyOf, read, member]
        rw [skipped]
        simpa [after, outputs, nothing] using
          ih (machine state input).1 state' (kept.trans same) seen (by simpa [memories] using sees)
      | none =>
        obtain ⟨moved, memories, done⟩ := suppresses.fresh state input query read known
        obtain ⟨moved', done'⟩ := executes.executes state' input query read
        have absent : service.key query ∉ seen := fun member => (sees _).mp member known
        have taken : service.firstsFrom seen (input :: inputs) =
            input :: service.firstsFrom (service.key query :: seen) inputs := by
          simp [Service.firstsFrom, Service.keyOf, read, absent]
        have more : ∀ key, key ∈ service.key query :: seen ↔
            memory (machine state input).1 key ≠ none := by
          intro key
          rw [memories, List.mem_cons, sees]
          by_cases new : key = service.key query
          · subst new
            simp
          · simp [new]
        have rest := ih (machine state input).1 (plain state' input).1
          (by rw [moved, moved', same]) (service.key query :: seen) more
        rw [taken]
        simpa [after, outputs, done, done', same] using rest

/-- Suppressing duplicates comes to executing the first query of each key and nothing else. -/
theorem refines (suppresses : Suppresses service saved machine store memory executed)
    {plain : Machine C' I O'} {store' : C' → S} {executed' : O' → Option R}
    (executes : Executes service plain store' executed') {state : C} {state' : C'}
    (same : store state = store' state') (blank : ∀ key, memory state key = none) (inputs : List I) :
    store (after machine state inputs) = store' (after plain state' (service.firsts inputs)) ∧
      (outputs machine state inputs).filterMap executed =
        (outputs plain state' (service.firsts inputs)).filterMap executed' :=
  refines_from suppresses executes inputs state state' same [] (by simp [blank])

end Suppresses

end Dfis.Base
