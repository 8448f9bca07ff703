import Dfis.Base.Dedup

/-! When suppressing duplicates cannot be told from executing them all: every
repeated query has nothing left to do. -/

namespace Dfis.Base

open Machine

variable {I Q K S R M C C' O O' E : Type}

/-- Executing the query on this store changes nothing and has no effects. -/
def Service.Idle (service : Service I Q K S R) (effects : R → List E) (store : S) (query : Q) : Prop :=
  (service.execute store query).1 = store ∧ effects (service.execute store query).2 = []

/-- The input carries a query whose key an earlier input carried. -/
def Service.Repeats (service : Service I Q K S R) (before : List I) (input : I) (query : Q) : Prop :=
  service.read input = some query ∧
    ∃ earlier ∈ before, service.keyOf earlier = some (service.key query)

/-- The effects of what was executed. -/
def effectsOf (executed : O → Option R) (effects : R → List E) (outs : List O) : List E :=
  (outs.filterMap executed).flatMap effects

theorem effectsOf_snoc (executed : O → Option R) (effects : R → List E) (outs : List O) (out : O) :
    effectsOf executed effects (outs ++ [out]) =
      effectsOf executed effects outs ++ ((executed out).map effects).getD [] := by
  rw [effectsOf, List.filterMap_append, List.flatMap_append]
  cases made : executed out with
  | none => simp [effectsOf, made]
  | some result => simp [effectsOf, made]

namespace Suppresses

variable [DecidableEq K] {service : Service I Q K S R} {saved : R → M} {machine : Machine C I O}
  {store : C → S} {memory : C → K → Option M} {executed : O → Option R}
  {plain : Machine C' I O'} {store' : C' → S} {executed' : O' → Option R} {effects : R → List E}
  {state : C} {state' : C'}

/-- After these inputs both machines have the same store and have had the same effects. -/
def Alike (machine : Machine C I O) (store : C → S) (executed : O → Option R)
    (plain : Machine C' I O') (store' : C' → S) (executed' : O' → Option R) (effects : R → List E)
    (state : C) (state' : C') (inputs : List I) : Prop :=
  store (after machine state inputs) = store' (after plain state' inputs) ∧
    effectsOf executed effects (outputs machine state inputs) =
      effectsOf executed' effects (outputs plain state' inputs)

/-- One more input keeps the machines alike exactly when it repeats nothing that is still to do. -/
theorem alike_snoc_iff (suppresses : Suppresses service saved machine store memory executed)
    (executes : Executes service plain store' executed') (blank : ∀ key, memory state key = none)
    {inputs : List I}
    (alike : Alike machine store executed plain store' executed' effects state state' inputs)
    (input : I) :
    Alike machine store executed plain store' executed' effects state state' (inputs ++ [input]) ↔
      ∀ query, service.Repeats inputs input query →
        service.Idle effects (store' (after plain state' inputs)) query := by
  obtain ⟨same, happened⟩ := alike
  simp only [Alike, after_snoc, outputs_snoc, effectsOf_snoc, happened]
  cases read : service.read input with
  | none =>
    obtain ⟨kept, -, nothing⟩ := suppresses.ignored (after machine state inputs) input read
    obtain ⟨kept', nothing'⟩ := executes.ignored (after plain state' inputs) input read
    refine iff_of_true ?_ fun query repeats => ?_
    · simp [kept, kept', same, nothing, nothing']
    · cases read.symm.trans repeats.1
  | some query =>
    obtain ⟨moved', made'⟩ := executes.executes (after plain state' inputs) input query read
    cases known : memory (after machine state inputs) (service.key query) with
    | none =>
      obtain ⟨moved, -, made⟩ := suppresses.fresh (after machine state inputs) input query read known
      refine iff_of_true ?_ ?_
      · simp [moved, moved', made, made', same]
      · rintro other ⟨carried, earlier, member, key⟩
        obtain rfl := Option.some.inj (read.symm.trans carried)
        obtain ⟨result, found⟩ := suppresses.carried inputs state member key
        cases known.symm.trans found
    | some found =>
      obtain ⟨kept, -, nothing⟩ := suppresses.repeated (after machine state inputs) input query found
        read known
      have repeats : service.Repeats inputs input query := by
        refine ⟨read, ?_⟩
        by_contra none
        push Not at none
        cases known.symm.trans (suppresses.unknown blank none)
      rw [kept, moved', nothing, made', same]
      simp only [Option.map_none, Option.map_some, Option.getD_none, Option.getD_some,
        List.append_nil, List.self_eq_append_right]
      constructor
      · rintro ⟨left, silent⟩ other ⟨carried, -⟩
        obtain rfl := Option.some.inj (read.symm.trans carried)
        exact ⟨left.symm, silent⟩
      · intro idle
        obtain ⟨left, silent⟩ := idle query repeats
        exact ⟨left.symm, silent⟩

variable (effects) in
/-- The machines are alike all along exactly when all repeated queries of the
run that executes them are idle. -/
theorem alike_iff (suppresses : Suppresses service saved machine store memory executed)
    (executes : Executes service plain store' executed') (blank : ∀ key, memory state key = none)
    (same : store state = store' state') (inputs : List I) :
    (∀ earlier, earlier <+: inputs →
      Alike machine store executed plain store' executed' effects state state' earlier) ↔
    ∀ before input, before ++ [input] <+: inputs → ∀ query, service.Repeats before input query →
      service.Idle effects (store' (after plain state' before)) query := by
  induction inputs using List.reverseRecOn with
  | nil =>
    refine iff_of_true ?_ ?_
    · intro earlier isPrefix
      obtain rfl := List.prefix_nil.mp isPrefix
      exact ⟨same, rfl⟩
    · intro before input isPrefix
      simp at isPrefix
  | append_singleton inputs input ih =>
    constructor
    · intro all before last isPrefix
      rcases List.prefix_concat_iff.mp isPrefix with whole | shorter
      · obtain ⟨rfl, rfl⟩ : before = inputs ∧ last = input := by simpa using whole
        have here := all before (List.prefix_append _ _)
        exact (suppresses.alike_snoc_iff executes blank here last).mp (all _ isPrefix)
      · exact ih.mp (fun earlier prior => all earlier (prior.trans (List.prefix_append _ _)))
          before last shorter
    · intro idle
      have shorter := ih.mpr fun before last isPrefix =>
        idle before last (isPrefix.trans (List.prefix_append _ _))
      intro earlier isPrefix
      rcases List.prefix_concat_iff.mp isPrefix with rfl | prior
      · have here := shorter inputs (List.prefix_refl _)
        exact (suppresses.alike_snoc_iff executes blank here input).mpr
          (idle inputs input (List.prefix_refl _))
      · exact shorter earlier prior

end Suppresses

end Dfis.Base
