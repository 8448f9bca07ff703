import Mathlib.Data.List.Induction

/-! Runs of a deterministic machine, and the rules that carry a fact about one
step to every run. -/

namespace Dfis.Base

/-- One step, from a state and an input to a state and an output. -/
abbrev Machine (S I O : Type) : Type := S → I → S × O

namespace Machine

variable {S I O : Type}

/-- The state after these inputs. -/
def after (machine : Machine S I O) (state : S) : List I → S
  | [] => state
  | input :: inputs => after machine (machine state input).1 inputs

/-- The outputs on the way, one for each input. -/
def outputs (machine : Machine S I O) (state : S) : List I → List O
  | [] => []
  | input :: inputs => (machine state input).2 :: outputs machine (machine state input).1 inputs

/-- Every step of the run starts in a state and with an input that meet the condition. -/
def Along (machine : Machine S I O) (ok : S → I → Prop) (state : S) : List I → Prop
  | [] => True
  | input :: inputs => ok state input ∧ Along machine ok (machine state input).1 inputs

instance decidableAlong (machine : Machine S I O) (ok : S → I → Prop)
    [∀ state input, Decidable (ok state input)] (state : S) :
    (inputs : List I) → Decidable (Along machine ok state inputs)
  | [] => .isTrue trivial
  | input :: inputs =>
    have := decidableAlong machine ok (machine state input).1 inputs
    inferInstanceAs (Decidable (ok state input ∧ Along machine ok (machine state input).1 inputs))

variable (machine : Machine S I O)

theorem after_append (state : S) (first second : List I) :
    after machine state (first ++ second) = after machine (after machine state first) second := by
  induction first generalizing state with
  | nil => rfl
  | cons input inputs ih => exact ih (machine state input).1

theorem outputs_append (state : S) (first second : List I) :
    outputs machine state (first ++ second) =
      outputs machine state first ++ outputs machine (after machine state first) second := by
  induction first generalizing state with
  | nil => rfl
  | cons input inputs ih => exact congrArg _ (ih (machine state input).1)

@[simp] theorem outputs_length (state : S) (inputs : List I) :
    (outputs machine state inputs).length = inputs.length := by
  induction inputs generalizing state with
  | nil => rfl
  | cons input inputs ih => exact congrArg (· + 1) (ih (machine state input).1)

theorem output_of_split {state : S} {first second : List I} {input : I} {outs outs' : List O}
    {out : O} (split : outputs machine state (first ++ input :: second) = outs ++ out :: outs')
    (same : outs.length = first.length) :
    (machine (after machine state first) input).2 = out := by
  rw [outputs_append] at split
  obtain ⟨-, rest⟩ := List.append_inj split (by rw [outputs_length, same])
  exact (List.cons.inj rest).1

theorem after_snoc (state : S) (inputs : List I) (input : I) :
    after machine state (inputs ++ [input]) = (machine (after machine state inputs) input).1 := by
  rw [after_append]
  rfl

theorem outputs_snoc (state : S) (inputs : List I) (input : I) :
    outputs machine state (inputs ++ [input]) =
      outputs machine state inputs ++ [(machine (after machine state inputs) input).2] := by
  rw [outputs_append]
  rfl

variable {machine}

theorem Along.earlier {ok : S → I → Prop} {state : S} {inputs earlier : List I}
    (along : Along machine ok state inputs) (isPrefix : earlier <+: inputs) :
    Along machine ok state earlier := by
  induction earlier generalizing state inputs with
  | nil => trivial
  | cons input earlier ih =>
    cases inputs with
    | nil => cases List.prefix_nil.mp isPrefix
    | cons first inputs =>
      obtain ⟨rfl, shorter⟩ := List.cons_prefix_cons.mp isPrefix
      exact ⟨along.1, ih along.2 shorter⟩

theorem Along.last {ok : S → I → Prop} {state : S} {inputs : List I} {input : I}
    (along : Along machine ok state (inputs ++ [input])) : ok (after machine state inputs) input := by
  induction inputs generalizing state with
  | nil => exact along.1
  | cons first inputs ih => exact ih along.2

/-- A fact about the inputs so far, the state and the outputs so far that each
step preserves holds after every run. -/
theorem run_induct {P : List I → S → List O → Prop} {state : S} (start : P [] state [])
    (step : ∀ inputs state outs input, P inputs state outs →
      P (inputs ++ [input]) (machine state input).1 (outs ++ [(machine state input).2]))
    (inputs : List I) : P inputs (after machine state inputs) (outputs machine state inputs) := by
  induction inputs using List.reverseRecOn with
  | nil => exact start
  | append_singleton inputs input ih =>
    rw [after_snoc, outputs_snoc]
    exact step _ _ _ _ ih

theorem invariant {P : S → Prop} {state : S} (start : P state)
    (step : ∀ state input, P state → P (machine state input).1) (inputs : List I) :
    P (after machine state inputs) :=
  run_induct (P := fun _ state _ => P state) start (fun _ state _ input => step state input) inputs

/-- A fact that each step preserves under the condition holds after a run that meets it. -/
theorem invariant_along {P : S → Prop} {ok : S → I → Prop} {state : S} (start : P state)
    (step : ∀ state input, P state → ok state input → P (machine state input).1)
    (inputs : List I) (along : Along machine ok state inputs) :
    P (after machine state inputs) := by
  induction inputs generalizing state with
  | nil => exact start
  | cons input inputs ih => exact ih (step state input start along.1) along.2

/-- When the condition decides step by step whether a property is kept, the
runs that meet it are exactly those with the property in every state on the way. -/
theorem holds_iff_along {P Q : S → Prop} {ok : S → I → Prop} {state : S}
    (start : Q state) (here : P state)
    (step : ∀ state input, Q state → ok state input → Q (machine state input).1)
    (decides : ∀ state input, Q state → (P (machine state input).1 ↔ ok state input))
    (inputs : List I) :
    (∀ earlier, earlier <+: inputs → P (after machine state earlier)) ↔
      Along machine ok state inputs := by
  induction inputs generalizing state with
  | nil =>
    constructor
    · exact fun _ => trivial
    · intro _ earlier isPrefix
      obtain rfl := List.prefix_nil.mp isPrefix
      exact here
  | cons input inputs ih =>
    constructor
    · intro all
      have next : P (machine state input).1 :=
        all [input] (List.prefix_append [input] inputs)
      have ok := (decides state input start).mp next
      refine ⟨ok, (ih (step state input start ok) next).mp fun earlier isPrefix => ?_⟩
      exact all (input :: earlier) ((List.prefix_cons_inj input).mpr isPrefix)
    · rintro ⟨ok, along⟩ earlier isPrefix
      cases earlier with
      | nil => exact here
      | cons first earlier =>
        obtain ⟨rfl, shorter⟩ := List.cons_prefix_cons.mp isPrefix
        exact (ih (step state first start ok) ((decides state first start).mpr ok)).mpr along
          earlier shorter

section Simulation

variable {T J P : Type} {other : Machine T J P} {project : S → T}

/-- Seen through a projection, each step of the machine is some steps of another machine. -/
def Simulates (machine : Machine S I O) (other : Machine T J P) (project : S → T) : Prop :=
  ∀ state input, ∃ inputs, project (machine state input).1 = after other (project state) inputs

theorem Simulates.run (simulates : Simulates machine other project) (state : S) (inputs : List I) :
    ∃ inputs', project (after machine state inputs) = after other (project state) inputs' := by
  induction inputs generalizing state with
  | nil => exact ⟨[], rfl⟩
  | cons input inputs ih =>
    obtain ⟨first, moved⟩ := simulates state input
    obtain ⟨rest, reached⟩ := ih (machine state input).1
    refine ⟨first ++ rest, ?_⟩
    rw [after_append, ← moved]
    exact reached

/-- What each step of the other machine preserves holds of the projection after every run. -/
theorem Simulates.invariant {Q : T → Prop} (simulates : Simulates machine other project) {state : S}
    (start : Q (project state)) (step : ∀ state input, Q state → Q (other state input).1)
    (inputs : List I) : Q (project (after machine state inputs)) := by
  obtain ⟨inputs', reached⟩ := simulates.run state inputs
  rw [reached]
  exact Machine.invariant start step inputs'

end Simulation

end Machine

end Dfis.Base
