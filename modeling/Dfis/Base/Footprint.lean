import Mathlib.Data.Set.Lattice
import Mathlib.Order.CompletePartialOrder

/-! Operations on a state that is seen place by place. Two that keep to
disjoint places commute. -/

namespace Dfis.Base

variable {S K : Type} {V : K → Type}

/-- On states with the invariant, an operation keeps to these places: it
changes no other, and what it makes of them depends on no other. -/
structure Confined (inv : S → Prop) (view : S → (place : K) → V place) (places : Set K)
    (op : S → S) : Prop where
  keeps : ∀ state, inv state → inv (op state)
  elsewhere : ∀ state, inv state → ∀ place ∉ places, view (op state) place = view state place
  here : ∀ state state', inv state → inv state' →
    (∀ place ∈ places, view state place = view state' place) →
    ∀ place ∈ places, view (op state) place = view (op state') place

namespace Confined

variable {inv : S → Prop} {view : S → (place : K) → V place} {places others : Set K} {op op' : S → S}

theorem id (inv : S → Prop) (view : S → (place : K) → V place) (places : Set K) :
    Confined inv view places fun state => state where
  keeps _ holds := holds
  elsewhere _ _ _ _ := rfl
  here _ _ _ _ same := same

theorem undisturbed (confined : Confined inv view others op) (disjoint : Disjoint places others)
    {state : S} (holds : inv state) (place : K) (member : place ∈ places) :
    view state place = view (op state) place :=
  (confined.elsewhere state holds place (Set.disjoint_left.mp disjoint member)).symm

/-- At the places of the first, the second may as well come after it as before. -/
private theorem either_order (first : Confined inv view places op)
    (second : Confined inv view others op') (disjoint : Disjoint places others) {state : S}
    (holds : inv state) (place : K) (member : place ∈ places) :
    view (op (op' state)) place = view (op' (op state)) place := by
  have before : view (op (op' state)) place = view (op state) place :=
    (first.here state (op' state) holds (second.keeps state holds)
      (second.undisturbed disjoint holds) place member).symm
  have after : view (op state) place = view (op' (op state)) place :=
    second.undisturbed disjoint (first.keeps state holds) place member
  exact before.trans after

theorem commute (injective : Function.Injective view) (first : Confined inv view places op)
    (second : Confined inv view others op') (disjoint : Disjoint places others) {state : S}
    (holds : inv state) : op (op' state) = op' (op state) := by
  apply injective
  funext place
  by_cases own : place ∈ places
  · exact either_order first second disjoint holds place own
  · by_cases other : place ∈ others
    · exact (either_order second first disjoint.symm holds place other).symm
    · rw [first.elsewhere _ (second.keeps state holds) place own,
        second.elsewhere state holds place other,
        second.elsewhere _ (first.keeps state holds) place other,
        first.elsewhere state holds place own]

end Confined

end Dfis.Base
