import Dfis.Base.Machine
import Mathlib.Data.List.Nodup

/-! Linearizability: an order in which an object that serves one query after
the other explains what its concurrent callers see. -/

namespace Dfis.Base

open Machine

/-- What can be seen of an object's callers. -/
inductive Action (C R : Type) where
  | invoke (call : C)
  | respond (call : C) (result : R)

/-- The same actions, of results only what there is to see of them. -/
def Action.map {C R R' : Type} (view : R → R') : Action C R → Action C R'
  | .invoke call => .invoke call
  | .respond call result => .respond call (view result)

variable {S S' Q C R R' : Type}

/-- The object explains the history by serving these queries in this order, no
call twice, none before it was made, and none after a call that was made only
once it had been answered. Calls without an answer may be served or not. -/
structure Linearization (object : Machine S Q R) (start : S) (name : Q → C)
    (history : List (Action C R)) (order : List Q) : Prop where
  once : (order.map name).Nodup
  invoked : ∀ query ∈ order, .invoke (name query) ∈ history
  answered : ∀ call result, .respond call result ∈ history →
    ∃ earlier query later, order = earlier ++ query :: later ∧ name query = call ∧
      (object (after object start earlier) query).2 = result
  realTime : ∀ call result next, [.respond call result, .invoke next].Sublist history →
    next ∈ order.map name → [call, next].Sublist (order.map name)

namespace Linearization

theorem pair_earlier {α : Type} {first second last : α} {list : List α}
    (pair : [first, second].Sublist (list ++ [last])) (old : second ≠ last) :
    [first, second].Sublist list := by
  obtain ⟨front, back, split, inFront, inBack⟩ := List.sublist_append_iff.mp pair
  rcases List.sublist_singleton.mp inBack with rfl | rfl
  · rw [split, List.append_nil]
    exact inFront
  · have same : second = last := by
      have lasts := congrArg List.getLast? split
      simpa using lasts
    exact absurd same old

variable {object : Machine S Q R} {start : S} {name : Q → C} {history : List (Action C R)}
  {order : List Q}

theorem empty : Linearization object start name [] [] where
  once := List.nodup_nil
  invoked _ member := by cases member
  answered _ _ member := by cases member
  realTime _ _ _ pair := by cases pair

/-- A call is made that has not been served before. -/
theorem invoke (linear : Linearization object start name history order) {call : C}
    (fresh : call ∉ order.map name) :
    Linearization object start name (history ++ [.invoke call]) order where
  once := linear.once
  invoked query served := List.mem_append_left _ (linear.invoked query served)
  answered other result responded := by
    rcases List.mem_append.mp responded with old | new
    · exact linear.answered other result old
    · cases List.mem_singleton.mp new
  realTime other result next pair served := by
    refine linear.realTime other result next (pair_earlier pair ?_) served
    rintro ⟨⟩
    exact fresh served

/-- A call that was made is served, for the first time. -/
theorem serve (linear : Linearization object start name history order) {query : Q}
    (made : .invoke (name query) ∈ history) (fresh : name query ∉ order.map name) :
    Linearization object start name history (order ++ [query]) where
  once := by
    rw [List.map_append]
    exact linear.once.append (List.nodup_singleton _) (by simpa using fresh)
  invoked other served := by
    rcases List.mem_append.mp served with old | new
    · exact linear.invoked other old
    · obtain rfl := List.mem_singleton.mp new
      exact made
  answered call result responded := by
    obtain ⟨earlier, other, later, rfl, named, computed⟩ := linear.answered call result responded
    exact ⟨earlier, other, later ++ [query], by simp, named, computed⟩
  realTime call result next pair served := by
    rw [List.map_append] at served ⊢
    rcases List.mem_append.mp served with old | new
    · exact (linear.realTime call result next pair old).trans (List.sublist_append_left _ _)
    · obtain rfl : next = name query := by simpa using new
      have responded : .respond call result ∈ history := pair.subset (by simp)
      obtain ⟨earlier, other, later, rfl, rfl, -⟩ := linear.answered call result responded
      exact List.Sublist.append (List.singleton_sublist.mpr (by simp)) (List.Sublist.refl _)

/-- A call is answered with the result it was served with. -/
theorem respond (linear : Linearization object start name history order) (earlier : List Q)
    (query : Q) (later : List Q) (served : order = earlier ++ query :: later) :
    Linearization object start name
      (history ++ [.respond (name query) (object (after object start earlier) query).2]) order where
  once := linear.once
  invoked other listed := List.mem_append_left _ (linear.invoked other listed)
  answered call result responded := by
    rcases List.mem_append.mp responded with old | new
    · exact linear.answered call result old
    · obtain ⟨rfl, rfl⟩ := Action.respond.inj (List.mem_singleton.mp new)
      exact ⟨earlier, query, later, served, rfl, rfl⟩
  realTime call result next pair listed :=
    linear.realTime call result next (pair_earlier pair (by rintro ⟨⟩)) listed

/-- An object that gives what is seen of the results in the same order explains what is seen. -/
theorem view (linear : Linearization object start name history order) {abstract : Machine S' Q R'}
    {start' : S'} (see : R → R')
    (same : outputs abstract start' order = (outputs object start order).map see) :
    Linearization abstract start' name (history.map (Action.map see)) order where
  once := linear.once
  invoked query served := List.mem_map.mpr ⟨_, linear.invoked query served, rfl⟩
  answered call result responded := by
    obtain ⟨action, member, seen⟩ := List.mem_map.mp responded
    cases action with
    | invoke other => cases seen
    | respond other given =>
      cases seen
      obtain ⟨earlier, query, later, rfl, named, rfl⟩ := linear.answered call given member
      refine ⟨earlier, query, later, rfl, named, ?_⟩
      rw [outputs_append, outputs_append, List.map_append] at same
      obtain ⟨-, rest⟩ := List.append_inj same (by simp)
      exact (List.cons.inj rest).1
  realTime call result next pair served := by
    obtain ⟨actual, sublist, seen⟩ := List.sublist_map_iff.mp pair
    obtain ⟨first, rest, rfl, responded, seen⟩ := List.map_eq_cons_iff.mp seen.symm
    obtain ⟨second, rest, rfl, invoked, seen⟩ := List.map_eq_cons_iff.mp seen
    obtain rfl := List.map_eq_nil_iff.mp seen
    cases first with
    | invoke other => cases responded
    | respond other given =>
      cases second with
      | respond other' given' => cases invoked
      | invoke other' =>
        cases responded
        cases invoked
        exact linear.realTime call given next sublist served

end Linearization

end Dfis.Base
