import Mathlib.Data.List.Flatten

/-! Retransmission: what an owner has sent is one datagram, so many times. -/

namespace Dfis.Base

variable {D K : Type} [DecidableEq K]

theorem filter_append_others {key : D → K} {more : List D} {owner : K}
    (others : ∀ item ∈ more, key item ≠ owner) (sent : List D) :
    (sent ++ more).filter (fun item => key item = owner) =
      sent.filter fun item => key item = owner := by
  have none : more.filter (fun item => key item = owner) = [] :=
    List.filter_eq_nil_iff.mpr fun item member => by simpa using others item member
  rw [List.filter_append, none, List.append_nil]

/-- All that this owner has sent is so many copies of the datagram, and nothing
if it cannot be made. -/
def Copies (key : D → K) (sent : List D) (owner : K) (datagram : Option D) (count : Nat) : Prop :=
  sent.filter (fun item => key item = owner) = (List.replicate count datagram.toList).flatten

namespace Copies

variable {key : D → K} {sent : List D} {owner : K} {datagram : Option D} {count : Nat}

theorem zero_iff : Copies key sent owner datagram 0 ↔ ∀ item ∈ sent, key item ≠ owner := by
  simp [Copies, List.filter_eq_nil_iff]

theorem again (copies : Copies key sent owner datagram count)
    (own : ∀ item ∈ datagram, key item = owner) :
    Copies key (sent ++ datagram.toList) owner datagram (count + 1) := by
  have kept : datagram.toList.filter (fun item => key item = owner) = datagram.toList := by
    refine List.filter_eq_self.mpr fun item member => ?_
    simpa using own item (Option.mem_toList.mp member)
  rw [Copies, List.filter_append, copies, kept, List.replicate_succ', List.flatten_append]
  simp

theorem other (copies : Copies key sent owner datagram count) {more : List D}
    (others : ∀ item ∈ more, key item ≠ owner) : Copies key (sent ++ more) owner datagram count :=
  (filter_append_others others sent).trans copies

theorem mem (copies : Copies key sent owner datagram count) {item : D} (member : item ∈ sent)
    (own : key item = owner) : item ∈ datagram := by
  have listed : item ∈ sent.filter fun item => key item = owner :=
    List.mem_filter.mpr ⟨member, by simpa using own⟩
  rw [copies] at listed
  obtain ⟨copy, replicated, here⟩ := List.mem_flatten.mp listed
  rw [List.eq_of_mem_replicate replicated] at here
  exact Option.mem_toList.mp here

theorem sent_mem {item : D} (copies : Copies key sent owner (some item) count)
    (positive : 0 < count) : item ∈ sent := by
  have listed : item ∈ (List.replicate count (some item).toList).flatten := by
    simpa using Nat.ne_of_gt positive
  rw [← copies] at listed
  exact (List.mem_filter.mp listed).1

theorem length_eq (copies : Copies key sent owner datagram count) :
    (sent.filter fun item => key item = owner).length = count * datagram.toList.length := by
  rw [copies, List.length_flatten, List.map_replicate, List.sum_replicate_nat]

end Copies

end Dfis.Base
