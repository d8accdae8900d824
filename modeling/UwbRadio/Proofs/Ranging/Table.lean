import Mathlib.Tactic.Ring
import UwbRadio.Ranging.Table

/-!
The size of a ranging table. A table has one entry for each pair of its nodes, so other
addresses for as many nodes leave its size as it is, and so does a new range.
-/

namespace UwbRadio.Ranging

theorem pairsOf_length (nodes : List UInt16) :
    (pairsOf nodes).length = nodes.length * (nodes.length - 1) / 2 := by
  induction nodes with
  | nil => rfl
  | cons first rest ih =>
      rw [pairsOf, List.length_append, List.length_map, ih, List.length_cons, Nat.add_sub_cancel]
      cases rest.length with
      | zero => rfl
      | succ count =>
          have more : (count + 1 + 1) * (count + 1) = (count + 1) * count + 2 * (count + 1) := by
            ring
          rw [more, Nat.add_sub_cancel]
          omega

namespace Table

variable {fault : Type} {capacity : Nat} {table after : Table capacity} {addresses : List UInt16}

/-- There is an entry for each pair of the nodes that the table was built for. -/
def Complete (table : Table capacity) : Prop :=
  table.size = pairCount table.nodes

instance (table : Table capacity) : Decidable table.Complete :=
  inferInstanceAs (Decidable (_ = _))

theorem fill_ok (filled : (table.fill addresses : Except (Error fault) _) = .ok after) :
    after.nodes = table.nodes ∧ after.size = pairCount addresses.length := by
  unfold fill at filled
  dsimp only at filled
  split at filled
  · cases filled
  · rename_i fits
    cases filled
    refine ⟨rfl, ?_⟩
    have counted := pairsOf_length addresses.tail
    rw [List.length_tail] at counted
    rw [size, List.length_take, counted]
    unfold pairCount at fits ⊢
    omega

theorem Complete.withAddresses (complete : table.Complete)
    (accepted : (table.withAddresses addresses : Except (Error fault) _) = .ok after) :
    after.nodes = table.nodes ∧ after.size = table.size := by
  unfold Table.withAddresses at accepted
  split at accepted
  · cases accepted
  · rename_i same
    obtain ⟨nodes, size⟩ := fill_ok accepted
    rw [Decidable.not_not.mp same] at size
    exact ⟨nodes, size.trans complete.symm⟩

theorem setRange_length {one other : UInt16} {range : Range} {pairs later : List Pair}
    {updated : Pair} (set : setRange one other range pairs = some (updated, later)) :
    later.length = pairs.length := by
  induction pairs generalizing later with
  | nil => cases set
  | cons pair rest ih =>
      rw [setRange] at set
      split at set
      · cases set
        rfl
      · obtain ⟨⟨found, behind⟩, there, same⟩ := Option.map_eq_some_iff.mp set
        cases same
        exact congrArg (· + 1) (ih there)

theorem update_keeps {one other : UInt16} {range : Range} {updated : Pair}
    (stored : table.update one other range = some (updated, after)) :
    after.nodes = table.nodes ∧ after.size = table.size := by
  obtain ⟨⟨found, pairs⟩, set, same⟩ := Option.map_eq_some_iff.mp stored
  cases same
  exact ⟨rfl, setRange_length set⟩

end Table

end UwbRadio.Ranging
