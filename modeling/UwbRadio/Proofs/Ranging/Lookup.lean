import Mathlib.Data.Sym.Sym2
import UwbRadio.Ranging.Table

/-!
Lookup in a ranging table. The same two nodes may have several entries, where an address
is repeated; a range goes to the first of them and leaves all others as they are.
-/

namespace UwbRadio.Ranging

def Pair.nodes (pair : Pair) : Sym2 UInt16 := s(pair.first, pair.second)

theorem Pair.joins_iff {pair : Pair} {one other : UInt16} :
    pair.joins one other = true ↔ pair.nodes = s(one, other) := by
  simp only [joins, nodes, Sym2.eq_iff, Bool.or_eq_true, Bool.and_eq_true, beq_iff_eq]

namespace Table

def placeOf (nodes : Sym2 UInt16) (pairs : List Pair) : Option Nat :=
  pairs.findIdx? fun pair => pair.nodes = nodes

theorem placeOf_eq_none {nodes : Sym2 UInt16} {pairs : List Pair} :
    placeOf nodes pairs = none ↔ ∀ pair ∈ pairs, pair.nodes ≠ nodes := by
  simp only [placeOf, List.findIdx?_eq_none_iff, decide_eq_false_iff_not, ne_eq]

theorem placeOf_eq_some {nodes : Sym2 UInt16} {pairs : List Pair} {place : Nat} :
    placeOf nodes pairs = some place ↔
      (∃ pair, pairs[place]? = some pair ∧ pair.nodes = nodes) ∧
        ∀ earlier < place, ∀ pair, pairs[earlier]? = some pair → pair.nodes ≠ nodes := by
  rw [placeOf, List.findIdx?_eq_some_iff_getElem]
  constructor
  · rintro ⟨inside, joins, first⟩
    refine ⟨⟨pairs[place], List.getElem?_eq_getElem inside, of_decide_eq_true joins⟩, ?_⟩
    intro earlier before pair there
    obtain ⟨_, rfl⟩ := List.getElem?_eq_some_iff.mp there
    exact fun same => first earlier before (decide_eq_true same)
  · rintro ⟨⟨pair, there, joins⟩, first⟩
    obtain ⟨inside, rfl⟩ := List.getElem?_eq_some_iff.mp there
    refine ⟨inside, decide_eq_true joins, ?_⟩
    intro earlier before same
    exact first earlier before _ (List.getElem?_eq_getElem (before.trans inside))
      (of_decide_eq_true same)

theorem setRange_eq (one other : UInt16) (range : Range) (pairs : List Pair) :
    setRange one other range pairs =
      (placeOf s(one, other) pairs).bind fun place => pairs[place]?.map fun pair =>
        ({ pair with range := some range }, pairs.set place { pair with range := some range }) := by
  induction pairs with
  | nil => rfl
  | cons pair rest ih =>
      by_cases joins : pair.joins one other = true
      · have here : placeOf s(one, other) (pair :: rest) = some 0 := by
          rw [placeOf, List.findIdx?_cons, if_pos (decide_eq_true (Pair.joins_iff.mp joins))]
        rw [setRange, if_pos joins, here]
        rfl
      · have behind : placeOf s(one, other) (pair :: rest) =
            (placeOf s(one, other) rest).map (· + 1) := by
          have apart : ¬ decide (pair.nodes = s(one, other)) = true := fun same =>
            joins (Pair.joins_iff.mpr (of_decide_eq_true same))
          rw [placeOf, List.findIdx?_cons, if_neg apart]
          rfl
        rw [setRange, if_neg joins, ih, behind]
        cases found : placeOf s(one, other) rest with
        | none => rfl
        | some place => cases there : rest[place]? <;> simp [there]

variable {capacity : Nat} {table after : Table capacity} {one other : UInt16} {range : Range}
  {updated : Pair}

theorem update_eq_none :
    table.update one other range = none ↔ placeOf s(one, other) table.pairs = none := by
  rw [update, Option.map_eq_none_iff, setRange_eq]
  cases found : placeOf s(one, other) table.pairs with
  | none => simp
  | some place =>
      obtain ⟨⟨pair, there, _⟩, _⟩ := placeOf_eq_some.mp found
      simp [there]

theorem update_eq_some :
    table.update one other range = some (updated, after) ↔
      ∃ place pair, placeOf s(one, other) table.pairs = some place ∧
        table.pairs[place]? = some pair ∧ updated = { pair with range := some range } ∧
        after = { table with pairs := table.pairs.set place updated } := by
  rw [update, setRange_eq]
  cases found : placeOf s(one, other) table.pairs with
  | none => simp
  | some place =>
      obtain ⟨⟨pair, there, _⟩, _⟩ := placeOf_eq_some.mp found
      simp only [Option.bind_some, there, Option.map_some, Option.some.injEq, Prod.mk.injEq]
      constructor
      · rintro ⟨rfl, rfl⟩
        exact ⟨place, pair, rfl, there, rfl, rfl⟩
      · rintro ⟨_, entry, rfl, here, rfl, rfl⟩
        cases there.symm.trans here
        exact ⟨rfl, rfl⟩

end Table

end UwbRadio.Ranging
