import UwbRadio.Proofs.Ranging.Entries

/-!
Lookup and update in a ranging table agree. Both search for the first entry for two nodes,
and an update leaves the nodes of every entry as they are, so that any later search ends
at the place where it would have ended before.
-/

namespace UwbRadio.Ranging

def Pair.withRange (range : Range) (pair : Pair) : Pair := { pair with range := some range }

namespace Table

def stored (nodes : Sym2 UInt16) (range : Range) (pairs : List Pair) : List Pair :=
  match placeOf nodes pairs with
  | none => pairs
  | some place => pairs.modify place (Pair.withRange range)

theorem placeOf_eq (nodes : Sym2 UInt16) (pairs : List Pair) :
    placeOf nodes pairs = (pairs.map Pair.nodes).findIdx? (· = nodes) := by
  rw [List.findIdx?_map]
  rfl

theorem nodes_stored (nodes : Sym2 UInt16) (range : Range) (pairs : List Pair) :
    (stored nodes range pairs).map Pair.nodes = pairs.map Pair.nodes := by
  unfold stored
  split
  · rfl
  · rename_i place found
    refine List.ext_getElem? fun index => ?_
    rw [List.getElem?_map, List.getElem?_map, List.getElem?_modify, Option.map_eq_map,
      Option.map_map]
    refine congrArg (Option.map · pairs[index]?) (funext fun pair => ?_)
    by_cases here : place = index
    · simp only [Function.comp_apply, if_pos here]
      rfl
    · simp only [Function.comp_apply, if_neg here]

theorem placeOf_stored (nodes changed : Sym2 UInt16) (range : Range) (pairs : List Pair) :
    placeOf nodes (stored changed range pairs) = placeOf nodes pairs := by
  rw [placeOf_eq, placeOf_eq, nodes_stored]

theorem placeOf_ne_of_ne {nodes others : Sym2 UInt16} {pairs : List Pair} {place elsewhere : Nat}
    (different : nodes ≠ others) (found : placeOf nodes pairs = some place)
    (foundOther : placeOf others pairs = some elsewhere) : place ≠ elsewhere := by
  rintro rfl
  obtain ⟨⟨pair, there, joins⟩, _⟩ := placeOf_eq_some.mp found
  obtain ⟨⟨_, same, joinsOther⟩, _⟩ := placeOf_eq_some.mp foundOther
  cases there.symm.trans same
  exact different (joins.symm.trans joinsOther)

def entryOf (nodes : Sym2 UInt16) (pairs : List Pair) : Option Pair :=
  (placeOf nodes pairs).bind (pairs[·]?)

theorem entryOf_stored (nodes : Sym2 UInt16) (range : Range) (pairs : List Pair) :
    entryOf nodes (stored nodes range pairs) =
      (entryOf nodes pairs).map (Pair.withRange range) := by
  rw [entryOf, placeOf_stored, entryOf, stored]
  cases found : placeOf nodes pairs with
  | none => rfl
  | some place => exact List.getElem?_modify_eq _ place pairs

theorem entryOf_stored_of_ne {nodes changed : Sym2 UInt16} (different : nodes ≠ changed)
    (range : Range) (pairs : List Pair) :
    entryOf nodes (stored changed range pairs) = entryOf nodes pairs := by
  rw [entryOf, placeOf_stored, entryOf, stored]
  cases found : placeOf nodes pairs with
  | none => rfl
  | some place =>
      cases elsewhere : placeOf changed pairs with
      | none => rfl
      | some other =>
          have apart := placeOf_ne_of_ne different found elsewhere
          rw [Option.bind_some, Option.bind_some, List.getElem?_modify_ne _ _ apart.symm]

theorem stored_comm {nodes others : Sym2 UInt16} (different : nodes ≠ others)
    (range later : Range) (pairs : List Pair) :
    stored others later (stored nodes range pairs) =
      stored nodes range (stored others later pairs) := by
  rw [stored, placeOf_stored, stored.eq_def nodes range (stored others later pairs),
    placeOf_stored, stored, stored]
  cases found : placeOf nodes pairs with
  | none => rfl
  | some place =>
      cases elsewhere : placeOf others pairs with
      | none => rfl
      | some other =>
          exact List.modify_modify_ne _ _ pairs (placeOf_ne_of_ne different found elsewhere)

variable {capacity : Nat} (table : Table capacity) (one other : UInt16) (range : Range)

private theorem modify_eq_set {pairs : List Pair} {place : Nat} (change : Pair → Pair)
    (inside : place < pairs.length) :
    pairs.modify place change = pairs.set place (change pairs[place]) := by
  refine List.ext_getElem? fun index => ?_
  rw [List.getElem?_modify, List.getElem?_set]
  by_cases here : place = index
  · subst here
    rw [if_pos rfl, if_pos inside, List.getElem?_eq_getElem inside]
    simp
  · simp [here]

theorem find?_eq : table.find? one other = entryOf s(one, other) table.pairs := by
  have same : (fun pair : Pair => pair.joins one other) =
      fun pair => decide (pair.nodes = s(one, other)) := by
    funext pair
    rw [Bool.eq_iff_iff, Pair.joins_iff, decide_eq_true_iff]
  rw [find?, same, List.find?_eq_bind_findIdx?_getElem?]
  rfl

theorem update_eq :
    table.update one other range =
      (entryOf s(one, other) table.pairs).map fun entry =>
        (entry.withRange range,
          { table with pairs := stored s(one, other) range table.pairs }) := by
  rw [update, setRange_eq, entryOf, stored]
  cases found : placeOf s(one, other) table.pairs with
  | none => rfl
  | some place =>
      obtain ⟨⟨entry, there, _⟩, _⟩ := placeOf_eq_some.mp found
      obtain ⟨inside, same⟩ := List.getElem?_eq_some_iff.mp there
      have changed : table.pairs.set place (entry.withRange range) =
          table.pairs.modify place (Pair.withRange range) := by
        rw [← same]
        exact (modify_eq_set _ inside).symm
      simp only [Option.bind_some, there, Option.map_some]
      exact congrArg (fun pairs => some (entry.withRange range, { table with pairs })) changed

theorem call_update :
    table.call (.update one other range) =
      { table with pairs := stored s(one, other) range table.pairs } := by
  unfold call
  dsimp only
  split
  · rename_i refused
    rw [stored, update_eq_none.mp refused]
  · rename_i updated after found
    rw [update_eq] at found
    obtain ⟨entry, _, same⟩ := Option.map_eq_some_iff.mp found
    cases same
    rfl

/-- A lookup and an update of two nodes, in either order, are about the same entry, the
first one for them. The update changes its range and nothing else, so it does not show in
the entries for other nodes, and updates for different nodes commute. -/
theorem lookup_and_update_agree (third fourth : UInt16) (later : Range) :
    table.find? one other = table.find? other one ∧
    table.update one other range = table.update other one range ∧
    ((table.update one other range).isSome ↔ (table.find? one other).isSome) ∧
    (∀ updated after, table.update one other range = some (updated, after) →
      after.find? one other = some updated ∧
      ∃ place entry, placeOf s(one, other) table.pairs = some place ∧
        table.pairs[place]? = some entry ∧ table.find? one other = some entry ∧
        updated = { entry with range := some range } ∧
        after = { table with pairs := table.pairs.set place updated }) ∧
    (s(third, fourth) ≠ s(one, other) →
      (table.call (.update one other range)).find? third fourth = table.find? third fourth ∧
      (table.call (.update one other range)).call (.update third fourth later) =
        (table.call (.update third fourth later)).call (.update one other range) ∧
      ((table.call (.update one other range)).update third fourth later).map Prod.fst =
        (table.update third fourth later).map Prod.fst ∧
      ((table.call (.update third fourth later)).update one other range).map Prod.fst =
        (table.update one other range).map Prod.fst) := by
  have swap : s(one, other) = s(other, one) := Sym2.eq_swap
  refine ⟨?_, ?_, ?_, ?_, ?_⟩
  · rw [find?_eq, find?_eq, swap]
  · rw [update_eq, update_eq, swap]
  · rw [update_eq, find?_eq, Option.isSome_map]
  · intro updated after done
    obtain ⟨place, entry, found, there, same, rfl⟩ := update_eq_some.mp done
    have first : table.find? one other = some entry := by
      rw [find?_eq, entryOf, found]
      exact there
    refine ⟨?_, place, entry, found, there, first, same, rfl⟩
    rw [update_eq, ← find?_eq, first] at done
    obtain ⟨result, pairs⟩ := Prod.mk.inj (Option.some.inj done)
    rw [← pairs, find?_eq, entryOf_stored, ← find?_eq, first, ← result]
    rfl
  · intro different
    simp only [call_update, find?_eq, update_eq, Option.map_map]
    refine ⟨entryOf_stored_of_ne different _ _, ?_, ?_, ?_⟩
    · rw [stored_comm different.symm]
    · rw [entryOf_stored_of_ne different]
      rfl
    · rw [entryOf_stored_of_ne different.symm]
      rfl

def twicePaired : Table 3 := ⟨9, 4, [⟨7, 8, none⟩, ⟨8, 7, none⟩, ⟨1, 7, some ⟨5⟩⟩]⟩

theorem update_of_twicePaired :
    twicePaired.update 8 7 ⟨2⟩ =
      some (⟨7, 8, some ⟨2⟩⟩, ⟨9, 4, [⟨7, 8, some ⟨2⟩⟩, ⟨8, 7, none⟩, ⟨1, 7, some ⟨5⟩⟩]⟩) ∧
    s((7 : UInt16), 1) ≠ s(8, 7) ∧
    (Table.mk 9 4 [⟨7, 8, some ⟨2⟩⟩, ⟨8, 7, none⟩, ⟨1, 7, some ⟨5⟩⟩] : Table 3).find? 8 7 =
      some ⟨7, 8, some ⟨2⟩⟩ ∧
    (twicePaired.call (.update 8 7 ⟨2⟩)).find? 7 1 = some ⟨1, 7, some ⟨5⟩⟩ := by
  have done : twicePaired.update 8 7 ⟨2⟩ =
      some (⟨7, 8, some ⟨2⟩⟩,
        ⟨9, 4, [⟨7, 8, some ⟨2⟩⟩, ⟨8, 7, none⟩, ⟨1, 7, some ⟨5⟩⟩]⟩) := by decide
  have different : s((7 : UInt16), 1) ≠ s(8, 7) := by decide
  obtain ⟨_, _, _, updates, others⟩ := lookup_and_update_agree twicePaired 8 7 ⟨2⟩ 7 1 ⟨3⟩
  exact ⟨done, different, (updates _ _ done).1, (others different).1.trans (by decide)⟩

end Table

end UwbRadio.Ranging
