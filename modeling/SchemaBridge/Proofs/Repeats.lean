import Mathlib
import SchemaBridge.Validation.Assertion

/-!
# What a sort keeps

Whatever the comparisons say, a sort neither loses nor adds items: each step of a merge takes items
from the runs and puts them down, and a run that is too short only takes up items after it. So what
stands side by side in a sorted list was somewhere in the list, and a list is refused for holding
equal items only if it does.

Items are counted as multisets, so that what each step keeps is an equation.

* `Run.contents_nextItems`: what is taken from a run, and what is left of it.
* `Merging.contents_singly_searching`, `contents_merge?`: a merge keeps the items of both runs.
* `contents_nextRun?`: a run and what is left of the items are these items.
* `sort?_perm`: a sort keeps the items.
* `Datum.hasRepeat_iff_of_unordered`: repetitions among items that cannot be ordered.
* `Datum.holdsEqual_of_hasRepeat`: where a repetition is found there are two equal items.
* `Schema.holdsEqual_of_uniqueOutcome`: what the keyword `uniqueItems` refuses.
-/

namespace SchemaBridge.Sorting

variable {α : Type} {before? : Comparison α}

/-- The items of an array, in any order. -/
def contents (items : Array α) : Multiset α := items.toList

theorem contents_append (first second : Array α) :
    contents (first ++ second) = contents first + contents second := by
  simp [contents]

theorem contents_reverse (items : Array α) : contents items.reverse = contents items := by
  simp [contents]

/-- An array cut at a position. -/
theorem contents_extract (items : Array α) (position : Nat) :
    contents (items.extract 0 position) + contents (items.extract position items.size)
      = contents items := by
  have hwhole : (items.extract 0 position ++ items.extract position items.size).toList
      = items.toList := by
    simp [List.extract_eq_take_drop]
  rw [← contents_append, contents, hwhole, contents]

/-! ## Merges -/

/-- What is taken from a run, together with what is left, is what there was. -/
theorem Run.contents_nextItems (run : Run α) (side : End) (count : Nat) :
    contents (run.nextItems side count) + contents ((run.take count).rest side)
      = contents (run.rest side) := by
  obtain ⟨items, taken⟩ := run
  cases side with
  | front =>
    have hnext : (Run.nextItems ⟨items, taken⟩ .front count).toList
        = (items.toList.drop taken).take count := by
      simp [nextItems, List.extract_eq_take_drop]
    have hrest : ((Run.take ⟨items, taken⟩ count).rest .front).toList
        = (items.toList.drop taken).drop count := by
      simp [rest, take, size, start, List.extract_eq_take_drop, List.drop_drop]
    have hwhole : (Run.rest ⟨items, taken⟩ .front).toList = items.toList.drop taken := by
      simp [rest, size, start, List.extract_eq_take_drop]
    rw [contents, contents, contents, hnext, hrest, hwhole, Multiset.coe_add,
      List.take_append_drop]
  | back =>
    have hnext : (Run.nextItems ⟨items, taken⟩ .back count).toList
        = ((items.toList.take (items.size - taken)).drop (items.size - taken - count)).reverse := by
      simp [nextItems, size, List.extract_eq_take_drop, List.drop_take]
    have hrest : ((Run.take ⟨items, taken⟩ count).rest .back).toList
        = (items.toList.take (items.size - taken)).take (items.size - taken - count) := by
      simp [rest, take, size, start, List.extract_eq_take_drop, List.take_take, Nat.sub_sub]
      omega
    have hwhole : (Run.rest ⟨items, taken⟩ .back).toList
        = items.toList.take (items.size - taken) := by
      simp [rest, size, start, List.extract_eq_take_drop]
    rw [contents, contents, contents, hnext, hrest, hwhole, Multiset.coe_reverse, add_comm,
      Multiset.coe_add, List.take_append_drop]

namespace Merging

variable {side : End} {merging merging' : Merging α} {threshold : Nat}

/-- The items of a merge on its way: those taken, and those left in both runs. -/
def held (merging : Merging α) (side : End) : Multiset α :=
  contents merging.merged + contents (merging.left.rest side) + contents (merging.right.rest side)

theorem held_takeLeft (merging : Merging α) (side : End) (count : Nat) :
    (merging.takeLeft side count).held side = merging.held side := by
  rw [held, held, ← merging.left.contents_nextItems side count, takeLeft, contents_append]
  abel

theorem held_takeRight (merging : Merging α) (side : End) (count : Nat) :
    (merging.takeRight side count).held side = merging.held side := by
  rw [held, held, ← merging.right.contents_nextItems side count, takeRight, contents_append]
  abel

theorem contents_result (merging : Merging α) (side : End) :
    contents (merging.result side) = merging.held side := by
  cases side <;> simp only [result, held, contents_append, contents_reverse] <;> abel

theorem held_of_round? {paid : Bool} (h : round? before? side merging = some (merging', paid)) :
    merging'.held side = merging.held side := by
  unfold round? at h
  obtain ⟨key, -, h⟩ := Option.bind_eq_some_iff.mp h
  obtain ⟨count, -, h⟩ := Option.bind_eq_some_iff.mp h
  dsimp only at h
  split at h
  · cases h
    exact held_takeLeft ..
  · split at h
    · cases h
      rw [held_takeRight, held_takeLeft]
    · obtain ⟨key', -, h⟩ := Option.bind_eq_some_iff.mp h
      obtain ⟨count', -, h⟩ := Option.bind_eq_some_iff.mp h
      split at h
      · cases h
        rw [held_takeRight, held_takeRight, held_takeLeft]
      · cases h
        rw [held_takeLeft, held_takeRight, held_takeRight, held_takeLeft]

/-- A merge keeps the items, be they taken one by one or searched for. -/
theorem contents_singly_searching (steps : Nat) :
    (∀ threshold wasLeft row (merging : Merging α) result,
      singly? before? side threshold steps wasLeft row merging = some result →
        contents result.1 = merging.held side) ∧
    ∀ threshold (merging : Merging α) result,
      searching? before? side threshold steps merging = some result →
        contents result.1 = merging.held side := by
  induction steps with
  | zero =>
    refine ⟨fun threshold wasLeft row merging result h => ?_, fun threshold merging result h => ?_⟩
    all_goals
      cases h
      exact contents_result ..
  | succ steps ih =>
    obtain ⟨hsingly, hsearching⟩ := ih
    refine ⟨fun threshold wasLeft row merging result h => ?_, fun threshold merging result h => ?_⟩
    · unfold singly? at h
      split at h
      · cases h
        exact contents_result ..
      · split at h
        · cases h
        · next isLeft _ =>
          have htaken : (if isLeft then merging.takeLeft side 1 else merging.takeRight side 1).held side
              = merging.held side := by
            split
            · exact held_takeLeft ..
            · exact held_takeRight ..
          rw [← htaken]
          dsimp only at h
          generalize (if isLeft then merging.takeLeft side 1 else merging.takeRight side 1)
            = merging', (if isLeft = wasLeft then row + 1 else 1) = row' at h ⊢
          split at h
          · exact hsearching _ _ _ h
          · exact hsingly _ _ _ _ _ h
    · unfold searching? at h
      split at h
      · cases h
      · next merging' paid hround =>
        rw [← held_of_round? hround]
        split at h
        · cases h
          exact contents_result ..
        · split at h
          · exact hsearching _ _ _ h
          · exact hsingly _ _ _ _ _ h

end Merging

theorem contents_mergeOverlap? {threshold : Nat} {left right : Array α} {result : Array α × Nat}
    (h : mergeOverlap? before? threshold left right = some result) :
    contents result.1 = contents left + contents right := by
  have hheld (side : End) : Merging.held ⟨⟨left, 0⟩, ⟨right, 0⟩, #[]⟩ side
      = contents left + contents right := by
    cases side <;> simp [Merging.held, contents, Run.rest, Run.start, Run.size]
  unfold mergeOverlap? at h
  dsimp only at h
  split at h
  · rw [(Merging.contents_singly_searching _).1 _ _ _ _ _ h, Merging.held_takeRight, hheld]
  · rw [(Merging.contents_singly_searching _).1 _ _ _ _ _ h, Merging.held_takeLeft, hheld]

theorem contents_merge? {threshold : Nat} {left right : Array α} {result : Array α × Nat}
    (h : merge? before? threshold left right = some result) :
    contents result.1 = contents left + contents right := by
  unfold merge? at h
  split at h
  · obtain ⟨skipped, -, h⟩ := Option.bind_eq_some_iff.mp h
    split at h
    · obtain ⟨kept, -, h⟩ := Option.bind_eq_some_iff.mp h
      split at h
      · cases h
        exact contents_append ..
      · obtain ⟨⟨merged, threshold'⟩, hmerge, h⟩ := Option.bind_eq_some_iff.mp h
        cases h
        rw [contents_append, contents_append, contents_mergeOverlap? hmerge,
          ← contents_extract left skipped, ← contents_extract right kept]
        abel
    · cases h
      exact contents_append ..
  · cases h
    exact contents_append ..

/-! ## Runs -/

theorem contents_insert? {run result : Array α} {item : α}
    (h : insert? before? run item = some result) :
    contents result = item ::ₘ contents run := by
  obtain ⟨place, hplace, rfl⟩ := Option.map_eq_some_iff.mp h
  have hle : place ≤ run.size := (bisect?_spec (Nat.zero_le _) hplace).le_high
  rw [Array.insertIdxIfInBounds, dif_pos hle, contents, contents, Array.toList_insertIdx,
    Multiset.cons_coe, Multiset.coe_eq_coe]
  exact List.perm_insertIdx item _ (by simpa using hle)

/-- A run takes up further items. -/
theorem contents_foldlM_insert? {items : List α} {run result : Array α}
    (h : items.foldlM (insert? before?) run = some result) :
    contents result = contents run + items := by
  induction items generalizing run with
  | nil =>
    cases h
    simp
  | cons item rest ih =>
    obtain ⟨inserted, hinsert, h⟩ := Option.bind_eq_some_iff.mp h
    rw [ih h, contents_insert? hinsert, ← Multiset.cons_coe, Multiset.cons_add, Multiset.add_cons]

theorem perm_of_firstRun? {items run others : List α}
    (h : firstRun? before? items = some (run, others)) : (run ++ others).Perm items := by
  unfold firstRun? at h
  split at h
  · obtain ⟨falling, -, h⟩ := Option.bind_eq_some_iff.mp h
    obtain ⟨⟨taken, rest⟩, htake, h⟩ := Option.bind_eq_some_iff.mp h
    cases h
    rw [← takeRun?_append htake, ← List.cons_append, ← List.cons_append]
    refine List.Perm.append_right others ?_
    split
    · exact List.reverse_perm _
    · exact .refl _
  · cases h
    rw [List.append_nil]

theorem ne_nil_of_firstRun? {items run others : List α}
    (h : firstRun? before? items = some (run, others)) (hne : items ≠ []) : run ≠ [] := by
  unfold firstRun? at h
  split at h
  · obtain ⟨falling, -, h⟩ := Option.bind_eq_some_iff.mp h
    obtain ⟨⟨taken, rest⟩, -, h⟩ := Option.bind_eq_some_iff.mp h
    cases h
    split <;> simp
  · cases h
    exact hne

/-- A run and what is left of the items are the items. -/
theorem contents_nextRun? {least : Nat} {items others : List α} {run : Array α}
    (h : nextRun? before? least items = some (run, others)) :
    contents run + others = items := by
  obtain ⟨⟨first, rest⟩, hfirst, h⟩ := Option.bind_eq_some_iff.mp h
  obtain ⟨filled, hfilled, h⟩ := Option.bind_eq_some_iff.mp h
  cases h
  rw [contents_foldlM_insert? hfilled, contents, add_assoc, Multiset.coe_add, Multiset.coe_add,
    List.take_append_drop, Multiset.coe_eq_coe]
  exact perm_of_firstRun? hfirst

/-- A run takes at least one item away. -/
theorem length_lt_of_nextRun? {least : Nat} {items others : List α} {run : Array α}
    (h : nextRun? before? least items = some (run, others)) (hne : items ≠ []) :
    others.length < items.length := by
  obtain ⟨⟨first, rest⟩, hfirst, h⟩ := Option.bind_eq_some_iff.mp h
  obtain ⟨filled, -, h⟩ := Option.bind_eq_some_iff.mp h
  cases h
  have hlength := (perm_of_firstRun? hfirst).length_eq
  have hpos := List.length_pos_iff.mpr (ne_nil_of_firstRun? hfirst hne)
  rw [List.length_append] at hlength
  rw [List.length_drop]
  omega

/-! ## Sorts -/

/-- The items of blocks. -/
def heldBy (blocks : List (Block α)) : Multiset α :=
  (blocks.map fun block => contents block.items).sum

@[simp] theorem heldBy_nil : heldBy ([] : List (Block α)) = 0 := rfl

@[simp] theorem heldBy_cons (block : Block α) (blocks : List (Block α)) :
    heldBy (block :: blocks) = contents block.items + heldBy blocks := by
  rw [heldBy, List.map_cons, List.sum_cons, heldBy]

theorem contents_merge?_block {threshold : Nat} {later earlier : Block α}
    {result : Block α × Nat} (h : later.merge? before? threshold earlier = some result) :
    contents result.1.items = contents later.items + contents earlier.items := by
  obtain ⟨⟨items, threshold'⟩, hmerge, rfl⟩ := Option.map_eq_some_iff.mp h
  rw [contents_merge? hmerge, add_comm]

theorem heldBy_mergeWeaker? {weakness threshold : Nat} {last : Block α} {blocks : List (Block α)}
    {waiting : Waiting α} (h : mergeWeaker? before? weakness threshold last blocks = some waiting) :
    heldBy waiting.blocks = contents last.items + heldBy blocks := by
  induction blocks generalizing threshold last with
  | nil =>
    cases h
    simp
  | cons earlier rest ih =>
    unfold mergeWeaker? at h
    split at h
    · cases h
      simp
    · split at h
      · cases h
      · next hmerge => rw [ih h, contents_merge?_block hmerge, heldBy_cons, add_assoc]

theorem ne_nil_of_mergeWeaker? {weakness threshold : Nat} {last : Block α}
    {blocks : List (Block α)} {waiting : Waiting α}
    (h : mergeWeaker? before? weakness threshold last blocks = some waiting) :
    waiting.blocks ≠ [] := by
  induction blocks generalizing threshold last with
  | nil =>
    cases h
    exact List.cons_ne_nil _ _
  | cons earlier rest ih =>
    unfold mergeWeaker? at h
    split at h
    · cases h
      exact List.cons_ne_nil _ _
    · split at h
      · cases h
      · exact ih h

theorem heldBy_add? {total start : Nat} {run : Array α} {waiting waiting' : Waiting α}
    (h : waiting.add? before? total start run = some waiting') :
    heldBy waiting'.blocks = heldBy waiting.blocks + contents run := by
  unfold Waiting.add? at h
  split at h
  · next hblocks =>
    cases h
    simp [hblocks]
  · next last rest hblocks =>
    obtain ⟨merged, hmerged, rfl⟩ := Option.map_eq_some_iff.mp h
    have hheld := heldBy_mergeWeaker? hmerged
    rw [hblocks, heldBy_cons, ← hheld]
    split
    · next hnil => exact absurd hnil (ne_nil_of_mergeWeaker? hmerged)
    · next first others hfirst =>
      rw [hfirst, heldBy_cons, heldBy_cons, heldBy_cons, add_comm]

theorem contents_mergeAll? {threshold : Nat} {blocks : List (Block α)} {result : Array α}
    (h : mergeAll? before? threshold blocks = some result) :
    contents result = heldBy blocks := by
  fun_induction mergeAll? before? threshold blocks with
  | case1 =>
    cases h
    simp [contents]
  | case2 =>
    cases h
    simp
  | case3 =>
    obtain ⟨merged, hmerge, rfl⟩ := Option.map_eq_some_iff.mp h
    simp [contents_merge?_block hmerge]
  | case4 | case6 => cases h
  | case5 _ _ _ _ _ _ _ _ hmerge ih | case7 _ _ _ _ _ _ _ _ hmerge ih =>
    simp only [ih h, heldBy_cons, contents_merge?_block hmerge, add_assoc]

/-- There are runs enough if there are as many as items. -/
theorem contents_sortFrom? {total runs start : Nat} {waiting : Waiting α} {items : List α}
    {result : Array α} (hruns : items.length ≤ runs)
    (h : sortFrom? before? total runs start waiting items = some result) :
    contents result = heldBy waiting.blocks + items := by
  induction runs generalizing start waiting items with
  | zero =>
    obtain rfl : items = [] := List.length_eq_zero_iff.mp (Nat.le_zero.mp hruns)
    rw [sortFrom?] at h
    simp [contents_mergeAll? h]
  | succ runs ih =>
    cases items with
    | nil =>
      unfold sortFrom? at h
      simp [contents_mergeAll? h]
    | cons item rest =>
      unfold sortFrom? at h
      split at h
      · cases h
      · next run others hrun =>
        split at h
        · cases h
        · next waiting' hadd =>
          have hlength := length_lt_of_nextRun? hrun (List.cons_ne_nil _ _)
          rw [ih (by rw [List.length_cons] at *; omega) h, heldBy_add? hadd, add_assoc,
            contents_nextRun? hrun]

/-- A sort keeps the items. -/
theorem sort?_perm {items sorted : List α} (h : sort? before? items = some sorted) :
    sorted.Perm items := by
  obtain ⟨result, hresult, rfl⟩ := Option.map_eq_some_iff.mp h
  have hcontents := contents_sortFrom? le_rfl hresult
  rw [heldBy_nil, zero_add] at hcontents
  exact Multiset.coe_eq_coe.mp hcontents

end SchemaBridge.Sorting

/-! ## Repetitions -/

namespace SchemaBridge.Datum

variable {items : List Datum}

/-- The sequence holds two items, at different places, of which the first is equal to the second. -/
def HoldsEqual (items : List Datum) : Prop :=
  ∃ item item', [item, item'].Subperm items ∧ jsonEqual item item' = true

theorem HoldsEqual.cons (h : HoldsEqual items) (first : Datum) : HoldsEqual (first :: items) := by
  obtain ⟨item, item', hsub, hequal⟩ := h
  exact ⟨item, item', hsub.trans (List.sublist_cons_self _ _).subperm, hequal⟩

theorem holdsEqual_of_hasEqualNeighbours (h : hasEqualNeighbours items = true) :
    HoldsEqual items := by
  fun_induction hasEqualNeighbours items with
  | case1 item next rest ih =>
    rcases Bool.or_eq_true_iff.mp h with hequal | hrest
    · exact ⟨item, next, (List.prefix_append [item, next] rest).sublist.subperm, hequal⟩
    · exact (ih hrest).cons item
  | case2 => cases h

theorem hasEqualPair_iff : hasEqualPair items = true ↔ ¬items.Pairwise (jsonEqual · · = false) := by
  induction items with
  | nil => simp [hasEqualPair]
  | cons item rest ih =>
    rw [hasEqualPair, Bool.or_eq_true, ih, List.pairwise_cons, not_and_or]
    simp

/-- Where the items cannot be ordered, every pair of them is compared. -/
theorem hasRepeat_iff_of_unordered (h : Sorting.sort? itemBefore? items = none) :
    hasRepeat items = true ↔ ¬items.Pairwise (jsonEqual · · = false) := by
  rw [hasRepeat, h]
  exact hasEqualPair_iff

theorem holdsEqual_of_hasEqualPair (h : hasEqualPair items = true) : HoldsEqual items := by
  induction items with
  | nil => cases h
  | cons item rest ih =>
    rcases Bool.or_eq_true_iff.mp h with hitem | hrest
    · obtain ⟨item', hmem, hequal⟩ := List.any_eq_true.mp hitem
      exact ⟨item, item', ((List.singleton_sublist.mpr hmem).cons_cons item).subperm, hequal⟩
    · exact (ih hrest).cons item

/-- Where a repetition is found there are two equal items. -/
theorem holdsEqual_of_hasRepeat (h : hasRepeat items = true) : HoldsEqual items := by
  unfold hasRepeat at h
  split at h
  · next sorted hsorted =>
    obtain ⟨item, item', hsub, hequal⟩ := holdsEqual_of_hasEqualNeighbours h
    exact ⟨item, item', hsub.trans (Sorting.sort?_perm hsorted).subperm, hequal⟩
  · exact holdsEqual_of_hasEqualPair h

end SchemaBridge.Datum

namespace SchemaBridge.Schema

/-- Only a list that holds two equal items is refused for that. -/
theorem holdsEqual_of_uniqueOutcome {value data : Datum}
    (h : uniqueOutcome value data ≠ .valid) :
    ∃ items, data = .list items ∧ Datum.HoldsEqual items := by
  unfold uniqueOutcome at h
  split at h
  · next items =>
    refine ⟨items, rfl, ?_⟩
    by_contra hnot
    refine h ?_
    have hrepeat : Datum.hasRepeat items = false :=
      Bool.eq_false_iff.mpr fun hrepeat => hnot (Datum.holdsEqual_of_hasRepeat hrepeat)
    rw [hrepeat, Bool.and_false, Bool.not_false]
    rfl
  · exact absurd rfl h

end SchemaBridge.Schema
