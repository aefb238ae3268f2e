import DBOSModel.Relational.Table

/-!
# Deletion in batches above a watermark

A large deletion is split into short transactions. Each one reads the stamp of the row that ends
its batch, at a fixed offset among the matching rows above the watermark, deletes the matching rows
up to that stamp, and moves the watermark there. Rows that share the stamp go with the batch, so it
may exceed its size. When the offset is past the end, the last transaction deletes whatever matches,
also below the first watermark.

The stamps need not be distinct and the first watermark is arbitrary. Every batch takes at least
one row from above the watermark, so the loop ends, and it deletes what one statement deletes.
-/

namespace DBOSModel.Relational

/-- A store of rows with a guarded deletion, which may delete other data with the rows. -/
structure RowStore (σ ρ : Type) where
  rows : σ → List ρ
  delete : (ρ → Bool) → σ → σ
  rows_delete : ∀ p s, rows (delete p s) = (rows s).filter fun row ↦ !p row
  /-- A deletion absorbs an earlier one of fewer rows. -/
  delete_delete : ∀ (p q : ρ → Bool) s, (∀ row, p row → q row) → delete q (delete p s) = delete q s

/-- A table on its own. -/
def RowStore.ofTable {κ ρ : Type} (key : ρ → κ) : RowStore (Table key) ρ where
  rows := Table.rows
  delete p table := table.delete p
  rows_delete _ _ := rfl
  delete_delete p q table h := by
    apply Table.delete_delete
    intro row
    cases hp : p row with
    | false => rfl
    | true => rw [h row hp, Bool.or_true]

namespace RowStore

variable {σ ρ τ : Type} [LinearOrder τ]

/-- The matching rows above a watermark. -/
def above (stamp : ρ → τ) (p : ρ → Bool) (watermark : τ) (row : ρ) : Bool :=
  p row && decide (watermark < stamp row)

/-- The matching rows of one batch. -/
def inBatch (stamp : ρ → τ) (p : ρ → Bool) (watermark step : τ) (row : ρ) : Bool :=
  p row && (decide (watermark < stamp row) && decide (stamp row ≤ step))

variable (store : RowStore σ ρ) (stamp : ρ → τ) (p : ρ → Bool) (offset : ℕ)

/-- The stamp that ends the next batch. -/
def nextStep (watermark : τ) (s : σ) : Option τ :=
  ((((store.rows s).filter (above stamp p watermark)).map stamp).insertionSort (· ≤ ·))[offset]?

/-- The number of matching rows above a watermark. -/
def countAbove (watermark : τ) (s : σ) : ℕ := (store.rows s).countP (above stamp p watermark)

variable {store stamp p offset} {watermark step : τ} {s : σ}

theorem exists_of_nextStep (h : store.nextStep stamp p offset watermark s = some step) :
    ∃ row ∈ store.rows s, above stamp p watermark row ∧ stamp row = step := by
  have hmem := (List.mem_insertionSort (· ≤ ·)).mp (List.mem_of_getElem? h)
  obtain ⟨row, hrow, hstamp⟩ := List.mem_map.mp hmem
  obtain ⟨hrow, habove⟩ := List.mem_filter.mp hrow
  exact ⟨row, hrow, habove, hstamp⟩

/-- A batch takes at least one row away from above the watermark. -/
theorem countAbove_lt (h : store.nextStep stamp p offset watermark s = some step) :
    store.countAbove stamp p step (store.delete (inBatch stamp p watermark step) s) <
      store.countAbove stamp p watermark s := by
  obtain ⟨last, hlast, habove, hstamp⟩ := exists_of_nextStep h
  have hlt : watermark < step := by
    rw [above, Bool.and_eq_true, decide_eq_true_eq, hstamp] at habove
    exact habove.2
  unfold countAbove
  rw [store.rows_delete, List.countP_filter]
  refine countP_lt_of_imp ?_ hlast habove ?_
  · intro row _ hrow
    simp only [above, Bool.and_eq_true, decide_eq_true_eq] at hrow ⊢
    exact ⟨hrow.1.1, hlt.trans hrow.1.2⟩
  · -- the row that ends the batch is not above the new watermark
    simp [above, hstamp]

variable (store stamp p offset)

/-- The loop over the batches. -/
def deleteInBatches (watermark : τ) (s : σ) : σ :=
  match _hstep : store.nextStep stamp p offset watermark s with
  -- the final batch deletes every remaining matching row, even below the watermark
  | none => store.delete p s
  | some step => deleteInBatches step (store.delete (inBatch stamp p watermark step) s)
termination_by store.countAbove stamp p watermark s
decreasing_by exact countAbove_lt _hstep

/-- The loop with a bound on the number of its transactions; `none` when it needs more. -/
def deleteInBatchesWithin : ℕ → τ → σ → Option σ
  | 0, _, _ => none
  | transactions + 1, watermark, s =>
    match store.nextStep stamp p offset watermark s with
    | none => some (store.delete p s)
    | some step =>
      deleteInBatchesWithin transactions step (store.delete (inBatch stamp p watermark step) s)

/-- A batch leaves nothing more and nothing less to delete. -/
theorem delete_inBatch (watermark step : τ) (s : σ) :
    store.delete p (store.delete (inBatch stamp p watermark step) s) = store.delete p s := by
  apply store.delete_delete
  intro row hrow
  rw [inBatch, Bool.and_eq_true] at hrow
  exact hrow.1

/-- The batches delete what one statement deletes. -/
theorem deleteInBatches_eq_delete (watermark : τ) (s : σ) :
    store.deleteInBatches stamp p offset watermark s = store.delete p s := by
  fun_induction deleteInBatches store stamp p offset watermark s with
  | case1 watermark s h => rfl
  | case2 watermark s step h ih => rw [ih, delete_inBatch]

/-- One transaction for each matching row above the watermark, and the final one, are enough. -/
theorem deleteInBatchesWithin_eq_delete {transactions : ℕ} {watermark : τ} {s : σ}
    (h : store.countAbove stamp p watermark s < transactions) :
    store.deleteInBatchesWithin stamp p offset transactions watermark s =
      some (store.delete p s) := by
  induction transactions generalizing watermark s with
  | zero => exact absurd h (Nat.not_lt_zero _)
  | succ transactions ih =>
    rw [deleteInBatchesWithin]
    split
    · rfl
    · rename_i step hstep
      have hlt := countAbove_lt hstep
      have hrest : store.countAbove stamp p step
          (store.delete (inBatch stamp p watermark step) s) < transactions := by omega
      rw [ih hrest, delete_inBatch]

end RowStore

end DBOSModel.Relational
