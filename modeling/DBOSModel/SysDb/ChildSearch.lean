import DBOSModel.Relational.Frontier
import DBOSModel.SysDb.WorkflowStatus

/-!
# Workflows and their children

`_get_direct_children` reads one level of children, and two functions search by levels with it.
`get_workflow_children` collects the descendants of one workflow. `cancel_workflows` with
`cancel_children` cancels each level before it reads the next.

The parent links need not form a forest. A cancellation changes neither the links nor the set of
workflows, so the levels are those of the first state, and it goes on through workflows that are
already complete.
-/

namespace DBOSModel.SysDb

open Relational

/-- The parent link of a row. -/
def ParentOf (db : SystemDatabase) (parent child : String) : Prop :=
  ∃ row ∈ db.statusRows, row.parentWorkflowId = some parent ∧ row.workflowUuid = child

/-- `_get_direct_children` -/
def getDirectChildren (workflowIds : List String) (db : SystemDatabase) : List String :=
  if workflowIds.isEmpty then []
  else (db.statusRows.filter fun row ↦
    row.parentWorkflowId.any fun parent ↦ decide (parent ∈ workflowIds)).map
      WorkflowStatusRow.workflowUuid

theorem mem_getDirectChildren {workflowIds : List String} {db : SystemDatabase} {child : String} :
    child ∈ getDirectChildren workflowIds db ↔
      ∃ parent ∈ workflowIds, ParentOf db parent child := by
  have hchildren : child ∈ (db.statusRows.filter fun row ↦
      row.parentWorkflowId.any fun parent ↦ decide (parent ∈ workflowIds)).map
        WorkflowStatusRow.workflowUuid ↔ ∃ parent ∈ workflowIds, ParentOf db parent child := by
    simp only [List.mem_map, List.mem_filter, Option.any_eq_true, decide_eq_true_eq, ParentOf]
    constructor
    · rintro ⟨row, ⟨hrow, parent, hparent, hmem⟩, hchild⟩
      exact ⟨parent, hmem, row, hrow, hparent, hchild⟩
    · rintro ⟨parent, hmem, row, hrow, hparent, hchild⟩
      exact ⟨row, ⟨hrow, parent, hparent, hmem⟩, hchild⟩
  cases workflowIds with
  | nil => simp [getDirectChildren]
  | cons first rest => exact hchildren

theorem nodup_getDirectChildren (workflowIds : List String) (db : SystemDatabase) :
    (getDirectChildren workflowIds db).Nodup := by
  unfold getDirectChildren
  split
  · exact List.nodup_nil
  · exact db.workflowStatus.nodup_keys_filter _

/-- A search over the children, for visits that keep the IDs and the parent links. -/
def childSearch (visit : ℕ → List String → SystemDatabase → SystemDatabase)
    (hlinks : ∀ level frontier db, (visit level frontier db).statusRows.map
        (fun row ↦ (row.workflowUuid, row.parentWorkflowId)) =
      db.statusRows.map fun row ↦ (row.workflowUuid, row.parentWorkflowId)) :
    Search SystemDatabase String where
  visit := visit
  next := getDirectChildren
  edge := ParentOf
  nodes db := db.statusRows.map WorkflowStatusRow.workflowUuid
  mem_next := mem_getDirectChildren
  mem_nodes := by
    rintro db parent child ⟨row, hrow, -, rfl⟩
    exact List.mem_map_of_mem hrow
  edge_visit level frontier db := by
    have hlink (db : SystemDatabase) (parent child : String) : ParentOf db parent child ↔
        (child, some parent) ∈
          db.statusRows.map fun row ↦ (row.workflowUuid, row.parentWorkflowId) := by
      simp only [ParentOf, List.mem_map, Prod.mk.injEq, and_comm]
    funext parent child
    rw [eq_iff_iff, hlink, hlinks, ← hlink]
  nodes_visit level frontier db := by
    have hids := congrArg (List.map Prod.fst) (hlinks level frontier db)
    rw [List.map_map, List.map_map] at hids
    exact hids

/-! ## Descendants -/

/-- `get_workflow_children` -/
def getWorkflowChildren (workflowId : String) (db : SystemDatabase) : List String :=
  ((childSearch (fun _ _ db ↦ db) fun _ _ _ ↦ rfl).run 0 [] [workflowId] db).1

/-- The result is the descendants, with the workflow itself if it is on a cycle. -/
theorem mem_getWorkflowChildren {workflowId descendant : String} {db : SystemDatabase} :
    descendant ∈ getWorkflowChildren workflowId db ↔
      Relation.TransGen (ParentOf db) workflowId descendant := by
  rw [getWorkflowChildren, Search.mem_run _ (by simp)]
  simp only [List.not_mem_nil, false_or, List.mem_singleton, exists_eq_left]
  rfl

theorem nodup_getWorkflowChildren (workflowId : String) (db : SystemDatabase) :
    (getWorkflowChildren workflowId db).Nodup := by
  refine Search.run_invariant _ (fun visited _ _ ↦ visited.Nodup) ?_ 0 List.nodup_nil
  intro level visited frontier db hvisited
  apply hvisited.append ((nodup_getDirectChildren frontier db).filter _)
  intro child hseen hfresh
  exact of_decide_eq_true (List.mem_filter.mp hfresh).2 hseen

/-! ## Cancellation -/

theorem links_cancelWorkflows (workflowIds : List String) (now : ℤ) (db : SystemDatabase) :
    (cancelWorkflows workflowIds now db).statusRows.map
        (fun row ↦ (row.workflowUuid, row.parentWorkflowId)) =
      db.statusRows.map fun row ↦ (row.workflowUuid, row.parentWorkflowId) := by
  change List.map _ (List.map _ db.statusRows) = _
  rw [List.map_map]
  apply List.map_congr_left
  intro row _
  simp only [Function.comp_apply]
  split <;> rfl

/-- `cancel_workflows`. Each level is a transaction of its own; `clock` gives the time of each. -/
def cancelWorkflowsCascade (workflowIds : List String) (cancelChildren : Bool) (clock : ℕ → ℤ)
    (db : SystemDatabase) : SystemDatabase :=
  if cancelChildren then
    ((childSearch (fun level frontier ↦ cancelWorkflows frontier (clock level))
      fun level frontier ↦ links_cancelWorkflows frontier (clock level)).run 0 workflowIds
        workflowIds db).2
  else cancelWorkflows workflowIds (clock 0) db

section Cancel

variable {clock : ℕ → ℤ} {before db : SystemDatabase} {visited frontier : List String}

/-- What holds between two levels: the visited workflows off the frontier are cancelled where they
are not complete, each at the time of its level. -/
structure CancelledUpTo (clock : ℕ → ℤ) (before : SystemDatabase) (visited frontier : List String)
    (db : SystemDatabase) : Prop where
  frontierVisited : ∀ id ∈ frontier, id ∈ visited
  rows : ∃ level : String → ℕ, db.statusRows = before.statusRows.map fun row ↦
    if row.workflowUuid ∈ visited ∧ row.workflowUuid ∉ frontier ∧ row.status.isComplete = false
    then cancelUpdate (clock (level row.workflowUuid)) row else row
  others : { db with workflowStatus := before.workflowStatus } = before

/-- One level: it cancels its frontier, and the next frontier is new. -/
theorem cancelledUpTo_level (level : ℕ) (h : CancelledUpTo clock before visited frontier db)
    {fresh : List String} (hfresh : ∀ id ∈ fresh, id ∉ visited) :
    CancelledUpTo clock before (visited ++ fresh) fresh
      (cancelWorkflows frontier (clock level) db) := by
  obtain ⟨levelOf, hrows⟩ := h.rows
  refine ⟨fun id hid ↦ List.mem_append_right _ hid, ?_, h.others⟩
  refine ⟨fun id ↦ if id ∈ frontier then level else levelOf id, ?_⟩
  change List.map _ db.statusRows = _
  rw [hrows, List.map_map]
  apply List.map_congr_left
  intro row _
  have hvisited := h.frontierVisited row.workflowUuid
  have hnew := hfresh row.workflowUuid
  by_cases hfrontier : row.workflowUuid ∈ frontier
  · have hseen := hvisited hfrontier
    have hold : row.workflowUuid ∉ fresh := fun hmem ↦ hnew hmem hseen
    simp [hfrontier, hseen, hold]
  · by_cases hseen : row.workflowUuid ∈ visited
    · have hold : row.workflowUuid ∉ fresh := fun hmem ↦ hnew hmem hseen
      by_cases hcomplete : row.status.isComplete
      · simp [hfrontier, hseen, hold, hcomplete]
      · simp [hfrontier, hseen, hold, hcomplete, cancelUpdate]
    · by_cases hold : row.workflowUuid ∈ fresh <;> simp [hfrontier, hseen, hold]

/-- The workflow is a root or a descendant of one, and is not complete. -/
def ToCancel (roots : List String) (db : SystemDatabase) (row : WorkflowStatusRow) : Prop :=
  (∃ root ∈ roots, Relation.ReflTransGen (ParentOf db) root row.workflowUuid) ∧
    row.status.isComplete = false

/-- A cancellation with children cancels the roots and their descendants that are not complete, and
leaves every other row as it was. -/
theorem cancelWorkflowsCascade_cancels (workflowIds : List String) (clock : ℕ → ℤ)
    (db : SystemDatabase) :
    List.Forall₂ (fun row row' ↦
        (ToCancel workflowIds db row → ∃ level, row' = cancelUpdate (clock level) row) ∧
          (¬ToCancel workflowIds db row → row' = row))
      db.statusRows (cancelWorkflowsCascade workflowIds true clock db).statusRows ∧
    { cancelWorkflowsCascade workflowIds true clock db with workflowStatus := db.workflowStatus } =
      db := by
  let search := childSearch (fun level frontier ↦ cancelWorkflows frontier (clock level))
    fun level frontier ↦ links_cancelWorkflows frontier (clock level)
  have hinit : CancelledUpTo clock db workflowIds workflowIds db := by
    refine ⟨fun _ h ↦ h, ⟨fun _ ↦ 0, ?_⟩, rfl⟩
    have hnothing (row : WorkflowStatusRow) : ¬(row.workflowUuid ∈ workflowIds ∧
        row.workflowUuid ∉ workflowIds ∧ row.status.isComplete = false) := by
      tauto
    simp only [hnothing, if_false, List.map_id']
  have hend := search.run_invariant (CancelledUpTo clock db)
    (fun level _ _ _ h ↦ cancelledUpTo_level level h fun _ hid ↦ (Search.mem_fresh.mp hid).2) 0
    hinit
  have hvisited (id : String) : id ∈ (search.run 0 workflowIds workflowIds db).1 ↔
      ∃ root ∈ workflowIds, Relation.ReflTransGen (ParentOf db) root id := by
    rw [Search.mem_run _ fun _ h ↦ Or.inl h]
    simp only [Relation.reflTransGen_iff_eq_or_transGen]
    constructor
    · rintro (hroot | ⟨root, hroot, hpath⟩)
      · exact ⟨id, hroot, Or.inl rfl⟩
      · exact ⟨root, hroot, Or.inr hpath⟩
    · rintro ⟨root, hroot, rfl | hpath⟩
      · exact Or.inl hroot
      · exact Or.inr ⟨root, hroot, hpath⟩
  obtain ⟨level, hrows⟩ := hend.rows
  refine ⟨?_, hend.others⟩
  change List.Forall₂ _ _ (search.run 0 workflowIds workflowIds db).2.statusRows
  rw [hrows, List.forall₂_map_right_iff, List.forall₂_same]
  intro row _
  have hiff : (row.workflowUuid ∈ (search.run 0 workflowIds workflowIds db).1 ∧
      row.workflowUuid ∉ [] ∧ row.status.isComplete = false) ↔ ToCancel workflowIds db row := by
    rw [hvisited, ToCancel]
    simp
  constructor
  · intro hcancel
    exact ⟨level row.workflowUuid, if_pos (hiff.mpr hcancel)⟩
  · intro hkeep
    exact if_neg fun hcancel ↦ hkeep (hiff.mp hcancel)

end Cancel

end DBOSModel.SysDb
