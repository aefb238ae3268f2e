import DBOSModel.SysDb.Notifications
import Mathlib.Logic.Relation

/-!
# The descendants of a fork

`_find_fork_descendants_txn` computes, for each of the given workflows, the workflows forked from it
in one or more steps. The walk over the levels of the table ends with no open level, since each
level but the first takes a workflow of the table that was not seen before; its edges are then all
the edges out of the workflows it saw. The walk from a root over these edges puts each edge on the
stack at most once. Together they return the transitive closure of `forked_from`.
-/

namespace DBOSModel.SysDb

open Relational

/-- The second workflow was forked from the first. -/
def ForkOf (db : SystemDatabase) (original fork : String) : Prop :=
  ∃ row ∈ db.statusRows, row.forkedFrom = some original ∧ row.workflowUuid = fork

/-! ## Closed sets -/

section Closed

variable {α : Type} {r s : α → α → Prop} {C : α → Prop} {a b : α}

theorem mem_of_transGen (hclosed : ∀ a b, C a → r a b → C b) (ha : C a)
    (h : Relation.TransGen r a b) : C b := by
  induction h with
  | single hab => exact hclosed _ _ ha hab
  | tail _ hbc ih => exact hclosed _ _ ih hbc

/-- Two relations that agree on a closed set reach the same elements from it. -/
theorem transGen_iff_of_closed (hclosed : ∀ a b, C a → r a b → C b)
    (hagree : ∀ a b, C a → (s a b ↔ r a b)) (ha : C a) :
    Relation.TransGen s a b ↔ Relation.TransGen r a b := by
  constructor
  · intro h
    suffices hboth : Relation.TransGen r a b ∧ C b from hboth.1
    induction h with
    | single hab =>
      have hr := (hagree _ _ ha).mp hab
      exact ⟨.single hr, hclosed _ _ ha hr⟩
    | tail _ hbc ih =>
      have hr := (hagree _ _ ih.2).mp hbc
      exact ⟨ih.1.tail hr, hclosed _ _ ih.2 hr⟩
  · intro h
    induction h with
    | single hab => exact .single ((hagree _ _ ha).mpr hab)
    | tail hab hbc ih => exact ih.tail ((hagree _ _ (mem_of_transGen hclosed ha hab)).mpr hbc)

end Closed

/-! ## The walk from a root -/

section Collect

variable {children : List (String × String)} {root node : String}

theorem mem_childrenOf {fork : String} : fork ∈ childrenOf children node ↔ (node, fork) ∈ children := by
  simp only [childrenOf, List.mem_filterMap, Option.ite_none_right_eq_some, Option.some.injEq]
  constructor
  · rintro ⟨edge, hedge, rfl, rfl⟩
    exact hedge
  · intro hedge
    exact ⟨_, hedge, rfl, rfl⟩

/-- The edges out of workflows that are not yet expanded. -/
def openEdges (children : List (String × String)) (expanded : List String) : ℕ :=
  children.countP fun edge ↦ edge.1 ∉ expanded

/-- Expanding a workflow takes its edges from the open ones. -/
theorem openEdges_append {expanded : List String} (hnode : node ∉ expanded) :
    openEdges children (expanded ++ [node]) + (childrenOf children node).length =
      openEdges children expanded := by
  induction children with
  | nil => rfl
  | cons edge rest ih =>
    simp only [openEdges, childrenOf, List.countP_cons, List.filterMap_cons] at ih ⊢
    by_cases hedge : edge.1 = node
    · have hopen : edge.1 ∉ expanded := hedge ▸ hnode
      simp [hedge, hnode] at ih ⊢
      omega
    · by_cases hopen : edge.1 ∈ expanded
      · simp [hedge, hopen] at ih ⊢
        omega
      · simp [hedge, hopen] at ih ⊢
        omega

/-- What holds between two turns of the loop: the collected workflows are distinct and not the root,
everything in sight is reachable, and a fork of an expanded workflow is in sight. -/
structure Collecting (children : List (String × String)) (root : String)
    (stack descendants : List String) : Prop where
  distinct : (root :: descendants).Nodup
  reached : ∀ node ∈ stack ++ descendants,
    Relation.TransGen (fun original fork ↦ (original, fork) ∈ children) root node
  inSight : ∀ node ∈ root :: descendants, ∀ fork, (node, fork) ∈ children →
    fork ∈ stack ∨ fork ∈ root :: descendants

/-- With an empty stack the loop has found everything. -/
theorem mem_of_collected {descendants : List String} (h : Collecting children root [] descendants)
    (node : String) : node ∈ descendants ↔ node ≠ root ∧
      Relation.TransGen (fun original fork ↦ (original, fork) ∈ children) root node := by
  constructor
  · intro hnode
    refine ⟨?_, h.reached node hnode⟩
    rintro rfl
    exact (List.nodup_cons.mp h.distinct).1 hnode
  · rintro ⟨hne, hreached⟩
    have hmem : node ∈ root :: descendants := by
      refine mem_of_transGen (C := fun node ↦ node ∈ root :: descendants) ?_
        List.mem_cons_self hreached
      intro original fork horiginal hedge
      exact (h.inSight original horiginal fork hedge).resolve_left List.not_mem_nil
    exact (List.mem_cons.mp hmem).resolve_left hne

/-- A turn that expands a new workflow. -/
theorem collecting_expand {stack descendants : List String}
    (h : Collecting children root (stack ++ [node]) descendants) (hroot : node ≠ root)
    (hnew : node ∉ descendants) :
    Collecting children root (stack ++ childrenOf children node) (descendants ++ [node]) := by
  have hnode := h.reached node (by simp)
  refine ⟨?_, ?_, ?_⟩
  · have hfresh : node ∉ root :: descendants := by simp [hroot, hnew]
    rw [← List.cons_append, ← List.concat_eq_append]
    exact h.distinct.concat hfresh
  · intro other hother
    rcases List.mem_append.mp hother with hstack | hdescendant
    · rcases List.mem_append.mp hstack with hold | hchild
      · exact h.reached other (by simp [hold])
      · exact hnode.tail (mem_childrenOf.mp hchild)
    · rcases List.mem_append.mp hdescendant with hold | hlast
      · exact h.reached other (by simp [hold])
      · rw [List.mem_singleton.mp hlast]
        exact hnode
  · intro original horiginal fork hedge
    rw [← List.cons_append, List.mem_append] at horiginal
    rcases horiginal with hold | hlast
    · have hsight := h.inSight original hold fork hedge
      simp only [List.mem_append, List.mem_cons, List.not_mem_nil, or_false] at hsight ⊢
      tauto
    · rw [List.mem_singleton.mp hlast] at hedge
      exact Or.inl (List.mem_append_right _ (mem_childrenOf.mpr hedge))

/-- A turn that finds a workflow it knows. -/
theorem collecting_skip {stack descendants : List String}
    (h : Collecting children root (stack ++ [node]) descendants)
    (hknown : node ∈ root :: descendants) : Collecting children root stack descendants := by
  refine ⟨h.distinct, fun other hother ↦ h.reached other ?_, ?_⟩
  · rcases List.mem_append.mp hother with hstack | hdescendant
    · simp [hstack]
    · simp [hdescendant]
  · intro original horiginal fork hedge
    rcases h.inSight original horiginal fork hedge with hstack | hexpanded
    · rcases List.mem_append.mp hstack with hold | hlast
      · exact Or.inl hold
      · rw [List.mem_singleton.mp hlast]
        exact Or.inr hknown
    · exact Or.inr hexpanded

/-- The edges of the root are on the stack at first, and no others. -/
theorem length_childrenOf_add_openEdges_le (children : List (String × String)) (root : String) :
    (childrenOf children root).length + openEdges children [root] ≤ children.length + 1 := by
  have hexpand : openEdges children ([] ++ [root]) + (childrenOf children root).length =
      openEdges children [] := openEdges_append List.not_mem_nil
  have hall : openEdges children [] ≤ children.length := List.countP_le_length
  rw [List.nil_append] at hexpand
  omega

/-- One turn of the loop. -/
def collectStep (children : List (String × String)) (root : String) :
    List String × List String → List String × List String
  | (stack, descendants) =>
    match stack.getLast? with
    | none => (stack, descendants)
    | some node =>
      if node ≠ root ∧ node ∉ descendants then
        (stack.dropLast ++ childrenOf children node, descendants ++ [node])
      else (stack.dropLast, descendants)

/-- The loop ends: after some turns the stack is empty. -/
theorem exists_collectStep_iterate {fuel : ℕ} {stack descendants : List String}
    (hfuel : stack.length + openEdges children (root :: descendants) ≤ fuel) :
    ∃ turns, (collectStep children root)^[turns] (stack, descendants) =
      ([], collectDescendants children root fuel stack descendants) := by
  induction fuel generalizing stack descendants with
  | zero =>
    have hempty : stack = [] := List.length_eq_zero_iff.mp (by omega)
    exact ⟨0, by rw [hempty]; rfl⟩
  | succ fuel ih =>
    rw [collectDescendants]
    cases hlast : stack.getLast? with
    | none => exact ⟨0, by rw [List.getLast?_eq_none_iff.mp hlast]; rfl⟩
    | some node =>
      obtain ⟨front, rfl⟩ := List.getLast?_eq_some_iff.mp hlast
      simp only [List.dropLast_concat, List.length_append, List.length_singleton] at hfuel ⊢
      split
      · rename_i hnew
        have hopen : openEdges children (root :: descendants ++ [node]) +
            (childrenOf children node).length = openEdges children (root :: descendants) :=
          openEdges_append (by simpa using hnew)
        have hbound : (front ++ childrenOf children node).length +
            openEdges children (root :: (descendants ++ [node])) ≤ fuel := by
          rw [List.length_append]
          rw [List.cons_append] at hopen
          omega
        obtain ⟨turns, hturns⟩ := ih hbound
        refine ⟨turns + 1, ?_⟩
        rw [Function.iterate_succ_apply, ← hturns]
        simp only [collectStep, hlast, List.dropLast_concat, if_pos hnew]
      · rename_i hknown
        have hbound : front.length + openEdges children (root :: descendants) ≤ fuel := by omega
        obtain ⟨turns, hturns⟩ := ih hbound
        refine ⟨turns + 1, ?_⟩
        rw [Function.iterate_succ_apply, ← hturns]
        simp only [collectStep, hlast, List.dropLast_concat, if_neg hknown]

/-- The loop collects the workflows other than the root that are reachable from it, each once. -/
theorem collectDescendants_spec {fuel : ℕ} {stack descendants : List String}
    (hfuel : stack.length + openEdges children (root :: descendants) ≤ fuel)
    (h : Collecting children root stack descendants) :
    Collecting children root [] (collectDescendants children root fuel stack descendants) := by
  induction fuel generalizing stack descendants with
  | zero =>
    have hempty : stack = [] := List.length_eq_zero_iff.mp (by omega)
    rw [hempty] at h
    exact h
  | succ fuel ih =>
    rw [collectDescendants]
    cases hlast : stack.getLast? with
    | none =>
      rw [List.getLast?_eq_none_iff.mp hlast] at h
      exact h
    | some node =>
      obtain ⟨front, rfl⟩ := List.getLast?_eq_some_iff.mp hlast
      simp only [List.dropLast_concat, List.length_append, List.length_singleton] at hfuel ⊢
      split
      · rename_i hnew
        have hopen : openEdges children (root :: descendants ++ [node]) +
            (childrenOf children node).length = openEdges children (root :: descendants) :=
          openEdges_append (by simpa using hnew)
        apply ih _ (collecting_expand h hnew.1 hnew.2)
        rw [List.length_append]
        rw [List.cons_append] at hopen
        omega
      · rename_i hknown
        have hmem : node ∈ root :: descendants := by
          by_contra hnot
          simp only [List.mem_cons, not_or] at hnot
          exact hknown hnot
        exact ih (by omega) (collecting_skip h hmem)

end Collect

/-! ## The walk over the levels -/

section Levels

variable {db : SystemDatabase} {walk : ForkWalk}

theorem mem_forksOf {frontier : List String} {row : String × String} :
    row ∈ forksOf db frontier ↔ row.2 ∈ frontier ∧ ForkOf db row.2 row.1 := by
  obtain ⟨fork, original⟩ := row
  simp only [forksOf, List.mem_filterMap, Option.bind_eq_some_iff, Option.ite_none_right_eq_some,
    Option.some.injEq, Prod.mk.injEq, ForkOf]
  constructor
  · rintro ⟨row, hrow, forkedFrom, hforked, hfrontier, rfl, rfl⟩
    exact ⟨hfrontier, row, hrow, hforked, rfl⟩
  · rintro ⟨hfrontier, row, hrow, hforked, rfl⟩
    exact ⟨row, hrow, original, hforked, hfrontier, rfl, rfl⟩

/-- What the loop over the rows of a level adds. -/
theorem foldl_visit (rows : List (String × String)) (walk : ForkWalk) :
    (rows.foldl ForkWalk.visit walk).children = walk.children ++ rows.map Prod.swap ∧
    (∀ node, node ∈ (rows.foldl ForkWalk.visit walk).seen ↔
      node ∈ walk.seen ∨ node ∈ rows.map Prod.fst) ∧
    ∀ node, node ∈ (rows.foldl ForkWalk.visit walk).frontier ↔
      node ∈ walk.frontier ∨ node ∈ rows.map Prod.fst ∧ node ∉ walk.seen := by
  induction rows generalizing walk with
  | nil => simp
  | cons row rest ih =>
    obtain ⟨hchildren, hseen, hfrontier⟩ := ih (walk.visit row)
    rw [List.foldl_cons]
    by_cases hrow : row.1 ∈ walk.seen
    · have hvisit : walk.visit row =
          { walk with children := walk.children ++ [(row.2, row.1)] } := by
        simp [ForkWalk.visit, hrow]
      rw [hvisit] at hchildren hseen hfrontier ⊢
      refine ⟨?_, ?_, ?_⟩
      · rw [hchildren, List.map_cons, List.append_assoc]
        rfl
      · intro node
        rw [hseen, List.map_cons, List.mem_cons]
        by_cases hnode : node = row.1
        · simp [hnode, hrow]
        · simp [hnode]
      · intro node
        rw [hfrontier, List.map_cons, List.mem_cons]
        by_cases hnode : node = row.1
        · simp [hnode, hrow]
        · simp [hnode]
    · have hvisit : walk.visit row =
          { children := walk.children ++ [(row.2, row.1)]
            seen := walk.seen ++ [row.1]
            frontier := walk.frontier ++ [row.1] } := by
        simp [ForkWalk.visit, hrow]
      rw [hvisit] at hchildren hseen hfrontier ⊢
      refine ⟨?_, ?_, ?_⟩
      · rw [hchildren, List.map_cons, List.append_assoc]
        rfl
      · intro node
        rw [hseen, List.map_cons, List.mem_cons, List.mem_append, List.mem_singleton]
        tauto
      · intro node
        rw [hfrontier, List.map_cons, List.mem_cons, List.mem_append, List.mem_append,
          List.mem_singleton]
        by_cases hnode : node = row.1
        · simp [hnode, hrow]
        · simp [hnode]

/-- One turn of the loop over the levels. -/
def ForkWalk.level (db : SystemDatabase) (walk : ForkWalk) : ForkWalk :=
  (forksOf db walk.frontier).foldl ForkWalk.visit { walk with frontier := [] }

theorem levels_succ (fuel : ℕ) (walk : ForkWalk) :
    ForkWalk.levels db (fuel + 1) walk =
      if walk.frontier = [] then walk else ForkWalk.levels db fuel (walk.level db) := rfl

/-- The loop over the levels takes some turns. -/
theorem exists_levels_eq_iterate (fuel : ℕ) (walk : ForkWalk) :
    ∃ turns, (ForkWalk.level db)^[turns] walk = ForkWalk.levels db fuel walk := by
  induction fuel generalizing walk with
  | zero => exact ⟨0, rfl⟩
  | succ fuel ih =>
    rw [levels_succ]
    split
    · exact ⟨0, rfl⟩
    · obtain ⟨turns, hturns⟩ := ih (walk.level db)
      exact ⟨turns + 1, hturns⟩

/-- What holds between two levels: the edges are edges of the table between seen workflows, and all
edges out of a workflow that is not on the open level are there. -/
structure Walked (db : SystemDatabase) (walk : ForkWalk) : Prop where
  frontierSeen : ∀ node ∈ walk.frontier, node ∈ walk.seen
  edges : ∀ edge ∈ walk.children, ForkOf db edge.1 edge.2 ∧ edge.2 ∈ walk.seen
  expanded : ∀ node ∈ walk.seen, node ∉ walk.frontier → ∀ fork, ForkOf db node fork →
    (node, fork) ∈ walk.children

theorem walked_level (h : Walked db walk) : Walked db (walk.level db) := by
  obtain ⟨hchildren, hseen, hfrontier⟩ :=
    foldl_visit (forksOf db walk.frontier) { walk with frontier := [] }
  refine ⟨?_, ?_, ?_⟩
  · intro node hnode
    rcases (hfrontier node).mp hnode with habsurd | ⟨hnew, -⟩
    · cases habsurd
    · exact (hseen node).mpr (Or.inr hnew)
  · intro edge hedge
    rw [ForkWalk.level, hchildren] at hedge
    rcases List.mem_append.mp hedge with hold | hnew
    · obtain ⟨hfork, htarget⟩ := h.edges edge hold
      exact ⟨hfork, (hseen edge.2).mpr (Or.inl htarget)⟩
    · obtain ⟨row, hrow, rfl⟩ := List.mem_map.mp hnew
      exact ⟨(mem_forksOf.mp hrow).2, (hseen row.1).mpr (Or.inr (List.mem_map_of_mem hrow))⟩
  · intro node hnode hclosed fork hfork
    rw [ForkWalk.level, hchildren, List.mem_append]
    have hold : node ∈ walk.seen := by
      rcases (hseen node).mp hnode with hold | hnew
      · exact hold
      · by_contra hunseen
        exact hclosed ((hfrontier node).mpr (Or.inr ⟨hnew, hunseen⟩))
    by_cases hopen : node ∈ walk.frontier
    · right
      exact List.mem_map.mpr ⟨(fork, node), mem_forksOf.mpr ⟨hopen, hfork⟩, rfl⟩
    · exact Or.inl (h.expanded node hold hopen fork hfork)

/-- The workflows of the table that the walk has not seen. -/
def unseen (db : SystemDatabase) (walk : ForkWalk) : ℕ :=
  db.workflowStatus.count fun row ↦ row.workflowUuid ∉ walk.seen

/-- A level that opens another one has seen a new workflow of the table. -/
theorem unseen_level_lt (hopen : (walk.level db).frontier ≠ []) :
    unseen db (walk.level db) < unseen db walk := by
  obtain ⟨-, hseen, hfrontier⟩ :=
    foldl_visit (forksOf db walk.frontier) { walk with frontier := [] }
  obtain ⟨node, hnode⟩ := List.exists_mem_of_ne_nil _ hopen
  rcases (hfrontier node).mp hnode with habsurd | ⟨hnew, hunseen⟩
  · cases habsurd
  · obtain ⟨edge, hedge, rfl⟩ := List.mem_map.mp hnew
    obtain ⟨-, row, hrow, -, hid⟩ := mem_forksOf.mp hedge
    have hnewSeen : row.workflowUuid ∈ (walk.level db).seen := by
      rw [hid]
      exact (hseen edge.1).mpr (Or.inr (List.mem_map_of_mem hedge))
    apply Table.count_lt_of_keys _ _ _ _ _ hrow
    · rw [decide_eq_true_eq, hid]
      exact hunseen
    · intro other hother hotherUnseen hkey
      rw [decide_eq_true_eq] at hotherUnseen
      exact hotherUnseen (hkey ▸ hnewSeen)
    · intro other hother hotherUnseen
      refine ⟨other, hother, rfl, ?_⟩
      rw [decide_eq_true_eq] at hotherUnseen ⊢
      exact fun hold ↦ hotherUnseen ((hseen other.workflowUuid).mpr (Or.inl hold))

/-- The loop ends with no open level. -/
theorem levels_spec {fuel : ℕ} (hfuel : walk.frontier = [] ∨ unseen db walk < fuel)
    (h : Walked db walk) :
    Walked db (ForkWalk.levels db fuel walk) ∧ (ForkWalk.levels db fuel walk).frontier = [] ∧
      ∀ node ∈ walk.seen, node ∈ (ForkWalk.levels db fuel walk).seen := by
  induction fuel generalizing walk with
  | zero =>
    have hempty : walk.frontier = [] := hfuel.resolve_right (by omega)
    exact ⟨h, hempty, fun _ hnode ↦ hnode⟩
  | succ fuel ih =>
    rw [levels_succ]
    split
    · rename_i hempty
      exact ⟨h, hempty, fun _ hnode ↦ hnode⟩
    · rename_i hopen
      have hbound := hfuel.resolve_left hopen
      have hnext : (walk.level db).frontier = [] ∨ unseen db (walk.level db) < fuel := by
        by_cases hempty : (walk.level db).frontier = []
        · exact Or.inl hempty
        · have hlt := unseen_level_lt hempty
          exact Or.inr (by omega)
      obtain ⟨hwalked, hclosed, hsubset⟩ := ih hnext (walked_level h)
      refine ⟨hwalked, hclosed, fun node hnode ↦ hsubset node ?_⟩
      exact ((foldl_visit _ _).2.1 node).mpr (Or.inl hnode)

end Levels

/-! ## The function -/

theorem lookup_map_self {α : Type} (f : String → α) {names : List String} {name : String}
    (h : name ∈ names) : (names.map fun name ↦ (name, f name)).lookup name = some (f name) := by
  induction names with
  | nil => cases h
  | cons first rest ih =>
    rw [List.map_cons, List.lookup_cons]
    by_cases hname : name = first
    · simp [hname]
    · rw [beq_eq_false_iff_ne.mpr hname]
      exact ih ((List.mem_cons.mp h).resolve_left hname)

/-- The walk before the first level. -/
def ForkWalk.start (workflowIds : List String) : ForkWalk :=
  { children := [], seen := workflowIds, frontier := workflowIds.eraseDups }

/-- The walk after the loop over the levels. -/
def ForkWalk.final (db : SystemDatabase) (workflowIds : List String) : ForkWalk :=
  levels db (db.statusRows.length + 1) (start workflowIds)

theorem final_spec (db : SystemDatabase) (workflowIds : List String) :
    Walked db (ForkWalk.final db workflowIds) ∧
      (ForkWalk.final db workflowIds).frontier = [] ∧
        ∀ root ∈ workflowIds, root ∈ (ForkWalk.final db workflowIds).seen := by
  have hwalked : Walked db (ForkWalk.start workflowIds) := by
    refine ⟨fun node hnode ↦ List.mem_eraseDups.mp hnode, fun edge hedge ↦ ?_, ?_⟩
    · cases hedge
    · intro node hnode hclosed
      exact absurd (List.mem_eraseDups.mpr hnode) hclosed
  have hfuel : unseen db (ForkWalk.start workflowIds) < db.statusRows.length + 1 :=
    Nat.lt_succ_of_le List.countP_le_length
  exact levels_spec (Or.inr hfuel) hwalked

theorem lookup_findForkDescendantsTxn {workflowIds : List String} {root : String}
    (db : SystemDatabase) (hroot : root ∈ workflowIds) :
    (findForkDescendantsTxn workflowIds db).lookup root =
      some (collectDescendants (ForkWalk.final db workflowIds).children root
        ((ForkWalk.final db workflowIds).children.length + 1)
          (childrenOf (ForkWalk.final db workflowIds).children root) []) :=
  lookup_map_self (fun root ↦ collectDescendants (ForkWalk.final db workflowIds).children root
    ((ForkWalk.final db workflowIds).children.length + 1)
      (childrenOf (ForkWalk.final db workflowIds).children root) [])
    (List.mem_eraseDups.mpr hroot)

/-- For each of the given workflows the function returns the workflows forked from it in one or
more steps, each once and without the workflow itself. -/
theorem findForkDescendantsTxn_spec {workflowIds : List String} {root : String}
    (db : SystemDatabase) (hroot : root ∈ workflowIds) :
    ∃ descendants, (findForkDescendantsTxn workflowIds db).lookup root = some descendants ∧
      descendants.Nodup ∧ ∀ node, node ∈ descendants ↔
        node ≠ root ∧ Relation.TransGen (ForkOf db) root node := by
  obtain ⟨hfinal, hclosed, hsubset⟩ := final_spec db workflowIds
  set final := ForkWalk.final db workflowIds with hfinalDef
  have hagree : ∀ original fork, original ∈ final.seen →
      ((original, fork) ∈ final.children ↔ ForkOf db original fork) := by
    intro original fork horiginal
    constructor
    · exact fun hedge ↦ (hfinal.edges _ hedge).1
    · intro hfork
      exact hfinal.expanded original horiginal (by rw [hclosed]; exact List.not_mem_nil) fork hfork
  have hstep : ∀ original fork, original ∈ final.seen → ForkOf db original fork →
      fork ∈ final.seen := by
    intro original fork horiginal hfork
    exact (hfinal.edges _ ((hagree original fork horiginal).mpr hfork)).2
  have hinitial : Collecting final.children root (childrenOf final.children root) [] := by
    refine ⟨List.nodup_singleton root, ?_, ?_⟩
    · intro node hnode
      rw [List.append_nil] at hnode
      exact .single (mem_childrenOf.mp hnode)
    · intro node hnode fork hedge
      rw [List.mem_singleton.mp hnode] at hedge
      exact Or.inl (mem_childrenOf.mpr hedge)
  have hcollected :=
    collectDescendants_spec (length_childrenOf_add_openEdges_le final.children root) hinitial
  refine ⟨_, lookup_findForkDescendantsTxn db hroot, ?_, ?_⟩
  · exact (List.nodup_cons.mp hcollected.distinct).2
  · intro node
    rw [mem_of_collected hcollected node]
    exact and_congr_right fun _ ↦ transGen_iff_of_closed (C := fun node ↦ node ∈ final.seen)
      hstep hagree (hsubset root hroot)

/-- Both loops end, and each of the given workflows is mapped to the others that are forked from it
in one or more steps, whatever the table and whichever workflows are given. -/
theorem findForkDescendantsTxn_maps_roots (workflowIds : List String) (db : SystemDatabase) :
    ∃ levels walk, (ForkWalk.level db)^[levels] (ForkWalk.start workflowIds) = walk ∧
      walk.frontier = [] ∧
      (findForkDescendantsTxn workflowIds db).map Prod.fst = workflowIds.eraseDups ∧
      ∀ root ∈ workflowIds, ∃ turns descendants,
        (collectStep walk.children root)^[turns] (childrenOf walk.children root, []) =
          ([], descendants) ∧
        (findForkDescendantsTxn workflowIds db).lookup root = some descendants ∧
        descendants.Nodup ∧ ∀ node, node ∈ descendants ↔
          node ≠ root ∧ Relation.TransGen (ForkOf db) root node := by
  obtain ⟨-, hclosed, -⟩ := final_spec db workflowIds
  obtain ⟨levels, hlevels⟩ := exists_levels_eq_iterate (db.statusRows.length + 1)
    (ForkWalk.start workflowIds)
  refine ⟨levels, ForkWalk.final db workflowIds, hlevels, hclosed, ?_, ?_⟩
  · rw [findForkDescendantsTxn, List.map_map]
    exact List.map_id _
  · intro root hroot
    obtain ⟨descendants, hlookup, hnodup, hmem⟩ := findForkDescendantsTxn_spec db hroot
    obtain ⟨turns, hturns⟩ := exists_collectStep_iterate
      (length_childrenOf_add_openEdges_le (ForkWalk.final db workflowIds).children root)
    rw [lookup_findForkDescendantsTxn db hroot] at hlookup
    refine ⟨turns, descendants, ?_, ?_, hnodup, hmem⟩
    · rw [hturns, Option.some.inj hlookup]
    · rw [lookup_findForkDescendantsTxn db hroot, hlookup]

end DBOSModel.SysDb
