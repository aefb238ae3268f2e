import DBOSModel.Relational.Table
import Mathlib.Logic.Relation

/-!
# Search by levels

A search visits a frontier, reads the successors of the whole frontier at once, and takes those not
seen before as the next frontier, until none are left. Visiting changes the state, but not the graph
that is searched. The graph may have cycles. Whether the first frontier counts as seen is up to the
caller.

Each level but the last sees a new node, so the search ends; it has then seen everything reachable
from the first frontier. Facts about the visits follow from `run_invariant`.
-/

namespace DBOSModel.Relational

/-- A search over the graph of a state: what a level does to the state, and the successors of a
frontier. -/
structure Search (σ α : Type) where
  visit : ℕ → List α → σ → σ
  next : List α → σ → List α
  edge : σ → α → α → Prop
  nodes : σ → List α
  mem_next : ∀ {frontier s b}, b ∈ next frontier s ↔ ∃ a ∈ frontier, edge s a b
  mem_nodes : ∀ {s a b}, edge s a b → b ∈ nodes s
  edge_visit : ∀ level frontier s, edge (visit level frontier s) = edge s
  nodes_visit : ∀ level frontier s, nodes (visit level frontier s) = nodes s

namespace Search

variable {σ α : Type} [DecidableEq α] (search : Search σ α)

/-- The next frontier. -/
def fresh (visited frontier : List α) (s : σ) : List α :=
  (search.next frontier s).filter fun a ↦ a ∉ visited

/-- The nodes not seen yet. -/
def unseen (visited : List α) (s : σ) : ℕ := (search.nodes s).countP fun a ↦ a ∉ visited

variable {search} {level : ℕ} {visited frontier : List α} {s : σ} {a b : α}

theorem mem_fresh : b ∈ search.fresh visited frontier s ↔
    (∃ a ∈ frontier, search.edge s a b) ∧ b ∉ visited := by
  rw [fresh, List.mem_filter, search.mem_next, decide_eq_true_eq]

/-- A next frontier that is not empty lowers the number of unseen nodes. -/
theorem unseen_append_lt (h : a ∈ search.fresh visited frontier s) :
    search.unseen (visited ++ search.fresh visited frontier s) s < search.unseen visited s := by
  obtain ⟨⟨parent, hparent, hedge⟩, hnew⟩ := mem_fresh.mp h
  refine countP_lt_of_imp ?_ (search.mem_nodes hedge) (by simpa using hnew) (by simp [h])
  intro node _ hnode
  simp only [decide_eq_true_eq, List.mem_append, not_or] at hnode ⊢
  exact hnode.1

theorem unseen_visit : search.unseen visited (search.visit level frontier s) =
    search.unseen visited s := by
  rw [unseen, search.nodes_visit, unseen]

variable (search)

/-- The loop over the levels: everything seen, and the state after the last visit. -/
def run (level : ℕ) (visited frontier : List α) (s : σ) : List α × σ :=
  match frontier with
  | [] => (visited, s)
  | first :: rest =>
    let s' := search.visit level (first :: rest) s
    let next := search.fresh visited (first :: rest) s'
    run (level + 1) (visited ++ next) next s'
termination_by (search.unseen visited s, frontier.length)
decreasing_by
  cases hnext : search.fresh visited (first :: rest) (search.visit level (first :: rest) s) with
  | nil =>
    rw [List.append_nil, unseen_visit]
    exact Prod.Lex.right _ (Nat.zero_lt_succ _)
  | cons head tail =>
    have hmem : head ∈ search.fresh visited (first :: rest)
        (search.visit level (first :: rest) s) := by
      rw [hnext]
      exact List.mem_cons_self
    rw [← hnext]
    exact Prod.Lex.left _ _ ((unseen_append_lt hmem).trans_eq unseen_visit)

/-- What each level keeps holds at the end, with an empty frontier. -/
theorem run_invariant (motive : List α → List α → σ → Prop)
    (hlevel : ∀ level visited frontier s, motive visited frontier s →
      let s' := search.visit level frontier s
      motive (visited ++ search.fresh visited frontier s') (search.fresh visited frontier s') s')
    (level : ℕ) (hinit : motive visited frontier s) :
    motive (search.run level visited frontier s).1 [] (search.run level visited frontier s).2 := by
  fun_induction run search level visited frontier s with
  | case1 level visited s => exact hinit
  | case2 level visited s first rest s' next ih => exact ih (hlevel level _ _ _ hinit)

/-- What holds between two levels, when everything already seen is on the first frontier or has its
successors seen. -/
structure Searching (search : Search σ α) (visited₀ frontier₀ : List α) (edge : α → α → Prop)
    (visited frontier : List α) (s : σ) : Prop where
  edges : search.edge s = edge
  seen : ∀ a ∈ visited₀, a ∈ visited
  reached : ∀ b ∈ visited, b ∈ visited₀ ∨ ∃ a ∈ frontier₀, Relation.TransGen edge a b
  onFrontier : ∀ b ∈ frontier, b ∈ frontier₀ ∨ ∃ a ∈ frontier₀, Relation.TransGen edge a b
  closed : ∀ a, a ∈ visited ∨ a ∈ frontier₀ → a ∈ frontier ∨ ∀ b, edge a b → b ∈ visited

theorem searching_level {visited₀ frontier₀ : List α} {edge : α → α → Prop} (level : ℕ)
    (h : Searching search visited₀ frontier₀ edge visited frontier s) :
    Searching search visited₀ frontier₀ edge
      (visited ++ search.fresh visited frontier (search.visit level frontier s))
      (search.fresh visited frontier (search.visit level frontier s))
      (search.visit level frontier s) := by
  have hedges : search.edge (search.visit level frontier s) = edge :=
    (search.edge_visit level frontier s).trans h.edges
  have hfresh {b : α} : b ∈ search.fresh visited frontier (search.visit level frontier s) ↔
      (∃ a ∈ frontier, edge a b) ∧ b ∉ visited := by
    rw [mem_fresh, hedges]
  have hreached : ∀ b ∈ search.fresh visited frontier (search.visit level frontier s),
      ∃ a ∈ frontier₀, Relation.TransGen edge a b := by
    intro b hb
    obtain ⟨⟨a, ha, hab⟩, -⟩ := hfresh.mp hb
    rcases h.onFrontier a ha with hfirst | ⟨first, hfirst, hpath⟩
    · exact ⟨a, hfirst, .single hab⟩
    · exact ⟨first, hfirst, hpath.tail hab⟩
  refine ⟨hedges, ?_, ?_, fun b hb ↦ Or.inr (hreached b hb), ?_⟩
  · intro a ha
    exact List.mem_append_left _ (h.seen a ha)
  · intro b hb
    rcases List.mem_append.mp hb with hold | hnew
    · exact h.reached b hold
    · exact Or.inr (hreached b hnew)
  · intro a ha
    by_cases hnew : a ∈ search.fresh visited frontier (search.visit level frontier s)
    · exact Or.inl hnew
    · right
      have hold : a ∈ visited ∨ a ∈ frontier₀ := by
        rcases ha with hseen | hfirst
        · exact Or.inl ((List.mem_append.mp hseen).resolve_right hnew)
        · exact Or.inr hfirst
      intro b hab
      rw [List.mem_append]
      rcases h.closed a hold with hfrontier | hsuccessors
      · -- the level has read the successors of its whole frontier
        by_cases hb : b ∈ visited
        · exact Or.inl hb
        · exact Or.inr (hfresh.mpr ⟨⟨a, hfrontier, hab⟩, hb⟩)
      · exact Or.inl (hsuccessors b hab)

/-- The search has seen what it knew before and everything reachable from its first frontier. -/
theorem mem_run (hclosed : ∀ a ∈ visited, a ∈ frontier ∨ ∀ b, search.edge s a b → b ∈ visited) :
    b ∈ (search.run level visited frontier s).1 ↔
      b ∈ visited ∨ ∃ a ∈ frontier, Relation.TransGen (search.edge s) a b := by
  have hinit : Searching search visited frontier (search.edge s) visited frontier s := by
    refine ⟨rfl, fun _ h ↦ h, fun _ h ↦ Or.inl h, fun _ h ↦ Or.inl h, ?_⟩
    intro a ha
    rcases ha with hseen | hfirst
    · exact hclosed a hseen
    · exact Or.inl hfirst
  have hend := search.run_invariant (Searching search visited frontier (search.edge s))
    (fun level _ _ _ h ↦ search.searching_level level h) level hinit
  have hsuccessors : ∀ a, a ∈ (search.run level visited frontier s).1 ∨ a ∈ frontier →
      ∀ b, search.edge s a b → b ∈ (search.run level visited frontier s).1 :=
    fun a ha ↦ (hend.closed a ha).resolve_left List.not_mem_nil
  constructor
  · exact hend.reached b
  · rintro (hseen | ⟨a, ha, hpath⟩)
    · exact hend.seen b hseen
    · induction hpath with
      | single hab => exact hsuccessors a (Or.inr ha) _ hab
      | tail _ hbc ih => exact hsuccessors _ (Or.inl ih) _ hbc

end Search

end DBOSModel.Relational
