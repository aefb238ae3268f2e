import DBOSModel.Relational.Dict
import DBOSModel.Relational.Execution
import Mathlib.Data.Rat.Defs

/-!
# The durability watch

`run_ladder` observes every effect of a manifest again at each rung of a delay ladder and goes RED
if one is missing or mutated at the last rung. The manifest on disk names the rungs that are done,
so that a process started after a kill continues with the next one. What the rungs showed is only
in a local variable.

`runLadder` is the loop without interruption, and `watchSystem` is the same loop one observation
at a time, with kills and restarts between them. A restarted process gives the same verdict,
because the last rung decides alone, unless no rung is left for it: a kill after the last rung is
written to disk and before the verdict turns a loss into GREEN.
-/

namespace DBOSModel.Workers

open Relational

/-! ## The manifest -/

structure Effect (Query : Type) where
  eid : String
  query : Query
  phash : String
  ackedAt : ℚ
deriving DecidableEq

/-- The watch of one case, as it is kept on disk. -/
structure WatchState (Query : Type) where
  effects : List (Effect Query) := []
  ladder : List ℚ
  t0 : Option ℚ := none
  doneRungs : List ℕ := []
  flaps : Dict String ℕ := .empty
  voidFloor : ℤ

variable {Query Payload : Type}

/-- `Manifest.start`. -/
def WatchState.start (ladder : List ℚ) (voidFloor : ℤ) : WatchState Query where
  ladder := ladder
  voidFloor := voidFloor

/-- `Manifest.record`: an effect replaces the earlier ones of its id. -/
def WatchState.record (st : WatchState Query) (eff : Effect Query) : WatchState Query :=
  { st with effects := (st.effects.filter fun e ↦ e.eid ≠ eff.eid) ++ [eff] }

/-- `Manifest.resume_or_start`. The file is replaced atomically, so it is never half written. -/
def WatchState.resumeOrStart (file : Option (WatchState Query)) (ladder : List ℚ)
    (voidFloor : ℤ) : WatchState Query :=
  file.getD (start ladder voidFloor)

/-- A kept `t0` is the clock of the first process. -/
def WatchState.pin (now : ℚ) (st : WatchState Query) : WatchState Query :=
  { st with t0 := st.t0.or (some now) }

/-- Too few effects for the watch to mean anything. -/
def WatchState.BelowFloor (st : WatchState Query) : Prop := (st.effects.length : ℤ) < st.voidFloor

instance (st : WatchState Query) : Decidable st.BelowFloor :=
  inferInstanceAs (Decidable ((st.effects.length : ℤ) < st.voidFloor))

/-! ## Observations -/

/-- What `run_ladder` is given: the hash of payloads, the result of `observe` at each rung for the
effect at each position of the manifest, and the self-test. -/
structure Watch (Payload : Type) where
  payloadHash : Payload → String
  observe : ℕ → ℕ → Option Payload
  selftestVictim : Option String := none
  selftestActive : Bool := false

/-- The reason recorded for an effect. `good` is the empty string. -/
inductive Reason where
  | good
  | missing
  | mutated
deriving DecidableEq

inductive Verdict where
  | void (effects : ℕ) (floor : ℤ)
  | red (lost : List (String × Reason))
  | green (flaps : Dict String ℕ)

/-- The word after `VERDICT`. -/
inductive VerdictKind where
  | void
  | red
  | green
deriving DecidableEq

def Verdict.kind : Verdict → VerdictKind
  | .void _ _ => .void
  | .red _ => .red
  | .green _ => .green

namespace Watch

variable (watch : Watch Payload)

/-- The effect that the self-test erases. -/
def victim (effects : List (Effect Query)) : Option String :=
  match watch.selftestVictim with
  | some eid => some eid
  | none => if watch.selftestActive then effects.head?.map Effect.eid else none

/-- What the observation of an effect, given with its position, says at a rung. -/
def reason (victim : Option String) (idx : ℕ) (entry : Effect Query × ℕ) : Reason :=
  match (if victim = some entry.1.eid then none else watch.observe idx entry.2) with
  | none => .missing
  | some payload => if watch.payloadHash payload = entry.1.phash then .good else .mutated

end Watch

/-! ## The ladder without interruption -/

/-- The variables of `run_ladder`: the state in memory and the last reason of each effect. -/
structure LadderLocals (Query : Type) where
  st : WatchState Query
  lastBad : Dict String Reason := .empty

/-- The effects that were bad when last checked. -/
def lost (lastBad : Dict String Reason) : List (String × Reason) :=
  lastBad.rows.filter fun entry ↦ entry.2 ≠ .good

namespace LadderLocals

def finishRung (idx : ℕ) (locals : LadderLocals Query) : LadderLocals Query :=
  { locals with st := { locals.st with doneRungs := locals.st.doneRungs ++ [idx] } }

def verdict (locals : LadderLocals Query) : Verdict :=
  if lost locals.lastBad = [] then .green locals.st.flaps else .red (lost locals.lastBad)

end LadderLocals

namespace Watch

variable (watch : Watch Payload)

/-- The body of the loop over the effects. An effect that was bad and is good again flapped. -/
def checkEffect (idx : ℕ) (locals : LadderLocals Query) (entry : Effect Query × ℕ) :
    LadderLocals Query :=
  let reason := watch.reason (watch.victim locals.st.effects) idx entry
  let prev := (locals.lastBad.get entry.1.eid).getD .good
  let flapped := (locals.st.flaps.get entry.1.eid).getD 0 + 1
  { st :=
      if reason = .good ∧ prev ≠ .good then
        { locals.st with flaps := locals.st.flaps.set entry.1.eid flapped }
      else locals.st
    lastBad := locals.lastBad.set entry.1.eid reason }

/-- The body of the loop over the rungs. -/
def runRung (locals : LadderLocals Query) (idx : ℕ) : LadderLocals Query :=
  if idx ∈ locals.st.doneRungs then locals
  else (locals.st.effects.zipIdx.foldl (watch.checkEffect idx) locals).finishRung idx

/-- `run_ladder`. -/
def runLadder (now : ℚ) (st : WatchState Query) : Verdict :=
  if st.BelowFloor then .void st.effects.length st.voidFloor
  else ((List.range st.ladder.length).foldl watch.runRung { st := st.pin now }).verdict

end Watch

/-! ## Kills and restarts -/

/-- Where a process is in `run_ladder`: before the clock is pinned, at the head of the loop over the
rungs, or among the effects of a rung. -/
inductive LadderPhase (Query : Type) where
  | entering
  | rung (idx : ℕ)
  | checking (idx : ℕ) (rest : List (Effect Query × ℕ))
  | ended (verdict : Verdict)

structure LadderProcess (Query : Type) extends LadderLocals Query where
  phase : LadderPhase Query

/-- One step of `run_ladder`, and the manifest it writes to disk. -/
def LadderProcess.step (watch : Watch Payload) (now : ℚ) (p : LadderProcess Query) :
    Option (LadderProcess Query × Option (WatchState Query)) :=
  match p.phase with
  | .entering =>
    if p.st.BelowFloor then
      some ({ p with phase := .ended (.void p.st.effects.length p.st.voidFloor) }, none)
    else
      some ({ p with st := p.st.pin now, phase := .rung 0 },
        if p.st.t0.isNone then some (p.st.pin now) else none)
  | .rung idx =>
    if idx < p.st.ladder.length then
      if idx ∈ p.st.doneRungs then some ({ p with phase := .rung (idx + 1) }, none)
      else some ({ p with phase := .checking idx p.st.effects.zipIdx }, none)
    else some ({ p with phase := .ended p.verdict }, none)
  | .checking idx (entry :: rest) =>
    some ({ watch.checkEffect idx p.toLadderLocals entry with phase := .checking idx rest }, none)
  | .checking idx [] =>
    some ({ p.finishRung idx with phase := .rung (idx + 1) }, some (p.finishRung idx).st)
  | .ended _ => none

/-- The manifest on disk and the process that runs. -/
structure WatchRun (Query : Type) where
  file : Option (WatchState Query)
  process : Option (LadderProcess Query) := none

inductive WatchAction where
  /-- A process starts, with its own arguments for a watch that is not on disk yet. -/
  | launch (ladder : List ℚ) (voidFloor : ℤ)
  | step (now : ℚ)
  | kill
deriving DecidableEq

/-- The verdict of a process that has come to its end. -/
def LadderProcess.given (p : LadderProcess Query) : Option Verdict :=
  match p.phase with
  | .ended verdict => some verdict
  | _ => none

def WatchRun.given (s : WatchRun Query) : Option Verdict :=
  s.process.bind LadderProcess.given

/-- One case: processes run one after the other, until one of them gives a verdict. -/
def watchSystem (watch : Watch Payload) : System (WatchRun Query) WatchAction where
  step s
    | .launch ladder voidFloor =>
      match s.process with
      | some _ => none
      | none =>
        let st := WatchState.resumeOrStart s.file ladder voidFloor
        some { file := some st, process := some { st := st, phase := .entering } }
    | .step now =>
      s.process.bind fun p ↦ (p.step watch now).map fun next ↦
        { file := next.2.or s.file, process := some next.1 }
    | .kill =>
      match s.process.bind LadderProcess.given, s.process with
      | none, some _ => some { s with process := none }
      | _, _ => none

/-! ## What each rung shows -/

namespace Watch

variable (watch : Watch Payload) (effects : List (Effect Query))

/-- The reasons that a rung records, effect by effect. -/
def rungEntries (idx : ℕ) (entries : List (Effect Query × ℕ)) : List (String × Reason) :=
  entries.map fun entry ↦ (entry.1.eid, watch.reason (watch.victim effects) idx entry)

/-- The last reasons after the first `k` rungs: those of the last of them. -/
def lastReasons : ℕ → Dict String Reason
  | 0 => .empty
  | idx + 1 => Dict.setAll .empty (watch.rungEntries effects idx effects.zipIdx)

/-- Nothing remains of an earlier rung, because every rung checks every effect. -/
theorem lastReasons_setAll (k idx : ℕ) :
    (watch.lastReasons effects k).setAll (watch.rungEntries effects idx effects.zipIdx) =
      watch.lastReasons effects (idx + 1) := by
  cases k with
  | zero => rfl
  | succ k =>
    apply Dict.setAll_setAll
    simp only [rungEntries, List.map_map, Function.comp_def]

end Watch

/-- The state of a watch of these effects after its first `k` rungs. -/
structure Armed (effects : List (Effect Query)) (ladder : List ℚ) (voidFloor : ℤ) (k : ℕ)
    (st : WatchState Query) : Prop where
  effects : st.effects = effects
  ladder : st.ladder = ladder
  voidFloor : st.voidFloor = voidFloor
  doneRungs : st.doneRungs = List.range k

/-- A manifest with these effects, before its first rung. -/
def armed (effects : List (Effect Query)) (ladder : List ℚ) (voidFloor : ℤ) : WatchState Query :=
  { (WatchState.start ladder voidFloor : WatchState Query) with effects := effects }

section Ladder

variable {watch : Watch Payload} {effects : List (Effect Query)} {ladder : List ℚ}
  {voidFloor : ℤ} {k : ℕ}

theorem armed_armed : Armed effects ladder voidFloor 0 (armed effects ladder voidFloor) :=
  ⟨rfl, rfl, rfl, rfl⟩

namespace Armed

variable {st : WatchState Query} {locals : LadderLocals Query}

theorem pin (h : Armed effects ladder voidFloor k st) (now : ℚ) :
    Armed effects ladder voidFloor k (st.pin now) :=
  ⟨h.effects, h.ladder, h.voidFloor, h.doneRungs⟩

theorem belowFloor_iff (h : Armed effects ladder voidFloor k st) :
    st.BelowFloor ↔ (effects.length : ℤ) < voidFloor := by
  rw [WatchState.BelowFloor, h.effects, h.voidFloor]

theorem mem_doneRungs (h : Armed effects ladder voidFloor k st) {idx : ℕ} :
    idx ∈ st.doneRungs ↔ idx < k := by
  rw [h.doneRungs, List.mem_range]

theorem checkEffect (watch : Watch Payload) (h : Armed effects ladder voidFloor k locals.st)
    (idx : ℕ) (entry : Effect Query × ℕ) :
    Armed effects ladder voidFloor k (watch.checkEffect idx locals entry).st := by
  unfold Watch.checkEffect
  dsimp only
  split
  · exact ⟨h.effects, h.ladder, h.voidFloor, h.doneRungs⟩
  · exact h

theorem finishRung (h : Armed effects ladder voidFloor k locals.st) :
    Armed effects ladder voidFloor (k + 1) (locals.finishRung k).st := by
  refine ⟨h.effects, h.ladder, h.voidFloor, ?_⟩
  rw [LadderLocals.finishRung, h.doneRungs, List.range_succ]

theorem lastBad_checkEffect (h : Armed effects ladder voidFloor k locals.st) (idx : ℕ)
    (entry : Effect Query × ℕ) :
    (watch.checkEffect idx locals entry).lastBad =
      locals.lastBad.set entry.1.eid (watch.reason (watch.victim effects) idx entry) := by
  rw [Watch.checkEffect, h.effects]

/-- The loop over effects records the reasons of the rung and changes nothing else but flaps. -/
theorem foldl_checkEffect (watch : Watch Payload)
    (h : Armed effects ladder voidFloor k locals.st) (idx : ℕ) (entries : List (Effect Query × ℕ)) :
    Armed effects ladder voidFloor k (entries.foldl (watch.checkEffect idx) locals).st ∧
      (entries.foldl (watch.checkEffect idx) locals).lastBad =
        locals.lastBad.setAll (watch.rungEntries effects idx entries) := by
  induction entries generalizing locals with
  | nil => exact ⟨h, rfl⟩
  | cons entry rest ih =>
    obtain ⟨harmed, hlast⟩ := ih (h.checkEffect watch idx entry)
    refine ⟨harmed, ?_⟩
    rw [List.foldl_cons, hlast, h.lastBad_checkEffect]
    rfl

end Armed

/-- A rung that is not done yet leaves the reasons it shows. -/
theorem runRung_armed {locals : LadderLocals Query}
    (h : Armed effects ladder voidFloor k locals.st)
    (hlast : locals.lastBad = watch.lastReasons effects k) :
    Armed effects ladder voidFloor (k + 1) (watch.runRung locals k).st ∧
      (watch.runRung locals k).lastBad = watch.lastReasons effects (k + 1) := by
  have hnew : k ∉ locals.st.doneRungs := by
    rw [h.mem_doneRungs]
    exact lt_irrefl k
  obtain ⟨harmed, hentries⟩ := h.foldl_checkEffect watch k effects.zipIdx
  rw [Watch.runRung, if_neg hnew, h.effects]
  refine ⟨harmed.finishRung, ?_⟩
  rw [LadderLocals.finishRung, hentries, hlast, watch.lastReasons_setAll]

/-- The uninterrupted loop over the first `k` rungs. -/
theorem foldl_runRung (now : ℚ) :
    Armed effects ladder voidFloor k ((List.range k).foldl watch.runRung
        { st := (armed effects ladder voidFloor).pin now }).st ∧
      ((List.range k).foldl watch.runRung
        { st := (armed effects ladder voidFloor).pin now }).lastBad =
          watch.lastReasons effects k := by
  induction k with
  | zero => exact ⟨armed_armed.pin now, rfl⟩
  | succ k ih =>
    rw [List.range_succ, List.foldl_append, List.foldl_cons, List.foldl_nil]
    exact runRung_armed ih.1 ih.2

theorem verdict_kind (locals : LadderLocals Query) :
    locals.verdict.kind = if lost locals.lastBad = [] then .green else .red := by
  unfold LadderLocals.verdict
  split
  · rfl
  · rfl

/-- Without interruption, the last rung decides. -/
theorem runLadder_kind (now : ℚ) :
    (watch.runLadder now (armed effects ladder voidFloor)).kind =
      if (effects.length : ℤ) < voidFloor then .void
      else if lost (watch.lastReasons effects ladder.length) = [] then .green else .red := by
  unfold Watch.runLadder
  by_cases hbelow : (effects.length : ℤ) < voidFloor
  · rw [if_pos hbelow, if_pos (armed_armed.belowFloor_iff.mpr hbelow)]
    rfl
  · rw [if_neg hbelow, if_neg (armed_armed.belowFloor_iff.not.mpr hbelow), verdict_kind,
      armed_armed.ladder, (foldl_runRung now).2]

/-! ## The invariant of kills and restarts -/

/-- What a process knows when the first `k` rungs are done on disk: what the last of them showed,
if it ran that rung itself, and otherwise nothing. -/
def LadderProcess.Consistent (watch : Watch Payload) (effects : List (Effect Query))
    (ladder : List ℚ) (voidFloor : ℤ) (k : ℕ) (p : LadderProcess Query) : Prop :=
  match p.phase with
  | .entering => p.lastBad = .empty
  | .rung idx => voidFloor ≤ effects.length ∧
      (idx ≤ k ∧ p.lastBad = .empty ∨ idx = k ∧ p.lastBad = watch.lastReasons effects k)
  | .checking idx rest => voidFloor ≤ effects.length ∧ idx = k ∧ k < ladder.length ∧
      p.lastBad.setAll (watch.rungEntries effects k rest) = watch.lastReasons effects (k + 1)
  | .ended verdict =>
      (effects.length : ℤ) < voidFloor ∧ verdict.kind = .void ∨
      voidFloor ≤ effects.length ∧ k = ladder.length ∧ verdict = p.verdict ∧
        (p.lastBad = .empty ∨ p.lastBad = watch.lastReasons effects k)

/-- The manifest on disk is the one in memory, and no rung is done without enough effects. -/
structure WatchRun.Consistent (watch : Watch Payload) (effects : List (Effect Query))
    (ladder : List ℚ) (voidFloor : ℤ) (k : ℕ) (s : WatchRun Query) : Prop where
  le : k ≤ ladder.length
  floor : (effects.length : ℤ) < voidFloor → k = 0
  file : ∃ st, s.file = some st ∧ Armed effects ladder voidFloor k st
  process : ∀ p, s.process = some p →
    Armed effects ladder voidFloor k p.st ∧ p.Consistent watch effects ladder voidFloor k

/-- Every rung is done on disk, and an effect was lost at the last one. -/
def LostAtEnd (watch : Watch Payload) (st : WatchState Query) : Prop :=
  (∀ idx < st.ladder.length, idx ∈ st.doneRungs) ∧
    lost (watch.lastReasons st.effects st.ladder.length) ≠ []

/-- No kill falls between the write of the last rung and the verdict while an effect is lost. -/
def KeepsLosses (watch : Watch Payload) (s : WatchRun Query) : WatchAction → Prop
  | .kill => ∀ st, s.file = some st → ¬ LostAtEnd watch st
  | _ => True

/-- The process that runs has itself seen a loss at the last rung. -/
def Sees (watch : Watch Payload) (s : WatchRun Query) : Prop :=
  ∀ st, s.file = some st → LostAtEnd watch st →
    ∃ p, s.process = some p ∧ p.lastBad = watch.lastReasons st.effects st.ladder.length

/-- A loss at the last rung is on no process's record. -/
def Blind (watch : Watch Payload) (s : WatchRun Query) : Prop :=
  ∃ st, s.file = some st ∧ LostAtEnd watch st ∧ ∀ p, s.process = some p → p.lastBad = .empty

theorem Armed.lostAtEnd_iff {st : WatchState Query} (h : Armed effects ladder voidFloor k st) :
    LostAtEnd watch st ↔
      ladder.length ≤ k ∧ lost (watch.lastReasons effects ladder.length) ≠ [] := by
  have hdone : (∀ idx < st.ladder.length, idx ∈ st.doneRungs) ↔ ladder.length ≤ k := by
    simp only [h.mem_doneRungs, h.ladder]
    constructor
    · intro hall
      by_contra hlt
      exact lt_irrefl k (hall k (not_le.mp hlt))
    · exact fun hle idx hidx ↦ hidx.trans_le hle
  rw [LostAtEnd, hdone, h.effects, h.ladder]

/-- A step of a process writes a rung that it has seen itself, or leaves the count of done rungs
alone. Its record of the last rung changes only while rungs are left. -/
theorem LadderProcess.step_cases {p p' : LadderProcess Query} {now : ℚ}
    {written : Option (WatchState Query)} (harmed : Armed effects ladder voidFloor k p.st)
    (hp : p.Consistent watch effects ladder voidFloor k) (hk : k ≤ ladder.length)
    (hstep : p.step watch now = some (p', written)) :
    (Armed effects ladder voidFloor k p'.st ∧
      p'.Consistent watch effects ladder voidFloor k ∧
      (∀ st, written = some st → Armed effects ladder voidFloor k st) ∧
      (p'.lastBad = p.lastBad ∨ k < ladder.length)) ∨
    (Armed effects ladder voidFloor (k + 1) p'.st ∧
      p'.Consistent watch effects ladder voidFloor (k + 1) ∧ written = some p'.st ∧
      k < ladder.length ∧ voidFloor ≤ effects.length ∧
      p'.lastBad = watch.lastReasons effects (k + 1)) := by
  unfold LadderProcess.step at hstep
  unfold LadderProcess.Consistent at hp
  cases hphase : p.phase with
  | entering =>
    rw [hphase] at hstep hp
    left
    by_cases hbelow : p.st.BelowFloor
    · simp only [if_pos hbelow, Option.some.injEq, Prod.mk.injEq] at hstep
      obtain ⟨rfl, rfl⟩ := hstep
      exact ⟨harmed, Or.inl ⟨harmed.belowFloor_iff.mp hbelow, rfl⟩, nofun, Or.inl rfl⟩
    · simp only [if_neg hbelow, Option.some.injEq, Prod.mk.injEq] at hstep
      obtain ⟨rfl, rfl⟩ := hstep
      have hfloor : voidFloor ≤ effects.length := not_lt.mp (harmed.belowFloor_iff.not.mp hbelow)
      refine ⟨harmed.pin now, ⟨hfloor, Or.inl ⟨Nat.zero_le k, hp⟩⟩, ?_, Or.inl rfl⟩
      intro st hst
      split at hst
      · cases hst
        exact harmed.pin now
      · cases hst
  | rung idx =>
    rw [hphase] at hstep hp
    obtain ⟨hfloor, hseen⟩ := hp
    have hle : idx ≤ k := by
      rcases hseen with ⟨hle, -⟩ | ⟨rfl, -⟩
      · exact hle
      · exact le_rfl
    left
    simp only [harmed.ladder, harmed.mem_doneRungs] at hstep
    split at hstep
    · rename_i hrung
      split at hstep
      · rename_i hdone
        cases hstep
        refine ⟨harmed, ⟨hfloor, ?_⟩, nofun, Or.inl rfl⟩
        rcases hseen with ⟨-, hempty⟩ | ⟨rfl, -⟩
        · exact Or.inl ⟨hdone, hempty⟩
        · exact absurd hdone (lt_irrefl idx)
      · rename_i hnew
        cases hstep
        have hidx : idx = k := le_antisymm hle (not_lt.mp hnew)
        subst hidx
        refine ⟨harmed, ⟨hfloor, rfl, hrung, ?_⟩, nofun, Or.inl rfl⟩
        rw [harmed.effects]
        rcases hseen with ⟨-, hempty⟩ | ⟨-, hlast⟩
        · exact (congrArg (Dict.setAll · _) hempty).trans (watch.lastReasons_setAll effects 0 idx)
        · exact (congrArg (Dict.setAll · _) hlast).trans (watch.lastReasons_setAll effects idx idx)
    · rename_i hend
      cases hstep
      refine ⟨harmed, Or.inr ⟨hfloor, ?_, rfl, ?_⟩, nofun, Or.inl rfl⟩
      · exact le_antisymm hk ((not_lt.mp hend).trans hle)
      · exact hseen.imp And.right And.right
  | checking idx rest =>
    rw [hphase] at hstep hp
    obtain ⟨hfloor, rfl, hrung, hrest⟩ := hp
    cases rest with
    | cons entry rest =>
      left
      cases hstep
      refine ⟨harmed.checkEffect watch idx entry, ⟨hfloor, rfl, hrung, ?_⟩, nofun, Or.inr hrung⟩
      rw [← hrest]
      exact congrArg (Dict.setAll · _) (harmed.lastBad_checkEffect idx entry)
    | nil =>
      right
      cases hstep
      exact ⟨harmed.finishRung, ⟨hfloor, Or.inr ⟨rfl, hrest⟩⟩, rfl, hrung, hfloor, hrest⟩
  | ended verdict =>
    rw [hphase] at hstep
    cases hstep

/-- A process starts with the manifest on disk, takes a step, or is killed. -/
theorem watchSystem_step_cases {s s' : WatchRun Query} {action : WatchAction}
    (hstep : (watchSystem watch).step s action = some s') :
    (∃ ladder voidFloor, action = .launch ladder voidFloor ∧ s.process = none ∧
      s' = { file := some (WatchState.resumeOrStart s.file ladder voidFloor)
             process := some
               { st := WatchState.resumeOrStart s.file ladder voidFloor, phase := .entering } }) ∨
    (∃ now p p' written, action = .step now ∧ s.process = some p ∧
      p.step watch now = some (p', written) ∧
      s' = { file := written.or s.file, process := some p' }) ∨
    (action = .kill ∧ s' = { s with process := none }) := by
  cases action with
  | launch ladder voidFloor =>
    left
    cases hprocess : s.process with
    | some p => simp [watchSystem, hprocess] at hstep
    | none =>
      simp only [watchSystem, hprocess, Option.some.injEq] at hstep
      exact ⟨ladder, voidFloor, rfl, rfl, hstep.symm⟩
  | step now =>
    right
    left
    obtain ⟨p, hp, hnext⟩ := Option.bind_eq_some_iff.mp hstep
    obtain ⟨next, hnext, hs'⟩ := Option.map_eq_some_iff.mp hnext
    exact ⟨now, p, next.1, next.2, rfl, hp, hnext, hs'.symm⟩
  | kill =>
    right
    right
    simp only [watchSystem] at hstep
    split at hstep
    · exact ⟨rfl, (Option.some.inj hstep).symm⟩
    · cases hstep

variable {s s' : WatchRun Query} {action : WatchAction}

theorem consistent_initial :
    WatchRun.Consistent watch effects ladder voidFloor 0
      { file := some (armed effects ladder voidFloor) } where
  le := Nat.zero_le _
  floor _ := rfl
  file := ⟨_, rfl, armed_armed⟩
  process := nofun

theorem consistent_step (hs : s.Consistent watch effects ladder voidFloor k)
    (hstep : (watchSystem watch).step s action = some s') :
    ∃ k', s'.Consistent watch effects ladder voidFloor k' := by
  obtain ⟨st, hfile, harmed⟩ := hs.file
  rcases watchSystem_step_cases hstep with ⟨_, _, -, -, rfl⟩ |
    ⟨now, p, p', written, -, hprocess, hnext, rfl⟩ | ⟨-, rfl⟩
  · refine ⟨k, hs.le, hs.floor, ?_, ?_⟩
    · rw [hfile]
      exact ⟨st, rfl, harmed⟩
    · intro p hp
      cases hp
      rw [hfile]
      exact ⟨harmed, rfl⟩
  · obtain ⟨hp, hconsistent⟩ := hs.process p hprocess
    rcases LadderProcess.step_cases hp hconsistent hs.le hnext with
      ⟨hp', hconsistent', hwritten, -⟩ | ⟨hp', hconsistent', rfl, hrung, hfloor, -⟩
    · refine ⟨k, hs.le, hs.floor, ?_, ?_⟩
      · cases written with
        | none => exact ⟨st, hfile, harmed⟩
        | some st' => exact ⟨st', rfl, hwritten st' rfl⟩
      · intro q hq
        cases hq
        exact ⟨hp', hconsistent'⟩
    · refine ⟨k + 1, hrung, fun hbelow ↦ absurd hfloor (not_le.mpr hbelow), ⟨p'.st, rfl, hp'⟩, ?_⟩
      intro q hq
      cases hq
      exact ⟨hp', hconsistent'⟩
  · exact ⟨k, hs.le, hs.floor, ⟨st, hfile, harmed⟩, nofun⟩

theorem sees_step (hs : s.Consistent watch effects ladder voidFloor k) (hsees : Sees watch s)
    (hkeeps : KeepsLosses watch s action) (hstep : (watchSystem watch).step s action = some s') :
    Sees watch s' := by
  obtain ⟨st, hfile, harmed⟩ := hs.file
  rcases watchSystem_step_cases hstep with ⟨_, _, -, hnone, rfl⟩ |
    ⟨now, p, p', written, -, hprocess, hnext, rfl⟩ | ⟨rfl, rfl⟩
  · intro st' hst' hlost
    rw [hfile] at hst'
    cases hst'
    obtain ⟨p, hp, -⟩ := hsees st hfile hlost
    rw [hnone] at hp
    cases hp
  · intro st' hst' hlost
    obtain ⟨hp, hconsistent⟩ := hs.process p hprocess
    rcases LadderProcess.step_cases hp hconsistent hs.le hnext with
      ⟨-, -, hwritten, hlast⟩ | ⟨hp', -, rfl, hrung, -, hlast⟩
    · have harmed' : Armed effects ladder voidFloor k st' := by
        cases written with
        | none =>
          rw [Option.none_or, hfile] at hst'
          cases hst'
          exact harmed
        | some st'' =>
          cases hst'
          exact hwritten _ rfl
      have hdone := harmed'.lostAtEnd_iff.mp hlost
      obtain ⟨q, hq, hqlast⟩ := hsees st hfile (harmed.lostAtEnd_iff.mpr hdone)
      rw [hprocess] at hq
      cases hq
      refine ⟨p', rfl, ?_⟩
      rw [harmed.effects, harmed.ladder] at hqlast
      rw [harmed'.effects, harmed'.ladder, ← hqlast]
      exact hlast.resolve_right (not_lt.mpr hdone.1)
    · cases hst'
      have hdone := (hp'.lostAtEnd_iff.mp hlost).1
      refine ⟨p', rfl, ?_⟩
      rw [hp'.effects, hp'.ladder, hlast, le_antisymm hdone hrung]
  · exact fun st' hst' hlost ↦ absurd hlost (hkeeps st' hst')

theorem blind_step (hs : s.Consistent watch effects ladder voidFloor k) (hblind : Blind watch s)
    (hstep : (watchSystem watch).step s action = some s') : Blind watch s' := by
  obtain ⟨st, hfile, hlost, hempty⟩ := hblind
  obtain ⟨st', hst', harmed⟩ := hs.file
  have hsame : st' = st := Option.some.inj (hst'.symm.trans hfile)
  subst hsame
  rcases watchSystem_step_cases hstep with ⟨_, _, -, -, rfl⟩ |
    ⟨now, p, p', written, -, hprocess, hnext, rfl⟩ | ⟨-, rfl⟩
  · rw [hfile]
    refine ⟨st', rfl, hlost, fun p hp ↦ ?_⟩
    cases hp
    rfl
  · have hdone := harmed.lostAtEnd_iff.mp hlost
    obtain ⟨hp, hconsistent⟩ := hs.process p hprocess
    rcases LadderProcess.step_cases hp hconsistent hs.le hnext with
      ⟨-, -, hwritten, hlast⟩ | ⟨-, -, -, hrung, -⟩
    · have hrecord : ∀ q, some p' = some q → q.lastBad = .empty := by
        intro q hq
        cases hq
        rw [hlast.resolve_right (not_lt.mpr hdone.1)]
        exact hempty p hprocess
      cases written with
      | none => exact ⟨st', hfile, hlost, hrecord⟩
      | some st'' =>
        exact ⟨st'', rfl, (hwritten st'' rfl).lostAtEnd_iff.mpr hdone, hrecord⟩
    · exact absurd hrung (not_lt.mpr hdone.1)
  · exact ⟨st', hfile, hlost, nofun⟩

/-- A kill that breaks the condition leaves a loss that no process will report. -/
theorem blind_of_not_keepsLosses (hkeeps : ¬ KeepsLosses watch s action)
    (hstep : (watchSystem watch).step s action = some s') : Blind watch s' := by
  cases action with
  | kill =>
    simp only [KeepsLosses, not_forall, not_not] at hkeeps
    obtain ⟨st, hfile, hlost⟩ := hkeeps
    rcases watchSystem_step_cases hstep with ⟨_, _, haction, -⟩ | ⟨_, _, _, _, haction, -⟩ |
      ⟨-, rfl⟩
    · cases haction
    · cases haction
    · exact ⟨st, hfile, hlost, nofun⟩
  | _ => exact absurd trivial hkeeps

/-! ## The loop in steps -/

/-- The verdict of a process that is left alone. -/
def LadderProcess.finish (watch : Watch Payload) (now : ℚ) (p : LadderProcess Query) : Verdict :=
  match p.phase with
  | .entering => watch.runLadder now p.st
  | .rung idx =>
    ((List.range' idx (p.st.ladder.length - idx)).foldl watch.runRung p.toLadderLocals).verdict
  | .checking idx rest =>
    ((List.range' (idx + 1) (p.st.ladder.length - (idx + 1))).foldl watch.runRung
      ((rest.foldl (watch.checkEffect idx) p.toLadderLocals).finishRung idx)).verdict
  | .ended verdict => verdict

/-- The steps that are left for a manifest of `total` effects. -/
def LadderProcess.rank (total : ℕ) (p : LadderProcess Query) : ℕ :=
  match p.phase with
  | .entering => p.st.ladder.length * (total + 2) + 2
  | .rung idx => (p.st.ladder.length - idx) * (total + 2) + 1
  | .checking idx rest => (p.st.ladder.length - (idx + 1)) * (total + 2) + rest.length + 2
  | .ended _ => 0

theorem LadderProcess.exists_step (watch : Watch Payload) {p : LadderProcess Query} (now : ℚ)
    (hgiven : p.given = none) :
    ∃ p' written, p.step watch now = some (p', written) := by
  unfold LadderProcess.step
  unfold LadderProcess.given at hgiven
  split
  · split
    · exact ⟨_, _, rfl⟩
    · exact ⟨_, _, rfl⟩
  · split
    · split
      · exact ⟨_, _, rfl⟩
      · exact ⟨_, _, rfl⟩
    · exact ⟨_, _, rfl⟩
  · exact ⟨_, _, rfl⟩
  · exact ⟨_, _, rfl⟩
  · rename_i hphase
    rw [hphase] at hgiven
    cases hgiven

theorem LadderProcess.finish_step {p p' : LadderProcess Query} {now : ℚ}
    {written : Option (WatchState Query)}
    (hp : p.Consistent watch effects ladder voidFloor k)
    (hstep : p.step watch now = some (p', written)) :
    p'.finish watch now = p.finish watch now := by
  unfold LadderProcess.step at hstep
  unfold LadderProcess.Consistent at hp
  rw [LadderProcess.finish.eq_def watch now p]
  cases hphase : p.phase with
  | entering =>
    rw [hphase] at hstep hp
    by_cases hbelow : p.st.BelowFloor
    · simp only [if_pos hbelow, Option.some.injEq, Prod.mk.injEq] at hstep
      rw [← hstep.1]
      simp only [LadderProcess.finish, Watch.runLadder, if_pos hbelow]
    · simp only [if_neg hbelow, Option.some.injEq, Prod.mk.injEq] at hstep
      rw [← hstep.1]
      simp only [LadderProcess.finish, Watch.runLadder, if_neg hbelow, hp, Nat.sub_zero,
        WatchState.pin, List.range_eq_range']
  | rung idx =>
    rw [hphase] at hstep
    simp only at hstep
    split at hstep
    · rename_i hrung
      have hrange : List.range' idx (p.st.ladder.length - idx) =
          idx :: List.range' (idx + 1) (p.st.ladder.length - (idx + 1)) := by
        rw [← List.range'_succ]
        congr 1
        omega
      dsimp only
      rw [hrange]
      split at hstep
      · rename_i hdone
        cases hstep
        simp only [LadderProcess.finish, List.foldl_cons, Watch.runRung, if_pos hdone]
      · rename_i hnew
        cases hstep
        simp only [LadderProcess.finish, List.foldl_cons, Watch.runRung, if_neg hnew]
    · rename_i hend
      cases hstep
      simp only [LadderProcess.finish, Nat.sub_eq_zero_of_le (not_lt.mp hend), List.range'_zero,
        List.foldl_nil]
  | checking idx rest =>
    rw [hphase] at hstep
    cases rest with
    | cons entry rest =>
      cases hstep
      have hladder : (watch.checkEffect idx p.toLadderLocals entry).st.ladder = p.st.ladder := by
        unfold Watch.checkEffect
        dsimp only
        split <;> rfl
      simp only [LadderProcess.finish, List.foldl_cons, hladder]
    | nil =>
      cases hstep
      rfl
  | ended verdict =>
    rw [hphase] at hstep
    cases hstep

theorem LadderProcess.rank_step {p p' : LadderProcess Query} {now : ℚ}
    {written : Option (WatchState Query)} (harmed : Armed effects ladder voidFloor k p.st)
    (hstep : p.step watch now = some (p', written)) :
    p'.rank effects.length < p.rank effects.length := by
  unfold LadderProcess.step at hstep
  rw [LadderProcess.rank.eq_def effects.length p]
  cases hphase : p.phase with
  | entering =>
    rw [hphase] at hstep
    simp only at hstep
    split at hstep
    · cases hstep
      exact Nat.succ_pos _
    · cases hstep
      simp [LadderProcess.rank, WatchState.pin]
  | rung idx =>
    rw [hphase] at hstep
    simp only at hstep
    split at hstep
    · rename_i hrung
      have hleft : (p.st.ladder.length - idx) * (effects.length + 2) =
          (p.st.ladder.length - (idx + 1)) * (effects.length + 2) + (effects.length + 2) := by
        rw [← Nat.succ_mul]
        congr 1
        omega
      dsimp only
      rw [hleft]
      split at hstep
      · cases hstep
        simp only [LadderProcess.rank]
        omega
      · cases hstep
        simp only [LadderProcess.rank, List.length_zipIdx, harmed.effects]
        omega
    · cases hstep
      exact Nat.succ_pos _
  | checking idx rest =>
    rw [hphase] at hstep
    cases rest with
    | cons entry rest =>
      cases hstep
      have hladder := (harmed.checkEffect watch idx entry).ladder
      simp only [LadderProcess.rank, hladder, harmed.ladder, List.length_cons]
      omega
    | nil =>
      cases hstep
      simp only [LadderProcess.rank, LadderLocals.finishRung, List.length_nil]
      omega
  | ended verdict =>
    rw [hphase] at hstep
    cases hstep

/-- Left alone from any point of any run, the process that runs comes to its verdict. -/
theorem exists_given {p : LadderProcess Query} (now : ℚ)
    (hs : s.Consistent watch effects ladder voidFloor k) (hprocess : s.process = some p) :
    ∃ actions s', (watchSystem watch).Along (fun _ action ↦ action = .step now) s actions ∧
      (watchSystem watch).run s actions = some s' ∧ s'.given = some (p.finish watch now) := by
  have hprogress : ∀ s₁ : WatchRun Query,
      ((∃ k, s₁.Consistent watch effects ladder voidFloor k) ∧
        ∃ q, s₁.process = some q ∧ q.finish watch now = p.finish watch now) →
      ¬ s₁.given ≠ none →
      ∃ action s₂, action = .step now ∧ (watchSystem watch).step s₁ action = some s₂ ∧
        ((∃ k, s₂.Consistent watch effects ladder voidFloor k) ∧
          ∃ q, s₂.process = some q ∧ q.finish watch now = p.finish watch now) ∧
        ((s₂.process.map (LadderProcess.rank effects.length)).getD 0) <
          ((s₁.process.map (LadderProcess.rank effects.length)).getD 0) := by
    intro s₁ ⟨⟨k₁, hs₁⟩, q, hq, hfinish⟩ hfinal
    have hrunning : q.given = none := by
      rw [not_not, WatchRun.given, hq] at hfinal
      exact hfinal
    obtain ⟨q', written, hnext⟩ := LadderProcess.exists_step watch now hrunning
    obtain ⟨harmed, hconsistent⟩ := hs₁.process q hq
    have hstep : (watchSystem watch).step s₁ (.step now) =
        some { file := written.or s₁.file, process := some q' } := by
      simp only [watchSystem, hq, Option.bind_some, hnext, Option.map_some]
    refine ⟨.step now, _, rfl, hstep, ⟨consistent_step hs₁ hstep, q', rfl, ?_⟩, ?_⟩
    · rw [LadderProcess.finish_step hconsistent hnext, hfinish]
    · rw [hq]
      exact LadderProcess.rank_step harmed hnext
  obtain ⟨actions, s', hsteps, hrun, ⟨-, q, hq, hfinish⟩, hfinal⟩ :=
    (watchSystem watch).exists_run_of_rank _ _ (fun _ action ↦ action = .step now) _ hprogress
      ⟨⟨k, hs⟩, p, hprocess, rfl⟩
  refine ⟨actions, s', hsteps, hrun, ?_⟩
  rw [← hfinish]
  simp only [WatchRun.given, hq, Option.bind_some, LadderProcess.given] at hfinal ⊢
  unfold LadderProcess.finish
  split at hfinal
  · rename_i hphase
    simp only [hphase]
  · exact absurd rfl hfinal

/-- The loop without interruption is the run without kills. -/
theorem exists_uninterrupted (watch : Watch Payload) (effects : List (Effect Query))
    (ladder : List ℚ) (voidFloor : ℤ) (now : ℚ) :
    ∃ actions s,
      (watchSystem watch).Along (fun _ action ↦ action = .step now)
        { file := some (armed effects ladder voidFloor)
          process := some { st := armed effects ladder voidFloor, phase := .entering } } actions ∧
      (watchSystem watch).run { file := some (armed effects ladder voidFloor) }
        (.launch ladder voidFloor :: actions) = some s ∧
      s.given = some (watch.runLadder now (armed effects ladder voidFloor)) := by
  have hinitial : WatchRun.Consistent watch effects ladder voidFloor 0
      { file := some (armed effects ladder voidFloor) } := consistent_initial
  have hlaunch : (watchSystem watch).step { file := some (armed effects ladder voidFloor) }
        (.launch ladder voidFloor) =
      some { file := some (armed effects ladder voidFloor)
             process := some
               { st := armed effects ladder voidFloor, phase := .entering } } := rfl
  obtain ⟨k, hs⟩ := consistent_step hinitial hlaunch
  obtain ⟨actions, s, hsteps, hrun, hgiven⟩ := exists_given now hs rfl
  exact ⟨actions, s, hsteps, hrun, hgiven⟩

/-! ## Verdicts -/

theorem lost_empty : lost .empty = [] := rfl

theorem sees_initial : Sees watch { file := some (armed effects ladder voidFloor) } := by
  intro st hst hlost
  cases hst
  obtain ⟨hle, hne⟩ := armed_armed.lostAtEnd_iff.mp hlost
  rw [Nat.le_zero.mp hle] at hne
  exact absurd lost_empty hne

/-- A process that came to its end saw too few effects, or walked the whole ladder. -/
theorem given_cases {v : Verdict} (hs : s.Consistent watch effects ladder voidFloor k)
    (hgiven : s.given = some v) :
    (effects.length : ℤ) < voidFloor ∧ v.kind = .void ∨
    voidFloor ≤ effects.length ∧ k = ladder.length ∧
      ∃ p, s.process = some p ∧ v = p.verdict ∧
        (p.lastBad = .empty ∨ p.lastBad = watch.lastReasons effects k) := by
  obtain ⟨p, hprocess, hp⟩ := Option.bind_eq_some_iff.mp hgiven
  have hconsistent := (hs.process p hprocess).2
  unfold LadderProcess.given at hp
  unfold LadderProcess.Consistent at hconsistent
  split at hp
  · rename_i hphase
    cases hp
    rw [hphase] at hconsistent
    refine hconsistent.imp id fun h ↦ ⟨h.1, h.2.1, p, hprocess, h.2.2⟩
  · cases hp

/-- A loss that the process saw decides the verdict, as it does without interruption. -/
theorem kind_of_sees {v : Verdict} (hs : s.Consistent watch effects ladder voidFloor k)
    (hsees : Sees watch s) (hgiven : s.given = some v) (now : ℚ) :
    v.kind = (watch.runLadder now (armed effects ladder voidFloor)).kind := by
  rw [runLadder_kind]
  rcases given_cases hs hgiven with ⟨hbelow, hkind⟩ | ⟨hfloor, rfl, p, hprocess, rfl, hlast⟩
  · rw [if_pos hbelow, hkind]
  · rw [if_neg (not_lt.mpr hfloor), verdict_kind]
    by_cases hlost : lost (watch.lastReasons effects ladder.length) = []
    · have hown : lost p.lastBad = [] := by
        rcases hlast with hempty | hlast
        · rw [hempty, lost_empty]
        · rw [hlast, hlost]
      rw [if_pos hlost, if_pos hown]
    · obtain ⟨st, hfile, harmed⟩ := hs.file
      obtain ⟨q, hq, hqlast⟩ := hsees st hfile (harmed.lostAtEnd_iff.mpr ⟨le_rfl, hlost⟩)
      rw [hprocess] at hq
      cases hq
      rw [hqlast, harmed.effects, harmed.ladder]

theorem kind_ne_of_blind {v : Verdict} (hs : s.Consistent watch effects ladder voidFloor k)
    (hblind : Blind watch s) (hgiven : s.given = some v) (now : ℚ) :
    v.kind ≠ (watch.runLadder now (armed effects ladder voidFloor)).kind := by
  obtain ⟨st, hfile, hlost, hempty⟩ := hblind
  obtain ⟨st', hst', harmed⟩ := hs.file
  have hsame : st' = st := Option.some.inj (hst'.symm.trans hfile)
  rw [← hsame, harmed.lostAtEnd_iff] at hlost
  rw [runLadder_kind]
  rcases given_cases hs hgiven with ⟨hbelow, -⟩ | ⟨hfloor, rfl, p, hprocess, rfl, -⟩
  · rw [hs.floor hbelow] at hlost
    rw [Nat.le_zero.mp hlost.1] at hlost
    exact absurd lost_empty hlost.2
  · rw [if_neg (not_lt.mpr hfloor), if_neg hlost.2, verdict_kind, hempty p hprocess,
      if_pos lost_empty]
    decide

/-- However often the process is killed and started again, the verdict is the one of the
uninterrupted run exactly if no kill falls between the write of the last rung and the verdict while
an effect is missing or mutated at that rung. -/
theorem resumes_iff (watch : Watch Payload) (effects : List (Effect Query)) (ladder : List ℚ)
    (voidFloor : ℤ) (now : ℚ) (actions : List WatchAction) (s : WatchRun Query) (v : Verdict)
    (hrun : (watchSystem watch).run { file := some (armed effects ladder voidFloor) } actions =
      some s)
    (hgiven : s.given = some v) :
    v.kind = (watch.runLadder now (armed effects ladder voidFloor)).kind ↔
      (watchSystem watch).Along (KeepsLosses watch)
        { file := some (armed effects ladder voidFloor) } actions := by
  have hconsistent {before : List WatchAction} {s : WatchRun Query}
      (hbefore : (watchSystem watch).run { file := some (armed effects ladder voidFloor) } before =
        some s) : ∃ k, s.Consistent watch effects ladder voidFloor k :=
    (watchSystem watch).reaches_invariant
      (I := fun s ↦ ∃ k, s.Consistent watch effects ladder voidFloor k)
      (fun s action s' ⟨k, hs⟩ hstep ↦ consistent_step hs hstep) ⟨0, consistent_initial⟩
      ⟨before, hbefore⟩
  obtain ⟨k, hs⟩ := hconsistent hrun
  constructor
  · intro hkind
    rw [System.along_iff]
    intro before action after middle hactions hbefore
    by_contra hkeeps
    rw [hactions, System.run_append, hbefore, Option.bind_some, System.run_cons,
      Option.bind_eq_some_iff] at hrun
    obtain ⟨next, hnext, hafter⟩ := hrun
    obtain ⟨_, hmiddle⟩ := hconsistent hbefore
    have hblind := (watchSystem watch).reaches_invariant
      (I := fun s ↦ (∃ k, s.Consistent watch effects ladder voidFloor k) ∧ Blind watch s)
      (fun s action s' ⟨⟨k, hs⟩, hblind⟩ hstep ↦
        ⟨consistent_step hs hstep, blind_step hs hblind hstep⟩)
      ⟨consistent_step hmiddle hnext, blind_of_not_keepsLosses hkeeps hnext⟩ ⟨after, hafter⟩
    exact kind_ne_of_blind hs hblind.2 hgiven now hkind
  · intro hkeeps
    have hsees := (watchSystem watch).run_invariant
      (I := fun s ↦ (∃ k, s.Consistent watch effects ladder voidFloor k) ∧ Sees watch s)
      (fun s action s' ⟨⟨k, hs⟩, hsees⟩ hkeeps hstep ↦
        ⟨consistent_step hs hstep, sees_step hs hsees hkeeps hstep⟩)
      ⟨⟨0, consistent_initial⟩, sees_initial⟩ hkeeps hrun
    exact kind_of_sees hs hsees.2 hgiven now

end Ladder

/-! ## Kills between rungs and after the last one -/

/-- One acknowledged effect. -/
def oneEffect : List (Effect Unit) := [{ eid := "e", query := (), phash := "v", ackedAt := 0 }]

/-- The effect is there at the first `rungs` rungs and then missing. -/
def lostAfter (rungs : ℕ) : Watch String where
  payloadHash := id
  observe idx _ := if idx < rungs then some "v" else none

/-- A process that checks a ladder of one rung, from its start up to the write of that rung. -/
def firstRung : List WatchAction := [.launch [0] 1, .step 0, .step 0, .step 0, .step 0]

/-- The first process is killed after the first of two rungs, and the second one sees the loss. -/
theorem resumes_iff_killedBetweenRungs :
    ∃ s v,
      (watchSystem (lostAfter 1)).run { file := some (armed oneEffect [0, 30] 1) }
        (firstRung ++ [.kill, .launch [0, 30] 1] ++ List.replicate 6 (.step 30)) = some s ∧
      s.given = some v ∧
      (v.kind = ((lostAfter 1).runLadder 0 (armed oneEffect [0, 30] 1)).kind ↔
        (watchSystem (lostAfter 1)).Along (KeepsLosses (lostAfter 1))
          { file := some (armed oneEffect [0, 30] 1) }
          (firstRung ++ [.kill, .launch [0, 30] 1] ++ List.replicate 6 (.step 30))) := by
  refine ⟨_, _, rfl, rfl, ?_⟩
  exact resumes_iff (lostAfter 1) oneEffect [0, 30] 1 0 _ _ _ rfl rfl

/-- The process is killed after it has written the only rung and before its verdict. The next one
finds no rung to do. -/
theorem late_kill_turns_green :
    (((watchSystem (lostAfter 0)).run { file := some (armed oneEffect [0] 1) }
        (firstRung ++ [.kill, .launch [0] 1, .step 0, .step 0, .step 0])).bind
          WatchRun.given).map Verdict.kind = some .green ∧
      ((lostAfter 0).runLadder 0 (armed oneEffect [0] 1)).kind = .red := by
  constructor
  · rfl
  · rfl

end DBOSModel.Workers
