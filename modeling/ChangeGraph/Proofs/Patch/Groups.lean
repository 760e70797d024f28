import ChangeGraph.Proofs.Patch.AddedLines

/-!
# Groups of added lines

The runs of a body are the groups that one gets when the lines of the new text are cut at the lines that were kept.
-/

namespace ChangeGraph.Patch

/-- The number of the first line of a group, and its length. -/
def groupRun (group : List (Mark × Nat)) : Option (Nat × Nat) := group.head?.map fun first => (first.2, group.length)

/-- The added lines of a body in groups that no kept line separates. -/
def Body.groups (b : Body) : List (Nat × Nat) := (b.newLines.splitOnP (·.1 == .context)).filterMap groupRun

def piecesFrom (line : Nat) (ms : List Mark) : List (List (Mark × Nat)) :=
  ((ms.filter Mark.isNew).zipIdx line).splitOnP (·.1 == .context)

theorem piecesFrom_cons_added (line : Nat) (ms : List Mark) :
    piecesFrom line (.added :: ms) = (piecesFrom (line + 1) ms).modifyHead ((.added, line) :: ·) := by
  show List.splitOnP _ ((Mark.added, line) :: (ms.filter Mark.isNew).zipIdx (line + 1)) = _
  rw [List.splitOnP_cons_eq_if_modifyHead]
  rfl

theorem piecesFrom_cons_context (line : Nat) (ms : List Mark) :
    piecesFrom line (.context :: ms) = [] :: piecesFrom (line + 1) ms := by
  show List.splitOnP _ ((Mark.context, line) :: (ms.filter Mark.isNew).zipIdx (line + 1)) = _
  rw [List.splitOnP_cons_eq_if_modifyHead]
  rfl

theorem piecesFrom_cons_old (line : Nat) {m : Mark} (h : m.isNew = false) (ms : List Mark) :
    piecesFrom line (m :: ms) = piecesFrom line ms := by
  simp [piecesFrom, h]

theorem filterMap_groupRun_cons (group : List (Mark × Nat)) (groups : List (List (Mark × Nat))) :
    (group :: groups).filterMap groupRun = (groupRun group).toList ++ groups.filterMap groupRun := by
  cases h : groupRun group <;> simp [h]

/-- The run so far, if there is one, made longer by a group of added lines. -/
def extend (run : Option (Nat × Nat)) (group : List (Mark × Nat)) : Option (Nat × Nat) :=
  match run with
  | none => groupRun group
  | some (first, n) => some (first, n + group.length)

theorem extend_nil (run : Option (Nat × Nat)) : extend run [] = run := by
  cases run <;> rfl

/-- The run so far goes on with the first of the groups that follow. -/
theorem runsFrom_eq (ms : List Mark) (line : Nat) (run : Option (Nat × Nat)) :
    ∃ group groups, piecesFrom line ms = group :: groups ∧
      runsFrom line run ms = (extend run group).toList ++ groups.filterMap groupRun := by
  induction ms generalizing line run with
  | nil => exact ⟨[], [], rfl, by simp [runsFrom, extend_nil]⟩
  | cons m ms ih =>
    cases m with
    | added =>
      cases run with
      | none =>
        obtain ⟨group, groups, hpieces, hruns⟩ := ih (line + 1) (some (line, 1))
        refine ⟨(.added, line) :: group, groups, by rw [piecesFrom_cons_added, hpieces]; rfl, ?_⟩
        simp [runsFrom, hruns, extend, groupRun, Nat.add_comm]
      | some r =>
        obtain ⟨first, n⟩ := r
        obtain ⟨group, groups, hpieces, hruns⟩ := ih (line + 1) (some (first, n + 1))
        refine ⟨(.added, line) :: group, groups, by rw [piecesFrom_cons_added, hpieces]; rfl, ?_⟩
        simp [runsFrom, hruns, extend, Nat.add_assoc, Nat.add_comm 1]
    | context =>
      obtain ⟨group, groups, hpieces, hruns⟩ := ih (line + 1) none
      refine ⟨[], group :: groups, by rw [piecesFrom_cons_context, hpieces], ?_⟩
      rw [runsFrom, hruns, extend_nil, extend, filterMap_groupRun_cons]
    | removed =>
      rw [runsFrom_cons_old line run rfl, piecesFrom_cons_old line rfl]
      exact ih line run
    | noLineEnd =>
      rw [runsFrom_cons_old line run rfl, piecesFrom_cons_old line rfl]
      exact ih line run

theorem Body.runs_eq_groups (b : Body) : b.runs = b.groups := by
  obtain ⟨group, groups, hpieces, hruns⟩ := runsFrom_eq b.marks b.newStart none
  show runsFrom b.newStart none b.marks = (piecesFrom b.newStart b.marks).filterMap groupRun
  rw [hruns, hpieces, extend, filterMap_groupRun_cons]

end ChangeGraph.Patch
