import ModelHub.Proofs.DispatchOrder
import ModelHub.Proofs.SessionRun

/-!
# Dispatches in a world

A dispatch whose syncs ask services and do nothing else carries out every one of them, each in the
world that the one before it leaves, and its outcomes say what they gave.
-/

namespace ModelHub

/-- A session that is done gives its value in the world where it is carried out. -/
def World.sessions : Dispatch.Interpretation Session World where
  Gives session world value after := world.run session = (.ok value, after)
  gives_pure _ _ := rfl
  gives_bind given goesOn := (World.run_bind_of_ok given _).trans goesOn

/-- The outcomes tell of syncs that are carried out one after another between two worlds. -/
abbrev World.Executes (execute : Decision → Session (Except Failure Unit)) :
    World → List Outcome → World → Prop :=
  Dispatch.Executes World.sessions execute

variable {execute : Decision → Session (Except Failure Unit)}

/-- Syncs that only ask leave everything but the exchanges as it was. -/
theorem World.Executes.exists_exchanges {world final : World} {outcomes : List Outcome}
    (executes : World.Executes execute world outcomes final)
    (onlyAsks : ∀ decision, (execute decision).OnlyAsks) :
    ∃ asked, final = { world with exchanges := world.exchanges ++ asked } := by
  induction executes with
  | nil world =>
      exact ⟨[], by rw [List.append_nil]⟩
  | @cons world between final outcome outcomes first _ inductionHypothesis =>
      obtain ⟨result, asked, run⟩ := (onlyAsks outcome.decision).exists_run world
      obtain ⟨askedLater, rfl⟩ := inductionHypothesis
      obtain rfl : between = _ := congrArg Prod.snd (first.symm.trans run)
      exact ⟨asked ++ askedLater, by rw [List.append_assoc]⟩

/-- Syncs that only ask can be carried out one after another. -/
theorem World.exists_executes (onlyAsks : ∀ decision, (execute decision).OnlyAsks) (world : World)
    (decisions : List Decision) :
    ∃ outcomes final, World.Executes execute world outcomes final ∧
      outcomes.map Outcome.decision = decisions := by
  induction decisions generalizing world with
  | nil =>
      exact ⟨[], world, .nil world, rfl⟩
  | cons decision decisions inductionHypothesis =>
      obtain ⟨result, asked, first⟩ := (onlyAsks decision).exists_run world
      obtain ⟨outcomes, final, executes, sameDecisions⟩ := inductionHypothesis _
      exact ⟨⟨decision, result⟩ :: outcomes, final, .cons first executes,
        congrArg (decision :: ·) sameDecisions⟩

/-- A dispatch syncs its decisions in their order and sorts what it has of them. -/
theorem Dispatch.exists_run (onlyAsks : ∀ decision, (execute decision).OnlyAsks) (limit : Nat)
    (world : World) (decisions : List Decision) :
    ∃ outcomes final, World.Executes execute world outcomes final ∧
      outcomes.map Outcome.decision = decisions ∧
      world.run (run execute limit decisions) = (.ok (sortOutcomes outcomes), final) := by
  obtain ⟨outcomes, after, executes, rfl⟩ := World.exists_executes onlyAsks world decisions
  obtain ⟨final, _, _, inOrder, completed⟩ :=
    Progress.exists_complete_of_executes limit (fun _ => False) executes
  refine ⟨outcomes, after, executes, rfl, ?_⟩
  rw [run, World.run_bind_of_ok completed, ← inOrder]
  rfl

end ModelHub
