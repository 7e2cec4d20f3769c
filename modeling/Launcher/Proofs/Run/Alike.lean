import Launcher.Proofs.Run.Repetition

/-! Two repetitions of a command whose children end alike: both run as often, and their reports
differ in nothing but the timings. -/

namespace Launcher

/-- The record of a run without its timings. -/
def Iteration.timeless (iteration : Iteration) : Iteration :=
  { iteration with startedAt := "", durationMs := 0 }

/-- A report without its timings. -/
def Report.timeless (report : Report) : Report :=
  { report with iterations := report.iterations.map Iteration.timeless }

/-- Children that were launched at the same position in two transcripts ended alike. -/
def Transcript.ChildrenAlike (events others : Transcript) : Prop :=
  ∀ (index : Nat) (launch another : CommandLine × Child), events.launches[index]? = some launch →
    others.launches[index]? = some another → launch.2.ending = another.2.ending

namespace Run

variable {ω υ : Type} {command : CommandLine}

/-- The outcome of a child follows from how it ended. -/
theorem outcome_eq_of_ending {child another : Child} (alike : child.ending = another.ending)
    (program : String) : child.outcome program = another.outcome program := by
  -- The outcome reads nothing of a child but its ending.
  rw [Child.outcome, Child.outcome, alike]

/-- The records of runs whose children ended alike differ in nothing but the timings. -/
theorem timeless_records {run others : List Child}
    (alike : run.map Child.ending = others.map Child.ending) (command : CommandLine) (index : Nat) :
    (records command index run).map Iteration.timeless =
      (records command index others).map Iteration.timeless := by
  -- Both lists are as long, so they are gone through side by side.
  induction run generalizing index others with
  | nil =>
    obtain rfl : others = [] := by simpa using alike.symm
    rfl
  | cons child rest ih =>
    cases others with
    | nil => simp at alike
    | cons another later =>
      rw [List.map_cons, List.map_cons, List.cons.injEq] at alike
      have outcome := outcome_eq_of_ending alike.1 command.program
      rw [records, records, List.map_cons, List.map_cons, ih alike.2]
      simp only [record, Iteration.timeless, outcome]

/-- Whether someone interrupted the last run follows from how the children ended. -/
theorem endedEarly_eq_of_endings {run others : List Child}
    (alike : run.map Child.ending = others.map Child.ending) (command : CommandLine) :
    endedEarly command run = endedEarly command others := by
  have last : run.getLast?.map Child.ending = others.getLast?.map Child.ending := by
    rw [← List.getLast?_map, ← List.getLast?_map, alike]
  rw [endedEarly, endedEarly]
  -- Either there is no run on both sides, or there is a last one on both sides.
  cases ended : run.getLast? with
  | none =>
    rw [ended] at last
    rw [Option.map_eq_none_iff.mp last.symm]
  | some child =>
    rw [ended] at last
    obtain ⟨another, isLast, same⟩ := Option.map_eq_some_iff.mp last.symm
    rw [isLast]
    simp only [Option.any_some, outcome_eq_of_ending same]

variable [Host ω] [Host υ]

/-- The first child is the one that the machine gives first. -/
theorem children_head? (command : CommandLine) (remaining : Nat) (world : ω) :
    (children command (remaining + 1) world)[0]? = some (Host.run world command).1 := by
  -- It is there whether or not it is the last one.
  by_cases stops : ((Host.run world command).1.outcome command.program).isInterrupt
  · rw [children_of_stops stops]
    rfl
  · rw [children_of_lasts stops]
    rfl

/-- Children that end alike as far as both repetitions go end alike altogether, as neither goes on
where the other one stops. -/
theorem endings_children {times : Nat} {world : ω} {other : υ}
    (alike : ∀ (index : Nat) (child another : Child),
      (children command times world)[index]? = some child →
      (children command times other)[index]? = some another → child.ending = another.ending) :
    (children command times world).map Child.ending =
      (children command times other).map Child.ending := by
  induction times generalizing world other with
  | zero => rfl
  | succ remaining ih =>
    -- The first children end alike, so both repetitions stop behind them, or both go on.
    have first : (Host.run world command).1.ending = (Host.run other command).1.ending :=
      alike 0 _ _ (children_head? command remaining world) (children_head? command remaining other)
    have outcome := outcome_eq_of_ending first command.program
    by_cases stops : ((Host.run world command).1.outcome command.program).isInterrupt
    · rw [children_of_stops stops, children_of_stops (outcome ▸ stops)]
      simp [first]
    · have lasts : ¬ ((Host.run other command).1.outcome command.program).isInterrupt :=
        outcome ▸ stops
      -- The later children are compared at positions one less than before.
      have later : ∀ (index : Nat) (child another : Child),
          (children command remaining (Host.run world command).2)[index]? = some child →
          (children command remaining (Host.run other command).2)[index]? = some another →
          child.ending = another.ending := by
        intro index child another here there
        refine alike (index + 1) child another ?_ ?_
        · rw [children_of_lasts stops, List.getElem?_cons_succ, here]
        · rw [children_of_lasts lasts, List.getElem?_cons_succ, there]
      rw [children_of_lasts stops, children_of_lasts lasts, List.map_cons, List.map_cons, first,
        ih later]

/-- Transcripts that launch the children of two repetitions compare just these children. -/
theorem endings_of_childrenAlike {times : Nat} {world : ω} {other : υ} {events others : Transcript}
    (alike : events.ChildrenAlike others)
    (launches : events.launches =
      (children command times world).map fun child => (command, child))
    (othersLaunches : others.launches =
      (children command times other).map fun child => (command, child)) :
    (children command times world).map Child.ending =
      (children command times other).map Child.ending := by
  refine endings_children fun index child another here there => ?_
  -- Each child stands beside the command at its own position among the launches.
  refine alike index (command, child) (command, another) ?_ ?_
  · rw [launches, List.getElem?_map, here]
    rfl
  · rw [othersLaunches, List.getElem?_map, there]
    rfl

end Run

end Launcher
