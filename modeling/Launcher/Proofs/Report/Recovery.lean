import Launcher.Proofs.Json.Visible
import Launcher.Report.Reader

/-! A report is recovered in full from the line of JSON that it is printed as. -/

namespace Launcher

/-- What is read back one by one is read back as a list. -/
theorem mapM_of_reads_back {α β : Type} (write : α → β) (read : β → Option α)
    (back : ∀ item, read (write item) = some item) (items : List α) :
    (items.map write).mapM read = some items := by
  -- Each item is read back, so that reading never stops.
  induction items with
  | nil => rfl
  | cons item rest ih => simp [back, ih]

/-- An outcome is recovered from its kind and payload. -/
theorem Outcome.ofJson?_toJson (outcome : Outcome) : ofJson? outcome.toJson = some outcome := by
  -- The kinds of outcome have different tags.
  cases outcome <;> rfl

/-- The run of a command is recovered from its fields. -/
theorem Iteration.ofJson?_toJson (iteration : Iteration) :
    ofJson? iteration.toJson = some iteration := by
  -- Reading looks up the members in turn; the nested outcome is read back by its own lemma.
  have outcome := Outcome.ofJson?_toJson iteration.outcome
  have lookup : iteration.toJson.member? "outcome" = some iteration.outcome.toJson := rfl
  unfold ofJson?
  rw [lookup]
  simp only [Option.bind_eq_bind, Option.bind_some, outcome]
  rfl

/-- A command is recovered from the list of its parts. -/
theorem CommandLine.ofJson?_texts (command : CommandLine) :
    ofJson? (Json.texts command.parts) = some command := by
  -- A command is read back from its parts, and these are texts.
  have parts := mapM_of_reads_back Json.str Json.text? (fun _ => rfl)
    command.parts
  have items : (Json.texts command.parts).items? = some (command.parts.map .str) := rfl
  unfold ofJson?
  rw [items]
  simp only [Option.bind_eq_bind, Option.bind_some, parts]
  rfl

/-- A report says that all went well, and has one member for each of its fields. -/
theorem Report.member?_toJson (report : Report) :
    report.toJson.member? "ok" = some (.bool true) ∧
    report.toJson.member? "command" = some (Json.texts report.command.parts) ∧
    report.toJson.member? "repeat" = some (.int report.times) ∧
    report.toJson.member? "interrupted" = some (.bool report.interrupted) ∧
    report.toJson.member? "exit_codes" = some (.arr (report.exitCodes.map .int)) ∧
    report.toJson.member? "iterations" = some (.arr (report.iterations.map Iteration.toJson)) :=
  ⟨rfl, rfl, rfl, rfl, rfl, rfl⟩

/-- A report is recovered from its members. -/
theorem Report.ofJson?_toJson (report : Report) : ofJson? report.toJson = some report := by
  -- The members are what was written to them, and each is read back in its own way.
  obtain ⟨ok, command, times, interrupted, codes, iterations⟩ := report.member?_toJson
  have read := mapM_of_reads_back _ _ Iteration.ofJson?_toJson report.iterations
  have exits := mapM_of_reads_back Json.int Json.int? (fun _ => rfl)
    report.exitCodes
  have count : (Json.int report.times).nat? = some report.times := rfl
  unfold ofJson?
  simp only [ok, command, times, interrupted, codes, iterations, Option.bind_eq_bind,
    Option.bind_some, Json.items?, Json.bool?, CommandLine.ofJson?_texts, count, read, exits]
  simp

/-- A report is printed without control characters, hence on one line, and is recovered in full from
that line; so no two reports are printed alike. -/
theorem Report.recovered_from_line :
    (∀ report : Report,
      (∀ char ∈ report.toJson.render.toList, 0x20 ≤ char.toNat) ∧
      ∃ value, Json.read? report.toJson.render = some value ∧
        value.member? "ok" = some (.bool true) ∧
        value.member? "command" = some (Json.texts report.command.parts) ∧
        value.member? "repeat" = some (.int report.times) ∧
        value.member? "interrupted" = some (.bool report.interrupted) ∧
        value.member? "exit_codes" =
          some (.arr (report.iterations.map fun run => .int run.exitCode)) ∧
        value.member? "iterations" = some (.arr (report.iterations.map Iteration.toJson)) ∧
        ofJson? value = some report) ∧
    Function.Injective fun report : Report => report.toJson.render := by
  refine ⟨fun report => ⟨fun char member => ?_, report.toJson, Json.read?_render _, ?_⟩,
    fun report other same => ?_⟩
  · rw [Json.render, String.toList_ofList] at member
    exact Json.visible_of_mem_renderChars report.toJson char member
  · obtain ⟨ok, command, times, interrupted, codes, iterations⟩ := report.member?_toJson
    refine ⟨ok, command, times, interrupted, ?_, iterations, report.ofJson?_toJson⟩
    rw [codes, exitCodes, List.map_map]
    rfl
  · -- Both reports are recovered from the same value.
    have recovered := report.ofJson?_toJson
    rw [Json.render_injective same, other.ofJson?_toJson] at recovered
    exact (Option.some_inj.mp recovered).symm

end Launcher
