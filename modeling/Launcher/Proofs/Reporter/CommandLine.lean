import Launcher.Proofs.Json.Line
import Launcher.Proofs.Launch.Serving
import Launcher.Proofs.Text.Literal
import Launcher.Proofs.Text.Utf8

/-! A command is shown on one line, from which it can be read back. -/

namespace Launcher.Reporter

variable {δ : Type} [Sink δ] {reporter : Reporter δ} {stream : Stream}

/-- A sink that never fails takes each line that it is offered. -/
theorem value_writeLines_of_steady (steady : Sink.Steady (reporter.sink stream))
    (texts : List String) :
    ((writeLines stream texts).run.run reporter).value = .ok () ∧
      Sink.Steady (((writeLines stream texts).run.run reporter).state.sink stream) := by
  induction texts generalizing reporter with
  | nil => exact ⟨rfl, steady⟩
  | cons text rest ih =>
    obtain ⟨taken, left⟩ := steady.write (lineBytes text)
    have first : ((writeLine stream text).run.run reporter).value = .ok () := by
      rw [writeLine_run]
      exact resultOf_eq_ok.mpr taken
    -- The other lines are offered to the sink that the first one left.
    have kept : Sink.Steady (((writeLine stream text).run.run reporter).state.sink stream) := by
      simpa [writeLine_run, sink_withSink] using left
    rw [writeLines, Action.run_bind_of_ok first]
    exact ih kept

/-- A sink that never fails takes the lines that are delivered to it, and nothing else happens. -/
theorem deliver_of_steady (steady : Sink.Steady (reporter.sink stream)) (texts : List String) :
    ((deliver stream texts).run.run reporter).value = .ok () ∧
      ((deliver stream texts).run.run reporter).events = delivery stream texts := by
  obtain ⟨written, kept⟩ := value_writeLines_of_steady steady texts
  -- What is left of the sink is flushed, which does not fail either.
  have delivered : ((deliver stream texts).run.run reporter).value = .ok () := by
    rw [deliver, Action.run_bind_of_ok written]
    exact resultOf_eq_ok.mpr kept.flush.1
  exact ⟨delivered, events_deliver delivered⟩

/-- The line that shows a command is printable. -/
theorem isPrintable_of_mem_commandLine {command : CommandLine} {char : Char}
    (member : char ∈ (commandLine command).toList) : isPrintable char = true := by
  -- The announcement is fixed and printable, and the literals behind it are by their own lemma.
  have announced : ∀ char ∈ "command: ".toList, isPrintable char = true :=
    List.all_eq_true.mp rfl
  rw [commandLine, String.toList_append, List.mem_append] at member
  rcases member with before | inside
  · exact announced char before
  · exact Literal.isPrintable_of_mem_list inside

/-- Different commands are shown by different lines. -/
theorem commandLine_inj {command other : CommandLine} :
    commandLine command = commandLine other ↔ command = other := by
  refine ⟨fun same => ?_, congrArg commandLine⟩
  have literals : command.literalText = other.literalText := by
    have spelled := congrArg String.toList same
    simp only [commandLine, String.toList_append] at spelled
    exact String.toList_inj.mp (List.append_cancel_left spelled)
  -- Equal lists of literals are read as the same parts.
  apply CommandLine.parts_inj.mp
  rw [← Option.some_inj, ← Literal.readList?_list, ← Literal.readList?_list]
  exact congrArg Literal.readList? literals

/-- Over a sink of progress that never fails, showing a command succeeds and writes one line there,
and nothing else anywhere: the parts as literals in a bracketed list. No character of the line is a
control character, so it is the only line there is, whatever the parts hold; and the literals are
read back as exactly the parts, so no two commands are shown alike. -/
theorem command_shown_on_one_line
    (steady : Sink.Steady (reporter.sink (progressStream reporter.json))) (command : CommandLine) :
    let step := (Reporter.command command).run.run reporter
    let shown := step.events.written (progressStream reporter.json)
    let literals := "[" ++ String.intercalate ", " (command.parts.map Literal.quote) ++ "]"
    let line := "command: " ++ literals
    step.value = .ok () ∧ shown = utf8 line ++ [lineEnd] ∧
    (∀ stream ≠ progressStream reporter.json, step.events.written stream = []) ∧
    shown.splitOn lineEnd = [utf8 line, []] ∧
    (∀ char ∈ line.toList, isPrintable char = true ∧
      0x20 ≤ char.toNat ∧ ¬ (0x7F ≤ char.toNat ∧ char.toNat ≤ 0x9F)) ∧
    Literal.readList? literals = some command.parts ∧
    ∀ other : CommandLine,
      ((Reporter.command other).run.run reporter).events.written
        (progressStream reporter.json) = shown ↔ other = command := by
  intro step shown literals line
  -- Whatever the command, what happens is the delivery of its line.
  have happens (command : CommandLine) := deliver_of_steady steady [commandLine command]
  simp only [← command_run] at happens
  have printed (command : CommandLine) :
      ((Reporter.command command).run.run reporter).events.written
        (progressStream reporter.json) = utf8 (commandLine command) ++ [lineEnd] := by
    rw [(happens command).2, written_delivery, if_pos rfl]
    exact List.append_nil _
  have printable : ∀ char ∈ line.toList, isPrintable char = true :=
    fun char member => isPrintable_of_mem_commandLine member
  -- A line end is not printable, so the line is broken nowhere.
  have inside : lineEnd ∉ utf8 line := by
    apply lineEnd_notMem_utf8
    intro broken
    exact absurd (printable '\n' broken) (by decide)
  refine ⟨(happens command).1, printed command, fun stream other => ?_, ?_,
    fun char member => ⟨printable char member, ?_⟩, Literal.readList?_list command.parts,
    fun other => ⟨fun same => ?_, fun same => ?_⟩⟩
  · show ((Reporter.command command).run.run reporter).events.written stream = []
    rw [(happens command).2, written_delivery, if_neg other.symm]
  · rw [show shown = utf8 line ++ [lineEnd] from printed command,
      List.splitOn_append_cons_self_of_not_mem inside]
    rfl
  · have bounds := bounds_of_isPrintable (printable char member)
    omega
  · -- The same bytes are the same text, which is read back as one command.
    have bytes : utf8 (commandLine other) ++ [lineEnd] = utf8 (commandLine command) ++ [lineEnd] :=
      (printed other).symm.trans (same.trans (printed command))
    exact commandLine_inj.mp (utf8_inj.mp (List.append_cancel_right bytes))
  · rw [same]

/-- A part with a line end and the text of another line behind it, one that looks like the end of a
literal, and an empty one; beside the progress, a sink that fails whatever it is asked for. -/
theorem command_shown_with_forged_line :
    let reporter : Reporter BoundedSink :=
      { json := false, out := {}, err := { room := some 0, flushFails := true } }
    let command : CommandLine := ⟨"java", ["a\niteration #0", "é\x7f\", \"", ""]⟩
    let step := (Reporter.command command).run.run reporter
    Sink.Steady (reporter.sink (progressStream reporter.json)) ∧ step.value = .ok () ∧
    (step.events.written .out).splitOn lineEnd =
      [utf8 "command: [\"java\", \"a\\niteration #0\", \"é\\u\x7b7f\x7d\\\", \\\"\", \"\"]", []] := by
  intro reporter command step
  have steady : Sink.Steady (reporter.sink (progressStream reporter.json)) :=
    BoundedSink.steady_unlimited
  -- The forged line stays inside the one line of the command, its break escaped.
  obtain ⟨succeeds, -, -, lines, -⟩ := command_shown_on_one_line steady command
  exact ⟨steady, succeeds, lines.trans (by decide +kernel)⟩

end Launcher.Reporter
