import Courier.Proofs.Program

namespace Courier.Report

/-! The lines in which results are reported.

A line has no control characters, so the text that is written for any number of
results falls into their lines, and none of them can pass for another one. -/

theorem printed_jsonText (result : Option Bundle) :
    Json.Printed (Bundle.jsonText result).toList := by
  rw [Bundle.jsonText, Json.render, String.toList_ofList]
  exact Json.printed_renderCharacters _

/-- A line is printed if its label is. -/
theorem printed_labelled {label : String} (printed : Json.Printed label.toList)
    (result : Option Bundle) : Json.Printed (label ++ Bundle.jsonText result).toList := by
  rw [String.toList_append, Json.printed_append]
  exact ⟨printed, printed_jsonText result⟩

theorem printed_resultLine (result : Option Bundle) : Json.Printed (resultLine result).toList :=
  printed_labelled (by decide +kernel) result

theorem printed_undeliveredLine (result : Option Bundle) :
    Json.Printed (undeliveredLine result).toList :=
  printed_labelled (by decide +kernel) result

/-- The lines one behind the other, a line feed behind each. -/
def lines (texts : List String) : String :=
  String.join (texts.map (· ++ "\n"))

theorem lines_nil : lines [] = "" := by
  simp [lines]

theorem lines_cons (text : String) (rest : List String) :
    lines (text :: rest) = text ++ "\n" ++ lines rest := by
  simp [lines]

/-- Cut at its line feeds, the text falls into the lines, with nothing behind the last
one. -/
theorem splitOn_lines {texts : List String} (whole : ∀ text ∈ texts, '\n' ∉ text.toList) :
    (lines texts).toList.splitOn '\n' = texts.map String.toList ++ [[]] := by
  induction texts with
  | nil => rfl
  | cons text rest inductionHypothesis =>
      obtain ⟨first, others⟩ := List.forall_mem_cons.1 whole
      have shape : (lines (text :: rest)).toList = text.toList ++ '\n' :: (lines rest).toList := by
        simp [lines_cons]
      rw [shape, List.splitOn_append_cons_self_of_not_mem first, inductionHypothesis others]
      rfl

section

variable {σ : Type} {writer : Writer (StateM σ)} {written : σ → String}

theorem run_bind_after {α β : Type} {action : StateM σ α} {next : α → StateM σ β} {value : α}
    {before after : σ} (ran : action.run before = (value, after)) :
    (action >>= next).run before = (next value).run after := by
  rw [StateT.run_bind, ran]
  rfl

/-- All text gets out, behind the text that has been written before.  Flushing adds
none. -/
structure Writer.Works (writer : Writer (StateM σ)) (written : σ → String) : Prop where
  write : ∀ text before, ∃ after, (writer.write text).run before = (.ok (), after) ∧
    written after = written before ++ text
  flush : ∀ before, ∃ after, writer.flush.run before = (.ok (), after) ∧
    written after = written before

theorem Writer.Works.line (works : writer.Works written) (text : String) (before : σ) :
    ∃ after, (writer.line text).run before = (.ok (), after) ∧
      written after = written before ++ (text ++ "\n") := by
  obtain ⟨between, wrote, extended⟩ := works.write (text ++ "\n") before
  obtain ⟨after, flushed, kept⟩ := works.flush between
  refine ⟨after, ?_, kept.trans extended⟩
  rw [Writer.line, run_bind_after wrote]
  simp only []
  rw [run_bind_after flushed]
  rfl

/-- Everything is written as one line, whatever was written for what came before it. -/
theorem Writer.Works.mapM_line {α : Type} (works : writer.Works written) (text : α → String)
    (items : List α) (before : σ) :
    ∃ after,
      (items.mapM fun item => writer.line (text item)).run before =
        (items.map fun _ => .ok (), after) ∧
      written after = written before ++ lines (items.map text) := by
  induction items generalizing before with
  | nil => exact ⟨before, rfl, by rw [List.map_nil, lines_nil, String.append_empty]⟩
  | cons item rest inductionHypothesis =>
      obtain ⟨between, first, extended⟩ := works.line (text item) before
      obtain ⟨after, others, completed⟩ := inductionHypothesis between
      refine ⟨after, ?_, ?_⟩
      · rw [List.mapM_cons, run_bind_after first, run_bind_after others]
        rfl
      · rw [completed, extended, List.map_cons, lines_cons, String.append_assoc]

/-- However many results are not delivered, the text that is written for them falls
into their lines, one for each and in their order.  No line of a result, delivered or
not, has a control character. -/
theorem undelivered_lines_apart (works : writer.Works written) (results : List (Option Bundle))
    (before : σ) :
    (∃ after text,
      (results.mapM (undelivered writer).deliver).run before =
        (results.map fun _ => .ok (), after) ∧
      written after = written before ++ text ∧
      text.toList.splitOn '\n' =
        (results.map fun result => (undeliveredLine result).toList) ++ [[]]) ∧
    ∀ result : Option Bundle,
      (∀ character ∈ (undeliveredLine result).toList, 0x20 ≤ character.toNat) ∧
      ∀ character ∈ (resultLine result).toList, 0x20 ≤ character.toNat := by
  constructor
  · obtain ⟨after, delivered, extended⟩ := works.mapM_line undeliveredLine results before
    refine ⟨after, _, delivered, extended, ?_⟩
    have whole : ∀ text ∈ results.map undeliveredLine, '\n' ∉ text.toList := by
      simp only [List.forall_mem_map]
      intro result _ member
      exact absurd (printed_undeliveredLine result '\n' member) (by decide)
    rw [splitOn_lines whole, List.map_map]
    rfl
  · intro result
    exact ⟨printed_undeliveredLine result, printed_resultLine result⟩

end

/-- A writer that puts all text behind what it has. -/
def Writer.collecting : Writer (StateM String) :=
  .always fun text => modify (· ++ text)

theorem Writer.works_collecting : collecting.Works id where
  write := fun text before => ⟨before ++ text, rfl, rfl⟩
  flush := fun before => ⟨before, rfl, rfl⟩

/-- A result whose text asks for a line of its own. -/
def forgedSample : Bundle :=
  Bundle.empty.insert "a\r\nCALLBACK_ACK=ok" ⟨.string "\n", trivial⟩

theorem undelivered_lines_apart_forged :
    Writer.collecting.Works id ∧ ∃ text,
      (([some forgedSample, none].mapM (undelivered .collecting).deliver).run "before\n" =
        ([.ok (), .ok ()], "before\n" ++ text)) ∧
      text.toList.splitOn '\n' =
        [(undeliveredLine (some forgedSample)).toList, (undeliveredLine none).toList, []] := by
  have works := Writer.works_collecting
  obtain ⟨⟨after, text, delivered, rfl, apart⟩, _⟩ :=
    undelivered_lines_apart works [some forgedSample, none] "before\n"
  exact ⟨works, text, delivered, apart⟩

end Courier.Report
