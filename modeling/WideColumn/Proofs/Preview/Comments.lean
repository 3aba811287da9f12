import WideColumn.Preview.Printer
import WideColumn.Proofs.Json.Printable
import WideColumn.Proofs.Preview.Agreement
import WideColumn.Proofs.Query.OneLine
/-!
# Values stay in comments

The values of a statement are shown in a comment in front of it. Whatever they
hold, the comment ends with its line: the lines of a preview that are neither
blank nor comments are the statements of its steps.
-/

namespace WideColumn

open Text (Blank pieces)

/-- A line without a statement: it is blank or a comment. -/
def IsAside (line : List Char) : Prop := Blank line ∨ ['-', '-'] <+: line

instance (line : List Char) : Decidable (IsAside line) := inferInstanceAs (Decidable (_ ∨ _))

theorem IsLine.not_isAside {text : String} (h : IsLine text) : ¬IsAside text.toList := by
  have hletter := h.letter
  cases htext : text.toList with
  | nil => simp [htext] at hletter
  | cons c rest =>
    have hc : c.isAlpha = true := by simpa [htext] using hletter
    rintro (hblank | hcomment)
    · exact absurd (hblank c List.mem_cons_self) (by simp [Text.isBlank_of_isAlpha hc])
    · obtain ⟨rfl, -⟩ := List.cons_prefix_cons.1 hcomment
      exact absurd hc (by decide)

namespace Preview

/-- The lines of an output that are neither blank nor comments. -/
def statementLines (output : String) : List String :=
  ((pieces '\n' output.toList).filter (¬IsAside ·)).map String.ofList

/-! ## Line by line -/

theorem statementLines_append {line : String} (h : Unbroken line) (rest : String) :
    statementLines (line ++ "\n" ++ rest) =
      (if IsAside line.toList then [] else [line]) ++ statementLines rest := by
  have hlines : (line ++ "\n" ++ rest).toList = line.toList ++ '\n' :: rest.toList := by simp
  unfold statementLines
  rw [hlines, Text.pieces_append_cons h, List.filter_cons]
  by_cases ha : IsAside line.toList <;> simp [ha]

theorem statementLines_aside {line : String} (h : Unbroken line) (ha : IsAside line.toList) (rest : String) :
    statementLines (line ++ "\n" ++ rest) = statementLines rest := by
  rw [statementLines_append h, if_pos ha, List.nil_append]

theorem statementLines_isLine {line : String} (h : IsLine line) (rest : String) :
    statementLines (line ++ "\n" ++ rest) = line :: statementLines rest := by
  rw [statementLines_append h.unbroken, if_neg h.not_isAside, List.singleton_append]

/-- A comment with values is one line, because their text is printable. -/
theorem statementLines_paramsLine (statement : Statement) (rest : String) :
    statementLines (paramsLine statement ++ rest) = statementLines rest := by
  unfold paramsLine
  split
  · rw [String.empty_append]
  · have hvalues : Unbroken (Json.array statement.params).text := by
      rw [Unbroken, Json.text, String.toList_ofList]
      exact (Json.printable_write _).newLine_not_mem
    have hcomment : Unbroken ("-- params: " ++ (Json.array statement.params).text) := .append (by decide) hvalues
    refine statementLines_aside hcomment (.inr ?_) rest
    have hmark : ['-', '-'] <+: "-- params: ".toList := by decide
    rw [String.toList_append]
    exact hmark.trans (List.prefix_append _ _)

theorem statementLines_stepText {step : PreviewStep} (h : IsLine step.statement.text) (rest : String) :
    statementLines (stepText step ++ rest) = step.statement.text :: statementLines rest := by
  have hsplit : stepText step ++ rest = ("-- " ++ step.role.name) ++ "\n" ++
      (paramsLine step.statement ++ (step.statement.text ++ "\n" ++ rest)) := by
    simp only [stepText, String.append_assoc]
  have hrole : Unbroken ("-- " ++ step.role.name) ∧ IsAside ("-- " ++ step.role.name).toList := by
    cases step.role <;> decide
  rw [hsplit, statementLines_aside hrole.1 hrole.2, statementLines_paramsLine, statementLines_isLine h]

/-- Steps are divided by blank lines. -/
theorem statementLines_steps {steps : List PreviewStep} (h : ∀ step ∈ steps, IsLine step.statement.text) :
    statementLines ("\n".intercalate (steps.map stepText)) = steps.map (·.statement.text) := by
  have hempty : statementLines "" = [] := by decide
  induction steps with
  | nil => exact hempty
  | cons step steps ih =>
    obtain ⟨hstep, hsteps⟩ := List.forall_mem_cons.1 h
    -- only between two steps there is a blank line
    cases steps with
    | nil =>
      have hlast := statementLines_stepText hstep ""
      rwa [String.append_empty, hempty] at hlast
    | cons next steps =>
      have hblank : Unbroken "" ∧ IsAside "".toList := by decide
      have hrest := statementLines_aside hblank.1 hblank.2 ("\n".intercalate ((next :: steps).map stepText))
      rw [String.empty_append, ih hsteps] at hrest
      rw [List.map_cons, List.map_cons, String.intercalate_cons_cons, String.append_assoc,
        statementLines_stepText hstep]
      exact congrArg _ hrest

/-! ## Every command -/

section

variable {model : Model} {schema : Schema} {fresh : Uuid} {command : Command} {preview : Preview}

/-- All that a command shows is one line for each step. -/
theorem isLine_of_ofCommand (hc : Schema.compile model = .ok schema) (hn : schema.UnbrokenNames)
    (h : ofCommand schema fresh command = .ok preview) : ∀ step ∈ preview.steps, IsLine step.statement.text := by
  have hs := Schema.coherent_of_compile hc
  cases command with
  | ddl =>
    cases h
    exact List.forall_mem_map.2 (Schema.isLine_definition hn hc)
  | migrate mode =>
    cases h
    exact List.forall_mem_map.2 (Schema.isLine_migration hn hc mode)
  | select argument =>
    obtain ⟨criteria, -, h⟩ := bind_eq_ok_iff.1 h
    obtain ⟨pinned, -, h⟩ := bind_eq_ok_iff.1 h
    obtain ⟨statement, hstatement, h⟩ := bind_eq_ok_iff.1 h
    cases h
    exact List.forall_mem_singleton.2 (Schema.isLine_select hn (mapError_eq_ok_iff.1 hstatement))
  | count argument =>
    obtain ⟨criteria, -, h⟩ := bind_eq_ok_iff.1 h
    obtain ⟨statement, hstatement, h⟩ := bind_eq_ok_iff.1 h
    cases h
    exact List.forall_mem_singleton.2 (Schema.isLine_count hn (mapError_eq_ok_iff.1 hstatement))
  | insert argument =>
    obtain ⟨record, -, h⟩ := bind_eq_ok_iff.1 h
    obtain ⟨insertion, hinsertion, h⟩ := bind_eq_ok_iff.1 h
    cases h
    exact List.forall_mem_singleton.2 (Schema.isLine_insert hn (mapError_eq_ok_iff.1 hinsertion))
  | update argument assigned =>
    obtain ⟨criteria, -, h⟩ := bind_eq_ok_iff.1 h
    obtain ⟨values, -, h⟩ := bind_eq_ok_iff.1 h
    obtain ⟨update, hupdate, h⟩ := bind_eq_ok_iff.1 h
    cases h
    exact Schema.isLine_update hs hn (mapError_eq_ok_iff.1 hupdate) .update
  | delete argument =>
    obtain ⟨criteria, -, h⟩ := bind_eq_ok_iff.1 h
    obtain ⟨plan, hplan, h⟩ := bind_eq_ok_iff.1 h
    cases h
    exact Schema.isLine_delete hs hn (mapError_eq_ok_iff.1 hplan) .delete

/-- For all schemas without line feeds in their names, no value that a command
is given, or makes, leaves the comments: the other lines of its preview are the
statements of the steps in order, one line each, and none for no steps. -/
theorem values_stay_in_comments (hc : Schema.compile model = .ok schema) (hn : schema.UnbrokenNames)
    (h : ofCommand schema fresh command = .ok preview) :
    statementLines (preview.print .cql) = preview.steps.map (·.statement.text) := by
  have hlines := isLine_of_ofCommand hc hn h
  rw [print, text]
  split
  · next hnil =>
    rw [hnil]
    decide
  · exact statementLines_steps hlines

end

example : statementLines (({ plan := .migrate, steps := [] } : Preview).print .cql) = [] := by decide

/-- Users are deleted by an age and a key that would be a statement on a line
of its own. -/
theorem values_stay_in_comments_sample :
    ∃ preview, ofCommand .sample (Uuid.timeBased 1 2 0)
        (.delete (some "\x7b\"id\":\"k\\nDROP TABLE user;\\n\",\"age\":3\x7d")) = .ok preview ∧
      preview.steps.map (·.statement.params) = [[.string "k\nDROP TABLE user;\n", .ofInt64 3], []] ∧
      statementLines (preview.print .cql) =
        ["SELECT \"id\" FROM user WHERE \"id\" = ? AND \"years\" = ? ALLOW FILTERING;",
          "DELETE FROM user WHERE \"id\" = ?;"] := by
  have hn : Schema.sample.UnbrokenNames := ⟨by decide, by decide⟩
  have hdocument : criteriaDocument? (some "\x7b\"id\":\"k\\nDROP TABLE user;\\n\",\"age\":3\x7d") =
      some (.object [("id", .string "k\nDROP TABLE user;\n"), ("age", .ofInt64 3)]) := rfl
  obtain ⟨criteria, hcriteria, plan, hplan, hparams, htexts⟩ : ∃ criteria,
      readCriteria .sample (some "\x7b\"id\":\"k\\nDROP TABLE user;\\n\",\"age\":3\x7d") = .ok criteria ∧
      ∃ plan, Schema.sample.delete criteria = .ok plan ∧
        (ofMutation .delete plan).steps.map (·.statement.params) =
          [[.string "k\nDROP TABLE user;\n", .ofInt64 3], []] ∧
        (ofMutation .delete plan).steps.map (·.statement.text) =
          ["SELECT \"id\" FROM user WHERE \"id\" = ? AND \"years\" = ? ALLOW FILTERING;",
            "DELETE FROM user WHERE \"id\" = ?;"] := by
    rw [Collection.readCriteria_of_document hdocument]
    exact ⟨_, rfl, _, rfl, rfl, rfl⟩
  have hpreview : ofCommand .sample (Uuid.timeBased 1 2 0)
      (.delete (some "\x7b\"id\":\"k\\nDROP TABLE user;\\n\",\"age\":3\x7d")) =
        .ok (ofMutation .delete plan) :=
    bind_eq_ok_iff.2 ⟨criteria, hcriteria, bind_eq_ok_iff.2 ⟨plan, mapError_eq_ok_iff.2 hplan, rfl⟩⟩
  exact ⟨_, hpreview, hparams, htexts ▸ values_stay_in_comments Schema.compile_sample hn hpreview⟩

end Preview
end WideColumn
