import WideColumn.Proofs.Query.Insertion
/-!
# Inserts with another identifier

The fresh identifier of a generated key comes first in the record and in the
values that are bound, and nothing else depends on it: whether an insert is
made and why it is not, the text of its statement, and the values of all
other attributes.
-/

namespace WideColumn

/-- An insertion with another identifier, if its key is generated. -/
def Insertion.withKey (schema : Schema) (key : Uuid) (insertion : Insertion) : Insertion :=
  if schema.generatesKey then
    { statement :=
        { insertion.statement with
          params := .string (String.ofList key.text) :: insertion.statement.params.tail }
      record := (schema.partition.attr, .string (String.ofList key.text)) :: insertion.record.tail }
  else insertion

theorem Fields.insert_cons_of_ne {α : Type} {first other : String} (h : first ≠ other) (old new : α)
    (fields : Fields α) :
    Fields.insert ((first, old) :: fields) other new = (first, old) :: fields.insert other new := by
  rw [insert, if_neg h]

namespace Schema

variable {schema : Schema}

/-! ## Storing behind a generated key -/

/-- The values of a record are stored behind a generated key as they are
without it. -/
theorem storeAll_cons_generated (hs : schema.Coherent) (hg : schema.generatesKey = true) (key : Json)
    (stored : Record) (entries : List (String × Json)) :
    schema.storeAll ((schema.partition.attr, key) :: stored) entries =
      (schema.storeAll stored entries).map ((schema.partition.attr, key) :: ·) := by
  induction entries generalizing stored with
  | nil => rfl
  | cons entry rest ih =>
    obtain ⟨name, value⟩ := entry
    rw [storeAll, storeAll]
    cases hcolumn : schema.resolve name with
    | error e => rfl
    | ok column =>
      change (if _ then _ else _) = Except.map _ (if _ then _ else _)
      split
      · exact ih stored
      · next hkey =>
        have hne : schema.partition.attr ≠ column.attr := fun he =>
          hkey ⟨hg, congrArg Column.name (hs.eq_of_attr (mem_of_resolve hcolumn) hs.partition_mem he.symm)⟩
        rw [Fields.insert_cons_of_ne hne, ih]

/-- The defaults that are stored behind a key do not depend on it. -/
theorem storeDefaults_cons (attr : String) (stored : Record) :
    ∃ rest, ∀ key, schema.storeDefaults ((attr, key) :: stored) = (attr, key) :: rest := by
  unfold storeDefaults
  induction schema.defaults generalizing stored with
  | nil => exact ⟨stored, fun _ => rfl⟩
  | cons entry defaults ih =>
    obtain ⟨name, value⟩ := entry
    by_cases he : attr = name
    · -- a default of the key itself is not needed
      obtain ⟨rest, hrest⟩ := ih stored
      refine ⟨rest, fun key => ?_⟩
      have hhas : Fields.has ((attr, key) :: stored) name = true := by simp [Fields.has, Fields.get?, he]
      simp only [List.foldl_cons, hhas, if_true, hrest]
    · have hhas (key : Json) : Fields.has ((attr, key) :: stored) name = stored.has name := by
        simp [Fields.has, Fields.get?, he]
      cases hstored : stored.has name with
      | true =>
        obtain ⟨rest, hrest⟩ := ih stored
        refine ⟨rest, fun key => ?_⟩
        simp only [List.foldl_cons, hhas, hstored, if_true, hrest]
      | false =>
        obtain ⟨rest, hrest⟩ := ih (stored.insert name value)
        refine ⟨rest, fun key => ?_⟩
        simp only [List.foldl_cons, hhas, hstored, Bool.false_eq_true, if_false,
          Fields.insert_cons_of_ne he, hrest]

theorem missingKey?_cons_string (attr first second : String) (stored : Record) :
    schema.missingKey? ((attr, .string first) :: stored) =
      schema.missingKey? ((attr, .string second) :: stored) := by
  unfold missingKey?
  congr 2
  funext column
  by_cases he : attr = column.attr
  · simp [Fields.get?, he, Json.isNull]
  · simp [Fields.get?, he]

/-- An identifier of version 1 is bound as its text. -/
theorem bind_generated (hs : schema.Coherent) (hg : schema.generatesKey = true) {key : Uuid}
    (hk : key.version = 1) :
    schema.partition.bind (.string (String.ofList key.text)) = .ok (.string (String.ofList key.text)) := by
  obtain ⟨hnative, htype⟩ := hs.generated hg
  have hread : (Json.string (String.ofList key.text)).timeuuid? = some key := by
    rw [Json.timeuuid?, Json.uuid?, String.toList_ofList, Uuid.read?_text, Option.bind_some, if_pos hk]
  generalize String.ofList key.text = s at hread ⊢
  have hencode : schema.partition.encode (.string s) = .string s := by
    rw [Column.encode, htype]
    rfl
  refine Column.bind_eq_ok_iff.2 ⟨hencode.symm, .timeuuid key, ?_⟩
  rw [hencode, hnative]
  exact congrArg (NativeValue.orFail (.string s) .timeuuid .timeuuid) hread

theorem bindStored_cons_generated (hs : schema.Coherent) (hg : schema.generatesKey = true) {key : Uuid}
    (hk : key.version = 1) (stored : Record) :
    schema.bindStored ((schema.partition.attr, .string (String.ofList key.text)) :: stored) =
      (schema.bindStored stored).map ((schema.partition, .string (String.ofList key.text)) :: ·) := by
  have hcolumn : schema.columnOf? schema.partition.attr = some schema.partition :=
    hs.columnOf?_iff.2 ⟨hs.partition_mem, rfl⟩
  have hbind := bind_generated hs hg hk
  generalize String.ofList key.text = s at hbind ⊢
  unfold bindStored
  rw [List.mapM_cons]
  simp only [hcolumn, hbind]
  rfl

/-! ## Inserting -/

/-- Whether a record is inserted under a generated key, and what is bound and
stored behind the key, is the same for every identifier. -/
theorem insert_of_generatesKey (hs : schema.Coherent) (hg : schema.generatesKey = true) (record : Record) :
    ∃ others : Except CompileError (List (Column × Json) × Record), ∀ {fresh : Uuid}, fresh.version = 1 →
      schema.insert fresh record = others.map fun (bound, stored) =>
        { statement := schema.insertStatement
            ((schema.partition, .string (String.ofList fresh.text)) :: bound)
          record := (schema.partition.attr, .string (String.ofList fresh.text)) :: stored } := by
  cases hsupplied : schema.suppliedKey? record with
  | some name =>
    refine ⟨.error (.immutableKey name), fun _ => ?_⟩
    simp only [insert, generatedKey, hg, if_true, hsupplied]
    rfl
  | none =>
    have hgenerated (fresh : Uuid) : schema.generatedKey fresh record =
        .ok [(schema.partition.attr, .string (String.ofList fresh.text))] := by
      rw [generatedKey, if_pos hg, hsupplied]
    cases hgiven : schema.storeAll [] record with
    | error e =>
      refine ⟨.error e, fun _ => ?_⟩
      unfold insert
      rw [hgenerated]
      simp only [bind, Except.bind, storeAll_cons_generated hs hg, hgiven, Except.map]
    | ok given =>
      obtain ⟨stored, hstored⟩ := schema.storeDefaults_cons schema.partition.attr given
      cases hmissing : schema.missingKey? ((schema.partition.attr, .string "") :: stored) with
      | some name =>
        refine ⟨.error (.missingKey name), fun _ => ?_⟩
        unfold insert
        rw [hgenerated]
        simp only [bind, Except.bind, storeAll_cons_generated hs hg, hgiven, Except.map, hstored,
          missingKey?_cons_string _ _ "", hmissing]
        rfl
      | none =>
        refine ⟨(schema.bindStored stored).map (·, stored), fun hfresh => ?_⟩
        unfold insert
        rw [hgenerated]
        simp only [bind, Except.bind, storeAll_cons_generated hs hg, hgiven, Except.map, hstored,
          missingKey?_cons_string _ _ "", hmissing, bindStored_cons_generated hs hg hfresh]
        cases schema.bindStored stored with
        | error e => rfl
        | ok bound => rfl

/-- With another identifier the same insert is made, but for the identifier. -/
theorem insert_withKey (hs : schema.Coherent) {fresh other : Uuid} (hf : fresh.version = 1)
    (ho : other.version = 1) (record : Record) :
    schema.insert other record = (schema.insert fresh record).map (·.withKey schema other) := by
  cases hg : schema.generatesKey with
  | true =>
    obtain ⟨others, hothers⟩ := insert_of_generatesKey hs hg record
    rw [hothers hf, hothers ho]
    cases others with
    | error e => rfl
    | ok entries =>
      simp only [Except.map, Insertion.withKey, hg, if_true, insertStatement, List.map_cons, List.tail_cons]
  | false =>
    have hsame : schema.insert other record = schema.insert fresh record := by
      simp only [insert, generatedKey, hg, Bool.false_eq_true, if_false]
    rw [hsame]
    cases schema.insert fresh record with
    | error e => rfl
    | ok insertion => simp [Except.map, Insertion.withKey, hg]

end Schema
end WideColumn
