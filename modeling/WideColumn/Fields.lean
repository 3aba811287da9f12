/-!
# Named fields

Records, documents and tables all hold values under names, in the order in
which the names were first mentioned. A name given twice keeps its first
place and its last value.
-/

namespace WideColumn

/-- Values under names, in order of first mention. -/
abbrev Fields (α : Type) := List (String × α)

namespace Fields

variable {α : Type}

def names (fields : Fields α) : List String := fields.map Prod.fst

def get? : Fields α → String → Option α
  | [], _ => none
  | (name, value) :: rest, key => if name = key then some value else get? rest key

def has (fields : Fields α) (key : String) : Bool := (fields.get? key).isSome

/-- Gives a name a value: in its place when the name is known, at the end
otherwise. -/
def insert : Fields α → String → α → Fields α
  | [], key, value => [(key, value)]
  | (name, old) :: rest, key, value =>
    if name = key then (name, value) :: rest else (name, old) :: insert rest key value

/-- Inserts entries one after the other. -/
def insertAll (fields : Fields α) (entries : List (String × α)) : Fields α :=
  entries.foldl (fun fields entry => fields.insert entry.1 entry.2) fields

def erase : Fields α → String → Fields α
  | [], _ => []
  | (name, value) :: rest, key => if name = key then erase rest key else (name, value) :: erase rest key

def ofEntries (entries : List (String × α)) : Fields α := insertAll [] entries

/-! ## What `insert` does to look-ups and names -/

@[simp] theorem get?_nil (key : String) : get? ([] : Fields α) key = none := rfl

@[simp] theorem get?_insert_self (fields : Fields α) (key : String) (value : α) :
    (fields.insert key value).get? key = some value := by
  induction fields with
  | nil => simp [insert, get?]
  | cons entry rest ih =>
    obtain ⟨name, old⟩ := entry
    by_cases h : name = key <;> simp [insert, get?, h, ih]

theorem get?_insert_of_ne (fields : Fields α) {key other : String} (value : α) (h : other ≠ key) :
    (fields.insert key value).get? other = fields.get? other := by
  induction fields with
  | nil => simp [insert, get?, Ne.symm h]
  | cons entry rest ih =>
    obtain ⟨name, old⟩ := entry
    by_cases hn : name = key
    · subst hn; simp [insert, get?, Ne.symm h]
    · simp only [insert, if_neg hn, get?, ih]

theorem get?_eq_none_iff (fields : Fields α) (key : String) :
    fields.get? key = none ↔ key ∉ fields.names := by
  induction fields with
  | nil => simp [names]
  | cons entry rest ih =>
    obtain ⟨name, old⟩ := entry
    by_cases h : name = key
    · simp [get?, names, h]
    · simp only [get?, h, if_false, ih, names, List.map_cons, List.mem_cons, not_or]
      exact ⟨fun hr => ⟨fun he => h he.symm, hr⟩, fun hr => hr.2⟩

theorem names_insert (fields : Fields α) (key : String) (value : α) :
    (fields.insert key value).names = if key ∈ fields.names then fields.names else fields.names ++ [key] := by
  induction fields with
  | nil => simp [insert, names]
  | cons entry rest ih =>
    obtain ⟨name, old⟩ := entry
    simp only [names] at ih ⊢
    by_cases h : name = key
    · simp [insert, h]
    · have hk : ¬ key = name := fun he => h he.symm
      simp only [insert, h, if_false, List.map_cons, ih, List.mem_cons, hk, false_or]
      split <;> simp_all

/-! ## What `erase` does to look-ups and names -/

@[simp] theorem get?_erase_self (fields : Fields α) (key : String) : (fields.erase key).get? key = none := by
  induction fields with
  | nil => rfl
  | cons entry rest ih =>
    obtain ⟨name, value⟩ := entry
    by_cases h : name = key <;> simp [erase, get?, h, ih]

theorem get?_erase_of_ne (fields : Fields α) {key other : String} (h : other ≠ key) :
    (fields.erase key).get? other = fields.get? other := by
  induction fields with
  | nil => rfl
  | cons entry rest ih =>
    obtain ⟨name, value⟩ := entry
    by_cases hn : name = key
    · subst hn; simp [erase, get?, Ne.symm h, ih]
    · simp only [erase, if_neg hn, get?, ih]

theorem names_erase (fields : Fields α) (key : String) :
    (fields.erase key).names = fields.names.filter (· ≠ key) := by
  induction fields with
  | nil => rfl
  | cons entry rest ih =>
    obtain ⟨name, value⟩ := entry
    simp only [names] at ih ⊢
    by_cases h : name = key <;> simp [erase, h, ih]

end Fields
end WideColumn
