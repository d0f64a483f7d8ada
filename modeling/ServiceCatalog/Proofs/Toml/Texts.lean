import ServiceCatalog.Proofs.Results
import ServiceCatalog.Toml.Value

/-!
# The texts in values

A text in a value has a place in the file. When fields and tables are added no texts come in but those of what is added.
-/

namespace ServiceCatalog.Toml

/-- A text is in a value and begins at a place. -/
inductive TextAt (place : Nat) (s : String) : Value → Prop
  | text : TextAt place s (.text place s)
  | item {inside : Nat} {ofTables : Bool} {items : List Value} {item : Value} : item ∈ items → TextAt place s item →
    TextAt place s (.array inside ofTables items)
  | field {inside : Nat} {origin : Origin} {fields : Fields} {f : String × Value} : f ∈ fields → TextAt place s f.2 →
    TextAt place s (.table inside origin fields)

/-- A text is in some fields and begins at a place. -/
def TextIn (place : Nat) (s : String) (fields : Fields) : Prop := ∃ f ∈ fields, TextAt place s f.2

/-- A text of a value begins at a place. -/
def Begins (place : Nat) (v : Value) : Prop := ∃ s, TextAt place s v

/-- A text of some fields begins at a place. -/
def BeginsIn (place : Nat) (fields : Fields) : Prop := ∃ s, TextIn place s fields

variable {place : Nat} {s : String} {fields : Fields}

@[simp]
theorem not_textIn_nil : ¬TextIn place s [] := by
  rintro ⟨_, hmem, _⟩
  cases hmem

@[simp]
theorem textAt_table_iff {inside : Nat} {origin : Origin} :
    TextAt place s (.table inside origin fields) ↔ TextIn place s fields := by
  constructor
  · intro h
    cases h with
    | field hmem hat => exact ⟨_, hmem, hat⟩
  · rintro ⟨f, hmem, hat⟩
    exact .field hmem hat

@[simp]
theorem textAt_array_iff {inside : Nat} {ofTables : Bool} {items : List Value} :
    TextAt place s (.array inside ofTables items) ↔ ∃ item ∈ items, TextAt place s item := by
  constructor
  · intro h
    cases h with
    | item hmem hat => exact ⟨_, hmem, hat⟩
  · rintro ⟨item, hmem, hat⟩
    exact .item hmem hat

theorem textIn_append_iff {name : String} {v : Value} :
    TextIn place s (fields ++ [(name, v)]) ↔ TextIn place s fields ∨ TextAt place s v := by
  simp [TextIn, or_and_right, exists_or]

theorem textIn_of_lookup {name : String} {v : Value} (h : fields.lookup name = some v) (hat : TextAt place s v) :
    TextIn place s fields := by
  obtain ⟨l₁, l₂, rfl, -⟩ := List.lookup_eq_some_iff.mp h
  exact ⟨(name, v), by simp, hat⟩

theorem textIn_of_replace {name : String} {v : Value} (h : TextIn place s (replace name v fields)) :
    TextIn place s fields ∨ TextAt place s v := by
  induction fields with
  | nil => exact Or.inl h
  | cons f rest ih =>
    rw [replace] at h
    split at h
    · obtain ⟨g, hmem, hat⟩ := h
      obtain rfl | hmem := List.mem_cons.mp hmem
      · exact Or.inr hat
      · exact Or.inl ⟨g, List.mem_cons_of_mem f hmem, hat⟩
    · obtain ⟨g, hmem, hat⟩ := h
      obtain rfl | hmem := List.mem_cons.mp hmem
      · exact Or.inl ⟨g, List.mem_cons_self, hat⟩
      · refine (ih ⟨g, hmem, hat⟩).imp_left fun ⟨g, hmem, hat⟩ => ⟨g, List.mem_cons_of_mem f hmem, hat⟩

/-! ## Changed fields -/

/-- What a change makes of the fields that a key leads to: a table that is made for it, an open one that is there, or
the last one of a list of tables. -/
theorem changeAt_cons_eq_ok_iff {dotted : Bool} {origin : Origin} {fields more : Fields}
    {change : Origin → Fields → Except Fault Fields} {key : Key} {rest : List Key} :
    changeAt dotted origin fields change (key :: rest) = .ok more ↔
      (fields.lookup key.name = none ∧ ∃ made inner, made = (if dotted then .dotted else .implied) ∧
        changeAt dotted made [] change rest = .ok inner ∧
        more = fields ++ [(key.name, .table key.place made inner)]) ∨
      (∃ place found old inner, fields.lookup key.name = some (.table place found old) ∧ found ≠ .inline ∧
        ¬(dotted = true ∧ found = .header) ∧ changeAt dotted found old change rest = .ok inner ∧
        more = replace key.name (.table place found inner) fields) ∨
      ∃ place items inside found old inner,
        fields.lookup key.name = some (.array place true (items ++ [.table inside found old])) ∧
        changeAt dotted found old change rest = .ok inner ∧
        more = replace key.name (.array place true (items ++ [.table inside found inner])) fields := by
  rw [changeAt]
  constructor
  · intro h
    split at h
    · rename_i hnone
      obtain ⟨inner, hinner, heq⟩ := bind_eq_ok_iff.mp h
      cases heq
      exact Or.inl ⟨hnone, _, inner, rfl, hinner, rfl⟩
    · rename_i place found old hsome
      split_ifs at h with hinline hheader
      obtain ⟨inner, hinner, heq⟩ := bind_eq_ok_iff.mp h
      cases heq
      exact Or.inr (Or.inl ⟨place, found, old, inner, hsome, hinline, hheader, hinner, rfl⟩)
    · rename_i place items hsome
      split at h
      · rename_i inside found old hlast
        obtain ⟨inner, hinner, heq⟩ := bind_eq_ok_iff.mp h
        cases heq
        obtain ⟨items, rfl⟩ := List.getLast?_eq_some_iff.mp hlast
        rw [List.dropLast_concat]
        exact Or.inr (Or.inr ⟨place, items, inside, found, old, inner, hsome, hinner, rfl⟩)
      · cases h
    · cases h
  · rintro (⟨hnone, made, inner, rfl, hinner, rfl⟩ |
      ⟨place, found, old, inner, hsome, hinline, hheader, hinner, rfl⟩ |
      ⟨place, items, inside, found, old, inner, hsome, hinner, rfl⟩)
    · rw [hnone]
      exact bind_eq_ok_iff.mpr ⟨inner, hinner, rfl⟩
    · rw [hsome]
      dsimp only
      rw [if_neg hinline, if_neg hheader]
      exact bind_eq_ok_iff.mpr ⟨inner, hinner, rfl⟩
    · rw [hsome]
      dsimp only
      rw [List.getLast?_concat, List.dropLast_concat]
      exact bind_eq_ok_iff.mpr ⟨inner, hinner, rfl⟩
/-- A change brings no texts with it but those of what it adds. -/
def Adds (added : Nat → String → Prop) (change : Origin → Fields → Except Fault Fields) : Prop :=
  ∀ origin fields more place s, change origin fields = .ok more → TextIn place s more →
    TextIn place s fields ∨ added place s

theorem Adds.changeAt {added : Nat → String → Prop} {change : Origin → Fields → Except Fault Fields}
    (h : Adds added change) {dotted : Bool} {keys : List Key} :
    Adds added fun origin fields => changeAt dotted origin fields change keys := by
  induction keys with
  | nil => exact h
  | cons key keys ih =>
    intro origin fields more place s hchange hin
    obtain ⟨-, made, inner, -, hinner, rfl⟩ |
      ⟨inside, found, old, inner, hlookup, -, -, hinner, rfl⟩ |
      ⟨outside, items, inside, found, old, inner, hlookup, hinner, rfl⟩ := changeAt_cons_eq_ok_iff.mp hchange
    · obtain hin | hat := textIn_append_iff.mp hin
      · exact Or.inl hin
      · exact (ih _ _ _ place s hinner (textAt_table_iff.mp hat)).imp_left fun hnone => absurd hnone not_textIn_nil
    · obtain hin | hat := textIn_of_replace hin
      · exact Or.inl hin
      · exact (ih _ _ _ place s hinner (textAt_table_iff.mp hat)).imp_left fun hin =>
          textIn_of_lookup hlookup (textAt_table_iff.mpr hin)
    · obtain hin | hat := textIn_of_replace hin
      · exact Or.inl hin
      · obtain ⟨item, hmem, hat⟩ := textAt_array_iff.mp hat
        obtain hmem | hmem := List.mem_append.mp hmem
        · exact Or.inl (textIn_of_lookup hlookup (.item (List.mem_append_left _ hmem) hat))
        · obtain rfl := List.mem_singleton.mp hmem
          exact (ih _ _ _ place s hinner (textAt_table_iff.mp hat)).imp_left fun hin =>
            textIn_of_lookup hlookup (.item List.mem_concat_self (textAt_table_iff.mpr hin))

theorem adds_field {path : List Key} {key : Key} {v : Value} :
    Adds (TextAt · · v) fun _ fields => addField path key v fields := by
  intro origin fields more place s hchange hin
  suffices hadds : Adds (TextAt · · v) _ from hadds.changeAt _ _ _ place s hchange hin
  intro origin fields more place s hchange hin
  dsimp only at hchange
  split at hchange
  · cases hchange
  · split at hchange
    · cases hchange
    · cases hchange
      exact textIn_append_iff.mp hin

theorem adds_table {path : List Key} {key : Key} :
    Adds (fun _ _ => False) fun _ fields => addTable path key fields := by
  intro origin fields more place s hchange hin
  suffices hadds : Adds (fun _ _ => False) _ from hadds.changeAt _ _ _ place s hchange hin
  intro origin fields more place s hchange hin
  dsimp only at hchange
  split at hchange
  · cases hchange
    simpa [textIn_append_iff] using hin
  · rename_i hlookup
    cases hchange
    refine Or.inl ((textIn_of_replace hin).elim id fun hat => textIn_of_lookup hlookup ?_)
    simpa using hat
  · cases hchange

theorem adds_tableToList {path : List Key} {key : Key} :
    Adds (fun _ _ => False) fun _ fields => addTableToList path key fields := by
  intro origin fields more place s hchange hin
  suffices hadds : Adds (fun _ _ => False) _ from hadds.changeAt _ _ _ place s hchange hin
  intro origin fields more place s hchange hin
  dsimp only at hchange
  split at hchange
  · cases hchange
    simpa [textIn_append_iff] using hin
  · rename_i hlookup
    cases hchange
    refine Or.inl ((textIn_of_replace hin).elim id fun hat => textIn_of_lookup hlookup ?_)
    simpa [or_and_right, exists_or] using hat
  · cases hchange

theorem not_beginsIn_nil : ¬BeginsIn place [] := fun ⟨_, hin⟩ => not_textIn_nil hin

theorem begins_table_iff {inside : Nat} {origin : Origin} :
    Begins place (.table inside origin fields) ↔ BeginsIn place fields := by
  simp [Begins, BeginsIn]

theorem begins_array_iff {inside : Nat} {ofTables : Bool} {items : List Value} :
    Begins place (.array inside ofTables items) ↔ ∃ item ∈ items, Begins place item := by
  simp only [Begins, textAt_array_iff]
  exact ⟨fun ⟨s, item, hmem, hat⟩ => ⟨item, hmem, s, hat⟩, fun ⟨item, hmem, s, hat⟩ => ⟨s, item, hmem, hat⟩⟩

end ServiceCatalog.Toml
