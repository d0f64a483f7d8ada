import Mathlib.Data.List.Forall2
import ServiceCatalog.Proofs.Toml.Texts

/-!
# Values with other texts at some places

A filling says which texts stand at some places of a file instead of those that do. Values that differ in this and in
their places only stay so when fields and tables are added.
-/

namespace ServiceCatalog.Toml

mutual

/-- A value and the same at other places, with the texts of a filling at the places that it names. -/
inductive Filled (filling : Nat → Option String) : Value → Value → Prop
  | text {place place' : Nat} {s : String} : Filled filling (.text place s) (.text place' ((filling place).getD s))
  | integer {place place' : Nat} {n : Int} : Filled filling (.integer place n) (.integer place' n)
  | real {place place' : Nat} : Filled filling (.real place) (.real place')
  | truth {place place' : Nat} {b : Bool} : Filled filling (.truth place b) (.truth place' b)
  | moment {place place' : Nat} : Filled filling (.moment place) (.moment place')
  | array {place place' : Nat} {ofTables : Bool} {items items' : List Value} :
    List.Forall₂ (Filled filling) items items' →
    Filled filling (.array place ofTables items) (.array place' ofTables items')
  | table {place place' : Nat} {origin : Origin} {fields fields' : Fields} :
    List.Forall₂ (FilledField filling) fields fields' →
    Filled filling (.table place origin fields) (.table place' origin fields')

/-- A field and the same with a filled value. -/
inductive FilledField (filling : Nat → Option String) : String × Value → String × Value → Prop
  | mk {name : String} {v v' : Value} : Filled filling v v' → FilledField filling (name, v) (name, v')

end

/-- Fields and the same with filled values. -/
def FilledFields (filling : Nat → Option String) : Fields → Fields → Prop := List.Forall₂ (FilledField filling)

section Fillings

variable {filling : Nat → Option String} {fields fields' : Fields}

theorem FilledFields.append {more more' : Fields} (h : FilledFields filling fields fields')
    (hmore : FilledFields filling more more') : FilledFields filling (fields ++ more) (fields' ++ more') :=
  List.rel_append h hmore

theorem FilledFields.lookup (h : FilledFields filling fields fields') (name : String) :
    Option.Rel (Filled filling) (fields.lookup name) (fields'.lookup name) := by
  induction h with
  | nil => exact .none
  | cons hfield _ ih =>
    obtain ⟨hv⟩ := hfield
    rw [List.lookup_cons, List.lookup_cons]
    split
    · exact .some hv
    · exact ih

theorem FilledFields.replace {v v' : Value} (h : FilledFields filling fields fields') (hv : Filled filling v v')
    (name : String) : FilledFields filling (replace name v fields) (replace name v' fields') := by
  induction h with
  | nil => exact .nil
  | cons hfield hrest ih =>
    obtain ⟨hold⟩ := hfield
    unfold Toml.replace
    dsimp only
    split
    · exact .cons ⟨hv⟩ hrest
    · exact .cons ⟨hold⟩ ih

theorem forall₂_concat_left {α β : Type} {R : α → β → Prop} {xs : List α} {x : α} {ys : List β}
    (h : List.Forall₂ R (xs ++ [x]) ys) : ∃ ys' y, ys = ys' ++ [y] ∧ List.Forall₂ R xs ys' ∧ R x y := by
  induction xs generalizing ys with
  | nil =>
    obtain _ | ⟨hx, ⟨⟩⟩ := h
    exact ⟨[], _, rfl, .nil, hx⟩
  | cons a xs ih =>
    obtain _ | ⟨ha, hrest⟩ := h
    obtain ⟨ys', y, rfl, hxs, hx⟩ := ih hrest
    exact ⟨_ :: ys', y, rfl, .cons ha hxs, hx⟩

/-- What one change makes of some fields, another makes of filled ones. -/
def FillsAlike (filling : Nat → Option String) (change change' : Origin → Fields → Except Fault Fields) : Prop :=
  ∀ (origin : Origin) {fields fields' more : Fields}, FilledFields filling fields fields' →
    change origin fields = .ok more → ∃ more', change' origin fields' = .ok more' ∧ FilledFields filling more more'

/-- What is found under a name is found filled in the filled fields. -/
theorem FilledFields.lookup_some {name : String} {v : Value} (h : FilledFields filling fields fields')
    (hlookup : fields.lookup name = some v) : ∃ v', fields'.lookup name = some v' ∧ Filled filling v v' := by
  have hrel := h.lookup name
  rw [hlookup] at hrel
  generalize fields'.lookup name = found at hrel
  cases hrel with
  | some hv => exact ⟨_, rfl, hv⟩

theorem FilledFields.lookup_none {name : String} (h : FilledFields filling fields fields')
    (hlookup : fields.lookup name = none) : fields'.lookup name = none := by
  have hrel := h.lookup name
  rw [hlookup] at hrel
  generalize fields'.lookup name = found at hrel
  cases hrel
  rfl

theorem FillsAlike.changeAt {change change' : Origin → Fields → Except Fault Fields}
    (h : FillsAlike filling change change') {dotted : Bool} {keys keys' : List Key}
    (hkeys : keys'.map Key.name = keys.map Key.name) :
    FillsAlike filling (fun origin fields => changeAt dotted origin fields change keys)
      fun origin fields => changeAt dotted origin fields change' keys' := by
  induction keys generalizing keys' with
  | nil =>
    obtain rfl := List.map_eq_nil_iff.mp hkeys
    exact h
  | cons key keys ih =>
    obtain ⟨key', keys', rfl, hname, hrest⟩ := List.map_eq_cons_iff.mp hkeys
    intro origin fields fields' more hfields hchange
    dsimp only
    simp only [changeAt_cons_eq_ok_iff, hname]
    obtain ⟨hnone, made, inner, hmade, hinner, rfl⟩ |
      ⟨place, found, old, inner, hsome, hinline, hheader, hinner, rfl⟩ |
      ⟨place, items, inside, found, old, inner, hsome, hinner, rfl⟩ := changeAt_cons_eq_ok_iff.mp hchange
    · obtain ⟨inner', hinner', hfilled⟩ := ih hrest _ .nil hinner
      exact ⟨_, Or.inl ⟨hfields.lookup_none hnone, made, inner', hmade, hinner', rfl⟩,
        hfields.append (.cons ⟨.table hfilled⟩ .nil)⟩
    · obtain ⟨_, hsome', hv⟩ := hfields.lookup_some hsome
      cases hv with
      | table hold =>
        obtain ⟨inner', hinner', hfilled⟩ := ih hrest _ hold hinner
        exact ⟨_, Or.inr (Or.inl ⟨_, _, _, inner', hsome', hinline, hheader, hinner', rfl⟩),
          hfields.replace (.table hfilled) _⟩
    · obtain ⟨_, hsome', hv⟩ := hfields.lookup_some hsome
      cases hv with
      | array hitems =>
        obtain ⟨items', last', rfl, hfront, hlast⟩ := forall₂_concat_left hitems
        cases hlast with
        | table hold =>
          obtain ⟨inner', hinner', hfilled⟩ := ih hrest _ hold hinner
          exact ⟨_, Or.inr (Or.inr ⟨_, _, _, _, _, inner', hsome', hinner', rfl⟩),
            hfields.replace (.array (List.rel_append hfront (.cons (.table hfilled) .nil))) _⟩

variable {path path' : List Key} {key key' : Key} {more : Fields}

theorem FillsAlike.addField {v v' : Value} (hpath : path'.map Key.name = path.map Key.name)
    (hkey : key'.name = key.name) (hv : Filled filling v v') :
    FillsAlike filling (fun _ fields => addField path key v fields) fun _ fields => addField path' key' v' fields := by
  intro origin fields fields' more hfields hchange
  refine FillsAlike.changeAt ?_ hpath _ hfields hchange
  intro origin fields fields' more hfields hchange
  have hempty : path'.isEmpty = path.isEmpty := by rw [← List.isEmpty_map, hpath, List.isEmpty_map]
  dsimp only at hchange ⊢
  rw [hempty, hkey]
  split at hchange
  · cases hchange
  · rename_i hopen
    rw [if_neg hopen]
    split at hchange
    · cases hchange
    · rename_i hnone
      cases hchange
      rw [hfields.lookup_none hnone]
      exact ⟨_, rfl, hfields.append (.cons ⟨hv⟩ .nil)⟩

theorem FillsAlike.addTable (hpath : path'.map Key.name = path.map Key.name) (hkey : key'.name = key.name) :
    FillsAlike filling (fun _ fields => addTable path key fields) fun _ fields => addTable path' key' fields := by
  intro origin fields fields' more hfields hchange
  refine FillsAlike.changeAt ?_ hpath _ hfields hchange
  intro origin fields fields' more hfields hchange
  dsimp only at hchange ⊢
  rw [hkey]
  split at hchange
  · rename_i hnone
    cases hchange
    rw [hfields.lookup_none hnone]
    exact ⟨_, rfl, hfields.append (.cons ⟨.table .nil⟩ .nil)⟩
  · rename_i hsome
    cases hchange
    obtain ⟨_, hsome', hv⟩ := hfields.lookup_some hsome
    rw [hsome']
    cases hv with
    | table hfound => exact ⟨_, rfl, hfields.replace (.table hfound) _⟩
  · cases hchange

theorem FillsAlike.addTableToList (hpath : path'.map Key.name = path.map Key.name) (hkey : key'.name = key.name) :
    FillsAlike filling (fun _ fields => addTableToList path key fields)
      fun _ fields => addTableToList path' key' fields := by
  intro origin fields fields' more hfields hchange
  refine FillsAlike.changeAt ?_ hpath _ hfields hchange
  intro origin fields fields' more hfields hchange
  have hadded : List.Forall₂ (Filled filling) [.table key.place .header []] [.table key'.place .header []] :=
    .cons (.table .nil) .nil
  dsimp only at hchange ⊢
  rw [hkey]
  split at hchange
  · rename_i hnone
    cases hchange
    rw [hfields.lookup_none hnone]
    exact ⟨_, rfl, hfields.append (.cons ⟨.array hadded⟩ .nil)⟩
  · rename_i hsome
    cases hchange
    obtain ⟨_, hsome', hv⟩ := hfields.lookup_some hsome
    rw [hsome']
    cases hv with
    | array hitems => exact ⟨_, rfl, hfields.replace (.array (List.rel_append hitems hadded)) _⟩
  · cases hchange

end Fillings

end ServiceCatalog.Toml
