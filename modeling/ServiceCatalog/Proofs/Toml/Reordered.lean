import Mathlib.Data.List.Forall2
import ServiceCatalog.Proofs.Named
import ServiceCatalog.Proofs.Toml.Places

/-!
# Values with the fields of their tables in another order

What is read from a file has no table with two fields of one name, so a field can be found by its name wherever it
stands. Fields and tables are added in the same way whatever the order of those that are there.
-/

namespace ServiceCatalog.Toml

mutual

/-- A value and the same at other places, with the fields of its tables in another order. -/
inductive Reordered : Value → Value → Prop
  | text {place place' : Nat} {s : String} : Reordered (.text place s) (.text place' s)
  | integer {place place' : Nat} {n : Int} : Reordered (.integer place n) (.integer place' n)
  | real {place place' : Nat} : Reordered (.real place) (.real place')
  | truth {place place' : Nat} {b : Bool} : Reordered (.truth place b) (.truth place' b)
  | moment {place place' : Nat} : Reordered (.moment place) (.moment place')
  | array {place place' : Nat} {ofTables : Bool} {items items' : List Value} : List.Forall₂ Reordered items items' →
    Reordered (.array place ofTables items) (.array place' ofTables items')
  | table {place place' : Nat} {origin : Origin} {fields fields' : Fields} : ReorderedFields fields fields' →
    Reordered (.table place origin fields) (.table place' origin fields')

/-- Fields of different names and the same in another order. -/
inductive ReorderedFields : Fields → Fields → Prop
  | mk {fields fields' : Fields} : (fields.map Prod.fst).Nodup → (fields'.map Prod.fst).Nodup →
    (∀ name, Option.Rel Reordered (fields.lookup name) (fields'.lookup name)) → ReorderedFields fields fields'

end

/-! ## Changes of fields -/

section Changes

variable {fields fields' : Fields} {name : String} {v v' : Value}

theorem names_replace (name : String) (v : Value) (fields : Fields) :
    (replace name v fields).map Prod.fst = fields.map Prod.fst := by
  induction fields with
  | nil => rfl
  | cons f rest ih =>
    rw [replace]
    split
    · rename_i hname
      rw [List.map_cons, List.map_cons, hname]
    · rw [List.map_cons, List.map_cons, ih]

theorem lookup_replace_self (h : (fields.lookup name).isSome = true) :
    (replace name v fields).lookup name = some v := by
  induction fields with
  | nil => cases h
  | cons f rest ih =>
    rw [replace]
    split
    · exact List.lookup_cons_self
    · rename_i hname
      have hother : (name == f.1) = false := by simpa using Ne.symm hname
      rw [List.lookup_cons, hother] at h ⊢
      exact ih h

theorem lookup_replace_of_ne {other : String} (h : other ≠ name) :
    (replace name v fields).lookup other = fields.lookup other := by
  have hother : (other == name) = false := by simpa using h
  induction fields with
  | nil => rfl
  | cons f rest ih =>
    rw [replace]
    split
    · rename_i hname
      rw [List.lookup_cons, List.lookup_cons, hname, hother]
    · rw [List.lookup_cons, List.lookup_cons, ih]

theorem lookup_concat_self (h : fields.lookup name = none) : (fields ++ [(name, v)]).lookup name = some v := by
  rw [List.lookup_append, h, Option.none_or, List.lookup_cons_self]

theorem lookup_concat_of_ne {other : String} (h : other ≠ name) :
    (fields ++ [(name, v)]).lookup other = fields.lookup other := by
  have hother : (other == name) = false := by simpa using h
  rw [List.lookup_append, List.lookup_cons, hother, List.lookup_nil, Option.or_none]

theorem nodup_concat (h : (fields.map Prod.fst).Nodup) (hname : fields.lookup name = none) :
    ((fields ++ [(name, v)]).map Prod.fst).Nodup := by
  rw [List.map_append, List.map_singleton, ← List.concat_eq_append]
  exact List.Nodup.concat (lookup_eq_none_iff.mp hname) h

namespace ReorderedFields

theorem nil : ReorderedFields [] [] := .mk .nil .nil fun _ => .none

theorem nodup (h : ReorderedFields fields fields') : (fields.map Prod.fst).Nodup := by
  cases h with
  | mk hnodup => exact hnodup

theorem lookup (h : ReorderedFields fields fields') (name : String) :
    Option.Rel Reordered (fields.lookup name) (fields'.lookup name) := by
  cases h with
  | mk _ _ hlookup => exact hlookup name

/-- A name stands in both or in neither. -/
theorem lookup_cases (h : ReorderedFields fields fields') (name : String) :
    (fields.lookup name = none ∧ fields'.lookup name = none) ∨
      ∃ v v', fields.lookup name = some v ∧ fields'.lookup name = some v' ∧ Reordered v v' := by
  have hrel := h.lookup name
  generalize fields.lookup name = found at hrel
  generalize fields'.lookup name = found' at hrel
  cases hrel with
  | none => exact Or.inl ⟨rfl, rfl⟩
  | some hv => exact Or.inr ⟨_, _, rfl, rfl, hv⟩

theorem replace {old old' : Value} (h : ReorderedFields fields fields') (hv : Reordered v v')
    (hname : fields.lookup name = some old) (hname' : fields'.lookup name = some old') :
    ReorderedFields (replace name v fields) (replace name v' fields') := by
  cases h with
  | mk hnodup hnodup' hlookup =>
    refine .mk (by rwa [names_replace]) (by rwa [names_replace]) fun other => ?_
    by_cases hother : other = name
    · rw [hother, lookup_replace_self (by rw [hname, Option.isSome_some]),
        lookup_replace_self (by rw [hname', Option.isSome_some])]
      exact .some hv
    · rw [lookup_replace_of_ne hother, lookup_replace_of_ne hother]
      exact hlookup other

theorem concat (h : ReorderedFields fields fields') (hv : Reordered v v') (hname : fields.lookup name = none)
    (hname' : fields'.lookup name = none) : ReorderedFields (fields ++ [(name, v)]) (fields' ++ [(name, v')]) := by
  cases h with
  | mk hnodup hnodup' hlookup =>
    refine .mk (nodup_concat hnodup hname) (nodup_concat hnodup' hname') fun other => ?_
    by_cases hother : other = name
    · rw [hother, lookup_concat_self hname, lookup_concat_self hname']
      exact .some hv
    · rw [lookup_concat_of_ne hother, lookup_concat_of_ne hother]
      exact hlookup other

end ReorderedFields

end Changes

/-- Two changes that fail both, or make reordered fields of reordered ones. -/
def ActsAlike (change change' : Origin → Fields → Except Fault Fields) : Prop :=
  ∀ (origin : Origin) {fields fields' : Fields}, ReorderedFields fields fields' →
    Agree ReorderedFields (change origin fields) (change' origin fields')

section Alike

variable {path path' : List Key} {key key' : Key}

theorem forall₂_getLast? {α β : Type} {R : α → β → Prop} {xs : List α} {ys : List β} (h : List.Forall₂ R xs ys) :
    Option.Rel R xs.getLast? ys.getLast? := by
  induction h with
  | nil => exact .none
  | cons hfirst hrest ih =>
    cases hrest with
    | nil => exact .some hfirst
    | cons hsecond hrest => rwa [List.getLast?_cons_cons, List.getLast?_cons_cons]

theorem forall₂_dropLast {α β : Type} {R : α → β → Prop} {xs : List α} {ys : List β} (h : List.Forall₂ R xs ys) :
    List.Forall₂ R xs.dropLast ys.dropLast := by
  induction h with
  | nil => exact .nil
  | cons hfirst hrest ih =>
    cases hrest with
    | nil => exact .nil
    | cons hsecond hrest => exact .cons hfirst ih

theorem ActsAlike.changeAt {change change' : Origin → Fields → Except Fault Fields} (h : ActsAlike change change')
    {dotted : Bool} {keys keys' : List Key} (hkeys : keys'.map Key.name = keys.map Key.name) :
    ActsAlike (fun origin fields => changeAt dotted origin fields change keys)
      fun origin fields => changeAt dotted origin fields change' keys' := by
  induction keys generalizing keys' with
  | nil =>
    obtain rfl := List.map_eq_nil_iff.mp hkeys
    exact h
  | cons key keys ih =>
    obtain ⟨key', keys', rfl, hname, hrest⟩ := List.map_eq_cons_iff.mp hkeys
    intro origin fields fields' hfields
    dsimp only
    rw [Toml.changeAt, Toml.changeAt, hname]
    obtain ⟨hnone, hnone'⟩ | ⟨v, v', hsome, hsome', hv⟩ := hfields.lookup_cases key.name
    · rw [hnone, hnone']
      exact (ih hrest _ .nil).bind fun inner inner' hinner => .ok (hfields.concat (.table hinner) hnone hnone')
    · rw [hsome, hsome']
      cases hv with
      | table hold =>
        dsimp only
        split_ifs
        · exact .error
        · exact .error
        · exact (ih hrest _ hold).bind fun inner inner' hinner => .ok (hfields.replace (.table hinner) hsome hsome')
      | @array _ _ ofTables items items' hitems =>
        cases ofTables with
        | false => exact .error
        | true =>
          dsimp only
          have hlast := forall₂_getLast? hitems
          generalize items.getLast? = last at hlast
          generalize items'.getLast? = last' at hlast
          cases hlast with
          | none => exact .error
          | some hlast =>
            cases hlast with
            | table hold =>
              refine (ih hrest _ hold).bind fun inner inner' hinner => .ok ?_
              exact hfields.replace (.array (List.rel_append (forall₂_dropLast hitems) (.cons (.table hinner) .nil)))
                hsome hsome'
            | _ => exact .error
      | _ => exact .error

theorem ActsAlike.addField {v v' : Value} (hpath : path'.map Key.name = path.map Key.name)
    (hkey : key'.name = key.name) (hv : Reordered v v') :
    ActsAlike (fun _ fields => addField path key v fields) fun _ fields => addField path' key' v' fields := by
  intro origin fields fields' hfields
  refine ActsAlike.changeAt ?_ hpath _ hfields
  intro origin fields fields' hfields
  have hempty : path'.isEmpty = path.isEmpty := by rw [← List.isEmpty_map, hpath, List.isEmpty_map]
  dsimp only
  rw [hempty, hkey]
  split_ifs
  · exact .error
  · obtain ⟨hnone, hnone'⟩ | ⟨_, _, hsome, hsome', -⟩ := hfields.lookup_cases key.name
    · rw [hnone, hnone']
      exact .ok (hfields.concat hv hnone hnone')
    · rw [hsome, hsome']
      exact .error

theorem ActsAlike.addTable (hpath : path'.map Key.name = path.map Key.name) (hkey : key'.name = key.name) :
    ActsAlike (fun _ fields => addTable path key fields) fun _ fields => addTable path' key' fields := by
  intro origin fields fields' hfields
  refine ActsAlike.changeAt ?_ hpath _ hfields
  intro origin fields fields' hfields
  dsimp only
  rw [hkey]
  obtain ⟨hnone, hnone'⟩ | ⟨_, _, hsome, hsome', hv⟩ := hfields.lookup_cases key.name
  · rw [hnone, hnone']
    exact .ok (hfields.concat (.table .nil) hnone hnone')
  · rw [hsome, hsome']
    cases hv with
    | @table _ _ found _ _ hold =>
      cases found with
      | implied => exact .ok (hfields.replace (.table hold) hsome hsome')
      | _ => exact .error
    | _ => exact .error

theorem ActsAlike.addTableToList (hpath : path'.map Key.name = path.map Key.name) (hkey : key'.name = key.name) :
    ActsAlike (fun _ fields => addTableToList path key fields)
      fun _ fields => addTableToList path' key' fields := by
  intro origin fields fields' hfields
  refine ActsAlike.changeAt ?_ hpath _ hfields
  intro origin fields fields' hfields
  have hadded : List.Forall₂ Reordered [.table key.place .header []] [.table key'.place .header []] :=
    .cons (.table .nil) .nil
  dsimp only
  rw [hkey]
  obtain ⟨hnone, hnone'⟩ | ⟨_, _, hsome, hsome', hv⟩ := hfields.lookup_cases key.name
  · rw [hnone, hnone']
    exact .ok (hfields.concat (.array hadded) hnone hnone')
  · rw [hsome, hsome']
    cases hv with
    | @array _ _ ofTables _ _ hitems =>
      cases ofTables with
      | true => exact .ok (hfields.replace (.array (List.rel_append hitems hadded)) hsome hsome')
      | false => exact .error
    | _ => exact .error

end Alike

/-! ## What is read -/

theorem reordered_of_agree {x : Except Fault Fields} {fields : Fields} (h : Agree ReorderedFields x x)
    (hx : x = .ok fields) : ReorderedFields fields fields := by
  rw [hx] at h
  cases h with
  | ok hfields => exact hfields

theorem scalar?_reordered {place : Nat} {text : List Char} {v : Value} (h : scalar? place text = some v) :
    Reordered v v := by
  obtain ⟨make, -, rfl, hkind⟩ := scalar?_kinds h
  obtain ⟨b, rfl⟩ | ⟨n, rfl⟩ | rfl | rfl := hkind
  · exact .truth
  · exact .integer
  · exact .real
  · exact .moment

mutual

theorem ReadsValue.reordered {room : Nat} {cs rest : List Char} {v : Value} : ReadsValue room cs v rest → Reordered v v
  | .text _ => .text
  | .scalar _ _ _ _ hscalar => scalar?_reordered hscalar
  | .array hitems => .array hitems.reordered
  | .table hfields => .table (hfields.reordered .nil)

theorem ReadsItem.reordered {room : Nat} {cs mid : List Char} {item : Value} :
    ReadsItem room cs item mid → Reordered item item
  | .mk _ _ hitem => hitem.reordered

theorem ReadsItems.reordered {room : Nat} {cs rest : List Char} {vs : List Value} :
    ReadsItems room cs vs rest → List.Forall₂ Reordered vs vs
  | .close _ => .nil
  | .last hitem _ => .cons hitem.reordered .nil
  | .cons hitem _ hmore => .cons hitem.reordered hmore.reordered

theorem ReadsPair.reordered {room : Nat} {cs mid : List Char} {path : List Key} {key : Key} {v : Value} :
    ReadsPair room cs path key v mid → Reordered v v
  | .mk _ hv => hv.reordered

theorem ReadsField.reordered {room : Nat} {fields added : Fields} {cs mid : List Char} {v : Value} :
    ReadsField room fields cs v added mid → ReorderedFields fields fields → ReorderedFields added added
  | .mk _ _ hpair hadded, hfields =>
    reordered_of_agree (ActsAlike.addField rfl rfl hpair.reordered .header hfields) hadded

theorem ReadsFields.reordered {room : Nat} {fields more : Fields} {cs rest : List Char} :
    ReadsFields room fields cs more rest → ReorderedFields fields fields → ReorderedFields more more
  | .close _, hfields => hfields
  | .last hfield _, hfields => hfield.reordered hfields
  | .cons hfield _ hmore, hfields => hmore.reordered (hfield.reordered hfields)

end

end ServiceCatalog.Toml
