import ServiceCatalog.Proofs.Config.Plain
import ServiceCatalog.Proofs.Toml.Sections

/-!
# The order of a configuration file

A configuration is read from the fields of a file by their names, and its profiles are listed in the order of theirs.
It is the same for every order of the file, and no two of its profiles have the same name.
-/

namespace ServiceCatalog.Config

open Toml

/-- No two profiles have the same name. -/
def NamesDistinct (config : Config) : Prop := (config.profiles.map Prod.fst).Nodup

/-! ## Settings -/

section Settings

variable {o o' : Option Value} {fields fields' : Fields}

theorem optional_text_reordered (h : Option.Rel Reordered o o') : Agree Eq (optional text o) (optional text o') := by
  cases h with
  | none => exact .ok rfl
  | some hv =>
    cases hv with
    | text => exact .ok rfl
    | _ => exact .error

theorem optional_truth_reordered (h : Option.Rel Reordered o o') : Agree Eq (optional truth o) (optional truth o') := by
  cases h with
  | none => exact .ok rfl
  | some hv =>
    cases hv with
    | truth => exact .ok rfl
    | _ => exact .error

theorem optional_seconds_reordered (h : Option.Rel Reordered o o') :
    Agree Eq (optional seconds o) (optional seconds o') := by
  cases h with
  | none => exact .ok rfl
  | some hv =>
    cases hv with
    | integer =>
      rw [optional, optional, seconds, seconds]
      split_ifs
      · exact .ok rfl
      · exact .error
    | _ => exact .error

theorem Profile.ofFields_reordered (h : ReorderedFields fields fields') :
    Agree Eq (Profile.ofFields fields) (Profile.ofFields fields') := by
  refine (optional_text_reordered (h.lookup _)).bind fun caFile _ heq => heq ▸ ?_
  refine (optional_text_reordered (h.lookup _)).bind fun certFile _ heq => heq ▸ ?_
  refine (optional_text_reordered (h.lookup _)).bind fun cluster _ heq => heq ▸ ?_
  refine (optional_text_reordered (h.lookup _)).bind fun keyFile _ heq => heq ▸ ?_
  refine (optional_text_reordered (h.lookup _)).bind fun region _ heq => heq ▸ ?_
  refine (optional_seconds_reordered (h.lookup _)).bind fun requestTimeout _ heq => heq ▸ ?_
  refine (optional_text_reordered (h.lookup _)).bind fun serverUrl _ heq => heq ▸ ?_
  refine (optional_truth_reordered (h.lookup _)).bind fun tlsEnabled _ heq => heq ▸ ?_
  refine (optional_seconds_reordered (h.lookup _)).bind fun waitInterval _ heq => heq ▸ ?_
  refine (optional_seconds_reordered (h.lookup _)).bind fun waitTimeout _ heq => heq ▸ ?_
  exact .ok rfl

theorem reorderedFields_zip {names : List String} (hnames : names.Nodup) {items items' : List Value}
    (h : List.Forall₂ Reordered items items') : ReorderedFields (names.zip items) (names.zip items') := by
  have hnodup (items : List Value) : ((names.zip items).map Prod.fst).Nodup := by
    rw [List.zip_eq_zip_take_min, List.map_fst_zip (by simp)]
    exact hnames.sublist (List.take_sublist _ names)
  refine .mk (hnodup items) (hnodup items') fun name => ?_
  clear hnodup hnames
  induction h generalizing names with
  | nil =>
    rw [List.zip_nil_right]
    exact .none
  | cons hv _ ih =>
    cases names with
    | nil => exact .none
    | cons first names =>
      rw [List.zip_cons_cons, List.zip_cons_cons, List.lookup_cons, List.lookup_cons]
      split
      · exact .some hv
      · exact ih

theorem Profile.ofValue_reordered {v v' : Value} (h : Reordered v v') :
    Agree Eq (Profile.ofValue v) (Profile.ofValue v') := by
  cases h with
  | table hfields => exact Profile.ofFields_reordered hfields
  | array hitems =>
    rw [Profile.ofValue, Profile.ofValue, hitems.length_eq]
    split_ifs
    · exact Profile.ofFields_reordered (reorderedFields_zip (by decide) hitems)
    · exact .error
  | _ => exact .error

end Settings

/-! ## Profiles -/

section Profiles

variable {fields fields' : Fields}

theorem nodup_ordered (h : (fields.map Prod.fst).Nodup) : ((ordered fields).map Prod.fst).Nodup :=
  ((List.mergeSort_perm fields _).map Prod.fst).nodup_iff.mpr h

theorem pairwise_ordered (fields : Fields) : ((ordered fields).map Prod.fst).Pairwise (· ≤ ·) := by
  have hsorted : (ordered fields).Pairwise fun a b => decide (a.1 ≤ b.1) = true := by
    refine List.pairwise_mergeSort (fun a b c hab hbc => ?_) (fun a b => ?_) fields
    · exact decide_eq_true (String.le_trans (of_decide_eq_true hab) (of_decide_eq_true hbc))
    · simpa using String.le_total a.1 b.1
  rw [List.pairwise_map]
  exact hsorted.imp fun h => of_decide_eq_true h

/-- Lists with the same names in the same order have related values in the same order. -/
theorem forall₂_of_names {R : Value → Value → Prop} (hnames : fields.map Prod.fst = fields'.map Prod.fst)
    (hnodup : (fields.map Prod.fst).Nodup) (h : ∀ name, Option.Rel R (fields.lookup name) (fields'.lookup name)) :
    List.Forall₂ (fun f f' => f.1 = f'.1 ∧ R f.2 f'.2) fields fields' := by
  induction fields generalizing fields' with
  | nil =>
    obtain rfl := List.map_eq_nil_iff.mp hnames.symm
    exact .nil
  | cons f fields ih =>
    obtain ⟨f', fields', rfl, hname, hrest⟩ := List.map_eq_cons_iff.mp hnames.symm
    rw [List.map_cons, List.nodup_cons] at hnodup
    refine .cons ⟨hname.symm, ?_⟩ (ih hrest.symm hnodup.2 fun name => ?_)
    · have hfirst := h f.1
      rw [List.lookup_cons, List.lookup_cons, hname, beq_self_eq_true] at hfirst
      cases hfirst with
      | some hv => exact hv
    · by_cases hother : name = f.1
      · have hnone' : fields'.lookup name = none := lookup_eq_none_iff.mpr (by rw [hrest, hother]; exact hnodup.1)
        rw [lookup_eq_none_iff.mpr (hother ▸ hnodup.1), hnone']
        exact .none
      · have hne : (name == f.1) = false := by simpa using hother
        have hrel := h name
        rw [List.lookup_cons, List.lookup_cons, hname, hne] at hrel
        exact hrel

theorem ordered_reordered (h : ReorderedFields fields fields') :
    List.Forall₂ (fun f f' => f.1 = f'.1 ∧ Reordered f.2 f'.2) (ordered fields) (ordered fields') := by
  cases h with
  | mk hnodup hnodup' hlookup =>
    have hmem (name : String) : name ∈ fields.map Prod.fst ↔ name ∈ fields'.map Prod.fst := by
      rw [← not_iff_not, ← lookup_eq_none_iff, ← lookup_eq_none_iff]
      have hrel := hlookup name
      generalize fields.lookup name = found at hrel ⊢
      generalize fields'.lookup name = found' at hrel ⊢
      cases hrel <;> simp
    have hperm : (fields.map Prod.fst).Perm (fields'.map Prod.fst) :=
      (List.perm_ext_iff_of_nodup hnodup hnodup').mpr hmem
    have horder (fields : Fields) : (ordered fields).Perm fields := List.mergeSort_perm fields _
    refine forall₂_of_names ?_ (nodup_ordered hnodup) fun name => ?_
    · refine List.Perm.eq_of_pairwise (fun a b _ _ => String.le_antisymm) (pairwise_ordered _) (pairwise_ordered _) ?_
      exact (((horder fields).map Prod.fst).trans hperm).trans ((horder fields').map Prod.fst).symm
    · rw [lookup_eq_of_perm (horder fields) (nodup_ordered hnodup),
        lookup_eq_of_perm (horder fields') (nodup_ordered hnodup')]
      exact hlookup name

theorem agree_mapM {α β : Type} {P : α → α → Prop} {f : α → Except Fault β} {items items' : List α}
    (h : List.Forall₂ P items items') (hstep : ∀ a a', P a a' → Agree Eq (f a) (f a')) :
    Agree Eq (items.mapM f) (items'.mapM f) := by
  induction h with
  | nil => exact .ok rfl
  | cons hfirst _ ih =>
    rw [List.mapM_cons, List.mapM_cons]
    refine (hstep _ _ hfirst).bind fun first _ heq => heq ▸ ?_
    exact ih.bind fun rest _ heq => heq ▸ .ok rfl

theorem profilesOf_reordered {v v' : Value} (h : Reordered v v') : Agree Eq (profilesOf v) (profilesOf v') := by
  cases h with
  | table hfields =>
    refine agree_mapM (ordered_reordered hfields) fun f f' hf => ?_
    rw [hf.1]
    exact (Profile.ofValue_reordered hf.2).map fun profile _ heq => heq ▸ rfl
  | _ => exact .error

/-- The order of the fields of a file does not matter. -/
theorem ofFields_reordered (h : ReorderedFields fields fields') : Agree Eq (ofFields fields) (ofFields fields') := by
  refine (optional_text_reordered (h.lookup _)).bind fun defaultProfile _ heq => heq ▸ ?_
  refine Agree.bind (R := Eq) ?_ fun profiles _ heq => heq ▸ .ok rfl
  obtain ⟨hnone, hnone'⟩ | ⟨v, v', hsome, hsome', hv⟩ := h.lookup_cases "profiles"
  · rw [hnone, hnone']
    exact .ok rfl
  · rw [hsome, hsome']
    exact (profilesOf_reordered hv).map fun profiles _ heq => heq ▸ rfl

theorem names_profiles {profiles : List (String × Profile)}
    (h : (fields.mapM fun f => (Profile.ofValue f.2).map fun profile => (f.1, profile)) = .ok profiles) :
    profiles.map Prod.fst = fields.map Prod.fst := by
  induction fields generalizing profiles with
  | nil =>
    cases h
    rfl
  | cons f fields ih =>
    rw [List.mapM_cons] at h
    obtain ⟨_, hfirst, h⟩ := bind_eq_ok_iff.mp h
    obtain ⟨rest, hrest, heq⟩ := bind_eq_ok_iff.mp h
    obtain ⟨profile, -, rfl⟩ := map_eq_ok_iff.mp hfirst
    cases heq
    rw [List.map_cons, List.map_cons, ih hrest]

theorem namesDistinct_ofFields (hfields : ReorderedFields fields fields) {config : Config}
    (h : ofFields fields = .ok config) : config.NamesDistinct := by
  obtain ⟨defaultProfile, -, h⟩ := bind_eq_ok_iff.mp h
  obtain ⟨profiles, hprofiles, heq⟩ := bind_eq_ok_iff.mp h
  cases heq
  obtain ⟨hnone, -⟩ | ⟨v, v', hsome, -, hv⟩ := hfields.lookup_cases "profiles"
  · rw [hnone] at hprofiles
    cases hprofiles
    exact .nil
  · rw [hsome] at hprofiles
    obtain ⟨found, hfound, rfl⟩ := map_eq_ok_iff.mp hprofiles
    cases hv with
    | table htables =>
      rw [NamesDistinct, Option.getD_some, names_profiles hfound]
      exact nodup_ordered htables.nodup
    | _ => cases hfound

end Profiles

/-! ## Loading -/

section Load

variable {env : Environment} {files files' : Files} {path path' file file' : String} {octets octets' : List UInt8}
  {config : Config}

theorem namesDistinct_parse (h : parse env file = .ok config) : config.NamesDistinct := by
  obtain ⟨fields, hfields, hconfig⟩ := parse_eq_ok_iff.mp h
  exact namesDistinct_ofFields (reordered_of_parse hfields) hconfig

theorem namesDistinct_load (h : load env files path = .ok config) : config.NamesDistinct := by
  unfold load at h
  split at h
  · split at h
    · cases h
    · split at h
      · cases h
      · exact namesDistinct_parse h
  · cases h
    exact .nil

/-- Whatever configuration is found, no two of its profiles have the same name. -/
theorem namesDistinct_loadFrom {named : Option String} (h : loadFrom env files named = .ok config) :
    config.NamesDistinct := by
  cases named with
  | some path => exact namesDistinct_load h
  | none =>
    obtain ⟨path, -, hload⟩ := bind_eq_ok_iff.mp h
    exact namesDistinct_load hload

/-- Files that differ in the order of their sections, and of the fields in their tables, hold the same configuration. -/
theorem load_eq_ok_iff_of_sameButOrder (hread : files.read path = .ok octets)
    (hfile : Text.Utf8.strict? octets = some file) (hread' : files'.read path' = .ok octets')
    (hfile' : Text.Utf8.strict? octets' = some file')
    (h : SameButOrder (Text.Expansion.expandKnown env.get? file) (Text.Expansion.expandKnown env.get? file')) :
    load env files path = .ok config ↔ load env files' path' = .ok config := by
  rw [load_eq_parse hread hfile, load_eq_parse hread' hfile', parse_eq_ok_iff, parse_eq_ok_iff]
  exact h.read_eq_ok_iff fun fields fields' hfields => ofFields_reordered hfields

end Load

end ServiceCatalog.Config
