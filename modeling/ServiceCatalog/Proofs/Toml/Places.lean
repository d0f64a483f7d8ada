import ServiceCatalog.Proofs.Toml.Grammar
import ServiceCatalog.Proofs.Toml.Texts

/-!
# Where texts are read

Places are counted from the end of a file. A text that is read between two points of the file has its place between
them, and is not empty: it has quotes.
-/

namespace ServiceCatalog.Toml

open ServiceCatalog.Text

/-- A text is read in quotes at a place between two points. -/
def ReadAt (cs rest : List Char) (place : Nat) (s : String) : Prop :=
  ∃ start t tail, start <:+ cs ∧ rest.length ≤ tail.length ∧ start.length = place ∧
    quotedText? start = some (.ok (t, tail)) ∧ s = String.ofList t

theorem ReadAt.mono {cs cs₂ rest rest₂ : List Char} {place : Nat} {s : String} (h : ReadAt cs rest place s)
    (hcs : cs <:+ cs₂) (hrest : rest₂ <:+ rest) : ReadAt cs₂ rest₂ place s := by
  obtain ⟨start, t, tail, hstart, htail, hread⟩ := h
  exact ⟨start, t, tail, hstart.trans hcs, hrest.length_le.trans htail, hread⟩

/-- A place at which a text can begin that is read between two points. -/
def Between (cs rest : List Char) (place : Nat) : Prop := rest.length + 2 ≤ place ∧ place ≤ cs.length

theorem ReadAt.between {cs rest : List Char} {place : Nat} {s : String} (h : ReadAt cs rest place s) :
    Between cs rest place := by
  obtain ⟨start, t, tail, hstart, htail, rfl, hread, -⟩ := h
  have hlength := quotedText?_length hread
  exact ⟨by omega, hstart.length_le⟩

/-- An unquoted value is of the same kind wherever it stands. -/
theorem scalar?_kinds {place : Nat} {text : List Char} {v : Value} (h : scalar? place text = some v) :
    ∃ make : Nat → Value, (∀ inside, scalar? inside text = some (make inside)) ∧ v = make place ∧
      ((∃ b, make = (.truth · b)) ∨ (∃ n, make = (.integer · n)) ∨ make = .real ∨ make = .moment) := by
  unfold scalar? at h ⊢
  cases hwhole : wholeNumber? text with
  | some n =>
    rw [hwhole] at h
    dsimp only at h ⊢
    split_ifs at h ⊢ <;> cases h
    · exact ⟨_, fun _ => rfl, rfl, Or.inl ⟨true, rfl⟩⟩
    · exact ⟨_, fun _ => rfl, rfl, Or.inl ⟨false, rfl⟩⟩
    · exact ⟨_, fun _ => rfl, rfl, Or.inr (Or.inl ⟨n, rfl⟩)⟩
  | none =>
    rw [hwhole] at h
    dsimp only at h ⊢
    split_ifs at h ⊢ <;> cases h
    · exact ⟨_, fun _ => rfl, rfl, Or.inl ⟨true, rfl⟩⟩
    · exact ⟨_, fun _ => rfl, rfl, Or.inl ⟨false, rfl⟩⟩
    · exact ⟨_, fun _ => rfl, rfl, Or.inr (Or.inr (Or.inl rfl))⟩
    · exact ⟨_, fun _ => rfl, rfl, Or.inr (Or.inr (Or.inr rfl))⟩

theorem scalar?_not_text {place inside : Nat} {s : String} {text : List Char} {v : Value}
    (h : scalar? inside text = some v) : ¬TextAt place s v := by
  obtain ⟨make, -, rfl, ⟨b, rfl⟩ | ⟨n, rfl⟩ | rfl | rfl⟩ := scalar?_kinds h <;> nofun

theorem ReadsField.textIn {room : Nat} {fields added : Fields} {cs mid : List Char} {v : Value} {place : Nat}
    {s : String} (h : ReadsField room fields cs v added mid) (hin : TextIn place s added) :
    TextIn place s fields ∨ TextAt place s v := by
  cases h with
  | mk _ _ _ hadded => exact adds_field .header fields added place s hadded hin

mutual

theorem ReadsValue.readAt {room : Nat} {cs rest : List Char} {v : Value} {place : Nat} {s : String} :
    ReadsValue room cs v rest → TextAt place s v → ReadAt cs rest place s
  | .text hquoted, hat => by
    cases hat
    exact ⟨cs, _, rest, List.suffix_refl _, Nat.le_refl _, rfl, hquoted, rfl⟩
  | .scalar _ _ _ _ hscalar, hat => absurd hat (scalar?_not_text hscalar)
  | .array hitems, hat => by
    obtain ⟨item, hmem, hat⟩ := textAt_array_iff.mp hat
    exact (hitems.readAt hmem hat).mono (List.suffix_cons _ _) (List.suffix_refl _)
  | .table hfields, hat => by
    obtain hin | hread := hfields.readAt (textAt_table_iff.mp hat)
    · exact absurd hin not_textIn_nil
    · exact hread.mono (List.suffix_cons _ _) (List.suffix_refl _)

theorem ReadsItem.readAt {room : Nat} {cs mid : List Char} {item : Value} {place : Nat} {s : String} :
    ReadsItem room cs item mid → TextAt place s item → ReadAt cs mid place s
  | .mk hstart _ hitem, hat => (hitem.readAt hat).mono (skipVoid_suffix hstart) (List.suffix_refl _)

theorem ReadsItems.readAt {room : Nat} {cs rest : List Char} {vs : List Value} {place : Nat} {s : String} :
    ReadsItems room cs vs rest → ∀ {v : Value}, v ∈ vs → TextAt place s v → ReadAt cs rest place s
  | .close _, _, hmem, _ => nomatch hmem
  | .last hitem hclose, _, hmem, hat => by
    rw [List.mem_singleton.mp hmem] at hat
    exact (hitem.readAt hat).mono (List.suffix_refl _) (suffix_of_cons_suffix (skipVoid_suffix hclose))
  | .cons hitem hnext hmore, _, hmem, hat => by
    have htail := suffix_of_cons_suffix (skipVoid_suffix hnext)
    obtain heq | hmem := List.mem_cons.mp hmem
    · rw [heq] at hat
      exact (hitem.readAt hat).mono (List.suffix_refl _) (hmore.suffix.trans htail)
    · exact (hmore.readAt hmem hat).mono (htail.trans hitem.suffix) (List.suffix_refl _)

theorem ReadsPair.readAt {room : Nat} {cs mid : List Char} {path : List Key} {key : Key} {v : Value} {place : Nat}
    {s : String} :
    ReadsPair room cs path key v mid → TextAt place s v → ReadAt cs mid place s
  | .mk hkey hv, hat =>
    (hv.readAt hat).mono ((skipSpace_suffix _).trans (suffix_of_cons_suffix hkey.suffix)) (List.suffix_refl _)

theorem ReadsField.readAt {room : Nat} {fields added : Fields} {cs mid : List Char} {v : Value} {place : Nat}
    {s : String} :
    ReadsField room fields cs v added mid → TextAt place s v → ReadAt cs mid place s
  | .mk hstart _ hpair _, hat => (hpair.readAt hat).mono (skipVoid_suffix hstart) (List.suffix_refl _)

theorem ReadsFields.readAt {room : Nat} {fields more : Fields} {cs rest : List Char} {place : Nat} {s : String} :
    ReadsFields room fields cs more rest → TextIn place s more → TextIn place s fields ∨ ReadAt cs rest place s
  | .close _, hin => Or.inl hin
  | .last hfield hclose, hin => by
    have hrest := suffix_of_cons_suffix (skipVoid_suffix hclose)
    exact (hfield.textIn hin).imp_right fun hat => (hfield.readAt hat).mono (List.suffix_refl _) hrest
  | .cons hfield hnext hmore, hin => by
    have htail := suffix_of_cons_suffix (skipVoid_suffix hnext)
    obtain hin | hread := hmore.readAt hin
    · exact (hfield.textIn hin).imp_right fun hat =>
        (hfield.readAt hat).mono (List.suffix_refl _) (hmore.suffix.trans htail)
    · exact Or.inr (hread.mono (htail.trans hfield.suffix) (List.suffix_refl _))

end

theorem textIn_of_add {d d' : Document} {path : List Key} {key : Key} {v : Value} {place : Nat} {s : String}
    (h : d.add path key v = .ok d') (hin : TextIn place s d'.fields) : TextIn place s d.fields ∨ TextAt place s v := by
  obtain ⟨fields, hfields, heq⟩ := bind_eq_ok_iff.mp h
  cases heq
  exact Adds.changeAt adds_field _ _ _ place s hfields hin

theorem ReadsLine.readAt {d d' : Document} {cs rest : List Char} {place : Nat} {s : String} (h : ReadsLine d cs d' rest)
    (hin : TextIn place s d'.fields) : TextIn place s d.fields ∨ ReadAt cs rest place s := by
  cases h with
  | field _ hpair hend hadd =>
    exact (textIn_of_add hadd hin).imp_right fun hat =>
      (hpair.readAt hat).mono (List.suffix_refl _) (endLine_passes hend).suffix
  | header _ _ _ hadd => exact Or.inl ((adds_table .header _ _ place s hadd hin).elim id False.elim)
  | listHeader _ _ hadd => exact Or.inl ((adds_tableToList .header _ _ place s hadd hin).elim id False.elim)

theorem ReadsDocument.readAt {d : Document} {cs : List Char} {fields : Fields} {place : Nat} {s : String}
    (h : ReadsDocument d cs fields) (hin : TextIn place s fields) : TextIn place s d.fields ∨ ReadAt cs [] place s := by
  induction h with
  | done _ => exact Or.inl hin
  | line hstart _ hline _ ih =>
    have hstart := skipVoid_suffix hstart
    obtain hin | hread := ih hin
    · exact (hline.readAt hin).imp_right fun hread => hread.mono hstart List.nil_suffix
    · exact Or.inr (hread.mono (hline.suffix.1.trans hstart) (List.suffix_refl _))

/-! ## Places alone -/

section Between

variable {room place : Nat} {cs mid rest : List Char} {v : Value} {fields added more : Fields} {d d' : Document}
  {path : List Key} {key : Key}

theorem ReadsValue.between (h : ReadsValue room cs v rest) (hv : Begins place v) : Between cs rest place :=
  hv.elim fun _ hat => (h.readAt hat).between

theorem ReadsItem.between (h : ReadsItem room cs v mid) (hv : Begins place v) : Between cs mid place :=
  hv.elim fun _ hat => (h.readAt hat).between

theorem ReadsItems.between {vs : List Value} (h : ReadsItems room cs vs rest) (hmem : v ∈ vs) (hv : Begins place v) :
    Between cs rest place :=
  hv.elim fun _ hat => (h.readAt hmem hat).between

theorem ReadsPair.between (h : ReadsPair room cs path key v mid) (hv : Begins place v) : Between cs mid place :=
  hv.elim fun _ hat => (h.readAt hat).between

theorem ReadsField.between (h : ReadsField room fields cs v added mid) (hv : Begins place v) : Between cs mid place :=
  hv.elim fun _ hat => (h.readAt hat).between

theorem ReadsField.beginsIn (h : ReadsField room fields cs v added mid) (hin : BeginsIn place added) :
    BeginsIn place fields ∨ Begins place v :=
  hin.elim fun s hin => (h.textIn hin).imp (⟨s, ·⟩) (⟨s, ·⟩)

theorem ReadsFields.between (h : ReadsFields room fields cs more rest) (hin : BeginsIn place more) :
    BeginsIn place fields ∨ Between cs rest place :=
  hin.elim fun s hin => (h.readAt hin).imp (⟨s, ·⟩) ReadAt.between

theorem beginsIn_of_add (h : d.add path key v = .ok d') (hin : BeginsIn place d'.fields) :
    BeginsIn place d.fields ∨ Begins place v :=
  hin.elim fun s hin => (textIn_of_add h hin).imp (⟨s, ·⟩) (⟨s, ·⟩)

theorem beginsIn_of_addTable (h : addTable path key fields = .ok more) (hin : BeginsIn place more) :
    BeginsIn place fields :=
  hin.elim fun s hin => ⟨s, (adds_table .header _ _ place s h hin).elim id False.elim⟩

theorem beginsIn_of_addTableToList (h : addTableToList path key fields = .ok more) (hin : BeginsIn place more) :
    BeginsIn place fields :=
  hin.elim fun s hin => ⟨s, (adds_tableToList .header _ _ place s h hin).elim id False.elim⟩

theorem ReadsLine.between (h : ReadsLine d cs d' rest) (hin : BeginsIn place d'.fields) :
    BeginsIn place d.fields ∨ Between cs rest place :=
  hin.elim fun s hin => (h.readAt hin).imp (⟨s, ·⟩) ReadAt.between

theorem ReadsDocument.between (h : ReadsDocument d cs fields) (hin : BeginsIn place fields) :
    BeginsIn place d.fields ∨ Between cs [] place :=
  hin.elim fun s hin => (h.readAt hin).imp (⟨s, ·⟩) ReadAt.between

end Between

end ServiceCatalog.Toml
