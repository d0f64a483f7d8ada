import ServiceCatalog.Proofs.Toml.Expanded
import ServiceCatalog.Proofs.Toml.Places

/-!
# Reading a file with values put in

A file is read with the values of variables put in for the references to them as it was read before, and its fields are
filled with these values. References are only in texts: every dollar sign is behind the quote with which a text begins.
-/

namespace ServiceCatalog.Toml

open ServiceCatalog.Text

/-- A text does not begin with a quote. -/
def Unquoted (cs : List Char) : Prop := cs.head? ≠ some '"' ∧ cs.head? ≠ some '\''

theorem unquoted_of_skipVoid {cs rest : List Char} {c : Char} (h : skipVoid false cs = .ok (c :: rest))
    (hdouble : c ≠ '"') (hsingle : c ≠ '\'') : Unquoted cs := by
  refine ⟨fun hhead => ?_, fun hhead => ?_⟩
  · obtain ⟨tail, rfl⟩ := List.head?_eq_some_iff.mp hhead
    cases h
    exact hdouble rfl
  · obtain ⟨tail, rfl⟩ := List.head?_eq_some_iff.mp hhead
    cases h
    exact hsingle rfl

theorem unquoted_of_endLine {cs rest : List Char} (h : endLine cs = .ok rest) : Unquoted cs := by
  refine ⟨fun hhead => ?_, fun hhead => ?_⟩
  · obtain ⟨tail, rfl⟩ := List.head?_eq_some_iff.mp hhead
    cases h
  · obtain ⟨tail, rfl⟩ := List.head?_eq_some_iff.mp hhead
    cases h

/-- Only the first character decides whether a text in quotes is read. -/
theorem quotedText?_eq_none_iff {cs : List Char} : quotedText? cs = none ↔ Unquoted cs := by
  rw [quotedText?.eq_def, Unquoted]
  split
  · simp
  · simp
  · simp
  · simp
  · rename_i hdouble _ hsingle
    simp only [true_iff]
    exact ⟨fun hhead => (List.head?_eq_some_iff.mp hhead).elim hdouble,
      fun hhead => (List.head?_eq_some_iff.mp hhead).elim hsingle⟩

variable {filling : Nat → Option String}

theorem scalar?_filled {place place' : Nat} {text : List Char} {v : Value} (h : scalar? place text = some v) :
    ∃ v', scalar? place' text = some v' ∧ Filled filling v v' := by
  obtain ⟨make, hmake, rfl, hkind⟩ := scalar?_kinds h
  refine ⟨make place', hmake place', ?_⟩
  obtain ⟨b, rfl⟩ | ⟨n, rfl⟩ | rfl | rfl := hkind
  · exact .truth
  · exact .integer
  · exact .real
  · exact .moment

theorem Dollars.head?_ne {P : Nat → Prop} {cs rest : List Char} (h : Dollars P cs rest) (hrest : rest <:+ cs)
    (hplace : ∀ place, P place → place ≤ cs.length) : cs.head? ≠ some '$' := by
  intro hhead
  obtain ⟨tail, rfl⟩ := List.head?_eq_some_iff.mp hhead
  have hlength := hrest.length_le
  have hbound := hplace _ (h tail (List.suffix_refl _) (by rw [List.length_cons] at hlength; omega))
  rw [List.length_cons] at hbound
  omega

theorem Expanded.text {cs cs' s rest : List Char} (h : quotedText? cs = some (.ok (s, rest)))
    (hexpanded : Expanded filling cs cs') (hhead : cs.head? ≠ some '$') (hrest : Unquoted rest)
    (hdollars : Dollars (· = cs.length) cs rest) :
    ∃ s' rest', quotedText? cs' = some (.ok (s', rest')) ∧
      String.ofList s' = (filling cs.length).getD (String.ofList s) ∧ Expanded filling rest rest' := by
  have hsuffix := quotedText?_suffix h
  cases hvalue : filling cs.length with
  | none =>
    have hquiet : Dollars (fun _ => False) cs rest := by
      intro tail htail hlength
      obtain ⟨value, hfilled⟩ := hexpanded.filling_of_dollar htail
      rw [hdollars tail htail hlength, hvalue] at hfilled
      cases hfilled
    obtain ⟨rest', hread, hrest', -⟩ := hexpanded.passes (quotedText?_passes h hrest.1 hrest.2) hquiet
    exact ⟨s, rest', hread, rfl, hrest'⟩
  | some value =>
    have hnone : cs ≠ [] := by
      rintro rfl
      cases h
    obtain ⟨name, tail, tail', rfl, rfl, hname, hplain, htail⟩ := hexpanded.reference_of_filling hhead hnone hvalue
    have hread : quotedText? ('"' :: (('$' :: '\x7b' :: (name ++ ['\x7d'])) ++ '"' :: tail)) =
        some (.ok ('$' :: '\x7b' :: (name ++ ['\x7d']), tail)) := by
      refine quotedText?_of_isPlain ?_ nofun
      simp only [List.mem_cons, List.mem_append, List.mem_nil_iff, or_false]
      rintro c (rfl | rfl | hc | rfl)
      · rfl
      · rfl
      · exact hname c hc
      · rfl
    simp only [List.cons_append, List.append_assoc, List.nil_append] at hread
    rw [hread] at h
    cases h
    refine ⟨value.toList, tail', quotedText?_of_isPlain hplain fun _ => ?_, by simp, htail⟩
    rw [htail.head?_eq]
    · exact hrest.1
    · intro hdollar
      obtain ⟨tail, rfl⟩ := List.head?_eq_some_iff.mp hdollar
      have hplace := hdollars tail hsuffix (by rw [List.length_cons]; omega)
      simp at hplace
      omega

theorem Expanded.skipVoid {cs cs' rest : List Char} (h : Expanded filling cs cs') (hread : skipVoid false cs = .ok rest)
    (hquiet : Dollars (fun _ => False) cs rest) :
    ∃ rest', Toml.skipVoid false cs' = .ok rest' ∧ Expanded filling rest rest' ∧ rest'.head? = rest.head? :=
  h.passes (skipVoid_passes hread) hquiet

/-- What is behind blanks, line ends and comments may be a character that is passed over, too. -/
theorem Expanded.skipVoid_cons {cs cs' rest : List Char} {c : Char} (h : Expanded filling cs cs')
    (hread : Toml.skipVoid false cs = .ok (c :: rest)) (hquiet : Dollars (fun _ => False) cs rest) (hc : c ≠ '$') :
    ∃ rest', Toml.skipVoid false cs' = .ok (c :: rest') ∧ Expanded filling rest rest' := by
  have hbefore : Dollars (fun _ => False) cs (c :: rest) :=
    hquiet.mono (List.suffix_refl _) (Nat.le_succ _) fun _ h _ _ => h
  obtain ⟨next, hread', hnext, -⟩ := h.skipVoid hread hbefore
  obtain ⟨rest', rfl, hrest'⟩ := hnext.tail hc
  exact ⟨rest', hread', hrest'⟩

section Keys

variable {cs cs' tail : List Char} {path : List Key} {key : Key}

theorem Expanded.readsKey {c : Char} (h : Expanded filling cs cs') (hkey : ReadsKey cs path key (c :: tail))
    (hc : c ≠ '$') (hquiet : Dollars (fun _ => False) cs (c :: tail)) :
    ∃ (path' : List Key) (key' : Key) (tail' : List Char),
      path'.map Key.name = path.map Key.name ∧ key'.name = key.name ∧
      ReadsKey cs' path' key' (c :: tail') ∧ Expanded filling tail tail' := by
  obtain ⟨next, ⟨path', key', hpath, hname, hkey'⟩, hnext, -⟩ := h.passes hkey.passes hquiet
  obtain ⟨tail', rfl, htail⟩ := hnext.tail hc
  exact ⟨path', key', tail', hpath, hname, hkey', htail⟩

/-- The key of a field and what stands between it and the value. -/
theorem Expanded.readsFieldKey (h : Expanded filling cs cs') (hkey : ReadsKey cs path key ('=' :: tail))
    (hquiet : Dollars (fun _ => False) cs (skipSpace tail)) :
    ∃ (path' : List Key) (key' : Key) (tail' : List Char),
      path'.map Key.name = path.map Key.name ∧ key'.name = key.name ∧
      ReadsKey cs' path' key' ('=' :: tail') ∧ Expanded filling (skipSpace tail) (skipSpace tail') := by
  have hlength := (skipSpace_suffix tail).length_le
  have hbefore : Dollars (fun _ => False) cs ('=' :: tail) :=
    hquiet.mono (List.suffix_refl _) (Nat.le_succ_of_le hlength) fun _ h _ _ => h
  obtain ⟨path', key', tail', hpath, hname, hkey', htail⟩ := h.readsKey hkey (by decide) hbefore
  have hbehind : Dollars (fun _ => False) tail (skipSpace tail) :=
    hquiet.mono (suffix_of_cons_suffix hkey.suffix) (Nat.le_refl _) fun _ h _ _ => h
  obtain ⟨_, rfl, hvalue, -⟩ := htail.passes (skipSpace_passes tail) hbehind
  exact ⟨path', key', tail', hpath, hname, hkey', hvalue⟩

end Keys

mutual

theorem ReadsValue.expanded {room : Nat} {cs cs' rest : List Char} {v : Value} :
    ReadsValue room cs v rest → Expanded filling cs cs' → Dollars (Begins · v) cs rest → Unquoted rest →
      ∃ v' rest', ReadsValue room cs' v' rest' ∧ Filled filling v v' ∧ Expanded filling rest rest'
  | .text hquoted, hexpanded, hdollars, hrest => by
    have hplaces : Dollars (· = cs.length) cs rest :=
      hdollars.mono (List.suffix_refl _) (Nat.le_refl _) fun place ⟨_, hat⟩ _ _ => by cases hat; rfl
    have hhead := hplaces.head?_ne (quotedText?_suffix hquoted) fun place => Nat.le_of_eq
    obtain ⟨s', rest', hread, hs', hrest'⟩ := hexpanded.text hquoted hhead hrest hplaces
    refine ⟨_, rest', .text hread, ?_, hrest'⟩
    rw [hs']
    exact .text
  | .scalar hquoted hlist htable htext hscalar, hexpanded, hdollars, _ => by
    have hquiet : Dollars (fun _ => False) cs rest :=
      hdollars.mono (List.suffix_refl _) (Nat.le_refl _) fun place ⟨_, hat⟩ _ _ => scalar?_not_text hscalar hat
    have hhead := hexpanded.head?_eq (hquiet.head?_ne (scalarText_passes htext).suffix fun _ => False.elim)
    obtain ⟨rest', hread, hrest', -⟩ := hexpanded.passes (scalarText_passes htext) hquiet
    obtain ⟨v', hv', hfilled⟩ := scalar?_filled hscalar
    rw [quotedText?_eq_none_iff] at hquoted
    rw [← hhead] at hlist htable
    refine ⟨v', rest', .scalar ?_ hlist htable hread hv', hfilled, hrest'⟩
    rw [quotedText?_eq_none_iff, Unquoted, hhead]
    exact hquoted
  | .array hitems, hexpanded, hdollars, _ => by
    obtain ⟨tail', rfl, htail⟩ := hexpanded.tail (by decide)
    obtain ⟨vs', rest', hread, hfilled, hrest'⟩ := hitems.expanded htail <|
      hdollars.mono (List.suffix_cons _ _) (Nat.le_refl _) fun place hat _ _ => begins_array_iff.mp hat
    exact ⟨_, rest', .array hread, .array hfilled, hrest'⟩
  | .table hfields, hexpanded, hdollars, _ => by
    obtain ⟨tail', rfl, htail⟩ := hexpanded.tail (by decide)
    obtain ⟨fields', rest', hread, hfilled, hrest'⟩ := hfields.expanded .nil htail
      (fun place hin => absurd hin not_beginsIn_nil) <|
      hdollars.mono (List.suffix_cons _ _) (Nat.le_refl _) fun place hat _ _ => begins_table_iff.mp hat
    exact ⟨_, rest', .table hread, .table hfilled, hrest'⟩

theorem ReadsItem.expanded {room : Nat} {cs cs' mid : List Char} {item : Value} :
    ReadsItem room cs item mid → Expanded filling cs cs' → Dollars (Begins · item) cs mid → Unquoted mid →
      ∃ item' mid', ReadsItem room cs' item' mid' ∧ Filled filling item item' ∧ Expanded filling mid mid'
  | .mk hstart hopen hitem, hexpanded, hdollars, hmid => by
    have hquiet := hdollars.quiet (List.suffix_refl _) hitem.suffix.length_le fun _ hat => Or.inl (hitem.between hat).2
    obtain ⟨start', hstart', hexpanded, hhead⟩ := hexpanded.skipVoid hstart hquiet
    obtain ⟨item', mid', hitem', hfilled, hmid'⟩ := hitem.expanded hexpanded
      (hdollars.mono (skipVoid_suffix hstart) (Nat.le_refl _) fun _ hat _ _ => hat) hmid
    exact ⟨item', mid', ⟨hstart', hhead ▸ hopen, hitem'⟩, hfilled, hmid'⟩

theorem ReadsItems.expanded {room : Nat} {cs cs' rest : List Char} {vs : List Value} :
    ReadsItems room cs vs rest → Expanded filling cs cs' → Dollars (fun place => ∃ v ∈ vs, Begins place v) cs rest →
      ∃ vs' rest', ReadsItems room cs' vs' rest' ∧ List.Forall₂ (Filled filling) vs vs' ∧ Expanded filling rest rest'
  | .close hclose, hexpanded, hdollars => by
    have hquiet := hdollars.quiet (List.suffix_refl _) (Nat.le_refl _) fun _ ⟨_, hmem, _⟩ => nomatch hmem
    obtain ⟨rest', hread, hrest'⟩ := hexpanded.skipVoid_cons hclose hquiet (by decide)
    exact ⟨[], rest', .close hread, .nil, hrest'⟩
  | @ReadsItems.last _ _ mid _ item hitem hclose, hexpanded, hdollars => by
    have hplaces : Dollars (Begins · item) cs rest :=
      hdollars.mono (List.suffix_refl _) (Nat.le_refl _) fun place ⟨v, hmem, hat⟩ _ _ =>
        List.mem_singleton.mp hmem ▸ hat
    have hrest := (suffix_of_cons_suffix (skipVoid_suffix hclose)).length_le
    obtain ⟨item', mid', hitem', hfilled, hexpanded⟩ := hitem.expanded hexpanded
      (hplaces.mono (List.suffix_refl _) hrest fun _ hat _ _ => hat)
      (unquoted_of_skipVoid hclose (by decide) (by decide))
    have hquiet := hplaces.quiet hitem.suffix (Nat.le_refl _) fun _ hat => Or.inr (hitem.between hat).1
    obtain ⟨rest', hclose', hrest'⟩ := hexpanded.skipVoid_cons hclose hquiet (by decide)
    exact ⟨[item'], rest', .last hitem' hclose', .cons hfilled .nil, hrest'⟩
  | @ReadsItems.cons _ _ mid tail _ item more hitem hnext hmore, hexpanded, hdollars => by
    have hplaces : Dollars (fun place => Begins place item ∨ ∃ v ∈ more, Begins place v) cs rest :=
      hdollars.mono (List.suffix_refl _) (Nat.le_refl _) fun place hat _ _ => by simpa using hat
    have htail := suffix_of_cons_suffix (skipVoid_suffix hnext)
    have hrest := hmore.suffix.length_le
    -- The places of the item are in front of those of the further ones.
    have hlow (place : Nat) (hat : Begins place item) : mid.length + 2 ≤ place := (hitem.between hat).1
    have hhigh (place : Nat) (hat : ∃ v ∈ more, Begins place v) : place ≤ tail.length :=
      hat.elim fun v hv => (hmore.between hv.1 hv.2).2
    obtain ⟨item', mid', hitem', hfilled, hexpanded⟩ := hitem.expanded hexpanded
      (hplaces.mono (List.suffix_refl _) (hrest.trans htail.length_le) fun place hat hbehind _ =>
        hat.resolve_right fun hat => Nat.not_le_of_lt hbehind ((hhigh place hat).trans htail.length_le))
      (unquoted_of_skipVoid hnext (by decide) (by decide))
    have hquiet := hplaces.quiet hitem.suffix hrest fun place hat => hat.symm.imp (hhigh place) (hlow place)
    obtain ⟨tail', hnext', hexpanded⟩ := hexpanded.skipVoid_cons hnext hquiet (by decide)
    obtain ⟨more', rest', hmore', hfilledMore, hrest'⟩ := hmore.expanded hexpanded <|
      hplaces.mono (htail.trans hitem.suffix) (Nat.le_refl _) fun place hat _ hbefore =>
        hat.resolve_left fun hat => by
          have hplace := hlow place hat
          have hlength := htail.length_le
          omega
    exact ⟨item' :: more', rest', .cons hitem' hnext' hmore', .cons hfilled hfilledMore, hrest'⟩

theorem ReadsPair.expanded {room : Nat} {cs cs' mid : List Char} {path : List Key} {key : Key} {v : Value} :
    ReadsPair room cs path key v mid → Expanded filling cs cs' → Dollars (Begins · v) cs mid → Unquoted mid →
      ∃ path' key' v' mid', ReadsPair room cs' path' key' v' mid' ∧ path'.map Key.name = path.map Key.name ∧
        key'.name = key.name ∧ Filled filling v v' ∧ Expanded filling mid mid'
  | .mk hkey hv, hexpanded, hdollars, hmid => by
    have hvalue := (skipSpace_suffix _).trans (suffix_of_cons_suffix hkey.suffix)
    have hquiet := hdollars.quiet (List.suffix_refl _) hv.suffix.length_le fun _ hat => Or.inl (hv.between hat).2
    obtain ⟨path', key', tail', hpath, hname, hkey', hexpanded⟩ := hexpanded.readsFieldKey hkey hquiet
    obtain ⟨v', mid', hv', hfilled, hmid'⟩ := hv.expanded hexpanded
      (hdollars.mono hvalue (Nat.le_refl _) fun _ hat _ _ => hat) hmid
    exact ⟨path', key', v', mid', ⟨hkey', hv'⟩, hpath, hname, hfilled, hmid'⟩

theorem ReadsField.expanded {room : Nat} {fields fields' added : Fields} {cs cs' mid : List Char} {v : Value} :
    ReadsField room fields cs v added mid → FilledFields filling fields fields' → Expanded filling cs cs' →
      Dollars (Begins · v) cs mid → Unquoted mid →
      ∃ v' added' mid', ReadsField room fields' cs' v' added' mid' ∧ FilledFields filling added added' ∧
        Expanded filling mid mid'
  | .mk hstart hopen hpair hadded, hfields, hexpanded, hdollars, hmid => by
    have hquiet := hdollars.quiet (List.suffix_refl _) hpair.suffix.1.length_le
      fun _ hat => Or.inl (hpair.between hat).2
    obtain ⟨start', hstart', hexpanded, hhead⟩ := hexpanded.skipVoid hstart hquiet
    obtain ⟨path', key', v', mid', hpair', hpath, hname, hfilled, hmid'⟩ := hpair.expanded hexpanded
      (hdollars.mono (skipVoid_suffix hstart) (Nat.le_refl _) fun _ hat _ _ => hat) hmid
    obtain ⟨added', hadded', hfilledMore⟩ :=
      (FillsAlike.addField hpath hname hfilled : FillsAlike filling _ _) .header hfields hadded
    exact ⟨v', added', mid', ⟨hstart', hhead ▸ hopen, hpair', hadded'⟩, hfilledMore, hmid'⟩

theorem ReadsFields.expanded {room : Nat} {fields fields' more : Fields} {cs cs' rest : List Char} :
    ReadsFields room fields cs more rest → FilledFields filling fields fields' → Expanded filling cs cs' →
      (∀ place, BeginsIn place fields → cs.length + 2 ≤ place) → Dollars (BeginsIn · more) cs rest →
      ∃ more' rest', ReadsFields room fields' cs' more' rest' ∧ FilledFields filling more more' ∧
        Expanded filling rest rest'
  | .close hclose, hfields, hexpanded, hearlier, hdollars => by
    have hquiet := hdollars.quiet (List.suffix_refl _) (Nat.le_refl _) fun place hin => Or.inr (hearlier place hin)
    obtain ⟨rest', hread, hrest'⟩ := hexpanded.skipVoid_cons hclose hquiet (by decide)
    exact ⟨fields', rest', .close hread, hfields, hrest'⟩
  | @ReadsFields.last _ _ _ _ mid _ v hfield hclose, hfields, hexpanded, hearlier, hdollars => by
    have hplaces : Dollars (Begins · v) cs rest :=
      hdollars.mono (List.suffix_refl _) (Nat.le_refl _) fun place hin _ hbefore =>
        (hfield.beginsIn hin).resolve_left fun hin => by
          have hplace := hearlier place hin
          omega
    have hrest := (suffix_of_cons_suffix (skipVoid_suffix hclose)).length_le
    obtain ⟨v', added', mid', hfield', hfilled, hexpanded⟩ := hfield.expanded hfields hexpanded
      (hplaces.mono (List.suffix_refl _) hrest fun _ hat _ _ => hat)
      (unquoted_of_skipVoid hclose (by decide) (by decide))
    have hquiet := hplaces.quiet hfield.suffix (Nat.le_refl _) fun _ hat => Or.inr (hfield.between hat).1
    obtain ⟨rest', hclose', hrest'⟩ := hexpanded.skipVoid_cons hclose hquiet (by decide)
    exact ⟨added', rest', .last hfield' hclose', hfilled, hrest'⟩
  | @ReadsFields.cons _ _ added more _ mid next _ v hfield hnext hmore, hfields, hexpanded, hearlier, hdollars => by
    have hplaces : Dollars (fun place => Begins place v ∨ Between next rest place) cs rest :=
      hdollars.mono (List.suffix_refl _) (Nat.le_refl _) fun place hin _ hbefore =>
        (hmore.between hin).imp_left fun hin => (hfield.beginsIn hin).resolve_left fun hin => by
          have hplace := hearlier place hin
          omega
    have htail := suffix_of_cons_suffix (skipVoid_suffix hnext)
    have hrest := hmore.suffix.length_le
    have hlow (place : Nat) (hat : Begins place v) : mid.length + 2 ≤ place := (hfield.between hat).1
    obtain ⟨v', added', mid', hfield', hfilled, hexpanded⟩ := hfield.expanded hfields hexpanded
      (hplaces.mono (List.suffix_refl _) (hrest.trans htail.length_le) fun place hat hbehind _ =>
        hat.resolve_right fun hat => Nat.not_le_of_lt hbehind (hat.2.trans htail.length_le))
      (unquoted_of_skipVoid hnext (by decide) (by decide))
    have hquiet := hplaces.quiet hfield.suffix hrest fun place hat => hat.symm.imp And.right (hlow place)
    obtain ⟨next', hnext', hexpanded⟩ := hexpanded.skipVoid_cons hnext hquiet (by decide)
    have hearlier' (place : Nat) (hin : BeginsIn place added) : next.length + 2 ≤ place := by
      have hnextLength := htail.length_le
      have hmidLength := hfield.suffix.length_le
      obtain hin | hat := hfield.beginsIn hin
      · have hplace := hearlier place hin
        omega
      · have hplace := hlow place hat
        omega
    obtain ⟨more', rest', hmore', hfilledMore, hrest'⟩ := hmore.expanded hfilled hexpanded hearlier' <|
      hdollars.mono (htail.trans hfield.suffix) (Nat.le_refl _) fun _ hin _ _ => hin
    exact ⟨more', rest', .cons hfield' hnext' hmore', hfilledMore, hrest'⟩

end

/-! ## Lines and files -/

/-- A file as far as it is read, and the same with filled fields. -/
structure FilledDocument (filling : Nat → Option String) (d d' : Document) : Prop where
  fields : FilledFields filling d.fields d'.fields
  header : d'.header.map Key.name = d.header.map Key.name

section Lines

variable {d d' e : Document} {cs cs' rest : List Char}

theorem FilledDocument.add {path path' : List Key} {key key' : Key} {v v' : Value} (h : FilledDocument filling d e)
    (hpath : path'.map Key.name = path.map Key.name) (hkey : key'.name = key.name) (hv : Filled filling v v')
    (hadd : d.add path key v = .ok d') : ∃ e', e.add path' key' v' = .ok e' ∧ FilledDocument filling d' e' := by
  obtain ⟨fields, hfields, heq⟩ := bind_eq_ok_iff.mp hadd
  cases heq
  have halike : FillsAlike filling (fun _ inner => addField path key v inner)
      fun _ inner => addField path' key' v' inner :=
    FillsAlike.addField hpath hkey hv
  obtain ⟨fields', hfields', hfilled⟩ := halike.changeAt h.header _ h.fields hfields
  exact ⟨_, bind_eq_ok_iff.mpr ⟨fields', hfields', rfl⟩, hfilled, h.header⟩

theorem Expanded.endLine (h : Expanded filling cs cs') (hread : endLine cs = .ok rest)
    (hquiet : Dollars (fun _ => False) cs rest) :
    ∃ rest', Toml.endLine cs' = .ok rest' ∧ Expanded filling rest rest' := by
  obtain ⟨rest', hread', hrest', -⟩ := h.passes (endLine_passes hread) hquiet
  exact ⟨rest', hread', hrest'⟩

theorem ReadsLine.expanded (h : ReadsLine d cs d' rest) (hd : FilledDocument filling d e)
    (hexpanded : Expanded filling cs cs') (hearlier : ∀ place, BeginsIn place d.fields → cs.length + 2 ≤ place)
    (hdollars : Dollars (BeginsIn · d'.fields) cs rest) :
    ∃ e' rest', ReadsLine e cs' e' rest' ∧ FilledDocument filling d' e' ∧ Expanded filling rest rest' := by
  have hsuffix := h.suffix.1
  cases h with
  | @field _ _ _ _ path key v hopen hpair hend hadd =>
    have hrest := (endLine_passes hend).suffix.length_le
    have hplaces : Dollars (Begins · v) cs rest :=
      hdollars.mono (List.suffix_refl _) (Nat.le_refl _) fun place hin _ hbefore =>
        (beginsIn_of_add hadd hin).resolve_left fun hin => by
          have hplace := hearlier place hin
          omega
    rw [← hexpanded.head?_eq (hplaces.head?_ne hsuffix fun _ hat => (hpair.between hat).2)] at hopen
    obtain ⟨path', key', v', mid', hpair', hpath, hname, hfilled, hexpanded⟩ := hpair.expanded hexpanded
      (hplaces.mono (List.suffix_refl _) hrest fun _ hat _ _ => hat) (unquoted_of_endLine hend)
    obtain ⟨rest', hend', hrest'⟩ := hexpanded.endLine hend <|
      hplaces.quiet hpair.suffix.1 (Nat.le_refl _) fun _ hat => Or.inr (hpair.between hat).1
    obtain ⟨e', hadd', he'⟩ := hd.add hpath hname hfilled hadd
    exact ⟨e', rest', .field hopen hpair' hend' hadd', he', hrest'⟩
  | @header cs mid _ path key fields hopen hkey hend hadd =>
    have hquiet := hdollars.quiet (List.suffix_cons '[' cs) (Nat.le_refl _) fun place hin =>
      Or.inr (Nat.lt_of_succ_lt (hearlier place (beginsIn_of_addTable hadd hin)))
    have hmid := (endLine_passes hend).suffix
    have hcs := suffix_of_cons_suffix hkey.suffix
    obtain ⟨cs', rfl, hbehind⟩ := hexpanded.tail (by decide)
    rw [← hbehind.head?_eq (hquiet.head?_ne (hmid.trans hcs) fun _ => False.elim)] at hopen
    obtain ⟨path', key', tail', hpath, hname, hkey', hexpanded⟩ := hbehind.readsKey hkey (by decide) <|
      hquiet.mono (List.suffix_refl _) (Nat.le_succ_of_le hmid.length_le) fun _ h _ _ => h
    obtain ⟨rest', hend', hrest'⟩ := hexpanded.endLine hend (hquiet.mono hcs (Nat.le_refl _) fun _ h _ _ => h)
    obtain ⟨fields', hadd', hfilled⟩ :=
      (FillsAlike.addTable hpath hname : FillsAlike filling _ _) .header hd.fields hadd
    exact ⟨_, rest', .header hopen hkey' hend' hadd', ⟨hfilled, by simp [hpath, hname]⟩, hrest'⟩
  | @listHeader cs mid _ path key fields hkey hend hadd =>
    have hquiet := hdollars.quiet (suffix_of_cons_suffix (List.suffix_cons '[' ('[' :: cs))) (Nat.le_refl _)
      fun place hin =>
        Or.inr (Nat.lt_of_succ_lt (Nat.lt_of_succ_lt (hearlier place (beginsIn_of_addTableToList hadd hin))))
    have hmid := (endLine_passes hend).suffix
    have hclose := suffix_of_cons_suffix hkey.suffix
    obtain ⟨_, rfl, hinner⟩ := hexpanded.tail (by decide)
    obtain ⟨cs', rfl, hbehind⟩ := hinner.tail (by decide)
    obtain ⟨path', key', _, hpath, hname, hkey', hnext⟩ := hbehind.readsKey hkey (by decide) <|
      hquiet.mono (List.suffix_refl _) (Nat.le_succ_of_le (Nat.le_succ_of_le hmid.length_le)) fun _ h _ _ => h
    obtain ⟨tail', rfl, htail⟩ := hnext.tail (by decide)
    obtain ⟨rest', hend', hrest'⟩ := htail.endLine hend <|
      hquiet.mono (suffix_of_cons_suffix hclose) (Nat.le_refl _) fun _ h _ _ => h
    obtain ⟨fields', hadd', hfilled⟩ :=
      (FillsAlike.addTableToList hpath hname : FillsAlike filling _ _) .header hd.fields hadd
    exact ⟨_, rest', .listHeader hkey' hend' hadd', ⟨hfilled, by simp [hpath, hname]⟩, hrest'⟩

end Lines

theorem ReadsDocument.expanded {d e : Document} {cs cs' : List Char} {fields : Fields} (h : ReadsDocument d cs fields)
    (hd : FilledDocument filling d e) (hexpanded : Expanded filling cs cs')
    (hearlier : ∀ place, BeginsIn place d.fields → cs.length + 2 ≤ place)
    (hdollars : Dollars (BeginsIn · fields) cs []) :
    ∃ fields', ReadsDocument e cs' fields' ∧ FilledFields filling fields fields' := by
  induction h generalizing e cs' with
  | done hdone =>
    obtain ⟨rest', hdone', hrest', -⟩ := hexpanded.skipVoid hdone <|
      hdollars.quiet (List.suffix_refl _) (Nat.le_refl _) fun place hin => Or.inr (hearlier place hin)
    cases hrest'
    exact ⟨e.fields, .done hdone', hd.fields⟩
  | @line d d' cs start rest fields hstart hnone hline hmore ih =>
    have hcs := skipVoid_suffix hstart
    have hrest := hline.suffix.1
    have hstartLength := hcs.length_le
    have hrestLength := hrest.length_le
    have hplaces (place : Nat) (hin : BeginsIn place d'.fields) : cs.length + 2 ≤ place ∨ Between start rest place :=
      (hline.between hin).imp_left (hearlier place)
    have hdollars' :
        Dollars (fun place => BeginsIn place d'.fields ∧ Between start rest place ∨ Between rest [] place) cs [] :=
      hdollars.mono (List.suffix_refl _) (Nat.le_refl _) fun place hin _ hbefore =>
        (hmore.between hin).imp_left fun hin => ⟨hin, (hplaces place hin).resolve_left (by omega)⟩
    obtain ⟨start', hstart', hstartExpanded, hhead⟩ := hexpanded.skipVoid hstart <|
      hdollars'.quiet (List.suffix_refl _) (Nat.zero_le _) fun place hin =>
        Or.inl (hin.elim (fun hin => hin.2.2) fun hbetween => hbetween.2.trans hrestLength)
    obtain ⟨e', rest', hline', he', hrest'⟩ := hline.expanded hd hstartExpanded
      (fun place hin => (Nat.add_le_add_right hstartLength 2).trans (hearlier place hin)) <|
      hdollars'.mono hcs (Nat.zero_le _) fun place hin hbehind _ =>
        (hin.resolve_right fun hbetween => Nat.not_le_of_lt hbehind hbetween.2).1
    obtain ⟨fields', hmore', hfilled⟩ := ih he' hrest'
      (fun place hin => (hplaces place hin).elim (fun hfar => by omega) And.left) <|
      hdollars.mono (hrest.trans hcs) (Nat.zero_le _) fun _ hin _ _ => hin
    refine ⟨fields', .line hstart' ?_ hline' hmore', hfilled⟩
    rintro rfl
    exact hnone (List.head?_eq_none_iff.mp hhead.symm)

theorem withoutMark_suffix (text : String) : withoutMark text <:+ text.toList := by
  unfold withoutMark
  split
  · rename_i heq
    rw [heq]
    exact List.suffix_cons _ _
  · exact List.suffix_refl _

theorem Expanded.withoutMark {text : String} {cs : List Char} (h : Expanded filling text.toList cs)
    (hhead : text.toList.head? ≠ some '$') : Expanded filling (withoutMark text) (withoutMark (String.ofList cs)) := by
  unfold Toml.withoutMark
  rw [String.toList_ofList]
  split
  · rename_i heq
    rw [heq] at h
    obtain ⟨tail, rfl, htail⟩ := h.tail (by decide)
    exact htail
  · rename_i hmark
    split
    · rename_i tail
      have hfirst := h.head?_eq hhead
      obtain ⟨rest, hrest⟩ := List.head?_eq_some_iff.mp hfirst.symm
      exact absurd hrest (hmark rest)
    · exact h

/-- A file with values put in for the references in it is read with the same fields, filled with these values. -/
theorem parse_expanded {text : String} {fields : Fields} {cs : List Char} (h : parse text = .ok fields)
    (hexpanded : Expanded filling text.toList cs)
    (hdollars : ∀ tail, '$' :: tail <:+ text.toList → BeginsIn (tail.length + 2) fields) :
    ∃ fields', parse (String.ofList cs) = .ok fields' ∧ FilledFields filling fields fields' := by
  have hread := parse_eq_ok_iff.mp h
  have hmark := withoutMark_suffix text
  have hplaces : Dollars (BeginsIn · fields) text.toList [] := fun tail htail _ => hdollars tail htail
  have hhead : text.toList.head? ≠ some '$' := hplaces.head?_ne List.nil_suffix fun place hin =>
    (hread.between hin).elim (absurd · not_beginsIn_nil) fun hbetween => hbetween.2.trans hmark.length_le
  obtain ⟨fields', hread', hfilled⟩ := hread.expanded (e := {}) ⟨.nil, rfl⟩ (hexpanded.withoutMark hhead)
    (fun _ hin => absurd hin not_beginsIn_nil) (hplaces.mono hmark (Nat.le_refl _) fun _ hin _ _ => hin)
  exact ⟨fields', parse_eq_ok_iff.mpr hread', hfilled⟩

end ServiceCatalog.Toml
