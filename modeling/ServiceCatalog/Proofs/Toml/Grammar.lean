import ServiceCatalog.Proofs.Toml.Tokens

/-!
# What a file consists of

Keys, values, lines and files as relations between a text and what is left of it, without a bound on the steps. The
bounds that the reader starts with are never reached.
-/

namespace ServiceCatalog.Toml

open ServiceCatalog.Text

/-- A key with dots between its parts, the last of which comes separately. -/
inductive ReadsKey : List Char → List Key → Key → List Char → Prop
  | last {cs mid : List Char} {key : Key} : simpleKey (skipSpace cs) = .ok (key, mid) →
    (skipSpace mid).head? ≠ some '.' → ReadsKey cs [] key (skipSpace mid)
  | part {cs mid tail rest : List Char} {first key : Key} {path : List Key} :
    simpleKey (skipSpace cs) = .ok (first, mid) → skipSpace mid = '.' :: tail → ReadsKey tail path key rest →
    ReadsKey cs (first :: path) key rest

mutual

/-- A value, with room for so many lists and tables inside each other. -/
inductive ReadsValue : Nat → List Char → Value → List Char → Prop
  | text {room : Nat} {cs s rest : List Char} : quotedText? cs = some (.ok (s, rest)) →
    ReadsValue room cs (.text cs.length (String.ofList s)) rest
  | scalar {room : Nat} {cs text rest : List Char} {v : Value} : quotedText? cs = none → cs.head? ≠ some '[' →
    cs.head? ≠ some '\x7b' → scalarText cs = (text, rest) → scalar? cs.length text = some v → ReadsValue room cs v rest
  | array {room : Nat} {cs rest : List Char} {items : List Value} : ReadsItems room cs items rest →
    ReadsValue (room + 1) ('[' :: cs) (.array (cs.length + 1) false items) rest
  | table {room : Nat} {cs rest : List Char} {fields : Fields} : ReadsFields room [] cs fields rest →
    ReadsValue (room + 1) ('\x7b' :: cs) (.table (cs.length + 1) .inline fields) rest

/-- An item of a list, with what may stand in front of it. -/
inductive ReadsItem : Nat → List Char → Value → List Char → Prop
  | mk {room : Nat} {cs start mid : List Char} {item : Value} : skipVoid false cs = .ok start →
    start.head? ≠ some ']' → ReadsValue room start item mid → ReadsItem room cs item mid

/-- The items of a list up to its closing bracket. -/
inductive ReadsItems : Nat → List Char → List Value → List Char → Prop
  | close {room : Nat} {cs rest : List Char} : skipVoid false cs = .ok (']' :: rest) → ReadsItems room cs [] rest
  | last {room : Nat} {cs mid rest : List Char} {item : Value} : ReadsItem room cs item mid →
    skipVoid false mid = .ok (']' :: rest) → ReadsItems room cs [item] rest
  | cons {room : Nat} {cs mid tail rest : List Char} {item : Value} {more : List Value} : ReadsItem room cs item mid →
    skipVoid false mid = .ok (',' :: tail) → ReadsItems room tail more rest → ReadsItems room cs (item :: more) rest

/-- A key with its value. -/
inductive ReadsPair : Nat → List Char → List Key → Key → Value → List Char → Prop
  | mk {room : Nat} {cs tail mid : List Char} {path : List Key} {key : Key} {v : Value} :
    ReadsKey cs path key ('=' :: tail) → ReadsValue room (skipSpace tail) v mid → ReadsPair room cs path key v mid

/-- A field of a table in braces, with what may stand in front of it, and the fields with it. -/
inductive ReadsField : Nat → Fields → List Char → Value → Fields → List Char → Prop
  | mk {room : Nat} {fields added : Fields} {cs start mid : List Char} {path : List Key} {key : Key} {v : Value} :
    skipVoid false cs = .ok start → start.head? ≠ some '\x7d' → ReadsPair room start path key v mid →
    addField path key v fields = .ok added → ReadsField room fields cs v added mid

/-- The fields of a table in braces up to its closing brace, after those already read. -/
inductive ReadsFields : Nat → Fields → List Char → Fields → List Char → Prop
  | close {room : Nat} {fields : Fields} {cs rest : List Char} : skipVoid false cs = .ok ('\x7d' :: rest) →
    ReadsFields room fields cs fields rest
  | last {room : Nat} {fields added : Fields} {cs mid rest : List Char} {v : Value} :
    ReadsField room fields cs v added mid → skipVoid false mid = .ok ('\x7d' :: rest) →
    ReadsFields room fields cs added rest
  | cons {room : Nat} {fields added more : Fields} {cs mid next rest : List Char} {v : Value} :
    ReadsField room fields cs v added mid → skipVoid false mid = .ok (',' :: next) →
    ReadsFields room added next more rest → ReadsFields room fields cs more rest

end

/-- A line with a field or a header. -/
inductive ReadsLine : Document → List Char → Document → List Char → Prop
  | field {d d' : Document} {cs mid rest : List Char} {path : List Key} {key : Key} {v : Value} : cs.head? ≠ some '[' →
    ReadsPair greatestDepth cs path key v mid → endLine mid = .ok rest → d.add path key v = .ok d' →
    ReadsLine d cs d' rest
  | header {d : Document} {cs mid rest : List Char} {path : List Key} {key : Key} {fields : Fields} :
    cs.head? ≠ some '[' → ReadsKey cs path key (']' :: mid) → endLine mid = .ok rest →
    addTable path key d.fields = .ok fields → ReadsLine d ('[' :: cs) ⟨fields, path ++ [key]⟩ rest
  | listHeader {d : Document} {cs mid rest : List Char} {path : List Key} {key : Key} {fields : Fields} :
    ReadsKey cs path key (']' :: ']' :: mid) → endLine mid = .ok rest →
    addTableToList path key d.fields = .ok fields → ReadsLine d ('[' :: '[' :: cs) ⟨fields, path ++ [key]⟩ rest

/-- The lines of a file. -/
inductive ReadsDocument : Document → List Char → Fields → Prop
  | done {d : Document} {cs : List Char} : skipVoid false cs = .ok [] → ReadsDocument d cs d.fields
  | line {d d' : Document} {cs start rest : List Char} {fields : Fields} : skipVoid false cs = .ok start →
    start ≠ [] → ReadsLine d start d' rest → ReadsDocument d' rest fields → ReadsDocument d cs fields

/-! ## What is read -/

theorem dottedKey_reads {fuel : Nat} {cs rest : List Char} {path : List Key} {key : Key}
    (h : dottedKey fuel cs = .ok ((path, key), rest)) : ReadsKey cs path key rest := by
  induction fuel generalizing cs path with
  | zero => cases h
  | succ fuel ih =>
    obtain ⟨⟨first, mid⟩, hfirst, h⟩ := bind_eq_ok_iff.mp h
    dsimp only at h
    split at h
    · rename_i tail htail
      obtain ⟨⟨⟨path, last⟩, rest⟩, hmore, heq⟩ := bind_eq_ok_iff.mp h
      cases heq
      exact .part hfirst htail (ih hmore)
    · rename_i hend
      cases h
      exact .last hfirst fun hdot => (List.head?_eq_some_iff.mp hdot).elim hend

section Steps

variable {fuel room : Nat} {cs : List Char}

theorem value_quoted {result : Except Fault (Rest (List Char))} (h : quotedText? cs = some result) :
    value (fuel + 1) room cs = result.map fun r => (.text cs.length (String.ofList r.1), r.2) := by
  rw [value.eq_def]
  simp only [h]

theorem value_array :
    value (fuel + 1) (room + 1) ('[' :: cs) =
      (items fuel room cs).map fun r => (.array (cs.length + 1) false r.1, r.2) := rfl

theorem value_table :
    value (fuel + 1) (room + 1) ('\x7b' :: cs) =
      (inlineFields fuel room [] cs).map fun r => (.table (cs.length + 1) .inline r.1, r.2) := rfl

theorem value_scalar (hquoted : quotedText? cs = none) (hlist : cs.head? ≠ some '[') (htable : cs.head? ≠ some '\x7b') :
    value (fuel + 1) room cs =
      match scalar? cs.length (scalarText cs).1 with
      | some v => .ok (v, (scalarText cs).2)
      | none => fail cs "invalid value" := by
  rw [value.eq_def]
  simp only [hquoted]
  split
  · simp_all
  · simp_all
  · simp_all
  · simp_all
  · rfl

end Steps

theorem value_reads {fuel : Nat}
    (hitems : ∀ {room cs vs rest}, items fuel room cs = .ok (vs, rest) → ReadsItems room cs vs rest)
    (hfields : ∀ {room fields cs more rest}, inlineFields fuel room fields cs = .ok (more, rest) →
      ReadsFields room fields cs more rest)
    {room : Nat} {cs rest : List Char} {v : Value} (h : value (fuel + 1) room cs = .ok (v, rest)) :
    ReadsValue room cs v rest := by
  cases hquoted : quotedText? cs with
  | some result =>
    rw [value_quoted hquoted] at h
    obtain ⟨⟨s, rest⟩, rfl, heq⟩ := map_eq_ok_iff.mp h
    cases heq
    exact .text hquoted
  | none =>
    by_cases hlist : cs.head? = some '['
    · obtain ⟨cs, rfl⟩ := List.head?_eq_some_iff.mp hlist
      cases room with
      | zero => cases h
      | succ room =>
        rw [value_array] at h
        obtain ⟨⟨vs, rest⟩, hread, heq⟩ := map_eq_ok_iff.mp h
        cases heq
        exact .array (hitems hread)
    by_cases htable : cs.head? = some '\x7b'
    · obtain ⟨cs, rfl⟩ := List.head?_eq_some_iff.mp htable
      cases room with
      | zero => cases h
      | succ room =>
        rw [value_table] at h
        obtain ⟨⟨fields, rest⟩, hread, heq⟩ := map_eq_ok_iff.mp h
        cases heq
        exact .table (hfields hread)
    rw [value_scalar hquoted hlist htable] at h
    split at h
    · rename_i hscalar
      cases h
      exact .scalar hquoted hlist htable rfl hscalar
    · cases h

theorem items_reads {fuel : Nat}
    (hvalue : ∀ {room cs v rest}, value fuel room cs = .ok (v, rest) → ReadsValue room cs v rest)
    (hitems : ∀ {room cs vs rest}, items fuel room cs = .ok (vs, rest) → ReadsItems room cs vs rest)
    {room : Nat} {cs rest : List Char} {vs : List Value} (h : items (fuel + 1) room cs = .ok (vs, rest)) :
    ReadsItems room cs vs rest := by
  rw [items] at h
  obtain ⟨start, hstart, h⟩ := bind_eq_ok_iff.mp h
  dsimp only at h
  split at h
  · cases h
    exact .close hstart
  · rename_i hopen
    have hopen : start.head? ≠ some ']' := fun hclose => (List.head?_eq_some_iff.mp hclose).elim hopen
    obtain ⟨⟨item, mid⟩, hitem, h⟩ := bind_eq_ok_iff.mp h
    obtain ⟨next, hnext, h⟩ := bind_eq_ok_iff.mp h
    dsimp only at h
    split at h
    · obtain ⟨⟨more, rest⟩, hmore, heq⟩ := bind_eq_ok_iff.mp h
      cases heq
      exact .cons ⟨hstart, hopen, hvalue hitem⟩ hnext (hitems hmore)
    · cases h
      exact .last ⟨hstart, hopen, hvalue hitem⟩ hnext
    · cases h

theorem inlineFields_reads {fuel : Nat}
    (hvalue : ∀ {room cs v rest}, value fuel room cs = .ok (v, rest) → ReadsValue room cs v rest)
    (hfields : ∀ {room fields cs more rest}, inlineFields fuel room fields cs = .ok (more, rest) →
      ReadsFields room fields cs more rest)
    {room : Nat} {fields more : Fields} {cs rest : List Char}
    (h : inlineFields (fuel + 1) room fields cs = .ok (more, rest)) : ReadsFields room fields cs more rest := by
  rw [inlineFields] at h
  obtain ⟨start, hstart, h⟩ := bind_eq_ok_iff.mp h
  dsimp only at h
  split at h
  · cases h
    exact .close hstart
  · rename_i hopen
    have hopen : start.head? ≠ some '\x7d' := fun hclose => (List.head?_eq_some_iff.mp hclose).elim hopen
    obtain ⟨⟨⟨path, key⟩, eq⟩, hkey, h⟩ := bind_eq_ok_iff.mp h
    dsimp only at h
    split at h
    · obtain ⟨⟨v, mid⟩, hv, h⟩ := bind_eq_ok_iff.mp h
      obtain ⟨added, hadded, h⟩ := bind_eq_ok_iff.mp h
      obtain ⟨next, hnext, h⟩ := bind_eq_ok_iff.mp h
      have hfield : ReadsField room fields cs v added mid :=
        ⟨hstart, hopen, ⟨dottedKey_reads hkey, hvalue hv⟩, hadded⟩
      split at h
      · exact .cons hfield hnext (hfields h)
      · cases h
        exact .last hfield hnext
      · cases h
    · cases h

theorem values_read (fuel : Nat) :
    (∀ {room cs v rest}, value fuel room cs = .ok (v, rest) → ReadsValue room cs v rest) ∧
      (∀ {room cs vs rest}, items fuel room cs = .ok (vs, rest) → ReadsItems room cs vs rest) ∧
      ∀ {room fields cs more rest}, inlineFields fuel room fields cs = .ok (more, rest) →
        ReadsFields room fields cs more rest := by
  induction fuel with
  | zero => exact ⟨nofun, nofun, nofun⟩
  | succ fuel ih =>
    obtain ⟨hvalue, hitems, hfields⟩ := ih
    exact ⟨value_reads hitems hfields, items_reads hvalue hitems, inlineFields_reads hvalue hfields⟩

theorem fieldLine_reads {fuel : Nat} {d d' : Document} {cs rest : List Char} (hopen : cs.head? ≠ some '[')
    (h : fieldLine fuel d cs = .ok (d', rest)) : ReadsLine d cs d' rest := by
  obtain ⟨⟨⟨path, key⟩, eq⟩, hkey, h⟩ := bind_eq_ok_iff.mp h
  dsimp only at h
  split at h
  · obtain ⟨⟨v, mid⟩, hv, h⟩ := bind_eq_ok_iff.mp h
    obtain ⟨rest, hrest, h⟩ := bind_eq_ok_iff.mp h
    obtain ⟨d', hd', heq⟩ := bind_eq_ok_iff.mp h
    cases heq
    exact .field hopen ⟨dottedKey_reads hkey, (values_read fuel).1 hv⟩ hrest hd'
  · cases h

theorem headerLine_reads {fuel : Nat} {d d' : Document} {cs rest : List Char} (hopen : cs.head? ≠ some '[')
    (h : headerLine fuel d cs = .ok (d', rest)) : ReadsLine d ('[' :: cs) d' rest := by
  obtain ⟨⟨⟨path, key⟩, eq⟩, hkey, h⟩ := bind_eq_ok_iff.mp h
  dsimp only at h
  split at h
  · obtain ⟨rest, hrest, h⟩ := bind_eq_ok_iff.mp h
    obtain ⟨fields, hfields, heq⟩ := bind_eq_ok_iff.mp h
    cases heq
    exact .header hopen (dottedKey_reads hkey) hrest hfields
  · cases h

theorem listHeaderLine_reads {fuel : Nat} {d d' : Document} {cs rest : List Char}
    (h : listHeaderLine fuel d cs = .ok (d', rest)) : ReadsLine d ('[' :: '[' :: cs) d' rest := by
  obtain ⟨⟨⟨path, key⟩, eq⟩, hkey, h⟩ := bind_eq_ok_iff.mp h
  dsimp only at h
  split at h
  · obtain ⟨rest, hrest, h⟩ := bind_eq_ok_iff.mp h
    obtain ⟨fields, hfields, heq⟩ := bind_eq_ok_iff.mp h
    cases heq
    exact .listHeader (dottedKey_reads hkey) hrest hfields
  · cases h

theorem document_reads {fuel : Nat} {d : Document} {cs : List Char} {fields : Fields}
    (h : document fuel d cs = .ok fields) : ReadsDocument d cs fields := by
  induction fuel generalizing d cs with
  | zero => cases h
  | succ fuel ih =>
    obtain ⟨start, hstart, h⟩ := bind_eq_ok_iff.mp h
    dsimp only at h
    split at h
    · cases h
      exact .done hstart
    · obtain ⟨⟨d', rest⟩, hline, h⟩ := bind_eq_ok_iff.mp h
      exact .line hstart nofun (listHeaderLine_reads hline) (ih h)
    · rename_i hsingle
      obtain ⟨⟨d', rest⟩, hline, h⟩ := bind_eq_ok_iff.mp h
      have hopen := fun hopen => (List.head?_eq_some_iff.mp hopen).elim fun tail htail => hsingle tail (htail ▸ rfl)
      exact .line hstart nofun (headerLine_reads hopen hline) (ih h)
    · rename_i hnone _ hfield
      obtain ⟨⟨d', rest⟩, hline, h⟩ := bind_eq_ok_iff.mp h
      have hopen := fun hopen => (List.head?_eq_some_iff.mp hopen).elim fun tail htail => hfield tail htail
      exact .line hstart hnone (fieldLine_reads hopen hline) (ih h)

/-! ## What is left -/

theorem suffix_of_cons_suffix {c : Char} {rest cs : List Char} (h : c :: rest <:+ cs) : rest <:+ cs :=
  (List.suffix_cons c rest).trans h

theorem skipSpace_suffix (cs : List Char) : skipSpace cs <:+ cs := List.dropWhile_suffix isSpace

theorem skipVoid_suffix {inComment : Bool} {cs rest : List Char} (h : skipVoid inComment cs = .ok rest) : rest <:+ cs :=
  (skipVoid_passes h).suffix

theorem simpleKey_suffix {cs mid : List Char} {key : Key} (h : simpleKey (skipSpace cs) = .ok (key, mid)) :
    skipSpace mid <:+ cs :=
  ((skipSpace_suffix mid).trans (simpleKey_passes h).suffix).trans (skipSpace_suffix cs)

theorem ReadsKey.suffix {cs rest : List Char} {path : List Key} {key : Key} (h : ReadsKey cs path key rest) :
    rest <:+ cs := by
  induction h with
  | last hkey => exact simpleKey_suffix hkey
  | part hfirst hdot _ ih =>
    have hmid := simpleKey_suffix hfirst
    rw [hdot] at hmid
    exact ih.trans (suffix_of_cons_suffix hmid)

/-- A part of a key is read again with the same name. -/
theorem simpleKey_between_passes {cs mid : List Char} {key : Key} (h : simpleKey (skipSpace cs) = .ok (key, mid)) :
    Passes (fun cs next => ∃ (key' : Key) (mid : List Char),
      key'.name = key.name ∧ simpleKey (skipSpace cs) = .ok (key', mid) ∧ skipSpace mid = next) cs (skipSpace mid) := by
  have hstart : Passes (fun cs mid => ∃ key' : Key, key'.name = key.name ∧ simpleKey (skipSpace cs) = .ok (key', mid))
      cs mid :=
    (skipSpace_passes cs).trans (simpleKey_passes h) fun cs mid rest hmid hrest => by subst hmid; exact hrest
  refine hstart.trans (skipSpace_passes mid) ?_
  rintro cs mid next ⟨key', hname, hkey'⟩ rfl
  exact ⟨key', mid, hname, hkey', rfl⟩

/-- A key is read again with the same names. -/
theorem ReadsKey.passes {cs rest : List Char} {path : List Key} {key : Key} (h : ReadsKey cs path key rest) :
    Passes (fun cs rest => ∃ (path' : List Key) (key' : Key),
      path'.map Key.name = path.map Key.name ∧ key'.name = key.name ∧ ReadsKey cs path' key' rest) cs rest := by
  induction h with
  | last hkey hend =>
    refine (simpleKey_between_passes hkey).and_head.imp ?_
    rintro cs next ⟨⟨key', mid, hname, hkey', rfl⟩, hhead⟩
    exact ⟨[], key', rfl, hname, .last hkey' (hhead ▸ hend)⟩
  | @part cs mid tail rest first key path hfirst hdot _ ih =>
    have hpart := simpleKey_between_passes hfirst
    have hmore : Passes (fun next rest => ∃ tail, next = '.' :: tail ∧ ∃ (path' : List Key) (key' : Key),
        path'.map Key.name = path.map Key.name ∧ key'.name = key.name ∧ ReadsKey tail path' key' rest)
        ('.' :: tail) rest :=
      ih.after ['.'] fun tail rest hrest => ⟨tail, rfl, hrest⟩
    rw [hdot] at hpart
    refine hpart.trans hmore ?_
    rintro cs next rest ⟨first', mid, hname, hfirst', hmid⟩ ⟨tail, rfl, path', key', hpath, hkey, hread⟩
    exact ⟨first' :: path', key', by simp [hname, hpath], hkey, .part hfirst' hmid hread⟩

mutual

theorem ReadsValue.suffix {room : Nat} {cs rest : List Char} {v : Value} : ReadsValue room cs v rest → rest <:+ cs
  | .text hquoted => quotedText?_suffix hquoted
  | .scalar _ _ _ htext _ => (scalarText_passes htext).suffix
  | .array hitems => hitems.suffix.trans (List.suffix_cons _ _)
  | .table hfields => hfields.suffix.trans (List.suffix_cons _ _)

theorem ReadsItem.suffix {room : Nat} {cs mid : List Char} {item : Value} : ReadsItem room cs item mid → mid <:+ cs
  | .mk hstart _ hitem => hitem.suffix.trans (skipVoid_suffix hstart)

theorem ReadsItems.suffix {room : Nat} {cs rest : List Char} {vs : List Value} :
    ReadsItems room cs vs rest → rest <:+ cs
  | .close hclose => suffix_of_cons_suffix (skipVoid_suffix hclose)
  | .last hitem hclose => (suffix_of_cons_suffix (skipVoid_suffix hclose)).trans hitem.suffix
  | .cons hitem hnext hmore =>
    (hmore.suffix.trans (suffix_of_cons_suffix (skipVoid_suffix hnext))).trans hitem.suffix

theorem ReadsPair.suffix {room : Nat} {cs mid : List Char} {path : List Key} {key : Key} {v : Value} :
    ReadsPair room cs path key v mid → mid <:+ cs ∧ mid.length < cs.length
  | .mk hkey hv => by
    have hmid := hv.suffix.trans (skipSpace_suffix _)
    exact ⟨hmid.trans (suffix_of_cons_suffix hkey.suffix), Nat.lt_of_le_of_lt hmid.length_le hkey.suffix.length_le⟩

theorem ReadsField.suffix {room : Nat} {fields added : Fields} {cs mid : List Char} {v : Value} :
    ReadsField room fields cs v added mid → mid <:+ cs
  | .mk hstart _ hpair _ => hpair.suffix.1.trans (skipVoid_suffix hstart)

theorem ReadsFields.suffix {room : Nat} {fields more : Fields} {cs rest : List Char} :
    ReadsFields room fields cs more rest → rest <:+ cs
  | .close hclose => suffix_of_cons_suffix (skipVoid_suffix hclose)
  | .last hfield hclose => (suffix_of_cons_suffix (skipVoid_suffix hclose)).trans hfield.suffix
  | .cons hfield hnext hmore =>
    (hmore.suffix.trans (suffix_of_cons_suffix (skipVoid_suffix hnext))).trans hfield.suffix

end

theorem ReadsLine.suffix {d d' : Document} {cs rest : List Char} (h : ReadsLine d cs d' rest) :
    rest <:+ cs ∧ rest.length < cs.length := by
  cases h with
  | field _ hpair hend _ =>
    have hrest := (endLine_passes hend).suffix
    exact ⟨hrest.trans hpair.suffix.1, Nat.lt_of_le_of_lt hrest.length_le hpair.suffix.2⟩
  | header _ hkey hend _ =>
    have htail := (endLine_passes hend).suffix.trans (suffix_of_cons_suffix hkey.suffix)
    exact ⟨htail.trans (List.suffix_cons _ _), Nat.lt_succ_of_le htail.length_le⟩
  | listHeader hkey hend _ =>
    have htail := (endLine_passes hend).suffix.trans (suffix_of_cons_suffix (suffix_of_cons_suffix hkey.suffix))
    have htail := htail.trans (List.suffix_cons '[' _)
    exact ⟨htail.trans (List.suffix_cons _ _), Nat.lt_succ_of_le htail.length_le⟩

/-! ## Steps enough -/

theorem ReadsKey.dottedKey_eq {cs rest : List Char} {path : List Key} {key : Key} (h : ReadsKey cs path key rest)
    {fuel : Nat} (hfuel : cs.length < fuel) : dottedKey fuel cs = .ok ((path, key), rest) := by
  induction h generalizing fuel with
  | @last cs mid key hkey hend =>
    obtain ⟨fuel, rfl⟩ := Nat.exists_eq_succ_of_ne_zero (Nat.ne_zero_of_lt hfuel)
    refine bind_eq_ok_iff.mpr ⟨_, hkey, ?_⟩
    dsimp only
    split
    · rename_i hdot
      exact absurd (by rw [hdot]; rfl) hend
    · rfl
  | @part cs mid tail rest first key path hfirst hdot hmore ih =>
    obtain ⟨fuel, rfl⟩ := Nat.exists_eq_succ_of_ne_zero (Nat.ne_zero_of_lt hfuel)
    have hlength := (simpleKey_suffix hfirst).length_le
    rw [hdot, List.length_cons] at hlength
    refine bind_eq_ok_iff.mpr ⟨_, hfirst, ?_⟩
    dsimp only
    rw [hdot]
    exact bind_eq_ok_iff.mpr ⟨_, ih (by omega), rfl⟩

mutual

theorem ReadsValue.value_eq {room : Nat} {cs rest : List Char} {v : Value} :
    ReadsValue room cs v rest → ∀ {fuel : Nat}, 2 * cs.length < fuel → value fuel room cs = .ok (v, rest)
  | .text hquoted, fuel + 1, _ => by
    rw [value_quoted hquoted]
    rfl
  | .scalar hquoted hlist htable htext hscalar, fuel + 1, _ => by
    rw [value_scalar hquoted hlist htable, htext, hscalar]
  | .array hitems, fuel + 1, hfuel => by
    rw [List.length_cons] at hfuel
    rw [value_array]
    exact map_eq_ok_iff.mpr ⟨_, hitems.items_eq (by omega), rfl⟩
  | .table hfields, fuel + 1, hfuel => by
    rw [List.length_cons] at hfuel
    rw [value_table]
    exact map_eq_ok_iff.mpr ⟨_, hfields.inlineFields_eq (by omega), rfl⟩

theorem ReadsItem.item_eq {room : Nat} {cs mid : List Char} {item : Value} : ReadsItem room cs item mid →
    ∀ {fuel : Nat}, 2 * cs.length < fuel → ∃ start, skipVoid false cs = .ok start ∧ start.head? ≠ some ']' ∧
      value fuel room start = .ok (item, mid)
  | .mk hstart hopen hitem, fuel, hfuel => by
    have hlength := (skipVoid_suffix hstart).length_le
    exact ⟨_, hstart, hopen, hitem.value_eq (by omega)⟩

theorem ReadsItems.items_eq {room : Nat} {cs rest : List Char} {vs : List Value} :
    ReadsItems room cs vs rest → ∀ {fuel : Nat}, 2 * cs.length + 1 < fuel → items fuel room cs = .ok (vs, rest)
  | .close hclose, fuel + 1, _ => by
    rw [items]
    exact bind_eq_ok_iff.mpr ⟨_, hclose, rfl⟩
  | .last hitem hclose, fuel + 1, hfuel => by
    obtain ⟨start, hstart, hopen, hvalue⟩ := hitem.item_eq (show 2 * cs.length < fuel by omega)
    rw [items]
    refine bind_eq_ok_iff.mpr ⟨_, hstart, ?_⟩
    split
    · exact absurd rfl hopen
    · exact bind_eq_ok_iff.mpr ⟨_, hvalue, bind_eq_ok_iff.mpr ⟨_, hclose, rfl⟩⟩
  | .cons hitem hnext hmore, fuel + 1, hfuel => by
    have htail := ((skipVoid_suffix hnext).trans hitem.suffix).length_le
    rw [List.length_cons] at htail
    obtain ⟨start, hstart, hopen, hvalue⟩ := hitem.item_eq (show 2 * cs.length < fuel by omega)
    rw [items]
    refine bind_eq_ok_iff.mpr ⟨_, hstart, ?_⟩
    split
    · exact absurd rfl hopen
    · refine bind_eq_ok_iff.mpr ⟨_, hvalue, bind_eq_ok_iff.mpr ⟨_, hnext, ?_⟩⟩
      exact bind_eq_ok_iff.mpr ⟨_, hmore.items_eq (by omega), rfl⟩

theorem ReadsPair.pair_eq {room : Nat} {cs mid : List Char} {path : List Key} {key : Key} {v : Value} :
    ReadsPair room cs path key v mid → ∀ {fuel : Nat}, 2 * cs.length < fuel → ∃ tail,
      dottedKey fuel cs = .ok ((path, key), '=' :: tail) ∧ value fuel room (skipSpace tail) = .ok (v, mid)
  | .mk hkey hv, fuel, hfuel => by
    have htail := ((skipSpace_suffix _).trans (suffix_of_cons_suffix hkey.suffix)).length_le
    exact ⟨_, hkey.dottedKey_eq (by omega), hv.value_eq (by omega)⟩

theorem ReadsField.field_eq {room : Nat} {fields added : Fields} {cs mid : List Char} {v : Value} :
    ReadsField room fields cs v added mid → ∀ {fuel : Nat}, 2 * cs.length < fuel → ∃ start path key tail,
      skipVoid false cs = .ok start ∧ start.head? ≠ some '\x7d' ∧
        dottedKey fuel start = .ok ((path, key), '=' :: tail) ∧
        value fuel room (skipSpace tail) = .ok (v, mid) ∧ addField path key v fields = .ok added
  | @ReadsField.mk _ _ _ _ start _ _ _ _ hstart hopen hpair hadded, fuel, hfuel => by
    have hlength := (skipVoid_suffix hstart).length_le
    obtain ⟨tail, hkey, hv⟩ := hpair.pair_eq (show 2 * start.length < fuel by omega)
    exact ⟨_, _, _, tail, hstart, hopen, hkey, hv, hadded⟩

theorem ReadsFields.inlineFields_eq {room : Nat} {fields more : Fields} {cs rest : List Char} :
    ReadsFields room fields cs more rest →
      ∀ {fuel : Nat}, 2 * cs.length + 1 < fuel → inlineFields fuel room fields cs = .ok (more, rest)
  | .close hclose, fuel + 1, _ => by
    rw [inlineFields]
    exact bind_eq_ok_iff.mpr ⟨_, hclose, rfl⟩
  | .last hfield hclose, fuel + 1, hfuel => by
    obtain ⟨start, path, key, tail, hstart, hopen, hkey, hv, hadded⟩ :=
      hfield.field_eq (show 2 * cs.length < fuel by omega)
    rw [inlineFields]
    refine bind_eq_ok_iff.mpr ⟨_, hstart, ?_⟩
    split
    · exact absurd rfl hopen
    · refine bind_eq_ok_iff.mpr ⟨_, hkey, bind_eq_ok_iff.mpr ⟨_, hv, bind_eq_ok_iff.mpr ⟨_, hadded, ?_⟩⟩⟩
      exact bind_eq_ok_iff.mpr ⟨_, hclose, rfl⟩
  | .cons hfield hnext hmore, fuel + 1, hfuel => by
    have hlength := ((skipVoid_suffix hnext).trans hfield.suffix).length_le
    rw [List.length_cons] at hlength
    obtain ⟨start, path, key, tail, hstart, hopen, hkey, hv, hadded⟩ :=
      hfield.field_eq (show 2 * cs.length < fuel by omega)
    rw [inlineFields]
    refine bind_eq_ok_iff.mpr ⟨_, hstart, ?_⟩
    split
    · exact absurd rfl hopen
    · refine bind_eq_ok_iff.mpr ⟨_, hkey, bind_eq_ok_iff.mpr ⟨_, hv, bind_eq_ok_iff.mpr ⟨_, hadded, ?_⟩⟩⟩
      exact bind_eq_ok_iff.mpr ⟨_, hnext, hmore.inlineFields_eq (by omega)⟩

end

theorem ReadsDocument.document_eq {d : Document} {cs : List Char} {fields : Fields} (h : ReadsDocument d cs fields)
    {fuel : Nat} (hfuel : 2 * cs.length + 1 < fuel) : document fuel d cs = .ok fields := by
  induction h generalizing fuel with
  | done hdone =>
    obtain ⟨fuel, rfl⟩ := Nat.exists_eq_succ_of_ne_zero (Nat.ne_zero_of_lt hfuel)
    exact bind_eq_ok_iff.mpr ⟨_, hdone, rfl⟩
  | @line d d' cs start rest fields hstart hnone hline hmore ih =>
    obtain ⟨fuel, rfl⟩ := Nat.exists_eq_succ_of_ne_zero (Nat.ne_zero_of_lt hfuel)
    have hlength := (skipVoid_suffix hstart).length_le
    have hrest := hline.suffix.2
    have hnext := ih (show 2 * rest.length + 1 < fuel by omega)
    refine bind_eq_ok_iff.mpr ⟨_, hstart, ?_⟩
    cases hline with
    | field hopen hpair hend hadd =>
      obtain ⟨tail, hkey, hv⟩ := hpair.pair_eq (show 2 * start.length < fuel + 1 by omega)
      have hline : fieldLine (fuel + 1) d start = .ok (d', rest) :=
        bind_eq_ok_iff.mpr ⟨_, hkey, bind_eq_ok_iff.mpr ⟨_, hv, bind_eq_ok_iff.mpr ⟨_, hend,
          bind_eq_ok_iff.mpr ⟨_, hadd, rfl⟩⟩⟩⟩
      split
      · exact absurd rfl hnone
      · exact absurd rfl hopen
      · exact absurd rfl hopen
      · exact bind_eq_ok_iff.mpr ⟨_, hline, hnext⟩
    | @header cs mid _ path key fields hopen hkey hend hadd =>
      rw [List.length_cons] at hlength
      have hline : headerLine (fuel + 1) d cs = .ok (⟨fields, path ++ [key]⟩, rest) :=
        bind_eq_ok_iff.mpr ⟨_, hkey.dottedKey_eq (by omega), bind_eq_ok_iff.mpr ⟨_, hend,
          bind_eq_ok_iff.mpr ⟨_, hadd, rfl⟩⟩⟩
      dsimp only
      split
      · rename_i heq
        cases heq
      · rename_i heq
        cases heq
        exact absurd rfl hopen
      · rename_i heq
        cases heq
        exact bind_eq_ok_iff.mpr ⟨_, hline, hnext⟩
      · rename_i hfield
        exact absurd rfl (hfield _)
    | @listHeader cs mid _ path key fields hkey hend hadd =>
      rw [List.length_cons, List.length_cons] at hlength
      have hline : listHeaderLine (fuel + 1) d cs = .ok (⟨fields, path ++ [key]⟩, rest) :=
        bind_eq_ok_iff.mpr ⟨_, hkey.dottedKey_eq (by omega), bind_eq_ok_iff.mpr ⟨_, hend,
          bind_eq_ok_iff.mpr ⟨_, hadd, rfl⟩⟩⟩
      exact bind_eq_ok_iff.mpr ⟨_, hline, hnext⟩

/-- The bounds that the reader starts with do not matter: it reads just the files that have the form. -/
theorem parse_eq_ok_iff {text : String} {fields : Fields} :
    parse text = .ok fields ↔ ReadsDocument {} (withoutMark text) fields :=
  ⟨document_reads, fun h => h.document_eq (by omega)⟩

end ServiceCatalog.Toml
