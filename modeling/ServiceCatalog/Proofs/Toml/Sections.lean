import ServiceCatalog.Proofs.Toml.Lines

/-!
# Sections of a file

A section consists of a header and the lines under it, and further headers of tables inside the table of the first. It
changes what one name stands for and nothing else. Sections of different tables can therefore change places.
-/

namespace ServiceCatalog.Toml

/-! ## Changes under one name -/

/-- Puts a value under a name: in place of the one that is there, or else behind all others. -/
def put (name : String) (v : Value) (fields : Fields) : Fields :=
  if (fields.lookup name).isSome then replace name v fields else fields ++ [(name, v)]

section Put

variable {fields : Fields} {name other : String} {v w : Value}

theorem put_of_none (h : fields.lookup name = none) : put name v fields = fields ++ [(name, v)] := by
  rw [put, h]
  rfl

theorem put_of_some (h : fields.lookup name = some w) : put name v fields = replace name v fields := by
  rw [put, h]
  rfl

theorem lookup_put_self : (put name v fields).lookup name = some v := by
  cases h : fields.lookup name with
  | none => rw [put_of_none h, lookup_concat_self h]
  | some w => rw [put_of_some h, lookup_replace_self (by rw [h, Option.isSome_some])]

theorem lookup_put_of_ne (h : other ≠ name) : (put name v fields).lookup other = fields.lookup other := by
  rw [put]
  split
  · exact lookup_replace_of_ne h
  · exact lookup_concat_of_ne h

theorem lookup_put_comm (h : name ≠ other) (found : String) :
    (put other w (put name v fields)).lookup found = (put name v (put other w fields)).lookup found := by
  by_cases hname : found = name
  · rw [hname, lookup_put_of_ne h, lookup_put_self, lookup_put_self]
  · rw [lookup_put_of_ne hname]
    by_cases hother : found = other
    · rw [hother, lookup_put_self, lookup_put_self]
    · rw [lookup_put_of_ne hother, lookup_put_of_ne hother, lookup_put_of_ne hname]

theorem nodup_put (h : (fields.map Prod.fst).Nodup) : ((put name v fields).map Prod.fst).Nodup := by
  cases hname : fields.lookup name with
  | none =>
    rw [put_of_none hname]
    exact nodup_concat h hname
  | some w => rwa [put_of_some hname, names_replace]

theorem replace_replace (name : String) (v w : Value) (fields : Fields) :
    replace name w (replace name v fields) = replace name w fields := by
  induction fields with
  | nil => rfl
  | cons f rest ih =>
    by_cases hname : f.1 = name
    · rw [replace, if_pos hname, replace, if_pos rfl, replace, if_pos hname]
    · rw [replace, if_neg hname, replace, if_neg hname, ih, replace, if_neg hname]

theorem replace_concat (h : fields.lookup name = none) :
    replace name w (fields ++ [(name, v)]) = fields ++ [(name, w)] := by
  induction fields with
  | nil => exact if_pos rfl
  | cons f rest ih =>
    rw [List.lookup_cons] at h
    split at h
    · cases h
    · rename_i hother
      have hname : f.1 ≠ name := Ne.symm (by simpa using hother)
      rw [List.cons_append, replace, if_neg hname, ih h, List.cons_append]

theorem put_put (name : String) (v w : Value) (fields : Fields) :
    put name w (put name v fields) = put name w fields := by
  cases h : fields.lookup name with
  | none => rw [put_of_some lookup_put_self, put_of_none h, put_of_none h, replace_concat h]
  | some u => rw [put_of_some lookup_put_self, put_of_some h, put_of_some h, replace_replace]

end Put

/-- A change that only depends on what a name stands for, and only changes that. -/
def ActsAt (name : String) (change : Origin → Fields → Except Fault Fields) : Prop :=
  ∃ next : Option Value → Except Fault Value, ∀ origin fields,
    change origin fields = (next (fields.lookup name)).map fun v => put name v fields

/-- One change and another one after it. -/
def andThen (change further : Origin → Fields → Except Fault Fields) (origin : Origin) (fields : Fields) :
    Except Fault Fields :=
  change origin fields >>= further origin

section ActsAt

variable {name other : String} {change further : Origin → Fields → Except Fault Fields}

theorem ActsAlike.andThen (h : ActsAlike change change) (hfurther : ActsAlike further further) :
    ActsAlike (andThen change further) (andThen change further) :=
  fun origin _ _ hfields => (h origin hfields).bind fun _ _ hmore => hfurther origin hmore

theorem ActsAt.andThen (h : ActsAt name change) (hfurther : ActsAt name further) :
    ActsAt name (andThen change further) := by
  obtain ⟨next, hnext⟩ := h
  obtain ⟨last, hlast⟩ := hfurther
  refine ⟨fun found => next found >>= fun v => last (some v), fun origin fields => ?_⟩
  rw [Toml.andThen, hnext]
  dsimp only
  cases next (fields.lookup name) with
  | error => rfl
  | ok v =>
    have hstep : further origin (put name v fields) = (last (some v)).map fun w => put name w fields := by
      simp only [hlast, lookup_put_self, put_put]
    exact hstep

/-- Changes under different names can be made in either order. -/
theorem ActsAt.andThen_comm (h : ActsAt name change) (hother : ActsAt other further) (hne : name ≠ other)
    (halike : ActsAlike change change) (hfurther : ActsAlike further further) :
    ActsAlike (Toml.andThen change further) (Toml.andThen further change) := by
  obtain ⟨next, hnext⟩ := h
  obtain ⟨last, hlast⟩ := hother
  intro origin fields fields' hfields
  have hagree := hfurther.andThen halike origin hfields
  have hfirst : Toml.andThen change further origin fields = next (fields.lookup name) >>= fun v =>
      (last (fields.lookup other)).map fun w => put other w (put name v fields) := by
    rw [Toml.andThen, hnext]
    cases next (fields.lookup name) with
    | error => rfl
    | ok v => exact (hlast ..).trans (by rw [lookup_put_of_ne hne.symm]; rfl)
  have hsecond : Toml.andThen further change origin fields = last (fields.lookup other) >>= fun w =>
      (next (fields.lookup name)).map fun v => put name v (put other w fields) := by
    rw [Toml.andThen, hlast]
    cases last (fields.lookup other) with
    | error => rfl
    | ok w => exact (hnext ..).trans (by rw [lookup_put_of_ne hne]; rfl)
  rw [hsecond] at hagree
  rw [hfirst]
  revert hagree
  generalize Toml.andThen further change origin fields' = result
  cases next (fields.lookup name) with
  | error =>
    cases last (fields.lookup other) <;> exact fun | .error => .error
  | ok v =>
    cases last (fields.lookup other) with
    | error => exact fun | .error => .error
    | ok w =>
      rintro (hput | _)
      refine .ok ?_
      cases hput with
      | mk _ hnodup' hlookup =>
        refine .mk (nodup_put (nodup_put hfields.nodup)) hnodup' fun found => ?_
        rw [lookup_put_comm hne]
        exact hlookup found

end ActsAt

/-! ## Changes that keys lead to -/

/-- The value that a change makes of what a key stands for, if the change is made of the fields that the key leads
to. -/
def changedWithin (key : Key) (change : Origin → Fields → Except Fault Fields) : Option Value → Except Fault Value
  | none => (change .implied []).map fun inner => .table key.place .implied inner
  | some (.table place found inner) =>
    if found = .inline then .error (closed key) else (change found inner).map fun inner => .table place found inner
  | some (.array place true items) =>
    match items.getLast? with
    | some (.table inside found inner) =>
      (change found inner).map fun inner => .array place true (items.dropLast ++ [.table inside found inner])
    | _ => .error (closed key)
  | some _ => .error (closed key)

section ChangeAt

variable {change further : Origin → Fields → Except Fault Fields} {origin : Origin} {fields : Fields}

theorem changeAt_cons (key : Key) (keys : List Key) :
    changeAt false origin fields change (key :: keys) =
      (changedWithin key (fun origin fields => changeAt false origin fields change keys) (fields.lookup key.name)).map
        fun v => put key.name v fields := by
  have hpure {x : Except Fault Fields} {make : Fields → Fields} :
      (x >>= fun inner => pure (make inner)) = x.map make := by
    cases x <;> rfl
  have hmap {x : Except Fault Fields} {make : Fields → Value} {place : Value → Fields} :
      (x.map make).map place = x.map fun inner => place (make inner) := by
    cases x <;> rfl
  rw [changeAt]
  cases h : fields.lookup key.name with
  | none =>
    simp only [changedWithin, hpure, hmap, put_of_none h]
    rfl
  | some v =>
    cases v with
    | table place found inner =>
      simp only [changedWithin, hpure, put_of_some h, Bool.false_eq_true, false_and, if_false]
      split
      · rfl
      · rw [hmap]
    | array place ofTables items =>
      cases ofTables with
      | false => rfl
      | true =>
        simp only [changedWithin, hpure, put_of_some h]
        cases items.getLast? with
        | none => rfl
        | some last =>
          cases last with
          | table => simp only [hmap]
          | _ => rfl
    | _ => rfl

theorem actsAt_changeAt (key : Key) (keys : List Key) :
    ActsAt key.name fun origin fields => changeAt false origin fields change (key :: keys) :=
  ⟨_, fun _ _ => changeAt_cons key keys⟩

theorem changeAt_append (keys more : List Key) :
    changeAt false origin fields change (keys ++ more) =
      changeAt false origin fields (fun origin fields => changeAt false origin fields change more) keys := by
  induction keys generalizing origin fields with
  | nil => rfl
  | cons key keys ih => simp only [List.cons_append, changeAt_cons, ih]

theorem changedWithin_andThen (key key' : Key) (found : Option Value) :
    (changedWithin key change found >>= fun v => changedWithin key' further (some v)) =
      changedWithin key (andThen change further) found := by
  have hstep {x : Except Fault Fields} {next : Fields → Except Fault Fields} {make : Fields → Value}
      {last : Value → Except Fault Value} (h : ∀ inner, last (make inner) = (next inner).map make) :
      (x.map make >>= last) = (x >>= next).map make := by
    cases x with
    | error => rfl
    | ok inner => exact h inner
  cases found with
  | none => exact hstep fun inner => rfl
  | some v =>
    cases v with
    | table place found inner =>
      simp only [changedWithin]
      split
      · rfl
      · rename_i hopen
        exact hstep fun inner => if_neg hopen
    | array place ofTables items =>
      cases ofTables with
      | false => rfl
      | true =>
        simp only [changedWithin]
        split
        · exact hstep fun inner => by simp only [List.getLast?_concat, List.dropLast_concat]
        · rfl
    | _ => rfl

/-- Changes of the fields that keys of the same names lead to are one change of them. -/
theorem changeAt_andThen {keys keys' : List Key} (h : keys'.map Key.name = keys.map Key.name) :
    (changeAt false origin fields change keys >>= fun more => changeAt false origin more further keys') =
      changeAt false origin fields (andThen change further) keys := by
  induction keys generalizing keys' origin fields with
  | nil =>
    obtain rfl := List.map_eq_nil_iff.mp h
    rfl
  | cons key keys ih =>
    obtain ⟨key', keys', rfl, hname, hrest⟩ := List.map_eq_cons_iff.mp h
    have hinner : andThen (fun origin fields => changeAt false origin fields change keys)
        (fun origin fields => changeAt false origin fields further keys') =
        fun origin fields => changeAt false origin fields (andThen change further) keys := by
      funext origin fields
      exact ih hrest
    rw [changeAt_cons, changeAt_cons, ← hinner, ← changedWithin_andThen key key']
    cases changedWithin key _ (fields.lookup key.name) with
    | error => rfl
    | ok v =>
      have hnext (more : Fields) (hmore : more.lookup key.name = some v) :
          changeAt false origin more further (key' :: keys') =
            (changedWithin key' (fun origin fields => changeAt false origin fields further keys') (some v)).map
              fun w => put key.name w more := by
        rw [changeAt_cons, hname, hmore]
      refine (hnext _ lookup_put_self).trans ?_
      simp only [put_put]
      rfl

theorem addTable_append (keys path : List Key) (key : Key) :
    addTable (keys ++ path) key fields =
      changeAt false .header fields (fun _ inner => addTable path key inner) keys := by
  rw [addTable, changeAt_append]
  cases path with
  | nil => rfl
  | cons first path => simp only [addTable, changeAt_cons]

theorem addTableToList_append (keys path : List Key) (key : Key) :
    addTableToList (keys ++ path) key fields =
      changeAt false .header fields (fun _ inner => addTableToList path key inner) keys := by
  rw [addTableToList, changeAt_append]
  cases path with
  | nil => rfl
  | cons first path => simp only [addTableToList, changeAt_cons]

/-- What a header makes of the value of its last key. -/
def opened (key : Key) (found : Option Value) : Except Fault Value :=
  found.elim (.ok (.table key.place .header [])) fun
    | .table _ .implied inner => .ok (.table key.place .header inner)
    | _ => .error (duplicate key)

/-- What the header of one more table of a list makes of the value of its last key. -/
def lengthened (key : Key) (found : Option Value) : Except Fault Value :=
  found.elim (.ok (.array key.place true [.table key.place .header []])) fun
    | .array place true items => .ok (.array place true (items ++ [.table key.place .header []]))
    | _ => .error (duplicate key)

theorem actsAt_addTable {path rest : List Key} {key first : Key} (h : path ++ [key] = first :: rest) :
    ActsAt first.name fun _ fields => addTable path key fields := by
  cases path with
  | nil =>
    cases h
    refine ⟨opened key, fun _ fields => ?_⟩
    dsimp only [addTable, changeAt]
    cases hfound : fields.lookup key.name with
    | none => exact congrArg Except.ok (put_of_none hfound).symm
    | some v =>
      cases v with
      | table place origin inner =>
        cases origin with
        | implied => exact congrArg Except.ok (put_of_some hfound).symm
        | _ => rfl
      | _ => rfl
  | cons first path =>
    cases h
    exact ⟨_, fun _ _ => changeAt_cons first path⟩

theorem actsAt_addTableToList {path rest : List Key} {key first : Key} (h : path ++ [key] = first :: rest) :
    ActsAt first.name fun _ fields => addTableToList path key fields := by
  cases path with
  | nil =>
    cases h
    refine ⟨lengthened key, fun _ fields => ?_⟩
    dsimp only [addTableToList, changeAt]
    cases hfound : fields.lookup key.name with
    | none => exact congrArg Except.ok (put_of_none hfound).symm
    | some v =>
      cases v with
      | array place ofTables items =>
        cases ofTables with
        | true => exact congrArg Except.ok (put_of_some hfound).symm
        | false => rfl
      | _ => rfl
  | cons first path =>
    cases h
    exact ⟨_, fun _ _ => changeAt_cons first path⟩

end ChangeAt

/-! ## Lines below a header -/

/-- What lines behind one header and up to another do whatever the fields are: a change, under one name, of the fields
that some names lead to. -/
def ActsBelow (names : List String) (name : String) (header : List Key) (lines : List Line) (last : List Key) : Prop :=
  ∃ keys change, keys.map Key.name = names ∧ ActsAt name change ∧ ActsAlike change change ∧
    ∀ fields, Document.addLines ⟨fields, header⟩ lines =
      (changeAt false .header fields change keys).map fun more => ⟨more, last⟩

/-- A section of the table that some names lead to: a header, and below it no other header but of tables inside. -/
structure IsSection (names : List String) (lines : List Line) : Prop where
  headed : ∃ l rest, lines = l :: rest ∧ l.header?.isSome = true
  inside : ∀ l ∈ lines, ∀ keys, l.header? = some keys → names <+: keys.map Key.name

/-- There is no line in front of the first header. -/
def Headed (lines : List Line) : Prop := ∀ l, lines.head? = some l → l.header?.isSome = true

section Below

variable {names : List String} {name : String} {header : List Key}

theorem exists_path {path keys rest : List Key} {key first : Key} (h : path ++ [key] = keys ++ first :: rest) :
    ∃ more, path = keys ++ more ∧ more ++ [key] = first :: rest := by
  obtain ⟨more, hkeys, hkey⟩ | ⟨more, hpath, hrest⟩ := List.append_eq_append_iff.mp h
  · obtain ⟨rfl, hkey⟩ | ⟨_, hnil⟩ := List.append_eq_singleton_iff.mp hkey.symm
    · exact ⟨[], by rw [hkeys, List.append_nil, List.append_nil], hkey⟩
    · cases hnil
  · exact ⟨more, hpath, hrest.symm⟩

theorem Line.addTo_below {l : Line} (hsame : l.Same l)
    (hbelow : names ++ [name] <+: (l.header?.getD header).map Key.name) :
    ActsBelow names name header [l] (l.header?.getD header) := by
  obtain ⟨back, hback⟩ := hbelow
  rw [List.append_assoc, List.singleton_append] at hback
  obtain ⟨keys, more, hsplit, hkeys, hmore⟩ := List.map_eq_append_iff.mp hback.symm
  obtain ⟨first, rest, rfl, rfl, -⟩ := List.map_eq_cons_iff.mp hmore
  have hone {fields : Fields} : Document.addLines ⟨fields, header⟩ [l] = l.addTo ⟨fields, header⟩ := bind_pure _
  cases hsame with
  | @field path _ key _ v _ _ _ hv =>
    obtain rfl : header = keys ++ first :: rest := hsplit
    have halike : ActsAlike (fun _ inner => addField path key v inner) fun _ inner => addField path key v inner :=
      fun _ => ActsAlike.addField rfl rfl hv .header
    refine ⟨keys, _, hkeys, actsAt_changeAt first rest, halike.changeAt rfl, fun fields => ?_⟩
    rw [hone, Line.addTo, Document.add, changeAt_append]
    rfl
  | @header path _ key _ =>
    obtain ⟨more, rfl, hmore⟩ := exists_path hsplit
    refine ⟨keys, _, hkeys, actsAt_addTable hmore, ActsAlike.addTable rfl rfl, fun fields => ?_⟩
    rw [hone, Line.addTo, addTable_append]
    rfl
  | @listHeader path _ key _ =>
    obtain ⟨more, rfl, hmore⟩ := exists_path hsplit
    refine ⟨keys, _, hkeys, actsAt_addTableToList hmore, ActsAlike.addTableToList rfl rfl, fun fields => ?_⟩
    rw [hone, Line.addTo, addTableToList_append]
    rfl

theorem addLines_append (d : Document) (lines more : List Line) :
    d.addLines (lines ++ more) = d.addLines lines >>= fun mid => mid.addLines more :=
  List.foldlM_append

theorem ActsBelow.append {mid last : List Key} {lines more : List Line} (h : ActsBelow names name header lines mid)
    (hmore : ActsBelow names name mid more last) : ActsBelow names name header (lines ++ more) last := by
  obtain ⟨keys, change, hkeys, hat, halike, heq⟩ := h
  obtain ⟨keys', further, hkeys', hat', halike', heq'⟩ := hmore
  refine ⟨keys, andThen change further, hkeys, hat.andThen hat', halike.andThen halike', fun fields => ?_⟩
  rw [addLines_append, heq, ← changeAt_andThen (hkeys'.trans hkeys.symm)]
  cases changeAt false .header fields change keys with
  | error => rfl
  | ok more => exact heq' more

theorem addLines_below {l : Line} {lines : List Line} (hsame : ∀ m ∈ l :: lines, m.Same m)
    (hfirst : names ++ [name] <+: (l.header?.getD header).map Key.name)
    (hlines : ∀ m ∈ lines, ∀ keys, m.header? = some keys → names ++ [name] <+: keys.map Key.name) :
    ∃ last, ActsBelow names name header (l :: lines) last := by
  induction lines generalizing l header with
  | nil => exact ⟨_, Line.addTo_below (hsame l List.mem_cons_self) hfirst⟩
  | cons m lines ih =>
    obtain ⟨hl, hsame⟩ := List.forall_mem_cons.mp hsame
    obtain ⟨hm, hlines⟩ := List.forall_mem_cons.mp hlines
    have hnext : names ++ [name] <+: (m.header?.getD (l.header?.getD header)).map Key.name := by
      cases hheader : m.header? with
      | none => exact hfirst
      | some keys => exact hm keys hheader
    obtain ⟨last, hlast⟩ := ih hsame hnext hlines
    exact ⟨last, (Line.addTo_below hl hfirst).append hlast⟩

theorem Line.addTo_of_header {l : Line} (h : l.header?.isSome = true) (d : Document) (header : List Key) :
    l.addTo d = l.addTo ⟨d.fields, header⟩ := by
  cases l with
  | field => cases h
  | header => rfl
  | listHeader => rfl

/-- What a section does does not depend on the header in front of it. -/
theorem IsSection.addLines_eq {lines : List Line} (h : IsSection (names ++ [name]) lines)
    (hsame : ∀ l ∈ lines, l.Same l) : ∃ keys change last, keys.map Key.name = names ∧ ActsAt name change ∧
      ActsAlike change change ∧ ∀ d : Document,
        d.addLines lines = (changeAt false .header d.fields change keys).map fun more => ⟨more, last⟩ := by
  obtain ⟨l, rest, rfl, hheaded⟩ := h.headed
  obtain ⟨hl, hrest⟩ := List.forall_mem_cons.mp h.inside
  obtain ⟨keys, hkeys⟩ := Option.isSome_iff_exists.mp hheaded
  have hfirst : names ++ [name] <+: (l.header?.getD []).map Key.name := by
    rw [hkeys]
    exact hl keys hkeys
  obtain ⟨last, keys, change, hnames, hat, halike, heq⟩ := addLines_below hsame hfirst hrest
  refine ⟨keys, change, last, hnames, hat, halike, fun d => ?_⟩
  rw [← heq]
  exact congrArg (· >>= fun d => Document.addLines d rest) (Line.addTo_of_header hheaded d [])

end Below

/-! ## Sections that change places -/

/-- Documents with reordered fields. -/
def SameFields (d d' : Document) : Prop := ReorderedFields d.fields d'.fields

theorem addLines_swap {names : List String} {name other : String} (hne : name ≠ other) {s t : List Line}
    (hs : IsSection (names ++ [name]) s) (ht : IsSection (names ++ [other]) t) (hsames : ∀ l ∈ s, l.Same l)
    (hsamet : ∀ l ∈ t, l.Same l) {d d' : Document} (hd : SameFields d d') :
    Agree SameFields (d.addLines (s ++ t)) (d'.addLines (t ++ s)) := by
  obtain ⟨keys, change, lasts, hkeys, hat, halike, heqs⟩ := hs.addLines_eq hsames
  obtain ⟨keys', further, lastt, hkeys', hat', halike', heqt⟩ := ht.addLines_eq hsamet
  have hboth {e : Document} {s t : List Line} {keys keys' : List Key} {last last' : List Key}
      {change further : Origin → Fields → Except Fault Fields} (hnames : keys'.map Key.name = keys.map Key.name)
      (hs : ∀ e : Document, e.addLines s = (changeAt false .header e.fields change keys).map fun more => ⟨more, last⟩)
      (ht : ∀ e : Document,
        e.addLines t = (changeAt false .header e.fields further keys').map fun more => ⟨more, last'⟩) :
      e.addLines (s ++ t) =
        (changeAt false .header e.fields (andThen change further) keys).map fun more => ⟨more, last'⟩ := by
    rw [addLines_append, hs, ← changeAt_andThen hnames]
    cases changeAt false .header e.fields change keys with
    | error => rfl
    | ok more => exact ht _
  rw [hboth (hkeys'.trans hkeys.symm) heqs heqt, hboth (hkeys.trans hkeys'.symm) heqt heqs]
  refine Agree.map ?_ fun fields fields' hfields => hfields
  exact (hat.andThen_comm hat' hne halike halike').changeAt (hkeys'.trans hkeys.symm) .header hd

/-- From the next header on it does not matter what the last one was. -/
theorem Headed.addLines {lines : List Line} (h : Headed lines) (hsame : ∀ l ∈ lines, l.Same l) {d d' : Document}
    (hd : SameFields d d') : Agree SameFields (d.addLines lines) (d'.addLines lines) := by
  cases lines with
  | nil => exact .ok hd
  | cons l rest =>
    have hfirst : d'.addLines (l :: rest) = Document.addLines ⟨d'.fields, d.header⟩ (l :: rest) :=
      congrArg (· >>= fun d => Document.addLines d rest) (Line.addTo_of_header (h l rfl) d' d.header)
    rw [hfirst]
    have halike : d.Alike ⟨d'.fields, d.header⟩ := ⟨hd, rfl⟩
    exact (halike.addLines (List.forall₂_same.mpr hsame)).imp fun e e' he => he.fields

/-- The same lines with sections of different tables in another order. -/
inductive SectionsMoved : List Line → List Line → Prop
  | refl {lines : List Line} : SectionsMoved lines lines
  | swap {names : List String} {name other : String} {before s t behind : List Line} : name ≠ other →
    IsSection (names ++ [name]) s → IsSection (names ++ [other]) t → Headed behind →
    SectionsMoved (before ++ (s ++ t) ++ behind) (before ++ (t ++ s) ++ behind)
  | trans {lines mid lines' : List Line} : SectionsMoved lines mid → SectionsMoved mid lines' →
    SectionsMoved lines lines'

/-- Texts that are made of the same lines, with sections of different tables in another order. -/
def SameButOrder (text text' : String) : Prop :=
  ∃ lines mid lines', ConsistsOf (withoutMark text) lines ∧ SectionsMoved lines mid ∧
    List.Forall₂ Line.Same mid lines' ∧ ConsistsOf (withoutMark text') lines'

theorem SectionsMoved.mem_iff {lines lines' : List Line} (h : SectionsMoved lines lines') {l : Line} :
    l ∈ lines ↔ l ∈ lines' := by
  induction h with
  | refl => exact Iff.rfl
  | swap => simp only [List.mem_append, or_comm]
  | trans _ _ ih ih' => exact ih.trans ih'

section Read

variable {α : Type} {read : Fields → Except Fault α}

/-- What is read from the fields of some lines. -/
def readLines (read : Fields → Except Fault α) (lines : List Line) : Except Fault α :=
  Document.addLines {} lines >>= fun d => read d.fields

theorem SectionsMoved.readLines_eq (hread : ∀ fields fields', ReorderedFields fields fields' →
    Agree Eq (read fields) (read fields')) {lines lines' : List Line} (h : SectionsMoved lines lines')
    (hsame : ∀ l ∈ lines, l.Same l) {a : α} : readLines read lines = .ok a ↔ readLines read lines' = .ok a := by
  induction h with
  | refl => exact Iff.rfl
  | @swap names name other before s t behind hne hs ht hbehind =>
    simp only [List.forall_mem_append] at hsame
    obtain ⟨⟨hbefore, hsames, hsamet⟩, hsameBehind⟩ := hsame
    have hempty : Document.Alike {} {} := ⟨.nil, rfl⟩
    refine Agree.eq_ok_iff ?_
    rw [readLines, readLines, addLines_append, addLines_append, addLines_append, addLines_append]
    refine Agree.bind (R := SameFields) ?_ fun d d' hd => hread d.fields d'.fields hd
    refine Agree.bind (R := SameFields) ?_ fun d d' hd => hbehind.addLines hsameBehind hd
    refine (hempty.addLines (List.forall₂_same.mpr hbefore)).bind fun d d' hd => ?_
    exact addLines_swap hne hs ht hsames hsamet hd.fields
  | trans hfirst _ ih ih' =>
    exact (ih hsame).trans (ih' fun l hl => hsame l (hfirst.mem_iff.mpr hl))

/-- What is read from a file does not depend on the order of its sections, nor on that of the fields in its tables. -/
theorem SameButOrder.read_eq_ok_iff (hread : ∀ fields fields', ReorderedFields fields fields' →
    Agree Eq (read fields) (read fields')) {text text' : String} (h : SameButOrder text text') {a : α} :
    (∃ fields, parse text = .ok fields ∧ read fields = .ok a) ↔
      ∃ fields, parse text' = .ok fields ∧ read fields = .ok a := by
  obtain ⟨lines, mid, lines', hlines, hmoved, hsame, hlines'⟩ := h
  have hempty : Document.Alike {} {} := ⟨.nil, rfl⟩
  have hwhole {text : String} {lines : List Line} (h : ConsistsOf (withoutMark text) lines) :
      (∃ fields, parse text = .ok fields ∧ read fields = .ok a) ↔ readLines read lines = .ok a := by
    simp only [h.parse_eq_ok_iff, map_eq_ok_iff, readLines, bind_eq_ok_iff]
    constructor
    · rintro ⟨fields, ⟨d, hd, rfl⟩, hfields⟩
      exact ⟨d, hd, hfields⟩
    · rintro ⟨d, hd, hfields⟩
      exact ⟨d.fields, ⟨d, hd, rfl⟩, hfields⟩
  rw [hwhole hlines, hwhole hlines', hmoved.readLines_eq hread hlines.same]
  exact ((hempty.addLines hsame).bind fun d d' hd => hread d.fields d'.fields hd.fields).eq_ok_iff

end Read

end ServiceCatalog.Toml
