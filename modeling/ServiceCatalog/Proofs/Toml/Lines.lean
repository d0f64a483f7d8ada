import ServiceCatalog.Proofs.Toml.Reordered

/-!
# The lines of a file

A text is made of lines in one way. The file is read by reading its lines one after the other, each with a field or a
header, and what one line does to fields does not depend on their order.
-/

namespace ServiceCatalog.Toml

/-- A line with a field or a header. -/
inductive Line where
  | field (path : List Key) (key : Key) (v : Value)
  | header (path : List Key) (key : Key)
  | listHeader (path : List Key) (key : Key)

namespace Line

/-- The keys of a header. -/
def header? : Line → Option (List Key)
  | field _ _ _ => none
  | header path key => some (path ++ [key])
  | listHeader path key => some (path ++ [key])

/-- A document with one more line. -/
def addTo (d : Document) : Line → Except Fault Document
  | field path key v => d.add path key v
  | header path key => (addTable path key d.fields).map fun fields => ⟨fields, path ++ [key]⟩
  | listHeader path key => (addTableToList path key d.fields).map fun fields => ⟨fields, path ++ [key]⟩

/-- A line and the same at another place, with the fields of the tables in its value in another order. -/
inductive Same : Line → Line → Prop
  | field {path path' : List Key} {key key' : Key} {v v' : Value} : path'.map Key.name = path.map Key.name →
    key'.name = key.name → Reordered v v' → Same (.field path key v) (.field path' key' v')
  | header {path path' : List Key} {key key' : Key} : path'.map Key.name = path.map Key.name →
    key'.name = key.name → Same (.header path key) (.header path' key')
  | listHeader {path path' : List Key} {key key' : Key} : path'.map Key.name = path.map Key.name →
    key'.name = key.name → Same (.listHeader path key) (.listHeader path' key')

end Line

/-- A document with some more lines. -/
def Document.addLines (d : Document) (lines : List Line) : Except Fault Document := lines.foldlM Line.addTo d

/-- The line that a text begins with, and what follows it. -/
inductive LineAt : List Char → Line → List Char → Prop
  | field {cs mid rest : List Char} {path : List Key} {key : Key} {v : Value} : cs.head? ≠ some '[' →
    ReadsPair greatestDepth cs path key v mid → endLine mid = .ok rest → LineAt cs (.field path key v) rest
  | header {cs mid rest : List Char} {path : List Key} {key : Key} : cs.head? ≠ some '[' →
    ReadsKey cs path key (']' :: mid) → endLine mid = .ok rest → LineAt ('[' :: cs) (.header path key) rest
  | listHeader {cs mid rest : List Char} {path : List Key} {key : Key} : ReadsKey cs path key (']' :: ']' :: mid) →
    endLine mid = .ok rest → LineAt ('[' :: '[' :: cs) (.listHeader path key) rest

/-- The lines that a text is made of. -/
inductive ConsistsOf : List Char → List Line → Prop
  | done {cs : List Char} : skipVoid false cs = .ok [] → ConsistsOf cs []
  | line {cs start rest : List Char} {l : Line} {lines : List Line} : skipVoid false cs = .ok start → start ≠ [] →
    LineAt start l rest → ConsistsOf rest lines → ConsistsOf cs (l :: lines)

/-! ## A text has one list of lines -/

theorem ReadsKey.unique {cs rest rest' : List Char} {path path' : List Key} {key key' : Key}
    (h : ReadsKey cs path key rest) (h' : ReadsKey cs path' key' rest') : path = path' ∧ key = key' ∧ rest = rest' := by
  have heq := h.dottedKey_eq (Nat.lt_succ_self cs.length)
  rw [h'.dottedKey_eq (Nat.lt_succ_self cs.length)] at heq
  cases heq
  exact ⟨rfl, rfl, rfl⟩

theorem ReadsPair.unique {room : Nat} {cs mid mid' : List Char} {path path' : List Key} {key key' : Key} {v v' : Value}
    (h : ReadsPair room cs path key v mid) (h' : ReadsPair room cs path' key' v' mid') :
    path = path' ∧ key = key' ∧ v = v' ∧ mid = mid' := by
  obtain ⟨tail, hkey, hv⟩ := h.pair_eq (Nat.lt_succ_self (2 * cs.length))
  obtain ⟨tail', hkey', hv'⟩ := h'.pair_eq (Nat.lt_succ_self (2 * cs.length))
  rw [hkey] at hkey'
  cases hkey'
  rw [hv] at hv'
  cases hv'
  exact ⟨rfl, rfl, rfl, rfl⟩

theorem LineAt.unique {cs rest rest' : List Char} {l l' : Line} (h : LineAt cs l rest) (h' : LineAt cs l' rest') :
    l = l' ∧ rest = rest' := by
  cases h with
  | field hopen hpair hend =>
    cases h' with
    | field _ hpair' hend' =>
      obtain ⟨rfl, rfl, rfl, rfl⟩ := hpair.unique hpair'
      cases hend.symm.trans hend'
      exact ⟨rfl, rfl⟩
    | _ => exact absurd rfl hopen
  | header hopen hkey hend =>
    cases h' with
    | field hopen' => exact absurd rfl hopen'
    | header _ hkey' hend' =>
      obtain ⟨rfl, rfl, heq⟩ := hkey.unique hkey'
      cases heq
      cases hend.symm.trans hend'
      exact ⟨rfl, rfl⟩
    | listHeader => exact absurd rfl hopen
  | listHeader hkey hend =>
    cases h' with
    | field hopen' => exact absurd rfl hopen'
    | header hopen' => exact absurd rfl hopen'
    | listHeader hkey' hend' =>
      obtain ⟨rfl, rfl, heq⟩ := hkey.unique hkey'
      cases heq
      cases hend.symm.trans hend'
      exact ⟨rfl, rfl⟩

theorem ConsistsOf.unique {cs : List Char} {lines lines' : List Line} (h : ConsistsOf cs lines)
    (h' : ConsistsOf cs lines') : lines = lines' := by
  induction h generalizing lines' with
  | done hdone =>
    cases h' with
    | done => rfl
    | line hstart hnone => exact absurd (Except.ok.inj (hstart.symm.trans hdone)) hnone
  | line hstart hnone hline _ ih =>
    cases h' with
    | done hdone => exact absurd (Except.ok.inj (hstart.symm.trans hdone)) hnone
    | line hstart' _ hline' hmore' =>
      cases hstart.symm.trans hstart'
      obtain ⟨rfl, rfl⟩ := hline.unique hline'
      rw [ih hmore']

/-! ## Reading a file line by line -/

theorem addLines_cons_eq_ok_iff {d d' : Document} {l : Line} {lines : List Line} :
    d.addLines (l :: lines) = .ok d' ↔ ∃ mid, l.addTo d = .ok mid ∧ mid.addLines lines = .ok d' :=
  bind_eq_ok_iff

theorem readsLine_iff {d d' : Document} {cs rest : List Char} :
    ReadsLine d cs d' rest ↔ ∃ l, LineAt cs l rest ∧ l.addTo d = .ok d' := by
  constructor
  · intro h
    cases h with
    | field hopen hpair hend hadd => exact ⟨_, .field hopen hpair hend, hadd⟩
    | header hopen hkey hend hadd => exact ⟨_, .header hopen hkey hend, map_eq_ok_iff.mpr ⟨_, hadd, rfl⟩⟩
    | listHeader hkey hend hadd => exact ⟨_, .listHeader hkey hend, map_eq_ok_iff.mpr ⟨_, hadd, rfl⟩⟩
  · rintro ⟨l, hline, hadd⟩
    cases hline with
    | field hopen hpair hend => exact .field hopen hpair hend hadd
    | header hopen hkey hend =>
      obtain ⟨fields, hadded, rfl⟩ := map_eq_ok_iff.mp hadd
      exact .header hopen hkey hend hadded
    | listHeader hkey hend =>
      obtain ⟨fields, hadded, rfl⟩ := map_eq_ok_iff.mp hadd
      exact .listHeader hkey hend hadded

theorem readsDocument_iff {d : Document} {cs : List Char} {fields : Fields} :
    ReadsDocument d cs fields ↔ ∃ lines d', ConsistsOf cs lines ∧ d.addLines lines = .ok d' ∧ d'.fields = fields := by
  constructor
  · intro h
    induction h with
    | done hdone => exact ⟨[], _, .done hdone, rfl, rfl⟩
    | line hstart hnone hline _ ih =>
      obtain ⟨lines, last, hlines, hadd, hfields⟩ := ih
      obtain ⟨l, hline, hadded⟩ := readsLine_iff.mp hline
      exact ⟨l :: lines, last, .line hstart hnone hline hlines, addLines_cons_eq_ok_iff.mpr ⟨_, hadded, hadd⟩, hfields⟩
  · rintro ⟨lines, d', hlines, hadd, rfl⟩
    induction hlines generalizing d with
    | done hdone =>
      cases hadd
      exact .done hdone
    | line hstart hnone hline _ ih =>
      obtain ⟨mid, hadded, hadd⟩ := addLines_cons_eq_ok_iff.mp hadd
      exact .line hstart hnone (readsLine_iff.mpr ⟨_, hline, hadded⟩) (ih hadd)

/-- A file is read by adding its lines to an empty document. -/
theorem ConsistsOf.parse_eq_ok_iff {text : String} {lines : List Line} {fields : Fields}
    (h : ConsistsOf (withoutMark text) lines) :
    parse text = .ok fields ↔ (Document.addLines {} lines).map Document.fields = .ok fields := by
  rw [Toml.parse_eq_ok_iff, readsDocument_iff, map_eq_ok_iff]
  constructor
  · rintro ⟨lines', d, hlines', hadd, hfields⟩
    rw [h.unique hlines']
    exact ⟨d, hadd, hfields⟩
  · rintro ⟨d, hadd, hfields⟩
    exact ⟨lines, d, h, hadd, hfields⟩

/-! ## The same lines -/

theorem LineAt.same {cs rest : List Char} {l : Line} (h : LineAt cs l rest) : l.Same l := by
  cases h with
  | field _ hpair _ => exact .field rfl rfl hpair.reordered
  | header => exact .header rfl rfl
  | listHeader => exact .listHeader rfl rfl

/-- The lines of a text are the same as themselves, as no table in a value has two fields of one name. -/
theorem ConsistsOf.same {cs : List Char} {lines : List Line} (h : ConsistsOf cs lines) : ∀ l ∈ lines, l.Same l := by
  induction h with
  | done => exact nofun
  | line _ _ hline _ ih => exact List.forall_mem_cons.mpr ⟨hline.same, ih⟩

/-- Documents with reordered fields, below the same header. -/
structure Document.Alike (d d' : Document) : Prop where
  fields : ReorderedFields d.fields d'.fields
  header : d'.header.map Key.name = d.header.map Key.name

theorem Line.Same.addTo {l l' : Line} (h : l.Same l') {d d' : Document} (hd : d.Alike d') :
    Agree Document.Alike (l.addTo d) (l'.addTo d') := by
  have hkeys {path path' : List Key} {key key' : Key} (hpath : path'.map Key.name = path.map Key.name)
      (hkey : key'.name = key.name) : (path' ++ [key']).map Key.name = (path ++ [key]).map Key.name := by
    rw [List.map_append, List.map_append, hpath, List.map_singleton, List.map_singleton, hkey]
  cases h with
  | field hpath hkey hv =>
    refine (ActsAlike.changeAt (fun _ => ActsAlike.addField hpath hkey hv .header) hd.header .header hd.fields).bind ?_
    exact fun fields fields' hfields => .ok ⟨hfields, hd.header⟩
  | header hpath hkey =>
    refine (ActsAlike.addTable hpath hkey .header hd.fields).map ?_
    exact fun fields fields' hfields => ⟨hfields, hkeys hpath hkey⟩
  | listHeader hpath hkey =>
    refine (ActsAlike.addTableToList hpath hkey .header hd.fields).map ?_
    exact fun fields fields' hfields => ⟨hfields, hkeys hpath hkey⟩

theorem Document.Alike.addLines {lines lines' : List Line} (h : List.Forall₂ Line.Same lines lines') {d d' : Document}
    (hd : d.Alike d') : Agree Document.Alike (d.addLines lines) (d'.addLines lines') := by
  induction h generalizing d d' with
  | nil => exact .ok hd
  | cons hl _ ih => exact (hl.addTo hd).bind fun e e' he => ih he

/-- No table of a file has two fields of one name. -/
theorem reordered_of_parse {text : String} {fields : Fields} (h : parse text = .ok fields) :
    ReorderedFields fields fields := by
  obtain ⟨lines, d, hlines, hadd, rfl⟩ := readsDocument_iff.mp (Toml.parse_eq_ok_iff.mp h)
  have hagree := Document.Alike.addLines (List.forall₂_same.mpr hlines.same) (d := {}) ⟨.nil, rfl⟩
  rw [hadd] at hagree
  cases hagree with
  | ok halike => exact halike.fields

end ServiceCatalog.Toml
