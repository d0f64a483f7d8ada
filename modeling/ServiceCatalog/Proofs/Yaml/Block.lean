import ServiceCatalog.Proofs.Yaml.Scalar
import ServiceCatalog.Yaml.Printer

/-!
# Lists and mappings read back

A block is a run of written parts, each of which begins on a line of its own. A part is read back whatever line follows
it, as long as that belongs to no deeper block.
-/

namespace ServiceCatalog.Yaml

open ServiceCatalog.Text

/-- Written parts on lines of their own at a column. -/
def linesOf (column : Nat) (parts : List (List Char)) : List Char :=
  parts.flatMap fun part => List.replicate column ' ' ++ closed part

theorem closed_append (front : List Char) {back : List Char} (hne : back ≠ []) :
    closed (front ++ back) = front ++ closed back := by
  obtain ⟨before, last, rfl⟩ := (List.eq_nil_or_concat back).resolve_left hne
  cases hlast : isBreak last <;> simp [closed, endsWith, List.getLast?_append, hlast]

private theorem onNextLine_eq (column : Nat) (part next : List Char) :
    onNextLine column part next = closed part ++ (List.replicate column ' ' ++ next) := by
  unfold onNextLine closed newLine
  split <;> simp

private theorem stack_ne_nil (column : Nat) {part : List Char} (hpart : part ≠ []) (rest : List (List Char)) :
    stack column (part :: rest) ≠ [] := by
  cases rest with
  | nil => simpa [stack] using hpart
  | cons next rest => simp [stack, onNextLine, hpart]

/-- Stacked parts are the lines of the parts. -/
theorem replicate_append_closed_stack (column : Nat) {parts : List (List Char)} (hne : parts ≠ [])
    (hparts : ∀ part ∈ parts, part ≠ []) :
    List.replicate column ' ' ++ closed (stack column parts) = linesOf column parts := by
  induction parts with
  | nil => exact absurd rfl hne
  | cons part parts ih =>
    cases parts with
    | nil => simp [stack, linesOf]
    | cons next rest =>
      have hrest := ih (by simp) (fun p hp => hparts p (by simp [hp]))
      have hstack := stack_ne_nil column (hparts next (by simp)) rest
      rw [stack, onNextLine_eq, closed_append _ (by simp [hstack]), closed_append _ hstack, hrest]
      · simp [linesOf]
      · simp

/-- A written text does not look like a container. -/
private theorem scalarFrom?_eq_textFrom? (column n : Nat) (s : String) (next : List Char) :
    scalarFrom? column (closed (writeScalar n false s) ++ next) =
      (textFrom? column (closed (writeScalar n false s) ++ next)).map fun r => (.string (String.ofList r.1), r.2) := by
  obtain ⟨c, more, hcs, hbracket, hbrace⟩ := cons_writeScalar n s
  rw [closed_append_eq, hcs, List.cons_append]
  unfold scalarFrom?
  split
  · exact absurd (List.cons.inj ‹_›).1 hbracket
  · exact absurd (List.cons.inj ‹_›).1 hbrace
  · rfl

private theorem writeScalar_ne_nil (n : Nat) (s : String) : writeScalar n false s ≠ [] := by
  obtain ⟨c, more, hcs, -⟩ := cons_writeScalar n s
  simp [hcs]

/-- A scalar is read back if its block does not go on deeper. -/
theorem scalarFrom?_writeScalar (column : Nat) (s : String) {next : List Char} (hnext : Outdented (column + 2) next) :
    scalarFrom? column (closed (writeScalar (column + 2) false s) ++ next) = some (.string s, next) := by
  rw [scalarFrom?_eq_textFrom?, textFrom?_writeScalar column s (linesFrom_of_outdented hnext) (by simp)]
  simp [String.ofList_toList]

/-- What is read of a text behind which a further line end stands. -/
def withLineEnd (s : String) : String := if takesLineEnds s then s ++ "\n" else s

/-- A scalar that a further line end follows may be read with it. -/
theorem scalarFrom?_writeScalar_lineEnd (column : Nat) (s : String) :
    ∃ rest, rest.all isBreak = true ∧
      scalarFrom? column (closed (writeScalar (column + 2) false s) ++ ['\n']) =
        some (.string (withLineEnd s), rest) := by
  have hnext : linesFrom (column + 2) (lineState true) ['\n'] = (['\n'], []) := rfl
  refine ⟨if styleOf false s = .literal then [] else ['\n'], by split <;> decide, ?_⟩
  rw [scalarFrom?_eq_textFrom?, textFrom?_writeScalar column s hnext (by simp)]
  unfold withLineEnd
  split <;> simp [String.ofList_toList, String.ofList_append]

/-! ## Lists -/

theorem atColumn?_replicate (column : Nat) (cs : List Char) :
    atColumn? column (List.replicate column ' ' ++ cs) = some cs := by
  simp [atColumn?]

private theorem atColumn?_of_breaks (column : Nat) {cs : List Char} (hcs : cs.all isBreak = true) :
    atColumn? column cs = none ∨ atColumn? column cs = some cs := by
  cases column with
  | zero => exact .inr (by simp [atColumn?])
  | succ column =>
    refine .inl ?_
    cases cs with
    | nil => rfl
    | cons c cs =>
      have hc : ' ' ≠ c := by
        rintro rfl
        revert hcs
        simp [isBreak]
      simp [atColumn?, List.replicate_succ, hc]

/-- The items of a list that is the last of a document. A further line end may be read with the last one. -/
def withLastLineEnd : List String → List String
  | [] => []
  | [s] => [withLineEnd s]
  | s :: next :: rest => s :: withLastLineEnd (next :: rest)

private theorem itemsFrom?_item {column fuel : Nat} {text next : List Char} {v : Json}
    (hitem : scalarFrom? column text = some (v, next)) :
    itemsFrom? column (fuel + 1) (List.replicate column ' ' ++ '-' :: ' ' :: text) =
      (itemsFrom? column fuel next).map fun r => (v :: r.1, r.2) := by
  simp [itemsFrom?, atColumn?_replicate, hitem]

/-- A list ends where only line ends follow. -/
private theorem itemsFrom?_of_breaks (column fuel : Nat) {cs : List Char} (hcs : cs.all isBreak = true) :
    itemsFrom? column (fuel + 1) cs = some ([], cs) := by
  obtain h | h := atColumn?_of_breaks column hcs
  · simp [itemsFrom?, h]
  · rw [itemsFrom?, h]
    split
    · rename_i heq
      obtain rfl := Option.some.inj heq
      revert hcs
      simp [isBreak]
    · rfl

private theorem linesOf_items (column : Nat) (s : String) (rest : List Json) :
    linesOf column (writeItems column (.string s :: rest)) =
      List.replicate column ' ' ++ '-' :: ' ' ::
        (closed (writeScalar (column + 2) false s) ++ linesOf column (writeItems column rest)) := by
  have hitem : closed ('-' :: writeValue (.afterMark column) (.string s)) =
      '-' :: ' ' :: closed (writeScalar (column + 2) false s) :=
    closed_append ['-', ' '] (writeScalar_ne_nil (column + 2) s)
  simp [linesOf, writeItems, hitem]

private theorem outdented_items (column : Nat) {items : List String} (hne : items ≠ []) (rest : List Char) :
    Outdented (column + 2) (linesOf column (writeItems column (items.map .string)) ++ rest) := by
  obtain ⟨s, items, rfl⟩ := List.exists_cons_of_ne_nil hne
  rw [List.map_cons, linesOf_items, List.append_assoc, List.cons_append]
  exact .inr ⟨column, '-', _, by omega, rfl, by decide, by decide⟩

/-- The items of a list that is the last of a document are read back. -/
theorem itemsFrom?_linesOf (column fuel : Nat) (ids : List String) (hfuel : ids.length < fuel) :
    ∃ rest, rest.all isBreak = true ∧
      itemsFrom? column fuel (linesOf column (writeItems column (ids.map .string)) ++ ['\n']) =
        some ((withLastLineEnd ids).map .string, rest) := by
  induction ids generalizing fuel with
  | nil =>
    obtain ⟨fuel, rfl⟩ : ∃ k, fuel = k + 1 := ⟨fuel - 1, by omega⟩
    exact ⟨['\n'], rfl, itemsFrom?_of_breaks column fuel rfl⟩
  | cons s ids ih =>
    rw [List.length_cons] at hfuel
    obtain ⟨fuel, rfl⟩ : ∃ k, fuel = k + 1 := ⟨fuel - 1, by omega⟩
    rw [List.map_cons, linesOf_items, List.append_assoc, List.cons_append, List.cons_append, List.append_assoc]
    cases ids with
    | nil =>
      obtain ⟨rest, hrest, hread⟩ := scalarFrom?_writeScalar_lineEnd column s
      obtain ⟨fuel, rfl⟩ : ∃ k, fuel = k + 1 := ⟨fuel - 1, by simp at hfuel; omega⟩
      refine ⟨rest, hrest, ?_⟩
      have hnil : linesOf column (writeItems column ([].map Json.string)) ++ ['\n'] = ['\n'] := rfl
      rw [hnil, itemsFrom?_item hread, itemsFrom?_of_breaks column fuel hrest]
      rfl
    | cons next ids =>
      obtain ⟨rest, hrest, hread⟩ := ih fuel (by omega)
      have hitem := scalarFrom?_writeScalar column s (outdented_items column (List.cons_ne_nil next ids) ['\n'])
      refine ⟨rest, hrest, ?_⟩
      rw [itemsFrom?_item hitem, hread]
      rfl

/-! ## Mappings -/

/-- A key that is written as it is and read as a text. -/
structure PlainKey (key : String) : Prop where
  simple : isSimpleKey key = true
  plain : styleOf true key = .plain
  text : needsQuotes key = false
  chars : ∀ c ∈ key.toList, isKeyChar c = true

instance (key : String) : Decidable (PlainKey key) :=
  decidable_of_iff (isSimpleKey key = true ∧ styleOf true key = .plain ∧ needsQuotes key = false ∧
      key.toList.all isKeyChar = true)
    ⟨fun h => ⟨h.1, h.2.1, h.2.2.1, List.all_eq_true.mp h.2.2.2⟩,
      fun h => ⟨h.simple, h.plain, h.text, List.all_eq_true.mpr h.chars⟩⟩

private theorem isKeyChar_of_isBreak {c : Char} (h : isBreak c = true) : isKeyChar c = false := by
  simp only [isBreak, Bool.or_eq_true, decide_eq_true_eq] at h
  obtain (((rfl | rfl) | rfl) | rfl) | rfl := h <;> decide

private theorem PlainKey.cons {key : String} (h : PlainKey key) :
    ∃ c more, key.toList = c :: more ∧ c ≠ ' ' ∧ c ≠ '-' ∧ isBreak c = false := by
  obtain ⟨c, more, hkey⟩ := List.exists_cons_of_ne_nil (ne_nil_of_not_needsQuotes h.text)
  have hc : isKeyChar c = true := h.chars c (by simp [hkey])
  refine ⟨c, more, hkey, ?_, ?_, ?_⟩
  · rintro rfl
    exact absurd hc (by decide)
  · rintro rfl
    exact absurd hc (by decide)
  · cases hbreak : isBreak c with
    | false => rfl
    | true => simp [isKeyChar_of_isBreak hbreak] at hc

theorem PlainKey.writeField {key : String} (h : PlainKey key) (column : Nat) (value : Place → List Char) :
    writeField column key value = key.toList ++ ':' :: value (.afterKey column) := by
  simp [Yaml.writeField, h.simple, writeScalar, h.plain]

/-- A field is read back with its value. -/
theorem fieldsFrom?_field {column fuel : Nat} {key : String} (hkey : PlainKey key) {text next : List Char} {v : Json}
    (hvalue : valueFrom? column fuel text = some (v, next)) :
    fieldsFrom? column (fuel + 1) (List.replicate column ' ' ++ (key.toList ++ ':' :: text)) =
      (fieldsFrom? column fuel next).map fun r => ((key, v) :: r.1, r.2) := by
  have hcolon : isKeyChar ':' = false := by decide
  rw [fieldsFrom?, atColumn?_replicate]
  dsimp only
  rw [List.takeWhile_append_of_pos hkey.chars, List.dropWhile_append_of_pos hkey.chars]
  simp [hcolon, hkey.text, hvalue, String.ofList_toList]

private theorem atColumn?_of_outdented {column : Nat} {next : List Char} (hnext : Outdented column next) :
    next = [] ∨ atColumn? column next = none := by
  refine hnext.imp_right ?_
  rintro ⟨k, c, more, hk, rfl, hblank, -⟩
  have hprefix : ∀ k column, k < column →
      (List.replicate column ' ').isPrefixOf (List.replicate k ' ' ++ c :: more) = false := by
    intro k
    induction k with
    | zero =>
      intro column hlt
      obtain ⟨column, rfl⟩ : ∃ n, column = n + 1 := ⟨column - 1, by omega⟩
      simp [List.replicate_succ, List.isPrefixOf, Ne.symm hblank]
    | succ k ih =>
      intro column hlt
      obtain ⟨column, rfl⟩ : ∃ n, column = n + 1 := ⟨column - 1, by omega⟩
      simpa [List.replicate_succ] using ih column (by omega)
  simp [atColumn?, hprefix k column hk]

/-- A mapping ends where only line ends follow. -/
theorem fieldsFrom?_of_breaks (column fuel : Nat) {cs : List Char} (hcs : cs.all isBreak = true) :
    fieldsFrom? column (fuel + 1) cs = some ([], cs) := by
  obtain h | h := atColumn?_of_breaks column hcs
  · simp [fieldsFrom?, h]
  · have hkey : cs.takeWhile isKeyChar = [] := by
      cases cs with
      | nil => rfl
      | cons c cs =>
        have hc : isBreak c = true := by simp_all
        simp [isKeyChar_of_isBreak hc]
    have hempty : needsQuotes "" = true := by decide
    simp [fieldsFrom?, h, hkey, hempty]

/-- A mapping ends at a line that is indented by less. -/
theorem fieldsFrom?_of_outdented {column : Nat} (fuel : Nat) {next : List Char} (hnext : Outdented column next) :
    fieldsFrom? column (fuel + 1) next = some ([], next) := by
  obtain rfl | hnone := atColumn?_of_outdented hnext
  · exact fieldsFrom?_of_breaks column fuel rfl
  · simp [fieldsFrom?, hnone]

private theorem writeValue_afterKey_ne_nil (column : Nat) (v : Json) : writeValue (.afterKey column) v ≠ [] := by
  cases v with
  | bool b => cases b <;> simp [writeValue, Place.gap]
  | array items => cases items <;> simp [writeValue, Place.gap, Place.lead, newLine]
  | object fields => cases fields <;> simp [writeValue, Place.gap, Place.lead, newLine]
  | _ => simp [writeValue, Place.gap]

/-- The lines of a mapping begin with its first field. -/
theorem linesOf_writeFields {key : String} (hkey : PlainKey key) (column : Nat) (v : Json) (rest : List Json.Field) :
    linesOf column (writeFields column ((key, v) :: rest)) =
      List.replicate column ' ' ++ (key.toList ++ ':' ::
        (closed (writeValue (.afterKey column) v) ++ linesOf column (writeFields column rest))) := by
  have hfield : closed (writeField column key fun place => writeValue place v) =
      key.toList ++ ':' :: closed (writeValue (.afterKey column) v) := by
    rw [hkey.writeField]
    simpa using closed_append (key.toList ++ [':']) (writeValue_afterKey_ne_nil column v)
  simp [linesOf, writeFields, hfield]

/-- A text behind a key is read back. -/
theorem valueFrom?_string (column fuel : Nat) (s : String) {next : List Char} (hnext : Outdented (column + 2) next) :
    valueFrom? column (fuel + 1) (closed (writeValue (.afterKey column) (.string s)) ++ next) =
      some (.string s, next) := by
  have hclosed : closed (writeValue (.afterKey column) (.string s)) =
      ' ' :: closed (writeScalar (column + 2) false s) :=
    closed_append [' '] (writeScalar_ne_nil (column + 2) s)
  rw [hclosed, List.cons_append, valueFrom?]
  exact scalarFrom?_writeScalar column s hnext

private theorem linesOf_writeFields_cons {key : String} (hkey : PlainKey key) (column : Nat) (v : Json)
    (fields : List Json.Field) :
    ∃ c more, linesOf column (writeFields column ((key, v) :: fields)) = List.replicate column ' ' ++ c :: more ∧
      c ≠ ' ' ∧ c ≠ '-' ∧ isBreak c = false := by
  obtain ⟨c, more, hcs, hc⟩ := hkey.cons
  refine ⟨c, more ++ ':' :: (closed (writeValue (.afterKey column) v) ++ linesOf column (writeFields column fields)),
    ?_, hc⟩
  rw [linesOf_writeFields hkey, hcs]
  rfl

private theorem outdented_fields {key : String} (hkey : PlainKey key) (column : Nat) (v : Json)
    (fields : List Json.Field) (rest : List Char) :
    Outdented (column + 2) (linesOf column (writeFields column ((key, v) :: fields)) ++ rest) := by
  obtain ⟨c, more, hlines, hblank, -, hbreak⟩ := linesOf_writeFields_cons hkey column v fields
  exact .inr ⟨column, c, more ++ rest, by omega, by simp [hlines], hblank, hbreak⟩

theorem Outdented.mono {m n : Nat} {rest : List Char} (h : Outdented m rest) (hle : m ≤ n) : Outdented n rest :=
  h.imp_right fun ⟨k, c, more, hk, hrest⟩ => ⟨k, c, more, by omega, hrest⟩

/-- The fields of a mapping of texts are read back. -/
theorem fieldsFrom?_linesOf (column fuel : Nat) (fields : List (String × String))
    (hkeys : ∀ f ∈ fields, PlainKey f.1) (hfuel : fields.length + 1 < fuel) {next : List Char}
    (hnext : Outdented column next) :
    fieldsFrom? column fuel (linesOf column (writeFields column (fields.map fun f => (f.1, .string f.2))) ++ next) =
      some (fields.map fun f => (f.1, .string f.2), next) := by
  induction fields generalizing fuel with
  | nil =>
    obtain ⟨fuel, rfl⟩ : ∃ k, fuel = k + 1 := ⟨fuel - 1, by omega⟩
    exact fieldsFrom?_of_outdented fuel hnext
  | cons f fields ih =>
    rw [List.length_cons] at hfuel
    obtain ⟨fuel, rfl⟩ : ∃ k, fuel = k + 2 := ⟨fuel - 2, by omega⟩
    have hread := ih (fuel + 1) (fun g hg => hkeys g (by simp [hg])) (by omega)
    have hafter : Outdented (column + 2)
        (linesOf column (writeFields column (fields.map fun f => (f.1, .string f.2))) ++ next) := by
      cases fields with
      | nil => exact hnext.mono (by omega)
      | cons g fields => exact outdented_fields (hkeys g (by simp)) column _ _ next
    have hvalue := valueFrom?_string column fuel f.2 hafter
    rw [List.map_cons, linesOf_writeFields (hkeys f (by simp))]
    simp only [List.append_assoc, List.cons_append]
    rw [fieldsFrom?_field (hkeys f (by simp)) hvalue, hread]
    rfl

/-! ## Blocks behind a key -/

private theorem takeWhile_blanks (n : Nat) {c : Char} (hblank : c ≠ ' ') (more : List Char) :
    (List.replicate n ' ' ++ c :: more).takeWhile (· = ' ') = List.replicate n ' ' := by
  rw [List.takeWhile_append_of_pos (by simp)]
  simp [hblank]

private theorem closed_newLine_stack (column : Nat) {parts : List (List Char)} (hne : parts ≠ [])
    (hparts : ∀ part ∈ parts, part ≠ []) :
    closed (newLine column ++ stack column parts) = '\n' :: linesOf column parts := by
  obtain ⟨part, rest, rfl⟩ := List.exists_cons_of_ne_nil hne
  rw [closed_append _ (stack_ne_nil column (hparts part (by simp)) rest), newLine, List.cons_append,
    replicate_append_closed_stack column hne hparts]

private theorem writeFields_ne_nil (column : Nat) (fields : List Json.Field) :
    ∀ part ∈ writeFields column fields, part ≠ [] := by
  induction fields with
  | nil => simp [writeFields]
  | cons f fields ih =>
    intro part hpart
    obtain rfl | hpart : part = _ ∨ _ := by simpa [writeFields] using hpart
    · unfold writeField
      split <;> simp [onNextLine]
    · exact ih part hpart

private theorem writeItems_ne_nil (column : Nat) (items : List Json) :
    ∀ part ∈ writeItems column items, part ≠ [] := by
  induction items with
  | nil => simp [writeItems]
  | cons item items ih =>
    intro part hpart
    obtain rfl | hpart : part = _ ∨ _ := by simpa [writeItems] using hpart
    · simp
    · exact ih part hpart

/-- A mapping behind a key is read back. -/
theorem valueFrom?_mapping {column fuel : Nat} {key : String} (hkey : PlainKey key) (v : Json) (rest : List Json.Field)
    {fields : List Json.Field} {next more : List Char}
    (hfields : fieldsFrom? (column + 2) fuel
      (linesOf (column + 2) (writeFields (column + 2) ((key, v) :: rest)) ++ next) = some (fields, more)) :
    valueFrom? column (fuel + 1) (closed (writeValue (.afterKey column) (.object ((key, v) :: rest))) ++ next) =
      (mapping? fields).map fun value => (value, more) := by
  have hclosed : closed (writeValue (.afterKey column) (.object ((key, v) :: rest))) =
      '\n' :: linesOf (column + 2) (writeFields (column + 2) ((key, v) :: rest)) :=
    closed_newLine_stack (column + 2) (by simp [writeFields]) (writeFields_ne_nil _ _)
  obtain ⟨c, tail, hlines, hblank, hdash, -⟩ := linesOf_writeFields_cons hkey (column + 2) v rest
  rw [hclosed, List.cons_append, valueFrom?]
  rw [hlines, List.append_assoc, List.cons_append] at hfields ⊢
  simp [takeWhile_blanks (column + 2) hblank, hdash, hfields]

private theorem closed_strings (column : Nat) {ids : List String} (hne : ids ≠ []) :
    closed (writeValue (.afterKey column) (Json.strings ids)) =
      '\n' :: linesOf column (writeItems column (ids.map .string)) := by
  obtain ⟨s, rest, rfl⟩ := List.exists_cons_of_ne_nil hne
  exact closed_newLine_stack column (by simp [writeItems]) (writeItems_ne_nil _ _)

/-- Every item of a list takes a character at least. -/
theorem length_le_closed_strings (column : Nat) (ids : List String) :
    ids.length ≤ (closed (writeValue (.afterKey column) (Json.strings ids))).length := by
  have hitems : ids.length ≤ (linesOf column (writeItems column (ids.map .string))).length := by
    induction ids with
    | nil => simp
    | cons s ids ih =>
      rw [List.map_cons, linesOf_items]
      simp only [List.length_cons, List.length_append]
      omega
  by_cases hne : ids = []
  · simp [hne]
  · rw [closed_strings column hne, List.length_cons]
    omega

/-- A list of texts behind a key at the end of a document is read back, but for a line end taken by the last text. -/
theorem valueFrom?_strings (column fuel : Nat) (ids : List String) (hfuel : ids.length < fuel) :
    ∃ rest, rest.all isBreak = true ∧
      valueFrom? column (fuel + 1) (closed (writeValue (.afterKey column) (Json.strings ids)) ++ ['\n']) =
        some (Json.strings (withLastLineEnd ids), rest) := by
  cases ids with
  | nil => exact ⟨['\n'], rfl, rfl⟩
  | cons s ids =>
    obtain ⟨rest, hrest, hread⟩ := itemsFrom?_linesOf column fuel (s :: ids) hfuel
    refine ⟨rest, hrest, ?_⟩
    have hitems : list? ((withLastLineEnd (s :: ids)).map .string) =
        some (Json.strings (withLastLineEnd (s :: ids))) := by
      cases ids <;> rfl
    rw [closed_strings column (by simp), List.cons_append, valueFrom?]
    simp only [List.map_cons, linesOf_items, List.append_assoc, List.cons_append] at hread ⊢
    simp [takeWhile_blanks column (by decide : '-' ≠ ' '), hread, hitems]

/-- A mapping as a document is the lines of its fields. -/
theorem toList_document (field : Json.Field) (rest : List Json.Field) :
    (document (.object (field :: rest))).toList = linesOf 0 (writeFields 0 (field :: rest)) := by
  obtain ⟨key, v⟩ := field
  have hclosed := replicate_append_closed_stack 0 (by simp [writeFields]) (writeFields_ne_nil 0 ((key, v) :: rest))
  rw [document, String.toList_ofList]
  exact hclosed

end ServiceCatalog.Yaml
