import ServiceCatalog.Proofs.Json.Numeral
import ServiceCatalog.Proofs.Json.Text
import ServiceCatalog.Proofs.Json.Written
import ServiceCatalog.Proofs.Text.Encoding
import Mathlib.Data.List.DropRight

/-!
# Written values read back

A text of a value is read as the value, whatever follows it, if there is room for its containers. The fuel of the reader
is bounded by the length of the text.
-/

namespace ServiceCatalog.Json

open ServiceCatalog.Text

theorem skipSpace_cons {c : Char} (hc : isSpace c = false) (rest : List Char) : skipSpace (c :: rest) = c :: rest := by
  simp [skipSpace, hc]

theorem skipSpace_gap {front : List Char} (hgap : Gap front) (cs : List Char) :
    skipSpace (front ++ cs) = skipSpace cs :=
  List.dropWhile_append_of_pos hgap

theorem skipSpace_skipSpace (cs : List Char) : skipSpace (skipSpace cs) = skipSpace cs := by
  simp [skipSpace, List.dropWhile_idempotent]

theorem valueFrom?_skipSpace (fuel room : Nat) (cs : List Char) :
    valueFrom? fuel room (skipSpace cs) = valueFrom? fuel room cs := by
  cases fuel with
  | zero => rfl
  | succ fuel => simp only [valueFrom?, skipSpace_skipSpace]

/-- Blanks in front of a value make no difference. -/
theorem valueFrom?_gap {front : List Char} (hgap : Gap front) (fuel room : Nat) (cs : List Char) :
    valueFrom? fuel room (front ++ cs) = valueFrom? fuel room cs := by
  rw [← valueFrom?_skipSpace, skipSpace_gap hgap, valueFrom?_skipSpace]

theorem itemsFrom?_skipSpace (fuel room : Nat) (cs : List Char) :
    itemsFrom? fuel room (skipSpace cs) = itemsFrom? fuel room cs := by
  cases fuel with
  | zero => rfl
  | succ fuel => simp only [itemsFrom?, valueFrom?_skipSpace]

theorem fieldsFrom?_skipSpace (fuel room : Nat) (cs : List Char) :
    fieldsFrom? fuel room (skipSpace cs) = fieldsFrom? fuel room cs := by
  cases fuel with
  | zero => rfl
  | succ fuel => simp only [fieldsFrom?, skipSpace_skipSpace]

theorem fieldsFrom?_gap {front : List Char} (hgap : Gap front) (fuel room : Nat) (cs : List Char) :
    fieldsFrom? fuel room (front ++ cs) = fieldsFrom? fuel room cs := by
  rw [← fieldsFrom?_skipSpace, skipSpace_gap hgap, fieldsFrom?_skipSpace]

private theorem ne_of_first {c d : Char} (hfirst : Numeral.isDigit c = true ∨ c = '-')
    (hdigit : Numeral.isDigit d = false) (hminus : d ≠ '-') : c ≠ d := by
  rintro rfl
  simp_all

private theorem isSpace_of_first {c : Char} (hfirst : Numeral.isDigit c = true ∨ c = '-') : isSpace c = false := by
  have hne (d : Char) := ne_of_first (d := d) hfirst
  simp [isSpace, hne ' ' (by decide) (by decide), hne '\n' (by decide) (by decide),
    hne '\t' (by decide) (by decide), hne '\r' (by decide) (by decide)]

/-- A text that starts like a number is read as one. -/
private theorem valueFrom?_of_numeral {c : Char} {cs rest : List Char} {p : Numeral.Parts} {n : Number}
    (hfirst : Numeral.isDigit c = true ∨ c = '-') (hparts : Numeral.parts? (c :: cs) = some (p, rest))
    (hvalue : Numeral.value? p = some n) (fuel room : Nat) :
    valueFrom? (fuel + 1) room (c :: cs) = some (.number n, rest) := by
  rw [valueFrom?, skipSpace_cons (isSpace_of_first hfirst)]
  split
  · exact absurd (List.cons.inj ‹_›).1 (ne_of_first hfirst (by decide) (by decide))
  · exact absurd (List.cons.inj ‹_›).1 (ne_of_first hfirst (by decide) (by decide))
  · exact absurd (List.cons.inj ‹_›).1 (ne_of_first hfirst (by decide) (by decide))
  · exact absurd (List.cons.inj ‹_›).1 (ne_of_first hfirst (by decide) (by decide))
  · exact absurd (List.cons.inj ‹_›).1 (ne_of_first hfirst (by decide) (by decide))
  · exact absurd (List.cons.inj ‹_›).1 (ne_of_first hfirst (by decide) (by decide))
  · simp [hparts, hvalue]

private theorem signedDigits_cons (n : Int) :
    ∃ c cs, signedDigits n = c :: cs ∧ (Numeral.isDigit c = true ∨ c = '-') := by
  cases n with
  | ofNat k =>
    cases hdigits : digitsOf k with
    | nil => exact absurd hdigits Nat.toDigits_ne_nil
    | cons c cs => exact ⟨c, cs, hdigits, .inl (Numeral.isDigit_of_mem_digitsOf (n := k) (by simp [hdigits]))⟩
  | negSucc k => exact ⟨'-', _, rfl, .inr rfl⟩

/-- A text of a value starts with none of the characters that stand between values. -/
theorem Written.cons {v : Json} {cs : List Char} (h : Written v cs) :
    ∃ c rest, cs = c :: rest ∧ isSpace c = false ∧ c ≠ ']' := by
  cases h with
  | null => exact ⟨_, _, rfl, rfl, by decide⟩
  | bool b => cases b <;> exact ⟨_, _, rfl, rfl, by decide⟩
  | @integer n =>
    obtain ⟨c, rest, hcs, hfirst⟩ := signedDigits_cons n
    exact ⟨c, rest, hcs, isSpace_of_first hfirst, ne_of_first hfirst (by decide) (by decide)⟩
  | string s => exact ⟨_, _, rfl, rfl, by decide⟩
  | emptyArray => exact ⟨_, _, rfl, rfl, by decide⟩
  | array _ => exact ⟨_, _, rfl, rfl, by decide⟩
  | emptyObject => exact ⟨_, _, rfl, rfl, by decide⟩
  | object _ => exact ⟨_, _, rfl, rfl, by decide⟩

theorem Numeral.ends_of_mark {c : Char} {rest : List Char}
    (hc : Numeral.isDigit c = false ∧ c ≠ '.' ∧ c ≠ 'e' ∧ c ≠ 'E') :
    Numeral.Ends (c :: rest) := by
  intro d hd
  obtain rfl : c = d := by simpa using hd
  exact hc

/-- Blanks end a numeral. -/
theorem Numeral.ends_of_gap {back rest : List Char} (hback : Gap back) (hrest : Numeral.Ends rest) :
    Numeral.Ends (back ++ rest) := by
  cases back with
  | nil => exact hrest
  | cons c back =>
    refine Numeral.ends_of_mark ?_
    have hc : isSpace c = true := hback c (by simp)
    simp only [isSpace, Bool.or_eq_true, decide_eq_true_eq] at hc
    obtain ((rfl | rfl) | rfl) | rfl := hc <;> decide

theorem valueFrom?_array {cs : List Char} (hcs : (skipSpace cs).head? ≠ some ']') (fuel room : Nat) :
    valueFrom? (fuel + 1) room ('[' :: cs) =
      (itemsFrom? fuel (room - 1) cs).map fun r => (nested room (.array r.1), r.2) := by
  have hmark : skipSpace ('[' :: cs) = '[' :: cs := skipSpace_cons rfl cs
  simp only [valueFrom?, hmark]
  split
  · simp_all
  · rw [itemsFrom?_skipSpace]

theorem valueFrom?_object {cs : List Char} (hcs : (skipSpace cs).head? ≠ some '\x7d') (fuel room : Nat) :
    valueFrom? (fuel + 1) room ('\x7b' :: cs) =
      (fieldsFrom? fuel (room - 1) cs).map fun r => match r.1 with
        | some fields => (nested room (.object fields), r.2)
        | none => (.unreadable, r.2) := by
  have hmark : skipSpace ('\x7b' :: cs) = '\x7b' :: cs := skipSpace_cons rfl cs
  simp only [valueFrom?, hmark]
  split
  · simp_all
  · exact congrArg (Option.map _) (fieldsFrom?_skipSpace fuel (room - 1) cs)

theorem itemsFrom?_last {fuel room : Nat} {cs rest more : List Char} {item : Json}
    (hitem : valueFrom? fuel room cs = some (item, rest)) (hrest : skipSpace rest = ']' :: more) :
    itemsFrom? (fuel + 1) room cs = some ([item], more) := by
  simp [itemsFrom?, hitem, hrest]

theorem itemsFrom?_more {fuel room : Nat} {cs rest more : List Char} {item : Json}
    (hitem : valueFrom? fuel room cs = some (item, rest)) (hrest : skipSpace rest = ',' :: more) :
    itemsFrom? (fuel + 1) room cs = (itemsFrom? fuel room more).map fun r => (item :: r.1, r.2) := by
  simp [itemsFrom?, hitem, hrest]

private theorem fieldsFrom?_key (key : String) (fuel room : Nat) (cs : List Char) :
    fieldsFrom? (fuel + 1) room (writeText key ++ ':' :: cs) =
      (valueFrom? fuel room cs).bind fun value => match skipSpace value.2 with
        | ',' :: rest =>
          (fieldsFrom? fuel room rest).map fun r => (r.1.map ((key, value.1) :: ·), r.2)
        | '\x7d' :: rest => some (some [(key, value.1)], rest)
        | _ => none := by
  rw [writeText_append, fieldsFrom?, skipSpace_cons rfl]
  simp only [textFrom?_flatMap_escapeChar, Option.bind_some, skipSpace_cons (show isSpace ':' = false from rfl)]
  simp only [Option.map_some, String.ofList_toList]
  rfl

theorem fieldsFrom?_last (key : String) {fuel room : Nat} {cs rest more : List Char} {value : Json}
    (hvalue : valueFrom? fuel room cs = some (value, rest)) (hrest : skipSpace rest = '\x7d' :: more) :
    fieldsFrom? (fuel + 1) room (writeText key ++ ':' :: cs) = some (some [(key, value)], more) := by
  simp [fieldsFrom?_key, hvalue, hrest]

theorem fieldsFrom?_more (key : String) {fuel room : Nat} {cs rest more : List Char} {value : Json}
    (hvalue : valueFrom? fuel room cs = some (value, rest)) (hrest : skipSpace rest = ',' :: more) :
    fieldsFrom? (fuel + 1) room (writeText key ++ ':' :: cs) =
      (fieldsFrom? fuel room more).map fun r => (r.1.map ((key, value) :: ·), r.2) := by
  simp [fieldsFrom?_key, hvalue, hrest]

/-- The items of an array do not start with its end. -/
theorem WrittenItems.head?_skipSpace {items : List Json} {cs : List Char} (h : WrittenItems items cs)
    (rest : List Char) : (skipSpace (cs ++ rest)).head? ≠ some ']' := by
  have hshape : ∃ front item inner more, cs = front ++ (inner ++ more) ∧ Gap front ∧ Written item inner := by
    cases h with
    | @last item front cs back hfront hitem _ => exact ⟨front, item, cs, back ++ [']'], by simp, hfront, hitem⟩
    | @more item _ front cs more hfront hitem _ => exact ⟨front, item, cs, ',' :: more, by simp, hfront, hitem⟩
  obtain ⟨front, item, inner, more, rfl, hfront, hitem⟩ := hshape
  obtain ⟨c, tail, rfl, hc, hbracket⟩ := hitem.cons
  rw [List.append_assoc, skipSpace_gap hfront, List.cons_append, List.cons_append, skipSpace_cons hc]
  simpa using hbracket

/-- The fields of an object start with a quote. -/
theorem WrittenFields.head?_skipSpace {fields : List Field} {cs : List Char} (h : WrittenFields fields cs)
    (rest : List Char) : (skipSpace (cs ++ rest)).head? = some '"' := by
  have hshape : ∃ front key more, cs = front ++ (writeText key ++ more) ∧ Gap front := by
    cases h with
    | @last key _ front middle cs back hfront _ _ _ =>
      exact ⟨front, key, ':' :: middle ++ cs ++ back ++ ['\x7d'], by simp, hfront⟩
    | @more key _ _ front middle cs more hfront _ _ _ =>
      exact ⟨front, key, ':' :: middle ++ cs ++ ',' :: more, by simp, hfront⟩
  obtain ⟨front, key, more, rfl, hfront⟩ := hshape
  rw [List.append_assoc, skipSpace_gap hfront, List.append_assoc, writeText_append,
    skipSpace_cons rfl]
  rfl

mutual

/-- A text of a value is read as the value. -/
theorem valueFrom?_of_written : ∀ {v : Json} {cs : List Char}, Written v cs →
    ∀ (rest : List Char) (fuel room : Nat), cs.length ≤ fuel → depth v ≤ room → Numeral.Ends rest →
      valueFrom? fuel room (cs ++ rest) = some (v, rest)
  | _, _, .null, _, fuel, _, hfuel, _, _ => by
    cases fuel with
    | zero => simp at hfuel
    | succ fuel => rfl
  | _, _, .bool b, _, fuel, _, hfuel, _, _ => by
    cases fuel with
    | zero => cases b <;> simp at hfuel
    | succ fuel => cases b <;> rfl
  | _, _, @Written.integer n hmin hmax, rest, fuel, room, hfuel, _, hrest => by
    obtain ⟨c, cs, hcs, hfirst⟩ := signedDigits_cons n
    have hparts := Numeral.parts?_signedDigits n hrest
    rw [hcs] at hparts hfuel ⊢
    cases fuel with
    | zero => simp at hfuel
    | succ fuel => exact valueFrom?_of_numeral hfirst hparts (Numeral.value?_wholeParts hmin hmax) fuel room
  | _, _, .string s, rest, fuel, room, hfuel, _, _ => by
    cases fuel with
    | zero => simp [writeText] at hfuel
    | succ fuel =>
      rw [writeText_append, valueFrom?, skipSpace_cons rfl]
      simp [textFrom?_flatMap_escapeChar, String.ofList_toList]
  | _, _, .emptyArray, rest, fuel, room, hfuel, hdepth, _ => by
    cases fuel with
    | zero => simp at hfuel
    | succ fuel =>
      have hread : valueFrom? (fuel + 1) room ('[' :: ']' :: rest) = some (nested room (.array []), rest) := rfl
      simp only [depth, depthOfItems] at hdepth
      simpa [nested, show room ≠ 0 by omega] using hread
  | _, _, @Written.array items cs hitems, rest, fuel, room, hfuel, hdepth, _ => by
    cases fuel with
    | zero => simp at hfuel
    | succ fuel =>
      simp only [depth, List.length_cons] at hdepth hfuel
      have hread := itemsFrom?_of_written hitems rest fuel (room - 1) (by omega) (by omega)
      rw [List.cons_append, valueFrom?_array (hitems.head?_skipSpace rest), hread]
      simp [nested, show room ≠ 0 by omega]
  | _, _, .emptyObject, rest, fuel, room, hfuel, hdepth, _ => by
    cases fuel with
    | zero => simp at hfuel
    | succ fuel =>
      have hread : valueFrom? (fuel + 1) room ('\x7b' :: '\x7d' :: rest) = some (nested room (.object []), rest) := rfl
      simp only [depth, depthOfFields] at hdepth
      simpa [nested, show room ≠ 0 by omega] using hread
  | _, _, @Written.object fields cs hfields, rest, fuel, room, hfuel, hdepth, _ => by
    cases fuel with
    | zero => simp at hfuel
    | succ fuel =>
      simp only [depth, List.length_cons] at hdepth hfuel
      have hread := fieldsFrom?_of_written hfields rest fuel (room - 1) (by omega) (by omega)
      have hhead : (skipSpace (cs ++ rest)).head? ≠ some '\x7d' := by simp [hfields.head?_skipSpace rest]
      rw [List.cons_append, valueFrom?_object hhead, hread]
      simp [nested, show room ≠ 0 by omega]

/-- A text of items is read as the items. -/
theorem itemsFrom?_of_written : ∀ {items : List Json} {cs : List Char}, WrittenItems items cs →
    ∀ (rest : List Char) (fuel room : Nat), cs.length ≤ fuel → depthOfItems items ≤ room →
      itemsFrom? fuel room (cs ++ rest) = some (items, rest)
  | _, _, @WrittenItems.last item front cs back hfront hitem hback, rest, fuel, room, hfuel, hdepth => by
    cases fuel with
    | zero => simp at hfuel
    | succ fuel =>
      simp only [depthOfItems, List.length_append, List.length_cons, List.length_nil] at hdepth hfuel
      have hends : Numeral.Ends (back ++ ']' :: rest) := Numeral.ends_of_gap hback (Numeral.ends_of_mark (by decide))
      have hread := valueFrom?_of_written hitem _ fuel room (by omega) (by omega) hends
      have hclose : skipSpace (back ++ ']' :: rest) = ']' :: rest := by
        rw [skipSpace_gap hback, skipSpace_cons rfl]
      rw [← valueFrom?_gap hfront] at hread
      simpa using itemsFrom?_last hread hclose
  | _, _, @WrittenItems.more item items front cs more hfront hitem hmore, rest, fuel, room, hfuel, hdepth => by
    cases fuel with
    | zero => simp at hfuel
    | succ fuel =>
      simp only [depthOfItems, List.length_append, List.length_cons] at hdepth hfuel
      have hends : Numeral.Ends (',' :: (more ++ rest)) := Numeral.ends_of_mark (by decide)
      have hread := valueFrom?_of_written hitem _ fuel room (by omega) (by omega) hends
      have hrest := itemsFrom?_of_written hmore rest fuel room (by omega) (by omega)
      have hcomma : skipSpace (',' :: (more ++ rest)) = ',' :: (more ++ rest) := skipSpace_cons rfl _
      rw [← valueFrom?_gap hfront] at hread
      simpa [hrest] using itemsFrom?_more hread hcomma

/-- A text of fields is read as the fields. -/
theorem fieldsFrom?_of_written : ∀ {fields : List Field} {cs : List Char}, WrittenFields fields cs →
    ∀ (rest : List Char) (fuel room : Nat), cs.length ≤ fuel → depthOfFields fields ≤ room →
      fieldsFrom? fuel room (cs ++ rest) = some (some fields, rest)
  | _, _, @WrittenFields.last key value front middle cs back hfront hmiddle hvalue hback, rest, fuel, room, hfuel,
      hdepth => by
    cases fuel with
    | zero => simp at hfuel
    | succ fuel =>
      simp only [depthOfFields, List.length_append, List.length_cons, List.length_nil] at hdepth hfuel
      have hends : Numeral.Ends (back ++ '\x7d' :: rest) :=
        Numeral.ends_of_gap hback (Numeral.ends_of_mark (by decide))
      have hread := valueFrom?_of_written hvalue _ fuel room (by omega) (by omega) hends
      have hclose : skipSpace (back ++ '\x7d' :: rest) = '\x7d' :: rest := by
        rw [skipSpace_gap hback, skipSpace_cons rfl]
      rw [← valueFrom?_gap hmiddle] at hread
      simp only [List.append_assoc, fieldsFrom?_gap hfront]
      simpa using fieldsFrom?_last key hread hclose
  | _, _, @WrittenFields.more key value fields front middle cs more hfront hmiddle hvalue hmore, rest, fuel, room,
      hfuel, hdepth => by
    cases fuel with
    | zero => simp at hfuel
    | succ fuel =>
      simp only [depthOfFields, List.length_append, List.length_cons] at hdepth hfuel
      have hends : Numeral.Ends (',' :: (more ++ rest)) := Numeral.ends_of_mark (by decide)
      have hread := valueFrom?_of_written hvalue _ fuel room (by omega) (by omega) hends
      have hrest := fieldsFrom?_of_written hmore rest fuel room (by omega) (by omega)
      have hcomma : skipSpace (',' :: (more ++ rest)) = ',' :: (more ++ rest) := skipSpace_cons rfl _
      rw [← valueFrom?_gap hmiddle] at hread
      simp only [List.append_assoc, fieldsFrom?_gap hfront]
      simpa [hrest] using fieldsFrom?_more key hread hcomma

end

/-- A text of a value with blanks behind it is read as the value. -/
theorem read?_of_written {v : Json} {cs back : List Char} (h : Written v cs) (hdepth : v.depth ≤ greatestDepth)
    (hback : Gap back) : read? (String.ofList (cs ++ back)) = some v := by
  have hends : Numeral.Ends (back ++ []) := Numeral.ends_of_gap hback (by simp [Numeral.Ends])
  rw [List.append_nil] at hends
  have hskip : skipSpace back = [] := List.dropWhile_eq_nil_iff.mpr hback
  have hfuel : cs.length ≤ 2 * (cs ++ back).length + 2 := by
    rw [List.length_append]
    omega
  unfold read?
  simp only [String.toList_ofList, valueFrom?_of_written h back _ greatestDepth hfuel hdepth hends]
  simp [hskip]

/-- The spread form of a value, as a line of its own, is read as the value. -/
theorem read?_spread {v : Json} (hexact : v.exact) (hdepth : v.depth ≤ greatestDepth) :
    read? (v.spread ++ "\n") = some v := by
  have hgap : Gap ['\n'] := by simp [Gap, isSpace]
  have hread := read?_of_written (written_spreadChars 0 v hexact) hdepth hgap
  rwa [String.ofList_append] at hread

/-- The compact form of a value is read as the value. -/
theorem read?_compact {v : Json} (hexact : v.exact) (hdepth : v.depth ≤ greatestDepth) : read? v.compact = some v := by
  have hread := read?_of_written (written_compactChars v hexact) hdepth (by simp [Gap] : Gap [])
  rwa [List.append_nil] at hread

/-- The octets of a text are read as the text is. -/
theorem readOctets?_encode (text : String) : readOctets? (Utf8.encode text) = read? text := by
  rw [readOctets?, Utf8.strict?_encode, Option.bind_some]

end ServiceCatalog.Json
