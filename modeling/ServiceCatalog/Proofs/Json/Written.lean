import ServiceCatalog.Json.Printer
import ServiceCatalog.Json.Reader

/-!
# The grammar of written values

Both printers write the same parts and differ in the blanks between them. `Written` leaves the blanks open, so that what
holds of all texts of a value holds of both of its written forms.
-/

namespace ServiceCatalog.Json

open ServiceCatalog.Text

/-- A text of blanks only. -/
def Gap (cs : List Char) : Prop := ∀ c ∈ cs, isSpace c = true

mutual

/-- A text that a value may be written as. Numbers have to be whole and of 64 bits. -/
inductive Written : Json → List Char → Prop
  | null : Written .null "null".toList
  | bool (b : Bool) : Written (.bool b) (if b then "true" else "false").toList
  | integer {n : Int} (hmin : minInt64 ≤ n) (hmax : n ≤ maxWord64) : Written (integer n) (signedDigits n)
  | string (s : String) : Written (.string s) (writeText s)
  | emptyArray : Written (.array []) ['[', ']']
  | array {items : List Json} {cs : List Char} : WrittenItems items cs → Written (.array items) ('[' :: cs)
  | emptyObject : Written (.object []) ['\x7b', '\x7d']
  | object {fields : List Field} {cs : List Char} : WrittenFields fields cs → Written (.object fields) ('\x7b' :: cs)

/-- A text that the items of an array may be written as, up to the closing bracket. -/
inductive WrittenItems : List Json → List Char → Prop
  | last {item : Json} {front cs back : List Char} : Gap front → Written item cs → Gap back →
      WrittenItems [item] (front ++ cs ++ back ++ [']'])
  | more {item : Json} {rest : List Json} {front cs more : List Char} : Gap front → Written item cs →
      WrittenItems rest more → WrittenItems (item :: rest) (front ++ cs ++ ',' :: more)

/-- A text that the fields of an object may be written as, up to the closing brace. -/
inductive WrittenFields : List Field → List Char → Prop
  | last {key : String} {value : Json} {front middle cs back : List Char} : Gap front → Gap middle →
      Written value cs → Gap back →
      WrittenFields [(key, value)] (front ++ writeText key ++ ':' :: middle ++ cs ++ back ++ ['\x7d'])
  | more {key : String} {value : Json} {rest : List Field} {front middle cs more : List Char} : Gap front →
      Gap middle → Written value cs → WrittenFields rest more →
      WrittenFields ((key, value) :: rest) (front ++ writeText key ++ ':' :: middle ++ cs ++ ',' :: more)

end

mutual

/-- Whether the numbers of a value are whole and of 64 bits, and every part of it stands for a value. -/
def exact : Json → Prop
  | .number (.integer n) => minInt64 ≤ n ∧ n ≤ maxWord64
  | .number (.binary _) => False
  | .array items => exactItems items
  | .object fields => exactFields fields
  | .unreadable => False
  | _ => True

@[inherit_doc exact] def exactItems : List Json → Prop
  | [] => True
  | item :: rest => exact item ∧ exactItems rest

@[inherit_doc exact] def exactFields : List Field → Prop
  | [] => True
  | (_, value) :: rest => exact value ∧ exactFields rest

end

mutual

/-- How many containers stand inside each other in a value. -/
def depth : Json → Nat
  | .array items => 1 + depthOfItems items
  | .object fields => 1 + depthOfFields fields
  | _ => 0

@[inherit_doc depth] def depthOfItems : List Json → Nat
  | [] => 0
  | item :: rest => max (depth item) (depthOfItems rest)

@[inherit_doc depth] def depthOfFields : List Field → Nat
  | [] => 0
  | (_, value) :: rest => max (depth value) (depthOfFields rest)

end

theorem exactItems_strings (values : List String) : exactItems (values.map .string) := by
  induction values with
  | nil => trivial
  | cons s values ih => exact ⟨trivial, ih⟩

theorem depthOfItems_strings (values : List String) : depthOfItems (values.map .string) = 0 := by
  induction values with
  | nil => rfl
  | cons s values ih => simpa [depthOfItems, depth] using ih

private theorem gap_newLine (level : Nat) : Gap (newLine level) := by
  intro c hc
  obtain rfl | ⟨-, rfl⟩ : c = '\n' ∨ _ := by simpa [newLine] using hc
  · rfl
  · rfl

private theorem gap_blank : Gap [' '] := by simp [Gap, isSpace]

mutual

/-- The spread form is a text of its value. -/
theorem written_spreadChars : ∀ (level : Nat) (v : Json), v.exact → Written v (spreadChars level v)
  | _, .null, _ => .null
  | _, .bool true, _ => .bool true
  | _, .bool false, _ => .bool false
  | _, .number (.integer _), h => .integer h.1 h.2
  | _, .string s, _ => .string s
  | level, .array items, h => by
    cases items with
    | nil => exact .emptyArray
    | cons item rest => exact .array (writtenItems_spreadItems level (item :: rest) (by simp) h)
  | level, .object fields, h => by
    cases fields with
    | nil => exact .emptyObject
    | cons field rest => exact .object (writtenFields_spreadFields level (field :: rest) (by simp) h)

/-- The items of an array, each on a line of its own, are a text of them. -/
theorem writtenItems_spreadItems : ∀ (level : Nat) (items : List Json), items ≠ [] → exactItems items →
    WrittenItems items (newLine (level + 1) ++ joinWith (',' :: newLine (level + 1)) (spreadItems (level + 1) items) ++
      newLine level ++ [']'])
  | _, [], hne, _ => absurd rfl hne
  | level, [item], _, h => .last (gap_newLine _) (written_spreadChars _ item h.1) (gap_newLine _)
  | level, item :: next :: rest, _, h => by
    have hitem := written_spreadChars (level + 1) item h.1
    have hrest := writtenItems_spreadItems level (next :: rest) (by simp) h.2
    simpa [joinWith, spreadItems] using WrittenItems.more (gap_newLine (level + 1)) hitem hrest

/-- The fields of an object, each on a line of its own, are a text of them. -/
theorem writtenFields_spreadFields : ∀ (level : Nat) (fields : List Field), fields ≠ [] → exactFields fields →
    WrittenFields fields (newLine (level + 1) ++
      joinWith (',' :: newLine (level + 1)) (spreadFields (level + 1) fields) ++ newLine level ++ ['\x7d'])
  | _, [], hne, _ => absurd rfl hne
  | level, [(key, value)], _, h => by
    have hvalue := written_spreadChars (level + 1) value h.1
    simpa [joinWith, spreadFields] using
      WrittenFields.last (gap_newLine (level + 1)) gap_blank hvalue (gap_newLine level)
  | level, (key, value) :: next :: rest, _, h => by
    have hvalue := written_spreadChars (level + 1) value h.1
    have hrest := writtenFields_spreadFields level (next :: rest) (by simp) h.2
    simpa [joinWith, spreadFields] using WrittenFields.more (gap_newLine (level + 1)) gap_blank hvalue hrest

end

private theorem gap_nil : Gap [] := by simp [Gap]

mutual

/-- The compact form is a text of its value. -/
theorem written_compactChars : ∀ v : Json, v.exact → Written v (compactChars v)
  | .null, _ => .null
  | .bool true, _ => .bool true
  | .bool false, _ => .bool false
  | .number (.integer _), h => .integer h.1 h.2
  | .string s, _ => .string s
  | .array items, h => by
    cases items with
    | nil => exact .emptyArray
    | cons item rest => exact .array (writtenItems_compactItems (item :: rest) (by simp) h)
  | .object fields, h => by
    cases fields with
    | nil => exact .emptyObject
    | cons field rest => exact .object (writtenFields_compactFields (field :: rest) (by simp) h)

/-- The items of an array without blanks are a text of them. -/
theorem writtenItems_compactItems : ∀ items : List Json, items ≠ [] → exactItems items →
    WrittenItems items (joinWith [','] (compactItems items) ++ [']'])
  | [], hne, _ => absurd rfl hne
  | [item], _, h => by
    simpa [joinWith, compactItems] using WrittenItems.last gap_nil (written_compactChars item h.1) gap_nil
  | item :: next :: rest, _, h => by
    have hrest := writtenItems_compactItems (next :: rest) (by simp) h.2
    simpa [joinWith, compactItems] using WrittenItems.more gap_nil (written_compactChars item h.1) hrest

/-- The fields of an object without blanks are a text of them. -/
theorem writtenFields_compactFields : ∀ fields : List Field, fields ≠ [] → exactFields fields →
    WrittenFields fields (joinWith [','] (compactFields fields) ++ ['\x7d'])
  | [], hne, _ => absurd rfl hne
  | [(key, value)], _, h => by
    simpa [joinWith, compactFields] using
      WrittenFields.last gap_nil gap_nil (written_compactChars value h.1) gap_nil
  | (key, value) :: next :: rest, _, h => by
    have hrest := writtenFields_compactFields (next :: rest) (by simp) h.2
    simpa [joinWith, compactFields] using
      WrittenFields.more gap_nil gap_nil (written_compactChars value h.1) hrest

end

end ServiceCatalog.Json
