import ServiceCatalog.Json.Reader
import ServiceCatalog.Proofs.Text.Blank
import Mathlib.Tactic.SplitIfs

/-!
# Texts inside values

What a value says is written in the text it is read from, between braces, brackets and quotes. So a text in a value has
fewer characters than the text that the value is read from. Counting only those that are not blank, the same is true
for that text without the blanks at its ends.
-/

namespace ServiceCatalog

namespace Text

/-- How many characters of a text are not blank. -/
def visible (cs : List Char) : Nat := cs.countP fun c => !isBlank c

@[simp] theorem visible_nil : visible [] = 0 := rfl

theorem visible_cons_of_visible {c : Char} (h : isBlank c = false) (cs : List Char) :
    visible (c :: cs) = visible cs + 1 := by
  simp [visible, h]

theorem visible_le_of_suffix {cs ds : List Char} (h : cs <:+ ds) : visible cs ≤ visible ds :=
  h.sublist.countP_le

theorem visible_append (cs ds : List Char) : visible (cs ++ ds) = visible cs + visible ds := List.countP_append

theorem visible_eq_zero {cs : List Char} (h : ∀ c ∈ cs, isBlank c = true) : visible cs = 0 := by
  simpa [visible] using h

theorem visible_trimChars (cs : List Char) : visible (trimChars cs) = visible cs := by
  obtain ⟨front, back, hcs, hfront, hback⟩ := exists_blanks_around cs
  have hcount := congrArg visible hcs
  rw [visible_append, visible_append, visible_eq_zero hfront, visible_eq_zero hback] at hcount
  omega

end Text

namespace Json

open Text

/-- What is read at the start of a text and what is left behind it fit into the text, where `extent` says how much is
read. -/
def Fits {α : Type} (extent : α → Nat) (read? : List Char → Option (α × List Char)) : Prop :=
  ∀ cs r, read? cs = some r → extent r.1 + visible r.2 ≤ visible cs

theorem visible_skipSpace_le (cs : List Char) : visible (skipSpace cs) ≤ visible cs :=
  visible_le_of_suffix (List.dropWhile_suffix _)

/-! ## Texts -/

/-- How much is read of a text up to its closing quote. -/
def extentOfText (text : Option (List Char)) : Nat := visible (text.getD []) + 1

/-- What is done with a text that is read on adds at most so much to it. -/
def AddsAtMost (n : Nat) (onto : Option (List Char) × List Char → Option (List Char) × List Char) : Prop :=
  ∀ r, extentOfText (onto r).1 ≤ extentOfText r.1 + n ∧ (onto r).2 = r.2

namespace AddsAtMost

variable {n : Nat} {onto other : Option (List Char) × List Char → Option (List Char) × List Char}

theorem same : AddsAtMost n fun r => r := fun _ => ⟨Nat.le_add_right _ _, rfl⟩

theorem withoutText : AddsAtMost n withoutText := fun r =>
  ⟨by simp only [Json.withoutText, extentOfText, Option.getD_none, visible_nil]; omega, rfl⟩

theorem withFirst {c : Char} (hc : visible [c] ≤ n) : AddsAtMost n (withFirst c) := by
  rintro ⟨text, rest⟩
  refine ⟨?_, rfl⟩
  cases text with
  | none => simp [Json.withFirst]
  | some cs =>
    have hcs : visible (c :: cs) = visible [c] + visible cs := visible_append [c] cs
    simp only [Json.withFirst, extentOfText, Option.map_some, Option.getD_some]
    omega

theorem ite {p : Prop} [Decidable p] (h : AddsAtMost n onto) (hother : AddsAtMost n other) :
    AddsAtMost n fun r => if p then onto r else other r := by
  intro r
  dsimp only
  split
  · exact h r
  · exact hother r

theorem before (hother : AddsAtMost 0 other) (h : AddsAtMost n onto) : AddsAtMost n fun r => other (onto r) :=
  fun r => ⟨(hother (onto r)).1.trans (h r).1, (hother (onto r)).2.trans (h r).2⟩

/-- Reading goes on behind something that is at least as much as is added. -/
theorem of_map (h : AddsAtMost n onto) {cs rest : List Char} (hcs : visible rest + n ≤ visible cs)
    {read : Option (Option (List Char) × List Char)}
    (hrest : ∀ r, read = some r → extentOfText r.1 + visible r.2 ≤ visible rest)
    {r : Option (List Char) × List Char} (hread : read.map onto = some r) :
    extentOfText r.1 + visible r.2 ≤ visible cs := by
  obtain ⟨inner, hinner, rfl⟩ := Option.map_eq_some_iff.mp hread
  obtain ⟨hextent, hsame⟩ := h inner
  have hinner := hrest inner hinner
  rw [hsame]
  omega

end AddsAtMost

/-- A text is no longer than it is written: a character is written as itself or behind a backslash. -/
theorem textFrom?_fits (high : Option Nat) : Fits extentOfText (textFrom? high) := by
  intro cs r hread
  fun_induction textFrom? high cs generalizing r with
  | case1 => cases hread
  | case2 high a b c d rest ihpair ihalone =>
    have hcs : visible rest + 1 ≤ visible ('\\' :: 'u' :: a :: b :: c :: d :: rest) := by
      rw [visible_cons_of_visible rfl]
      exact Nat.succ_le_succ (visible_le_of_suffix ⟨['u', a, b, c, d], rfl⟩)
    have hone (c : Char) : AddsAtMost 1 (withFirst c) := .withFirst List.countP_le_length
    obtain ⟨unit, -, hread⟩ := Option.bind_eq_some_iff.mp hread
    split at hread
    · exact (AddsAtMost.ite .withoutText .same).of_map hcs (ihpair unit) hread
    · split at hread
      · cases high with
        | none => exact AddsAtMost.withoutText.of_map hcs ihalone hread
        | some first => exact (hone _).of_map hcs ihalone hread
      · exact (AddsAtMost.ite .withoutText (hone _)).of_map hcs ihalone hread
  | case3 high rest alone hnot =>
    cases hread
    have halone : AddsAtMost 0 alone := .ite .withoutText .same
    obtain ⟨hextent, hsame⟩ := halone (some [], rest)
    have hclosing : visible ('"' :: rest) = visible rest + 1 := visible_cons_of_visible rfl rest
    simp only [extentOfText, Option.getD_some, visible_nil] at hextent
    rw [hsame, hclosing, extentOfText]
    dsimp only
    omega
  | case4 => cases hread
  | case5 high alone e rest hquote hnot ih =>
    have hcs : visible rest + 1 ≤ visible ('\\' :: e :: rest) := by
      rw [visible_cons_of_visible rfl]
      exact Nat.succ_le_succ (visible_le_of_suffix ⟨[e], rfl⟩)
    have halone : AddsAtMost 0 alone := .ite .withoutText .same
    obtain ⟨c, -, hread⟩ := Option.bind_eq_some_iff.mp hread
    exact (halone.before (.withFirst List.countP_le_length)).of_map hcs ih hread
  | case6 => cases hread
  | case7 high c rest hnot alone hquote hbackslash hvisible ih =>
    have hcs : visible (c :: rest) = visible [c] + visible rest := visible_append [c] rest
    have halone : AddsAtMost 0 alone := .ite .withoutText .same
    exact (halone.before (.withFirst le_rfl)).of_map (by omega) ih hread

/-! ## Words and numerals -/

theorem afterWord?_suffix {word cs rest : List Char} (h : afterWord? word cs = some rest) : rest <:+ cs := by
  fun_induction afterWord? word cs with
  | case1 cs =>
    cases h
    exact List.suffix_rfl
  | case2 word c cs ih => exact (ih h).trans (List.suffix_cons c cs)
  | case3 => cases h
  | case4 => cases h

namespace Numeral

theorem exponentPart?_suffix {cs : List Char} {r : (Bool × List Char) × List Char} (h : exponentPart? cs = some r) :
    r.2 <:+ cs := by
  unfold exponentPart? at h
  simp only at h
  split_ifs at h
  cases h
  refine (List.dropWhile_suffix _).trans ?_
  split
  · exact List.suffix_cons _ _
  · exact List.suffix_cons _ _
  · exact List.suffix_rfl

/-- An exponent may stand behind what was read of a numeral. -/
private theorem suffix_of_exponent {cs : List Char} {whole : Option (Bool × List Char) → Parts} {r : Parts × List Char}
    (h : (match cs with
      | 'e' :: rest => ((exponentPart? rest).map fun r => (some r.1, r.2)) >>= fun e => some (whole e.1, e.2)
      | 'E' :: rest => ((exponentPart? rest).map fun r => (some r.1, r.2)) >>= fun e => some (whole e.1, e.2)
      | rest => some (none, rest) >>= fun e => some (whole e.1, e.2)) = some r) : r.2 <:+ cs := by
  have hmark {mark : Char} {rest : List Char} (h : (((exponentPart? rest).map fun r => (some r.1, r.2)) >>=
      fun e => some (whole e.1, e.2)) = some r) : r.2 <:+ mark :: rest := by
    simp only [Option.bind_eq_bind, Option.bind_map, Option.bind_eq_some_iff] at h
    obtain ⟨e, he, hr⟩ := h
    cases hr
    exact (exponentPart?_suffix he).trans (List.suffix_cons _ _)
  split at h
  · exact hmark h
  · exact hmark h
  · cases h
    exact List.suffix_rfl

theorem parts?_suffix {cs : List Char} {r : Parts × List Char} (h : parts? cs = some r) : r.2 <:+ cs := by
  unfold parts? at h
  split at h
  rename_i negative unsigned hsign
  have hunsigned : unsigned <:+ cs := by
    split at hsign
    · cases hsign
      exact List.suffix_cons _ _
    · cases hsign
      exact List.suffix_rfl
  simp only at h
  split at h
  · cases h
  have hwhole : unsigned.dropWhile isDigit <:+ cs := (List.dropWhile_suffix _).trans hunsigned
  split at h
  · rename_i rest hpoint
    rw [hpoint] at hwhole
    split at h
    · cases h
    · have hfraction : rest.dropWhile isDigit <:+ '.' :: rest :=
        (List.dropWhile_suffix _).trans (List.suffix_cons _ _)
      exact (suffix_of_exponent h).trans (hfraction.trans hwhole)
  · exact (suffix_of_exponent h).trans hwhole

end Numeral

/-! ## Values -/

mutual

/-- A number of characters that are not blank, which every text of a value has: its quotes, braces and brackets, and the
characters of its texts. -/
def extent : Json → Nat
  | .string s => visible s.toList + 2
  | .array items => extentOfItems items + 1
  | .object fields => extentOfFields fields + 1
  | _ => 0

@[inherit_doc extent] def extentOfItems : List Json → Nat
  | [] => 0
  | item :: rest => extent item + extentOfItems rest

@[inherit_doc extent] def extentOfFields : List Field → Nat
  | [] => 0
  | (_, value) :: rest => extent value + extentOfFields rest

end

theorem extent_nested_le (room : Nat) (value : Json) : extent (nested room value) ≤ extent value := by
  unfold nested
  split
  · exact Nat.zero_le _
  · exact le_rfl

theorem extent_le_of_mem {fields : List Field} {f : Field} (hf : f ∈ fields) :
    extent f.2 ≤ extentOfFields fields := by
  induction fields with
  | nil => cases hf
  | cons first rest ih =>
    rw [extentOfFields]
    obtain rfl | hf := List.mem_cons.mp hf
    · exact Nat.le_add_right _ _
    · exact (ih hf).trans (Nat.le_add_left _ _)

/-- A mark in front of a text is a character of its own. -/
private theorem visible_of_skipSpace {c : Char} {cs rest : List Char} (h : skipSpace cs = c :: rest)
    (hc : isBlank c = false) : visible rest + 1 ≤ visible cs := by
  rw [← visible_cons_of_visible hc, ← h]
  exact visible_skipSpace_le cs

private theorem extentOfFields_bind_le (key : Option (List Char)) (value : Json) (rest : Option (List Field)) :
    let field : Option Field := key.map fun k => (String.ofList k, value)
    extentOfFields ((field.bind fun f => rest.map (f :: ·)).getD []) ≤
      extent value + extentOfFields (rest.getD []) := by
  cases key with
  | none => exact Nat.zero_le _
  | some k => cases rest with
    | none => exact Nat.zero_le _
    | some rest => exact le_rfl

private theorem extentOfFields_map_le (key : Option (List Char)) (value : Json) :
    let field : Option Field := key.map fun k => (String.ofList k, value)
    extentOfFields ((field.map ([·])).getD []) ≤ extent value := by
  cases key with
  | none => exact Nat.zero_le _
  | some k => exact le_rfl

/-- The mark in front of a container counts for the container, if it is read as one. -/
private theorem extent_container_le {mark : Char} {cs inside rest : List Char} (room : Nat) {value : Json}
    (hmark : skipSpace cs = mark :: inside) (hblank : isBlank mark = false)
    (hvalue : extent value + visible rest ≤ visible inside + 1) :
    extent (nested room value) + visible rest ≤ visible cs := by
  have hcs := visible_of_skipSpace hmark hblank
  have hnested := extent_nested_le room value
  omega

private theorem extent_word_le {mark : Char} {word cs inside rest : List Char} (hmark : skipSpace cs = mark :: inside)
    (hword : afterWord? word inside = some rest) : 0 + visible rest ≤ visible cs := by
  have hsuffix : rest <:+ skipSpace cs := hmark ▸ (afterWord?_suffix hword).trans (List.suffix_cons mark inside)
  rw [Nat.zero_add]
  exact (visible_le_of_suffix hsuffix).trans (visible_skipSpace_le cs)

mutual

/-- A value is no longer than it is written. -/
theorem valueFrom?_fits : ∀ fuel room, Fits extent (valueFrom? fuel room)
  | 0, _, _, _, h => by cases h
  | fuel + 1, room, cs, r, h => by
    unfold valueFrom? at h
    split at h
    · rename_i inside hmark
      split at h
      · rename_i rest hclosing
        have hrest := visible_of_skipSpace hclosing rfl
        cases h
        exact extent_container_le room hmark rfl (by simp only [extent, extentOfFields]; omega)
      · obtain ⟨⟨fields, rest⟩, hfields, rfl⟩ := Option.map_eq_some_iff.mp h
        have hread := fieldsFrom?_fits fuel (room - 1) _ _ hfields
        have hinside := visible_skipSpace_le inside
        cases fields with
        | some fields =>
          simp only [Option.getD_some] at hread
          exact extent_container_le room hmark rfl (by simp only [extent]; omega)
        | none =>
          have hcs := visible_of_skipSpace hmark rfl
          simp only [extent] at hread ⊢
          omega
    · rename_i inside hmark
      split at h
      · rename_i rest hclosing
        have hrest := visible_of_skipSpace hclosing rfl
        cases h
        exact extent_container_le room hmark rfl (by simp only [extent, extentOfItems]; omega)
      · obtain ⟨⟨items, rest⟩, hitems, rfl⟩ := Option.map_eq_some_iff.mp h
        have hread := itemsFrom?_fits fuel (room - 1) _ _ hitems
        have hinside := visible_skipSpace_le inside
        simp only at hread
        exact extent_container_le room hmark rfl (by simp only [extent]; omega)
    · rename_i inside hmark
      have hcs := visible_of_skipSpace hmark rfl
      obtain ⟨⟨text, rest⟩, htext, rfl⟩ := Option.map_eq_some_iff.mp h
      have hread := textFrom?_fits none _ _ htext
      cases text with
      | some text =>
        simp only [extentOfText, Option.getD_some] at hread
        simp only [extent, String.toList_ofList]
        omega
      | none =>
        simp only [extent] at hread ⊢
        omega
    · rename_i inside hmark
      obtain ⟨rest, hword, rfl⟩ := Option.map_eq_some_iff.mp h
      exact extent_word_le hmark hword
    · rename_i inside hmark
      obtain ⟨rest, hword, rfl⟩ := Option.map_eq_some_iff.mp h
      exact extent_word_le hmark hword
    · rename_i inside hmark
      obtain ⟨rest, hword, rfl⟩ := Option.map_eq_some_iff.mp h
      exact extent_word_le hmark hword
    · obtain ⟨numeral, hnumeral, rfl⟩ := Option.map_eq_some_iff.mp h
      have hrest := visible_le_of_suffix (Numeral.parts?_suffix hnumeral)
      have hcs := visible_skipSpace_le cs
      split <;> simp only [extent] <;> omega

theorem itemsFrom?_fits : ∀ fuel room, Fits extentOfItems (itemsFrom? fuel room)
  | 0, _, _, _, h => by cases h
  | fuel + 1, room, cs, r, h => by
    unfold itemsFrom? at h
    obtain ⟨item, hitem, h⟩ := Option.bind_eq_some_iff.mp h
    have hread := valueFrom?_fits fuel room _ _ hitem
    split at h
    · rename_i rest hmark
      have hrest := visible_of_skipSpace hmark rfl
      obtain ⟨items, hitems, rfl⟩ := Option.map_eq_some_iff.mp h
      have hmore := itemsFrom?_fits fuel room _ _ hitems
      simp only [extentOfItems]
      omega
    · rename_i rest hmark
      have hrest := visible_of_skipSpace hmark rfl
      cases h
      simp only [extentOfItems]
      omega
    · cases h

theorem fieldsFrom?_fits : ∀ fuel room, Fits (fun r => extentOfFields (r.getD [])) (fieldsFrom? fuel room)
  | 0, _, _, _, h => by cases h
  | fuel + 1, room, cs, r, h => by
    unfold fieldsFrom? at h
    split at h
    · rename_i inside hmark
      have hcs := visible_of_skipSpace hmark rfl
      obtain ⟨key, hkey, h⟩ := Option.bind_eq_some_iff.mp h
      have hinside := textFrom?_fits none _ _ hkey
      split at h
      · rename_i behind hcolon
        have hbehind := visible_of_skipSpace hcolon rfl
        obtain ⟨value, hvalue, h⟩ := Option.bind_eq_some_iff.mp h
        have hread := valueFrom?_fits fuel room _ _ hvalue
        split at h
        · rename_i rest hcomma
          have hrest := visible_of_skipSpace hcomma rfl
          obtain ⟨fields, hfields, rfl⟩ := Option.map_eq_some_iff.mp h
          have hmore := fieldsFrom?_fits fuel room _ _ hfields
          have hall := extentOfFields_bind_le key.1 value.1 fields.1
          simp only at hmore hall ⊢
          omega
        · rename_i rest hclosing
          have hrest := visible_of_skipSpace hclosing rfl
          cases h
          have hall := extentOfFields_map_le key.1 value.1
          simp only at hall ⊢
          omega
        · cases h
      · cases h
    · cases h

end

/-- The text of a field has fewer characters that are not blank than the text that the object is read from. -/
theorem visible_lt_of_field {text key s : String} {fields : List Field} (h : read? text = some (.object fields))
    (hfield : (key, .string s) ∈ fields) : visible s.toList < visible text.toList := by
  obtain ⟨⟨value, rest⟩, hread, hend⟩ := Option.bind_eq_some_iff.mp h
  have hfits := valueFrom?_fits _ _ _ _ hread
  have hwithin := extent_le_of_mem hfield
  dsimp only at hend
  split_ifs at hend
  cases hend
  simp only [extent] at hfits hwithin
  omega

/-- So no field of an object has the text that the object is read from, with or without the blanks at its ends. -/
theorem ne_trim_of_field {text key s : String} {fields : List Field} (h : read? text = some (.object fields))
    (hfield : (key, .string s) ∈ fields) : s ≠ trim text := by
  rintro rfl
  have hlt := visible_lt_of_field h hfield
  rw [trim, String.toList_ofList, visible_trimChars] at hlt
  exact lt_irrefl _ hlt

end Json

end ServiceCatalog
