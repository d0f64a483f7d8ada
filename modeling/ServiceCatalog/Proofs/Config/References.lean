import ServiceCatalog.Environment
import ServiceCatalog.Proofs.Toml.Expanded
import ServiceCatalog.Text.Expansion

/-!
# References in a configuration file

A text of a configuration file refers to a variable if it is just the name in braces behind a dollar sign. A file with
no other dollar signs comes out of the expansion of variables with their values in these places.
-/

namespace ServiceCatalog.Config

open Text Text.Expansion Toml

/-- A character that can stand in the name of a variable that a text refers to. -/
def isVariableChar (c : Char) : Bool := isPlain c && c ≠ '$' && c ≠ '\x7d'

/-- Whether a text can stand between braces as the name of a variable and nothing else. -/
def isVariableName (name : List Char) : Bool := name.all isVariableChar && (cutAtFallback? name).isNone

/-- The name of the variable that a text refers to which is next in a file, if it is one in quotes and a reference and
nothing else. -/
def reference? : List Char → Option String
  | '"' :: '$' :: '\x7b' :: rest =>
    match cutAtFirst? '\x7d' rest with
    | some (name, '"' :: _) =>
      if isVariableName name then some (String.ofList name) else none
    | _ => none
  | _ => none

/-- The name of the variable that the text at a place of a file refers to. Places are counted from the end. -/
def variableAt? (file : String) (place : Nat) : Option String :=
  reference? (file.toList.drop (file.toList.length - place))

/-- A reference as it is written. -/
def written (name : String) : String := "$\x7b" ++ name ++ "\x7d"

/-- What is put in for references: the value of a variable that is set, and the reference itself otherwise. -/
def filling (env : Environment) (file : String) (place : Nat) : Option String :=
  (variableAt? file place).map fun name => (env.get? name).getD (written name)

/-! ## References -/

theorem toList_written (name : String) : (written name).toList = '$' :: '\x7b' :: (name.toList ++ ['\x7d']) := by
  simp [written]

theorem cutAtFirst?_eq_some_iff {c : Char} {cs front back : List Char} :
    cutAtFirst? c cs = some (front, back) ↔ cs = front ++ c :: back ∧ c ∉ front := by
  induction cs generalizing front back with
  | nil => simp [cutAtFirst?]
  | cons d cs ih =>
    rw [cutAtFirst?]
    split
    · rename_i hd
      cases front with
      | nil => simp [hd]
      | cons e front => simp +contextual [hd]
    · rename_i hd
      cases front with
      | nil => simp [hd]
      | cons e front =>
        simp only [Option.map_eq_some_iff, Prod.exists, Prod.mk.injEq, List.cons.injEq, ih, List.cons_append,
          List.mem_cons, not_or]
        constructor
        · rintro ⟨_, _, ⟨rfl, hfront⟩, ⟨rfl, rfl⟩, rfl⟩
          exact ⟨⟨rfl, rfl⟩, Ne.symm hd, hfront⟩
        · rintro ⟨⟨rfl, rfl⟩, -, hfront⟩
          exact ⟨front, back, ⟨rfl, hfront⟩, ⟨rfl, rfl⟩, rfl⟩

theorem not_mem_of_isVariableChar {name : List Char} (h : ∀ c ∈ name, isVariableChar c = true) : '\x7d' ∉ name :=
  fun hmem => by cases h _ hmem

theorem isVariableName_iff {name : List Char} :
    isVariableName name = true ↔ (∀ c ∈ name, isVariableChar c = true) ∧ cutAtFallback? name = none := by
  rw [isVariableName, Bool.and_eq_true_iff, List.all_eq_true, Option.isNone_iff_eq_none]

theorem reference?_eq_some_iff {cs : List Char} {name : String} :
    reference? cs = some name ↔
      ∃ tail, cs = '"' :: '$' :: '\x7b' :: (name.toList ++ '\x7d' :: '"' :: tail) ∧
        isVariableName name.toList = true := by
  constructor
  · intro h
    unfold reference? at h
    split at h
    · rename_i rest
      split at h
      · rename_i front tail hcut
        split at h
        · rename_i hname
          cases h
          obtain ⟨rfl, -⟩ := cutAtFirst?_eq_some_iff.mp hcut
          refine ⟨tail, ?_, ?_⟩
          · rw [String.toList_ofList]
          · rw [String.toList_ofList]
            exact hname
        · cases h
      · cases h
    · cases h
  · rintro ⟨tail, rfl, hname⟩
    have hcut := cutAtFirst?_eq_some_iff.mpr
      ⟨(rfl : name.toList ++ '\x7d' :: '"' :: tail = _), not_mem_of_isVariableChar (isVariableName_iff.mp hname).1⟩
    rw [reference?, hcut]
    simp [hname]

theorem pieces_cons {c : Char} (cs : List Char) (hc : c ≠ '$') : pieces (c :: cs) = .character c :: pieces cs := by
  rw [pieces.eq_def]
  split <;> simp_all

/-- Nothing is put into a text without dollar signs. -/
theorem replaceKnown_append {value? : String → Option String} {front : List Char} (cs : List Char)
    (hfront : '$' ∉ front) :
    replaceKnown value? (pieces (front ++ cs)) = front ++ replaceKnown value? (pieces cs) := by
  induction front with
  | nil => rfl
  | cons c front ih =>
    obtain ⟨hc, hfront⟩ := not_or.mp (List.mem_cons.not.mp hfront)
    rw [List.cons_append, pieces_cons _ (Ne.symm hc), replaceKnown, ih hfront, List.cons_append]

theorem pieces_reference {name cs : List Char} (hname : '\x7d' ∉ name) :
    pieces ('$' :: '\x7b' :: (name ++ '\x7d' :: cs)) = braced name :: pieces cs := by
  have hcut := cutAtFirst?_eq_some_iff.mpr ⟨(rfl : name ++ '\x7d' :: cs = _), hname⟩
  rw [pieces.eq_def]
  split
  · rename_i heq
    cases heq
  · rename_i heq
    cases heq
    split
    · rename_i heq
      cases hcut.symm.trans heq
      rfl
    · rename_i heq
      cases hcut.symm.trans heq
  · rename_i heq
    cases heq
  · rename_i hbrace _ heq
    cases heq
    exact absurd rfl (hbrace _)
  · rename_i hbrace _ _ heq
    cases heq
    exact absurd rfl (hbrace _ rfl)

/-- What stands for a reference after the expansion. -/
theorem replaceKnown_reference {env : Environment} {name : String} {cs : List Char}
    (hname : isVariableName name.toList = true) :
    replaceKnown env.get? (pieces ('$' :: '\x7b' :: (name.toList ++ '\x7d' :: cs))) =
      ((env.get? name).getD (written name)).toList ++ replaceKnown env.get? (pieces cs) := by
  obtain ⟨hchars, hfallback⟩ := isVariableName_iff.mp hname
  have hpiece : braced name.toList = .reference ('$' :: '\x7b' :: (name.toList ++ ['\x7d'])) name none := by
    rw [braced, hfallback]
    simp
  rw [pieces_reference (not_mem_of_isVariableChar hchars), hpiece]
  cases hvalue : env.get? name <;> simp [replaceKnown, hvalue, written]

/-! ## The file with values put in -/

variable {env : Environment} {file : String}

theorem variableAt?_of_suffix {cs : List Char} (h : cs <:+ file.toList) :
    variableAt? file cs.length = reference? cs := by
  obtain ⟨front, hfront⟩ := h
  rw [variableAt?, ← hfront, List.length_append, Nat.add_sub_cancel, List.drop_left]

/-- A dollar sign behind which a reference is, and the quotes around it. -/
theorem reference_of_dollar {cs : List Char} {name : String} (h : '$' :: cs <:+ file.toList)
    (hat : variableAt? file (cs.length + 2) = some name) :
    ∃ tail, cs = '\x7b' :: (name.toList ++ '\x7d' :: '"' :: tail) ∧ '"' :: '$' :: cs <:+ file.toList ∧
      isVariableName name.toList = true := by
  obtain ⟨tail, htail, hname⟩ := reference?_eq_some_iff.mp hat
  have hsuffix := List.drop_suffix (file.toList.length - (cs.length + 2)) file.toList
  have hlength := List.length_drop (i := file.toList.length - (cs.length + 2)) (l := file.toList)
  have hcs := h.length_le
  rw [htail] at hsuffix hlength
  rw [List.length_cons] at hlength hcs
  have hbehind := suffix_of_cons_suffix hsuffix
  obtain heq | hshort : cs.length + 2 ≤ file.toList.length ∨ file.toList.length = cs.length + 1 := by omega
  · have hsame := List.suffix_of_suffix_length_le h hbehind (by rw [List.length_cons]; omega)
    have hsame := hsame.eq_of_length (by rw [List.length_cons]; omega)
    cases hsame
    exact ⟨tail, rfl, hsuffix, hname⟩
  · have hwhole := h.eq_of_length (by rw [List.length_cons]; omega)
    have hdrop : file.toList.length - (cs.length + 2) = 0 := by omega
    rw [hdrop, List.drop_zero, ← hwhole] at htail
    cases htail

theorem filling_eq_none {c : Char} {cs : List Char} (h : c :: cs <:+ file.toList) (hhead : cs.head? ≠ some '$') :
    filling env file (cs.length + 1) = none := by
  have hat := variableAt?_of_suffix h
  rw [List.length_cons] at hat
  rw [filling, hat, Option.map_eq_none_iff, Option.eq_none_iff_forall_ne_some]
  intro name hname
  obtain ⟨tail, heq, -⟩ := reference?_eq_some_iff.mp hname
  cases heq
  exact hhead rfl

theorem isPlain_of_isVariableChar {c : Char} (h : isVariableChar c = true) : isPlain c = true ∧ c ≠ '$' := by
  rw [isVariableChar] at h
  simp only [Bool.and_eq_true, decide_eq_true_eq] at h
  exact h.1

theorem isPlain_of_written {name : String} (hname : isVariableName name.toList = true) :
    ∀ c ∈ (written name).toList, isPlain c = true := by
  intro c hc
  rw [toList_written, List.mem_cons, List.mem_cons, List.mem_append, List.mem_singleton] at hc
  obtain rfl | rfl | hc | rfl := hc
  · rfl
  · rfl
  · exact (isPlain_of_isVariableChar ((isVariableName_iff.mp hname).1 c hc)).1
  · rfl

/-- In front of a dollar sign that begins a reference is its quote. -/
theorem quote_of_dollar {c : Char} {cs : List Char} (h : c :: '$' :: cs <:+ file.toList)
    (hat : (variableAt? file (cs.length + 2)).isSome = true) : c = '"' := by
  obtain ⟨name, hat⟩ := Option.isSome_iff_exists.mp hat
  obtain ⟨-, -, hquote, -⟩ := reference_of_dollar (suffix_of_cons_suffix h) hat
  have hsame := List.suffix_of_suffix_length_le h hquote (Nat.le_refl _)
  exact (List.cons.inj (hsame.eq_of_length rfl)).1

/-- What is put in for a reference is plain if the value is. -/
theorem isPlain_of_filled {name : String} (hname : isVariableName name.toList = true)
    (hplain : ∀ value, env.get? name = some value → ∀ c ∈ value.toList, isPlain c = true) :
    ∀ c ∈ ((env.get? name).getD (written name)).toList, isPlain c = true := by
  cases hvalue : env.get? name with
  | some value => exact hplain value hvalue
  | none => exact isPlain_of_written hname

/-- The expansion of a file in which every dollar sign begins a reference puts plain values in for these. -/
theorem expanded_of_references
    (hreferences : ∀ tail, '$' :: tail <:+ file.toList → (variableAt? file (tail.length + 2)).isSome = true)
    (hplain : ∀ place name value, variableAt? file place = some name → env.get? name = some value →
      ∀ c ∈ value.toList, isPlain c = true) :
    Expanded (filling env file) file.toList (expandKnown env.get? file).toList := by
  rw [expandKnown, String.toList_ofList]
  -- A reference is passed as a whole, so the induction is on a bound of the length.
  suffices hsuffix : ∀ (bound : Nat) (cs : List Char), cs.length ≤ bound → cs <:+ file.toList →
      Expanded (filling env file) cs (replaceKnown env.get? (pieces cs)) from
    hsuffix _ file.toList (Nat.le_refl _) (List.suffix_refl _)
  intro bound
  induction bound with
  | zero =>
    intro cs hbound _
    obtain rfl := List.eq_nil_of_length_eq_zero (Nat.le_zero.mp hbound)
    rw [pieces]
    exact .nil
  | succ bound ih =>
    intro cs hbound hcs
    cases cs with
    | nil =>
      rw [pieces]
      exact .nil
    | cons c cs =>
      rw [List.length_cons] at hbound
      by_cases hc : c = '$'
      · subst hc
        obtain ⟨name, hat⟩ := Option.isSome_iff_exists.mp (hreferences cs hcs)
        obtain ⟨tail, rfl, -, hname⟩ := reference_of_dollar hcs hat
        have hbehind : '"' :: tail <:+ file.toList :=
          (((List.suffix_cons _ _).trans (List.suffix_append _ _)).trans (List.suffix_cons _ _)).trans
            (suffix_of_cons_suffix hcs)
        have hrest := ih ('"' :: tail) (by simp at hbound ⊢; omega) hbehind
        rw [pieces_cons _ (by decide), replaceKnown] at hrest
        rw [replaceKnown_reference hname, pieces_cons _ (by decide), replaceKnown]
        refine .reference ?_ (fun c hc => isPlain_of_isVariableChar ((isVariableName_iff.mp hname).1 c hc))
          (isPlain_of_filled hname fun value => hplain _ name value hat) hrest
        rw [filling, hat]
        rfl
      · have hhead : cs.head? = some '$' → c = '"' := by
          intro hdollar
          obtain ⟨tail, rfl⟩ := List.head?_eq_some_iff.mp hdollar
          exact quote_of_dollar hcs (hreferences tail (suffix_of_cons_suffix hcs))
        rw [pieces_cons cs hc, replaceKnown]
        exact .char hc hhead (filling_eq_none hcs) (ih cs (by omega) (suffix_of_cons_suffix hcs))

end ServiceCatalog.Config
