import ServiceCatalog.Proofs.Yaml.Single

/-!
# Texts written line by line read back
-/

namespace ServiceCatalog.Yaml

open ServiceCatalog.Text

/-- Whether a text ends in a line end behind a line without characters. -/
def endsInEmptyLine (cs : List Char) : Bool :=
  match cs.reverse with
  | last :: before => isBreak last && (before.isEmpty || startsWith isBreak before)
  | [] => false

/-- What has to become of the line ends at the end for a text to be read back. -/
def chompingOf (cs : List Char) : Chomping :=
  if !endsWith isBreak cs then .strip else if endsInEmptyLine cs then .keep else .clip

/-- How the line ends at the end are announced. -/
def Chomping.mark : Chomping → List Char
  | strip => ['-']
  | clip => []
  | keep => ['+']

/-- Whether the indentation of the lines of a text cannot be told from the first one. -/
def hidesIndentation (cs : List Char) : Bool := startsWith (fun c => c = ' ' || isBreak c) cs

theorem literalHints_eq {cs : List Char} (hne : cs ≠ []) :
    literalHints cs = (if hidesIndentation cs then ['2'] else []) ++ (chompingOf cs).mark := by
  obtain ⟨before, last, rfl⟩ := (List.eq_nil_or_concat cs).resolve_left hne
  cases hlast : isBreak last <;> cases hbefore : before.isEmpty || startsWith isBreak before.reverse <;>
    simp_all [literalHints, hidesIndentation, chompingOf, endsInEmptyLine, endsWith, Chomping.mark]

/-- How the lines are to be read is told by what stands in front of them. -/
private theorem literalFrom?_header (column : Nat) (hidden : Bool) (chomping : Chomping) (lines : List Char) :
    literalFrom? column ((if hidden then ['2'] else []) ++ (chomping.mark ++ '\n' :: lines)) =
      let r := linesFrom (indentOf column (if hidden then some 2 else none) lines) (some 0) lines
      if r.1.all isPrintable then some (chomping.apply r.1, r.2) else none := by
  have hrefusal (text : List Char) (r : Reading) :
      (if !text.all isPrintable then none else r) = if text.all isPrintable then r else none := by
    cases text.all isPrintable <;> rfl
  cases hidden <;> cases chomping <;> exact hrefusal _ _

/-- Where a reader of lines stands at the start of a line or within one. -/
def lineState : Bool → Option Nat
  | true => some 0
  | false => none

private theorem linesFrom_break {n : Nat} {c : Char} (hc : isBreak c = true) (state : Option Nat) (rest : List Char) :
    linesFrom n state (c :: rest) =
      (c :: (linesFrom n (lineState true) rest).1, (linesFrom n (lineState true) rest).2) := by
  cases state <;> simp [linesFrom, lineState, hc]

private theorem linesFrom_blanks {n : Nat} {c : Char} (hc : isBreak c = false) (rest : List Char) (m passed : Nat)
    (hm : passed + m = n) :
    linesFrom n (some passed) (List.replicate m ' ' ++ c :: rest) =
      (c :: (linesFrom n none rest).1, (linesFrom n none rest).2) := by
  induction m generalizing passed with
  | zero =>
    obtain rfl : passed = n := by omega
    simp [linesFrom, hc]
  | succ m ih =>
    have hblank : isBreak ' ' = false := by decide
    rw [List.replicate_succ, List.cons_append, linesFrom, if_neg (by simp [hblank]), if_neg (by omega), if_pos rfl]
    exact ih (passed + 1) (by omega)

private theorem linesFrom_ink (n : Nat) {c : Char} (hc : isBreak c = false) (atStart : Bool) (rest : List Char) :
    linesFrom n (lineState atStart) ((if atStart then List.replicate n ' ' else []) ++ c :: rest) =
      (c :: (linesFrom n (lineState false) rest).1, (linesFrom n (lineState false) rest).2) := by
  cases atStart with
  | true => exact linesFrom_blanks hc rest n 0 (by omega)
  | false => simp [linesFrom, lineState, hc]

/-- Whether a line starts behind a text that was written from the start of a line, or from within one. -/
def startsLineAfter (atStart : Bool) (cs : List Char) : Bool := (cs.getLast?.map isBreak).getD atStart

/-- Lines are read back by taking their indentation away. -/
theorem linesFrom_indentLines (n : Nat) (cs rest : List Char) (atStart : Bool) :
    linesFrom n (lineState atStart) (indentLines n (fun _ => false) atStart cs ++ rest) =
      (cs ++ (linesFrom n (lineState (startsLineAfter atStart cs)) rest).1,
        (linesFrom n (lineState (startsLineAfter atStart cs)) rest).2) := by
  induction cs generalizing atStart with
  | nil => rfl
  | cons c cs ih =>
    have hafter : startsLineAfter atStart (c :: cs) = startsLineAfter (isBreak c) cs := by
      cases cs with
      | nil => rfl
      | cons d cs => simp [startsLineAfter, List.getLast?_cons]
    rw [hafter, indentLines]
    cases hc : isBreak c with
    | true =>
      rw [if_pos rfl, List.cons_append, linesFrom_break hc, ih true]
      rfl
    | false =>
      have hink := linesFrom_ink n hc atStart (indentLines n (fun _ => false) false cs ++ rest)
      rw [ih false] at hink
      simpa using hink

/-- Whether a text ends, or goes on with a line that is indented by fewer than `n` blanks. -/
def Outdented (n : Nat) (rest : List Char) : Prop :=
  rest = [] ∨ ∃ k c more, k < n ∧ rest = List.replicate k ' ' ++ c :: more ∧ c ≠ ' ' ∧ isBreak c = false

/-- Lines are read up to one that is indented by less. -/
theorem linesFrom_of_outdented {n : Nat} {rest : List Char} (h : Outdented n rest) :
    linesFrom n (lineState true) rest = ([], rest) := by
  obtain rfl | ⟨k, c, more, hk, rfl, hblank, hbreak⟩ := h
  · rfl
  · have hpassed : ∀ k passed, passed + k < n → linesFrom n (some passed) (List.replicate k ' ' ++ c :: more) =
        ([], List.replicate (passed + k) ' ' ++ c :: more) := by
      intro k
      induction k with
      | zero =>
        intro passed hlt
        simp [linesFrom, hbreak, hblank, show passed ≠ n by omega]
      | succ k ih =>
        intro passed hlt
        have hspace : isBreak ' ' = false := by decide
        rw [List.replicate_succ, List.cons_append, linesFrom, if_neg (by simp [hspace]), if_neg (by omega), if_pos rfl,
          ih (passed + 1) (by omega)]
        congr 3
        omega
    simpa [lineState] using hpassed k 0 (by omega)

private theorem leadingBlanks_replicate (n : Nat) {c : Char} (hblank : c ≠ ' ') (hbreak : isBreak c = false)
    (rest : List Char) (passed : Nat) : leadingBlanks passed (List.replicate n ' ' ++ c :: rest) = passed + n := by
  induction n generalizing passed with
  | zero => simp [leadingBlanks, hblank, hbreak]
  | succ n ih =>
    rw [List.replicate_succ, List.cons_append, leadingBlanks, if_pos rfl, ih]
    omega

/-- The lines of a text are as far indented as they seem to be. -/
private theorem leadingBlanks_indentLines (n : Nat) {cs : List Char} (hne : cs ≠ [])
    (hhidden : hidesIndentation cs = false) (rest : List Char) :
    leadingBlanks 0 (indentLines n (fun _ => false) true cs ++ rest) = n := by
  obtain ⟨c, cs, rfl⟩ := List.exists_cons_of_ne_nil hne
  have hc : c ≠ ' ' ∧ isBreak c = false := by simpa [hidesIndentation, startsWith] using hhidden
  have hlead := leadingBlanks_replicate n hc.1 hc.2 (indentLines n (fun _ => false) false cs ++ rest) 0
  simpa [indentLines, hc.2] using hlead

theorem dropEndWhile_append {p : Char → Bool} {cs back : List Char} (hback : ∀ c ∈ back, p c = true)
    (hcs : endsWith p cs = false) : dropEndWhile p (cs ++ back) = cs := by
  have hfront : cs.reverse.dropWhile p = cs.reverse := by
    cases hrev : cs.reverse with
    | nil => rfl
    | cons c rest =>
      have hlast : cs.getLast? = some c := by rw [← List.head?_reverse, hrev]; rfl
      have hc : p c = false := by simpa [endsWith, hlast] using hcs
      simp [List.dropWhile, hc]
  rw [dropEndWhile, List.reverse_append, List.dropWhile_append_of_pos (by simpa using hback), hfront,
    List.reverse_reverse]

private theorem startsWith_reverse (p : Char → Bool) (cs : List Char) : startsWith p cs.reverse = endsWith p cs := by
  simp [startsWith, endsWith]

private theorem endsInEmptyLine_of_not_endsWith {cs : List Char} (h : endsWith isBreak cs = false) :
    endsInEmptyLine cs = false := by
  cases hrev : cs.reverse with
  | nil => simp [endsInEmptyLine, hrev]
  | cons last before =>
    rw [← startsWith_reverse, hrev] at h
    have hlast : isBreak last = false := by simpa [startsWith] using h
    simp [endsInEmptyLine, hrev, hlast]

/-- Line ends behind a text are dropped as far as they do not belong to it. -/
theorem apply_chompingOf (cs : List Char) {back : List Char} (hback : ∀ c ∈ back, isBreak c = true) :
    (chompingOf cs).apply (cs ++ back) = if endsInEmptyLine cs then cs ++ back else cs := by
  cases hends : endsWith isBreak cs with
  | false =>
    have hempty := endsInEmptyLine_of_not_endsWith hends
    simpa [chompingOf, hends, hempty, Chomping.apply] using dropEndWhile_append hback hends
  | true =>
    cases hempty : endsInEmptyLine cs with
    | true => simp [chompingOf, hends, hempty, Chomping.apply]
    | false =>
      have hclip : chompingOf cs = .clip := by simp [chompingOf, hends, hempty]
      have hne : cs ≠ [] := by
        rintro rfl
        simp [endsWith] at hends
      obtain ⟨before, last, rfl⟩ := (List.eq_nil_or_concat cs).resolve_left hne
      rw [List.concat_eq_append] at *
      have hlast : isBreak last = true := by simpa [endsWith] using hends
      simp only [endsInEmptyLine, List.reverse_append, List.reverse_cons, List.reverse_nil,
        List.nil_append, List.singleton_append, hlast, Bool.true_and, Bool.or_eq_false_iff] at hempty
      rw [startsWith_reverse] at hempty
      have hbefore : dropEndWhile isBreak (before ++ [last] ++ back) = before := by
        rw [List.append_assoc]
        exact dropEndWhile_append (by simpa [hlast] using hback) hempty.2
      have hbody : before.isEmpty = false := by simpa using hempty.1
      have htake : (before ++ [last] ++ back).take (before.length + 1) = before ++ [last] :=
        List.take_left' (by simp)
      simp only [hclip, Chomping.apply, hbefore, hbody, htake, Bool.false_eq_true, if_false]

private theorem getLast?_indentLines (n : Nat) (double : Char → Bool) (cs : List Char) (atStart : Bool) :
    (indentLines n double atStart cs).getLast? = cs.getLast? := by
  induction cs generalizing atStart with
  | nil => rfl
  | cons c cs ih =>
    rw [indentLines, List.getLast?_cons]
    split
    · rw [List.getLast?_cons, ih]
    · cases hlast : cs.getLast? <;> cases hdouble : double c <;>
        simp [List.getLast?_append, List.getLast?_cons, ih, hlast]

private theorem endsWith_literal (p : Char → Bool) (n : Nat) {cs : List Char} (hne : cs ≠ []) :
    endsWith p (literal n cs) = endsWith p cs := by
  have hlast : (literal n cs).getLast? = cs.getLast? := by
    obtain ⟨before, last, rfl⟩ := (List.eq_nil_or_concat cs).resolve_left hne
    simp [literal, List.getLast?_append, List.getLast?_cons, getLast?_indentLines]
  rw [endsWith, endsWith, hlast]

/-- The lines of a text are read back with the line ends behind them. One of these ends the last line of the text if
that has no end of its own. -/
private theorem linesFrom_lines {n : Nat} {cs next more rest : List Char} (hne : cs ≠ [])
    (hnext : linesFrom n (lineState true) next = (more, rest)) (hmore : ∀ c ∈ more, c = '\n') :
    ∃ back, (∀ c ∈ back, c = '\n') ∧ (endsInEmptyLine cs = true → back = more) ∧
      linesFrom n (some 0) (indentLines n (fun _ => false) true cs ++
        (if endsWith isBreak cs then next else '\n' :: next)) = (cs ++ back, rest) := by
  have hstate : startsLineAfter true cs = endsWith isBreak cs := by
    obtain ⟨before, last, rfl⟩ := (List.eq_nil_or_concat cs).resolve_left hne
    simp [startsLineAfter, endsWith]
  have hread := linesFrom_indentLines n cs (if endsWith isBreak cs then next else '\n' :: next) true
  rw [hstate, show lineState true = some 0 from rfl] at hread
  cases hends : endsWith isBreak cs with
  | true =>
    refine ⟨more, hmore, fun _ => rfl, ?_⟩
    simpa [hends, hnext] using hread
  | false =>
    refine ⟨'\n' :: more, by simpa using hmore, fun h => ?_, ?_⟩
    · simp [endsInEmptyLine_of_not_endsWith hends] at h
    · simpa [hends, linesFrom_break (by decide : isBreak '\n' = true), hnext] using hread

private theorem literalFrom?_indentLines (column : Nat) {cs next more rest : List Char}
    (hallowed : allowsLiteral cs = true)
    (hnext : linesFrom (column + 2) (lineState true) next = (more, rest)) (hmore : ∀ c ∈ more, c = '\n') :
    literalFrom? column (literalHints cs ++ '\n' :: (indentLines (column + 2) (fun _ => false) true cs ++
      (if endsWith isBreak cs then next else '\n' :: next))) =
      some (if endsInEmptyLine cs then cs ++ more else cs, rest) := by
  simp only [allowsLiteral, Bool.not_eq_true', Bool.or_eq_false_iff, List.isEmpty_eq_false_iff] at hallowed
  obtain ⟨⟨hne, -⟩, hescapes⟩ := hallowed
  obtain ⟨back, hback, hkept, hlines⟩ := linesFrom_lines hne hnext hmore
  have hprintable : (cs ++ back).all isPrintable = true := by
    rw [List.all_eq_true]
    intro c hc
    obtain hc | hc := List.mem_append.mp hc
    · exact printable_of_not_needsEscapes hescapes c hc
    · rw [hback c hc]
      decide
  have hchomp := apply_chompingOf cs (fun c hc => hback c hc ▸ by decide : ∀ c ∈ back, isBreak c = true)
  have hindent : indentOf column (if hidesIndentation cs then some 2 else none)
      (indentLines (column + 2) (fun _ => false) true cs ++ (if endsWith isBreak cs then next else '\n' :: next)) =
        column + 2 := by
    cases hhidden : hidesIndentation cs with
    | true => rfl
    | false => simp [indentOf, leadingBlanks_indentLines (column + 2) hne hhidden]
  rw [literalHints_eq hne, List.append_assoc, literalFrom?_header, hindent]
  simp only [hlines, hprintable, hchomp, if_true]
  cases hempty : endsInEmptyLine cs with
  | true => simp [hkept hempty]
  | false => simp

/-- A text written line by line is read back as it is, unless it ends in an empty line: then the line ends behind it are
taken to belong to it. -/
theorem textFrom?_literal (column : Nat) {cs next more rest : List Char} (hallowed : allowsLiteral cs = true)
    (hnext : linesFrom (column + 2) (lineState true) next = (more, rest)) (hmore : ∀ c ∈ more, c = '\n') :
    textFrom? column (literal (column + 2) cs ++
      (if endsWith isBreak (literal (column + 2) cs) then next else '\n' :: next)) =
      some (if endsInEmptyLine cs then cs ++ more else cs, rest) := by
  have hne : cs ≠ [] := by
    rintro rfl
    revert hallowed
    decide
  have hread := literalFrom?_indentLines column hallowed hnext hmore
  rw [endsWith_literal isBreak _ hne, literal, List.append_assoc, List.cons_append, textFrom?]
  simpa using hread

end ServiceCatalog.Yaml
