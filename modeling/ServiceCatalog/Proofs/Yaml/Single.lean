import ServiceCatalog.Proofs.Yaml.Reader

/-!
# Texts between single quotes read back

Only line ends that are kept when lines are joined are written between single quotes, and no blank stands beside one.
-/

namespace ServiceCatalog.Yaml

open ServiceCatalog.Text

/-- A run of blanks, or of line ends that are kept when lines are joined. -/
def Uniform (run : List Char) : Prop := (∀ c ∈ run, c = ' ') ∨ ∀ c ∈ run, isBreak c = true ∧ c ≠ '\n'

/-- No blank stands beside a line end. -/
def Apart (cs : List Char) : Prop :=
  ∀ front a b back, cs = front ++ a :: b :: back → (a = ' ' → isBreak b = false) ∧ (isBreak a = true → b ≠ ' ')

private theorem fold?_of_blanks {run : List Char} (hrun : ∀ c ∈ run, c = ' ') : fold? run = some run := by
  have hnone : run.filter isBreak = [] := by
    rw [List.filter_eq_nil_iff]
    intro c hc
    rw [hrun c hc]
    decide
  simp [fold?, hnone]

private theorem fold?_of_breaks {run : List Char} (hne : run ≠ []) (hrun : ∀ c ∈ run, isBreak c = true ∧ c ≠ '\n')
    {n : Nat} (hn : 0 < n) : fold? (run ++ List.replicate n ' ') = some run := by
  have hbreaks : (run ++ List.replicate n ' ').filter isBreak = run := by
    have hself : run.filter isBreak = run := List.filter_eq_self.mpr fun c hc => (hrun c hc).1
    simp [List.filter_append, hself, isBreak]
  have hlast : (run ++ List.replicate n ' ').getLast? = some ' ' := by
    simp [List.getLast?_append, List.getLast?_replicate, Nat.pos_iff_ne_zero.mp hn]
  obtain ⟨first, others, rfl⟩ := List.exists_cons_of_ne_nil hne
  have hkept : first ≠ '\n' := (hrun first (by simp)).2
  unfold fold?
  simp only [hbreaks, hlast]
  simp [hkept]

/-- The blanks that indent a line behind a run. -/
private def lead (n : Nat) (run : List Char) : List Char :=
  if endsWith isBreak run then List.replicate n ' ' else []

private theorem fold?_lead {run : List Char} (hrun : Uniform run) {n : Nat} (hn : 0 < n) :
    fold? (run ++ lead n run) = some run := by
  unfold lead
  cases hlast : run.getLast? with
  | none =>
    obtain rfl : run = [] := by simpa using hlast
    rfl
  | some c =>
    have hmem : c ∈ run := List.mem_of_getLast? hlast
    have hends : endsWith isBreak run = isBreak c := by simp [endsWith, hlast]
    rw [hends]
    obtain hblanks | hbreaks := hrun
    · have hc : isBreak c = false := by rw [hblanks c hmem]; decide
      simp [hc, fold?_of_blanks hblanks]
    · rw [if_pos (hbreaks c hmem).1]
      exact fold?_of_breaks (List.ne_nil_of_mem hmem) hbreaks hn

/-- Only a quote is read together with what follows it. -/
private theorem singleFrom?_cons {c : Char} (hquote : c ≠ '\'') (run rest : List Char) :
    singleFrom? run (c :: rest) =
      if !isPrintable c then none
      else if c = ' ' || isBreak c then singleFrom? (run ++ [c]) rest
      else (fold? run).bind fun front => (singleFrom? [] rest).after (front ++ [c]) := by
  rw [singleFrom?]
  · simp [hquote]
  · simp [hquote]

private theorem singleFrom?_gap {c : Char} (hprintable : isPrintable c = true) (hc : c = ' ' ∨ isBreak c = true)
    (run rest : List Char) : singleFrom? run (c :: rest) = singleFrom? (run ++ [c]) rest := by
  have hquote : c ≠ '\'' := by
    rintro rfl
    revert hc
    decide
  simp [singleFrom?_cons hquote, hprintable, hc]

private theorem singleFrom?_blanks (n : Nat) (run rest : List Char) :
    singleFrom? run (List.replicate n ' ' ++ rest) = singleFrom? (run ++ List.replicate n ' ') rest := by
  induction n generalizing run with
  | zero => simp
  | succ n ih =>
    rw [List.replicate_succ, List.cons_append, singleFrom?_gap (by decide) (.inl rfl), ih]
    simp

private theorem singleFrom?_ink {c : Char} (hprintable : isPrintable c = true) (hblank : c ≠ ' ')
    (hbreak : isBreak c = false) {run front : List Char} (hrun : fold? run = some front) (rest : List Char) :
    singleFrom? run ((if c == '\'' then [c, c] else [c]) ++ rest) = (singleFrom? [] rest).after (front ++ [c]) := by
  by_cases hquote : c = '\''
  · subst hquote
    simp [singleFrom?, hrun]
  · have hsingle : (if c == '\'' then [c, c] else [c]) = [c] := by simp [hquote]
    rw [hsingle, List.singleton_append, singleFrom?_cons hquote]
    simp [hprintable, hblank, hbreak, hrun]

private theorem singleFrom?_lead (n : Nat) (run rest : List Char) :
    singleFrom? run (lead n run ++ rest) = singleFrom? (run ++ lead n run) rest := by
  unfold lead
  split
  · exact singleFrom?_blanks n run rest
  · simp

private theorem singleFrom?_close {run front rest : List Char} (hrun : fold? run = some front)
    (hrest : rest.head? ≠ some '\'') : singleFrom? run ('\'' :: rest) = some (front, rest) := by
  rw [singleFrom?]
  · simp [hrun]
  · rintro more rfl
    exact hrest rfl

/-- A run of line ends has no blank behind it, and a run of blanks no line end. -/
private theorem Uniform.concat {run cs : List Char} {c : Char} (hrun : Uniform run) (hapart : Apart (run ++ c :: cs))
    (hc : c = ' ' ∨ (isBreak c = true ∧ c ≠ '\n')) : Uniform (run ++ [c]) := by
  cases hlast : run.getLast? with
  | none =>
    obtain rfl : run = [] := by simpa using hlast
    exact hc.imp (by simp) (by simp)
  | some a =>
    obtain ⟨front, rfl⟩ := List.getLast?_eq_some_iff.mp hlast
    obtain ⟨hblank, hbreak⟩ := hapart front a c cs (by simp)
    have ha : a ∈ front ++ [a] := by simp
    obtain hrun | hrun := hrun
    · obtain rfl | ⟨hend, -⟩ := hc
      · exact .inl fun d hd => (List.mem_append.mp hd).elim (hrun d) List.mem_singleton.mp
      · simp [hblank (hrun a ha)] at hend
    · obtain rfl | hend := hc
      · exact absurd rfl (hbreak (hrun a ha).1)
      · exact .inr fun d hd => (List.mem_append.mp hd).elim (hrun d) fun h => List.mem_singleton.mp h ▸ hend

theorem endsWith_of_forall {p : Char → Bool} {cs : List Char} (h : ∀ c ∈ cs, p c = false) : endsWith p cs = false := by
  cases hlast : cs.getLast? with
  | none => simp [endsWith, hlast]
  | some c => simp [endsWith, hlast, h c (List.mem_of_getLast? hlast)]

private theorem endsWith_concat (p : Char → Bool) (run : List Char) (c : Char) : endsWith p (run ++ [c]) = p c := by
  simp [endsWith]

private theorem lead_append_ink (n : Nat) (run cs : List Char) {c : Char} (hc : isBreak c = false) :
    lead n (run ++ c :: cs) = lead n cs := by
  have hends : endsWith isBreak (run ++ c :: cs) = endsWith isBreak cs := by
    cases hlast : cs.getLast? <;> simp [endsWith, List.getLast?_append, List.getLast?_cons, hlast, hc]
  rw [lead, lead, hends]

private theorem indentLines_gap (n : Nat) {run : List Char} {c : Char} (hgap : c = ' ' ∨ isBreak c = true)
    (hrun : Uniform (run ++ [c])) (double : Char → Bool) (hdouble : double ' ' = false) (cs : List Char) :
    indentLines n double (endsWith isBreak run) (c :: cs) =
      c :: indentLines n double (endsWith isBreak (run ++ [c])) cs := by
  rw [endsWith_concat, indentLines]
  obtain rfl | hbreak := hgap
  · have hblanks : ∀ d ∈ run, d = ' ' := by
      obtain hblanks | hbreaks := hrun
      · exact fun d hd => hblanks d (by simp [hd])
      · exact absurd (hbreaks ' ' (by simp)).1 (by decide)
    have hstart : endsWith isBreak run = false := endsWith_of_forall fun d hd => by rw [hblanks d hd]; decide
    simp [hstart, hdouble, isBreak]
  · rw [if_pos hbreak, hbreak]

/-- A text between single quotes is read up to the closing one, behind a run that was read before. -/
private theorem singleFrom?_indentLines {n : Nat} (hn : 0 < n) {cs run rest : List Char}
    (hprintable : ∀ c ∈ cs, isPrintable c = true) (hkept : '\n' ∉ cs) (hapart : Apart (run ++ cs))
    (hrun : Uniform run) (hrest : rest.head? ≠ some '\'') :
    singleFrom? run (indentLines n (· == '\'') (endsWith isBreak run) cs ++
      (lead n (run ++ cs) ++ '\'' :: rest)) = some (run ++ cs, rest) := by
  induction cs generalizing run with
  | nil =>
    rw [indentLines, List.append_nil, List.nil_append, singleFrom?_lead]
    exact singleFrom?_close (fold?_lead hrun hn) hrest
  | cons c cs ih =>
    have hc : isPrintable c = true := hprintable c (by simp)
    have hassoc : run ++ c :: cs = (run ++ [c]) ++ cs := by simp
    have ih {run : List Char} := @ih run (fun d hd => hprintable d (by simp [hd])) (fun h => hkept (by simp [h]))
    by_cases hgap : c = ' ' ∨ isBreak c = true
    · have hnext : Uniform (run ++ [c]) := by
        refine hrun.concat hapart (hgap.imp_right fun hbreak => ⟨hbreak, ?_⟩)
        rintro rfl
        exact hkept (by simp)
      rw [indentLines_gap n hgap hnext _ (by decide), List.cons_append, singleFrom?_gap hc hgap, hassoc]
      exact ih (hassoc ▸ hapart) hnext
    · obtain ⟨hblank, hbreak⟩ := not_or.mp hgap
      have hrest : Apart ([] ++ cs) := fun front a b back h => hapart (run ++ c :: front) a b back (by simp_all)
      have hline : indentLines n (· == '\'') (endsWith isBreak run) (c :: cs) =
          lead n run ++ ((if c == '\'' then [c, c] else [c]) ++ indentLines n (· == '\'') false cs) := by
        simp [indentLines, lead, hbreak]
      have hbreak : isBreak c = false := by simpa using hbreak
      have htail := ih hrest (.inl (by simp))
      rw [hline, lead_append_ink n run cs hbreak]
      simp only [List.append_assoc, singleFrom?_lead]
      rw [singleFrom?_ink hc hblank hbreak (fold?_lead hrun hn)]
      simpa [endsWith] using congrArg (Reading.after (run ++ [c])) htail

private theorem anyNeighbours_append {p : Char → Char → Bool} {front back : List Char} {a b : Char}
    (h : anyNeighbours p (front ++ a :: b :: back) = false) : p a b = false := by
  induction front with
  | nil =>
    simp only [List.nil_append, anyNeighbours, Bool.or_eq_false_iff] at h
    exact h.1
  | cons c front ih =>
    cases front with
    | nil =>
      simp only [List.cons_append, List.nil_append, anyNeighbours, Bool.or_eq_false_iff] at h
      exact h.2.1
    | cons d front =>
      simp only [List.cons_append, anyNeighbours, Bool.or_eq_false_iff] at h
      exact ih h.2

theorem printable_of_not_needsEscapes {cs : List Char} (h : needsEscapes cs = false) :
    ∀ c ∈ cs, isPrintable c = true := by
  simp only [needsEscapes, Bool.or_eq_false_iff, List.any_eq_false] at h
  simpa using h.1

private theorem apart_of_allowsSingleQuotes {cs : List Char} (h : allowsSingleQuotes cs = true) : Apart cs := by
  rintro front a b back rfl
  simp only [allowsSingleQuotes, needsEscapes, Bool.not_eq_true', Bool.or_eq_false_iff] at h
  have hbefore := anyNeighbours_append h.1.2
  have hbehind := anyNeighbours_append h.2
  simp only [Bool.and_eq_false_iff, decide_eq_false_iff_not] at hbefore hbehind
  refine ⟨fun ha => hbefore.resolve_left (not_not_intro ha), fun ha hb => ?_⟩
  exact (hbehind.resolve_left (by simp [ha])) hb

/-- A text written between single quotes on lines of its own is read back. -/
theorem textFrom?_singleQuoted (column : Nat) {n : Nat} (hn : 0 < n) {cs : List Char}
    (hallowed : allowsSingleQuotes cs = true) (hkept : '\n' ∉ cs) (next : List Char) :
    textFrom? column (singleQuoted n cs ++ '\n' :: next) = some (cs, next) := by
  have hprintable : ∀ c ∈ cs, isPrintable c = true := by
    refine printable_of_not_needsEscapes ?_
    simp only [allowsSingleQuotes, Bool.not_eq_true', Bool.or_eq_false_iff] at hallowed
    exact hallowed.1
  have hread := @singleFrom?_indentLines n hn cs [] ('\n' :: next) hprintable hkept
    (apart_of_allowsSingleQuotes hallowed) (.inl (by simp)) (by simp)
  have hshape : singleQuoted n cs ++ '\n' :: next =
      '\'' :: (indentLines n (· == '\'') false cs ++ (lead n cs ++ '\'' :: '\n' :: next)) := by
    simp [singleQuoted, lead]
  rw [hshape, textFrom?]
  rw [List.nil_append] at hread
  have hstart : endsWith isBreak [] = false := rfl
  rw [hstart] at hread
  simp [hread, nextLine?]

end ServiceCatalog.Yaml
