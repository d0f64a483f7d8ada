import ServiceCatalog.Proofs.Toml.Characters
import ServiceCatalog.Proofs.Toml.Passage

/-!
# Texts in quotes

A text in quotes is read up to the quotes that end it, and reads the same whatever stands behind them. Only where three
quotes end it may no further one follow, which would belong to the text.
-/

namespace ServiceCatalog.Toml

variable {long trimming : Bool} {c : Char} {cs s rest : List Char}

/-- The quotes that end a text. -/
def closing (quote : Char) (long : Bool) : List Char := if long then [quote, quote, quote] else [quote]

/-- Two closing quotes are only seen in front of a text that begins with them, whatever follows it. -/
theorem not_quotes_of_closing {quote : Char} {body rest : List Char} (rest' : List Char)
    (h : ∀ tail, body ++ closing quote true ++ rest ≠ quote :: quote :: tail) :
    ∀ tail, body ++ closing quote true ++ rest' ≠ quote :: quote :: tail := by
  cases body with
  | nil => simp [closing] at h
  | cons a body =>
    cases body with
    | nil => simp_all [closing]
    | cons b body => simp_all

theorem blankToEnd_cons_of_isSpace (hspace : isSpace c = true) : blankToEnd (c :: cs) = blankToEnd cs := by
  unfold blankToEnd skipSpace
  rw [List.dropWhile_cons_of_pos hspace]

/-- A line that ends in front of a quote does so whatever follows the quote. -/
theorem blankToEnd_of_quote {body : List Char} {quote : Char} (hquote : quote = '"' ∨ quote = '\'')
    (h : blankToEnd (body ++ quote :: rest) = true) (rest' : List Char) :
    blankToEnd (body ++ quote :: rest') = true := by
  induction body with
  | nil => obtain rfl | rfl := hquote <;> cases h
  | cons c body ih =>
    by_cases hspace : isSpace c = true
    · rw [List.cons_append, blankToEnd_cons_of_isSpace hspace] at h ⊢
      exact ih h
    · unfold blankToEnd skipSpace at h ⊢
      rw [List.cons_append, List.dropWhile_cons_of_neg hspace] at h ⊢
      cases body with
      | nil => obtain rfl | rfl := hquote <;> split at h <;> simp_all
      | cons d body => split at h <;> simp_all

/-- A text in quotes ends in front of `rest`, and reads the same if something else is there. Behind three quotes a
further one would belong to the text. -/
def Closes (quote : Char) (long : Bool) (read : List Char → Except Fault (Rest (List Char)))
    (cs s rest : List Char) : Prop :=
  ∃ body, cs = body ++ closing quote long ++ rest ∧ s.length ≤ body.length ∧
    ∀ rest', (long = true → rest'.head? ≠ some quote) → read (body ++ closing quote long ++ rest') = .ok (s, rest')

namespace Closes

variable {quote : Char} {read next : List Char → Except Fault (Rest (List Char))}

theorem skip (front : List Char) (h : Closes quote long next cs s rest)
    (hstep : ∀ tail, read (front ++ tail) = next tail) : Closes quote long read (front ++ cs) s rest := by
  obtain ⟨body, rfl, hlength, hbody⟩ := h
  refine ⟨front ++ body, by simp only [List.append_assoc], ?_, fun rest' hrest' => ?_⟩
  · rw [List.length_append]
    omega
  · rw [List.append_assoc, List.append_assoc, hstep, ← List.append_assoc]
    exact hbody rest' hrest'

/-- Of what stands in front no more characters come than it has. -/
theorem after (front es : List Char) (h : Closes quote long next cs s rest) (hlength : es.length ≤ front.length)
    (hstep : ∀ tail, read (front ++ tail) = es.foldr after (next tail)) :
    Closes quote long read (front ++ cs) (es ++ s) rest := by
  obtain ⟨body, rfl, hbodyLength, hbody⟩ := h
  refine ⟨front ++ body, by simp only [List.append_assoc], ?_, fun rest' hrest' => ?_⟩
  · rw [List.length_append, List.length_append]
    omega
  · rw [List.append_assoc, List.append_assoc, hstep, ← List.append_assoc, hbody rest' hrest']
    clear hstep hlength
    induction es with
    | nil => rfl
    | cons e es ih => exact after_eq_ok_iff.mpr ⟨es ++ s, ih, rfl⟩

end Closes

theorem basicText_closes (h : basicText long trimming cs = .ok (s, rest)) :
    Closes '"' long (basicText long trimming) cs s rest := by
  fun_induction basicText long trimming cs generalizing s with
  | case1 => cases h
  | case2 trimming a b c d cs e he ih =>
    obtain ⟨more, hmore, rfl⟩ := after_eq_ok_iff.mp h
    exact (ih hmore).after ['\\', 'u', a, b, c, d] [e] (by simp) fun tail => by simp [basicText, he]
  | case4 trimming a b c d a' b' c' d' cs e he ih =>
    obtain ⟨more, hmore, rfl⟩ := after_eq_ok_iff.mp h
    exact (ih hmore).after ['\\', 'U', a, b, c, d, a', b', c', d'] [e] (by simp) fun tail => by simp [basicText, he]
  | case6 trimming a b cs e he ih =>
    obtain ⟨more, hmore, rfl⟩ := after_eq_ok_iff.mp h
    exact (ih hmore).after ['\\', 'x', a, b] [e] (by simp) fun tail => by simp [basicText, he]
  | case8 trimming c cs _ _ _ e he ih =>
    obtain ⟨more, hmore, rfl⟩ := after_eq_ok_iff.mp h
    exact (ih hmore).after ['\\', c] [e] (by simp) fun tail => basicText_escaped he
  | case9 trimming c cs _ _ _ he hblank ih =>
    obtain ⟨body, heq, hlength, hbody⟩ := ih h
    obtain ⟨rfl, hblank⟩ := Bool.and_eq_true_iff.mp hblank
    refine ⟨'\\' :: body, congrArg ('\\' :: ·) heq, Nat.le_succ_of_le hlength, fun rest' hrest' => ?_⟩
    rw [heq, closing, if_pos rfl, List.append_assoc] at hblank
    have hblank' := blankToEnd_of_quote (Or.inl rfl) hblank (['"', '"'] ++ rest')
    rw [← hbody rest' hrest']
    cases body with
    | nil => cases hblank
    | cons d body =>
      cases heq
      exact basicText_broken he (by simpa [closing] using hblank')
  | case11 trimming cs hlong =>
    cases h
    refine ⟨['"', '"'], by rw [hlong]; rfl, Nat.le_refl _, fun rest' _ => ?_⟩
    simp [closing, hlong, basicText]
  | case13 trimming cs _ hlong =>
    cases h
    refine ⟨['"'], by rw [hlong]; rfl, Nat.le_refl _, fun rest' hrest' => ?_⟩
    subst hlong
    cases rest' <;> simp_all [closing, basicText]
  | case15 trimming cs _ _ hlong =>
    cases h
    refine ⟨[], by rw [hlong]; rfl, Nat.le_refl _, fun rest' hrest' => ?_⟩
    subst hlong
    cases rest' <;> simp_all [closing, basicText]
  | case18 cs hlong ih => exact (ih h).skip ['\r', '\n'] fun tail => by simp_all [basicText]
  | case19 trimming cs hlong htrimming ih =>
    obtain ⟨feed, hfeed, rfl⟩ := after_eq_ok_iff.mp h
    obtain ⟨more, hmore, rfl⟩ := after_eq_ok_iff.mp hfeed
    exact (ih hmore).after ['\r', '\n'] ['\r', '\n'] (Nat.le_refl _) fun tail => by simp_all [basicText]
  | case20 trimming c cs _ _ _ _ _ _ _ _ hpassed ih =>
    have hc : (isSpace c || c = '\n') = true := (Bool.and_eq_true_iff.mp hpassed).2
    refine (ih h).skip [c] fun tail => ?_
    rw [List.singleton_append, basicText_cons (by rintro rfl; cases hc) (by rintro rfl; cases hc)
      (by rintro rfl; cases hc), if_pos hpassed]
  | case21 trimming cs hlong _ _ _ _ _ _ hpair _ hpassed ih =>
    obtain ⟨more, hmore, rfl⟩ := after_eq_ok_iff.mp h
    obtain ⟨body, rfl, hlength, hbody⟩ := ih hmore
    subst hlong
    refine ⟨'"' :: body, rfl, Nat.succ_le_succ hlength, fun rest' hrest' => ?_⟩
    have hpair' := not_quotes_of_closing rest' fun tail => hpair tail rfl
    rw [List.cons_append, List.cons_append, basicText_cons (by decide) (absurd · (by decide)) fun _ _ => hpair',
      if_neg hpassed]
    exact after_eq_ok_iff.mpr ⟨more, hbody rest' hrest', rfl⟩
  | case23 trimming c cs _ _ _ _ _ _ _ _ hpassed hquote hbreak ih =>
    obtain ⟨more, hmore, rfl⟩ := after_eq_ok_iff.mp h
    obtain rfl : c = '\n' := of_decide_eq_true (Bool.and_eq_true_iff.mp hbreak).1
    refine (ih hmore).after ['\n'] ['\n'] (Nat.le_refl _) fun tail => ?_
    rw [List.singleton_append, basicText_cons (by decide) (absurd · (by decide)) (absurd · hquote), if_neg hpassed,
      if_neg hquote, if_pos hbreak]
    rfl
  | case25 trimming c cs _ _ _ _ _ _ _ _ hpassed hquote hbreak hplain ih =>
    obtain ⟨more, hmore, rfl⟩ := after_eq_ok_iff.mp h
    obtain ⟨hescape, hcontrol⟩ : c ≠ '\\' ∧ ¬isControl c = true := by simpa using hplain
    refine (ih hmore).after [c] [c] (Nat.le_refl _) fun tail => ?_
    rw [List.singleton_append, basicText_cons hescape (by rintro rfl; exact absurd rfl hcontrol) (absurd · hquote),
      if_neg hpassed, if_neg hquote, if_neg hbreak, if_neg hcontrol]
    rfl
  | case12 | case14 | case16 | case22 =>
    cases h
    obtain rfl : long = false := by simp_all
    exact ⟨[], rfl, Nat.le_refl _, fun rest' _ => basicText_close _ _⟩
  | _ => cases h

theorem literalText_closes (h : literalText long cs = .ok (s, rest)) :
    Closes '\'' long (literalText long) cs s rest := by
  fun_induction literalText long cs generalizing s with
  | case2 cs hlong =>
    cases h
    refine ⟨['\'', '\''], by rw [hlong]; rfl, Nat.le_refl _, fun rest' _ => ?_⟩
    simp [closing, hlong, literalText]
  | case4 cs _ hlong =>
    cases h
    refine ⟨['\''], by rw [hlong]; rfl, Nat.le_refl _, fun rest' hrest' => ?_⟩
    cases rest' <;> simp_all [closing, literalText]
  | case6 cs _ _ hlong =>
    cases h
    refine ⟨[], by rw [hlong]; rfl, Nat.le_refl _, fun rest' hrest' => ?_⟩
    cases rest' <;> simp_all [closing, literalText]
  | case8 cs hlong ih =>
    obtain ⟨feed, hfeed, rfl⟩ := after_eq_ok_iff.mp h
    obtain ⟨more, hmore, rfl⟩ := after_eq_ok_iff.mp hfeed
    exact (ih hmore).after ['\r', '\n'] ['\r', '\n'] (Nat.le_refl _) fun tail => by simp_all [literalText]
  | case10 cs hlong _ _ hpair _ ih =>
    obtain ⟨more, hmore, rfl⟩ := after_eq_ok_iff.mp h
    obtain ⟨body, rfl, hlength, hbody⟩ := ih hmore
    subst hlong
    refine ⟨'\'' :: body, rfl, Nat.succ_le_succ hlength, fun rest' hrest' => ?_⟩
    have hpair' := not_quotes_of_closing rest' fun tail => hpair tail rfl
    rw [List.cons_append, List.cons_append, literalText_cons (absurd · (by decide)) fun _ _ => hpair']
    exact after_eq_ok_iff.mpr ⟨more, hbody rest' hrest', rfl⟩
  | case12 c cs _ _ _ _ hquote hbreak ih =>
    obtain ⟨more, hmore, rfl⟩ := after_eq_ok_iff.mp h
    obtain rfl : c = '\n' := of_decide_eq_true (Bool.and_eq_true_iff.mp hbreak).1
    refine (ih hmore).after ['\n'] ['\n'] (Nat.le_refl _) fun tail => ?_
    rw [List.singleton_append, literalText_cons (absurd · (by decide)) (absurd · hquote), if_neg hquote, if_pos hbreak]
    rfl
  | case14 c cs _ _ _ _ hquote hbreak hcontrol ih =>
    obtain ⟨more, hmore, rfl⟩ := after_eq_ok_iff.mp h
    refine (ih hmore).after [c] [c] (Nat.le_refl _) fun tail => ?_
    rw [List.singleton_append, literalText_cons (by rintro rfl; exact absurd rfl hcontrol) (absurd · hquote),
      if_neg hquote, if_neg hbreak, if_neg hcontrol]
    rfl
  | case3 | case5 | case7 | case11 =>
    cases h
    obtain rfl : long = false := by simp_all
    exact ⟨[], rfl, Nat.le_refl _, fun rest' _ => literalText_close _⟩
  | _ => cases h

theorem skipLineEnd_cons (hbreak : c ≠ '\n') (hreturn : c = '\r' → cs.head? ≠ some '\n') :
    skipLineEnd (c :: cs) = c :: cs := by
  rw [skipLineEnd.eq_def]
  split <;> simp_all

theorem skipLineEnd_length (cs : List Char) : (skipLineEnd cs).length ≤ cs.length := by
  rw [skipLineEnd.eq_def]
  split <;> simp
  omega

/-- The text behind the quotes in front may begin with a line end that does not belong to it. -/
theorem Closes.skipLineEnd {quote : Char} {read : List Char → Except Fault (Rest (List Char))}
    (h : Closes quote true read (skipLineEnd cs) s rest) (hquote : quote = '"' ∨ quote = '\'') :
    Closes quote true (fun tail => read (Toml.skipLineEnd tail)) cs s rest := by
  unfold Toml.skipLineEnd at h
  split at h
  · exact h.skip ['\n'] fun tail => rfl
  · exact h.skip ['\r', '\n'] fun tail => rfl
  · obtain ⟨body, rfl, hlength, hbody⟩ := h
    refine ⟨body, rfl, hlength, fun rest' hrest' => ?_⟩
    refine Eq.trans (congrArg read ?_) (hbody rest' hrest')
    rw [closing, if_pos rfl] at *
    cases body with
    | nil => obtain rfl | rfl := hquote <;> rfl
    | cons c body =>
      rename_i hfeed hreturn
      refine skipLineEnd_cons (by rintro rfl; exact hfeed _ rfl) ?_
      rintro rfl
      cases body with
      | nil => obtain rfl | rfl := hquote <;> simp
      | cons d body => simp_all

/-- Two quotes in front are only seen in a text that begins with them, unless a further one follows. -/
theorem not_quotes_of_close {quote : Char} {body rest rest' : List Char} (hrest' : rest'.head? ≠ some quote)
    (h : ∀ tail, body ++ closing quote false ++ rest ≠ quote :: quote :: tail) :
    ∀ tail, body ++ closing quote false ++ rest' ≠ quote :: quote :: tail := by
  cases body with
  | nil =>
    intro tail heq
    cases heq
    exact hrest' rfl
  | cons a body =>
    cases body with
    | nil => simp_all [closing]
    | cons b body => simp_all

theorem quotedText?_basic (h : ∀ tail, cs ≠ '"' :: '"' :: tail) :
    quotedText? ('"' :: cs) = some (basicText false false cs) := by
  rw [quotedText?.eq_def]
  split <;> simp_all

theorem quotedText?_literal (h : ∀ tail, cs ≠ '\'' :: '\'' :: tail) :
    quotedText? ('\'' :: cs) = some (literalText false cs) := by
  rw [quotedText?.eq_def]
  split <;> simp_all

/-- A text in quotes has quotes on both sides, and no further one behind it that is taken for a part of it. -/
theorem quotedText?_closes (h : quotedText? cs = some (.ok (s, rest))) :
    ∃ (quote : Char) (front : List Char), (quote = '"' ∨ quote = '\'') ∧ s.length < front.length ∧
      cs = front ++ quote :: rest ∧
      ∀ rest', rest'.head? ≠ some quote → quotedText? (front ++ quote :: rest') = some (.ok (s, rest')) := by
  rw [quotedText?.eq_def] at h
  split at h
  · rename_i cs
    obtain ⟨body, rfl, hlength, hbody⟩ := (basicText_closes (Option.some.inj h)).skipLineEnd (Or.inl rfl)
    refine ⟨'"', '"' :: '"' :: '"' :: (body ++ ['"', '"']), Or.inl rfl, ?_, by simp [closing], fun rest' hrest' => ?_⟩
    · simp
      omega
    · simpa [closing, quotedText?] using hbody rest' fun _ => hrest'
  · rename_i cs hlong
    obtain ⟨body, rfl, hlength, hbody⟩ := basicText_closes (Option.some.inj h)
    refine ⟨'"', '"' :: body, Or.inl rfl, Nat.lt_succ_of_le hlength, by simp [closing], fun rest' hrest' => ?_⟩
    have hshort := quotedText?_basic (not_quotes_of_close hrest' hlong)
    rw [hbody rest' nofun] at hshort
    simpa [closing] using hshort
  · rename_i cs
    obtain ⟨body, rfl, hlength, hbody⟩ := (literalText_closes (Option.some.inj h)).skipLineEnd (Or.inr rfl)
    refine ⟨'\'', '\'' :: '\'' :: '\'' :: (body ++ ['\'', '\'']), Or.inr rfl, ?_, by simp [closing],
      fun rest' hrest' => ?_⟩
    · simp
      omega
    · simpa [closing, quotedText?] using hbody rest' fun _ => hrest'
  · rename_i cs hlong
    obtain ⟨body, rfl, hlength, hbody⟩ := literalText_closes (Option.some.inj h)
    refine ⟨'\'', '\'' :: body, Or.inr rfl, Nat.lt_succ_of_le hlength, by simp [closing], fun rest' hrest' => ?_⟩
    have hshort := quotedText?_literal (not_quotes_of_close hrest' hlong)
    rw [hbody rest' nofun] at hshort
    simpa [closing] using hshort
  · cases h

theorem quotedText?_suffix (h : quotedText? cs = some (.ok (s, rest))) : rest <:+ cs := by
  obtain ⟨quote, front, -, -, rfl, -⟩ := quotedText?_closes h
  exact (List.suffix_cons quote rest).trans (List.suffix_append front _)

theorem quotedText?_length (h : quotedText? cs = some (.ok (s, rest))) : s.length + rest.length + 2 ≤ cs.length := by
  obtain ⟨quote, front, -, hlength, rfl, -⟩ := quotedText?_closes h
  rw [List.length_append, List.length_cons]
  omega

theorem quotedText?_passes (h : quotedText? cs = some (.ok (s, rest))) (hdouble : rest.head? ≠ some '"')
    (hsingle : rest.head? ≠ some '\'') :
    Passes (fun cs rest => quotedText? cs = some (.ok (s, rest))) cs rest := by
  obtain ⟨quote, front, hquote, -, rfl, hfront⟩ := quotedText?_closes h
  refine ⟨front ++ [quote], by simp, fun rest' halike => ?_⟩
  rw [List.append_assoc, List.singleton_append]
  refine hfront rest' ?_
  rw [halike.head?_eq]
  obtain rfl | rfl := hquote
  · exact hdouble
  · exact hsingle

/-! ## Plain characters -/

/-- A character that stands for itself in a text on one line. -/
def isPlain (c : Char) : Bool := c ≠ '"' && c ≠ '\\' && !isControl c

theorem isPlain_iff : isPlain c = true ↔ c ≠ '"' ∧ c ≠ '\\' ∧ isControl c = false := by
  simp [isPlain, and_assoc]

theorem basicText_of_isPlain (h : ∀ c ∈ s, isPlain c = true) (rest : List Char) :
    basicText false false (s ++ '"' :: rest) = .ok (s, rest) := by
  induction s with
  | nil => exact basicText_close false rest
  | cons c s ih =>
    obtain ⟨hquote, hescape, hcontrol⟩ := isPlain_iff.mp (h c List.mem_cons_self)
    have hreturn : c ≠ '\r' := by
      rintro rfl
      cases hcontrol
    rw [List.cons_append, basicText_cons hescape (absurd · hreturn) (absurd · hquote),
      ih fun c hc => h c (List.mem_cons_of_mem _ hc)]
    simp [hquote, hcontrol, after, Except.map]

theorem quotedText?_of_isPlain (h : ∀ c ∈ s, isPlain c = true)
    (hempty : s = [] → rest.head? ≠ some '"') : quotedText? ('"' :: (s ++ '"' :: rest)) = some (.ok (s, rest)) := by
  rw [quotedText?_basic, basicText_of_isPlain h]
  rintro tail heq
  cases s with
  | nil =>
    cases heq
    exact hempty rfl rfl
  | cons c s =>
    obtain rfl := (List.cons.inj heq).1
    cases h '"' List.mem_cons_self

theorem basicText_length (h : basicText long trimming cs = .ok (s, rest)) :
    s.length + rest.length + (closing '"' long).length ≤ cs.length := by
  obtain ⟨body, rfl, hlength, -⟩ := basicText_closes h
  rw [List.length_append, List.length_append]
  omega

/-- Of an escape a character comes that is shorter than it. -/
theorem after_length {e : Char} (h : after e (basicText false false cs) = .ok (s, rest)) :
    s.length + rest.length ≤ cs.length := by
  obtain ⟨more, hmore, rfl⟩ := after_eq_ok_iff.mp h
  have hlength := basicText_length hmore
  rw [closing, if_neg Bool.false_ne_true, List.length_singleton] at hlength
  rw [List.length_cons]
  omega

theorem basicText_escape_length (h : basicText false trimming ('\\' :: cs) = .ok (s, rest)) :
    s.length + rest.length + 1 ≤ cs.length := by
  rw [basicText.eq_def] at h
  split at h <;> rename_i heq <;> cases heq
  · split at h
    · have hlength := after_length h
      simp only [List.length_cons]
      omega
    · cases h
  · split at h
    · have hlength := after_length h
      simp only [List.length_cons]
      omega
    · cases h
  · split at h
    · have hlength := after_length h
      simp only [List.length_cons]
      omega
    · cases h
  · split at h
    · exact Nat.succ_le_succ (after_length h)
    · cases h
  · simp [fail, isSpace] at h

/-- A text on one line that is as long as what it was read from is the same. -/
theorem isPlain_of_basicText (h : basicText false false cs = .ok (s, rest))
    (hlength : cs.length = s.length + rest.length + 1) : ∀ c ∈ s, isPlain c = true := by
  induction cs generalizing s with
  | nil => cases h
  | cons c cs ih =>
    rw [List.length_cons] at hlength
    by_cases hquote : c = '"'
    · subst hquote
      rw [basicText_close] at h
      cases h
      nofun
    by_cases hescape : c = '\\'
    · subst hescape
      have hshort := basicText_escape_length h
      omega
    by_cases hcontrol : isControl c = true
    · exfalso
      by_cases hend : c = '\r' ∧ cs.head? = some '\n'
      · obtain ⟨rfl, hfeed⟩ := hend
        obtain ⟨tail, rfl⟩ := List.head?_eq_some_iff.mp hfeed
        cases h
      · rw [basicText_cons hescape (fun hreturn hfeed => hend ⟨hreturn, hfeed⟩) (absurd · hquote)] at h
        simp [hquote, hcontrol, fail] at h
    · have hreturn : c ≠ '\r' := by
        rintro rfl
        exact hcontrol rfl
      rw [basicText_cons hescape (absurd · hreturn) (absurd · hquote)] at h
      simp only [Bool.false_and, Bool.and_false, Bool.false_eq_true, if_false, if_neg hquote, if_neg hcontrol] at h
      obtain ⟨more, hmore, rfl⟩ := after_eq_ok_iff.mp h
      rw [List.length_cons] at hlength
      intro d hd
      obtain rfl | hd := List.mem_cons.mp hd
      · exact isPlain_iff.mpr ⟨hquote, hescape, Bool.eq_false_iff.mpr hcontrol⟩
      · exact ih hmore (by omega) d hd

/-- Just plain texts are read as they stand between quotes. -/
theorem quotedText?_quoted_iff :
    quotedText? ('"' :: (s ++ '"' :: rest)) = some (.ok (s, rest)) ↔
      (∀ c ∈ s, isPlain c = true) ∧ (s = [] → rest.head? ≠ some '"') := by
  constructor
  · intro h
    have hshort : ∀ tail, s ++ '"' :: rest ≠ '"' :: '"' :: tail := by
      intro tail heq
      have hlengths := congrArg List.length heq
      rw [heq] at h
      have hread : basicText true false (skipLineEnd tail) = .ok (s, rest) := Option.some.inj h
      have hlong := (basicText_length hread).trans (skipLineEnd_length tail)
      simp [closing] at hlengths hlong
      omega
    have hread := h
    rw [quotedText?_basic hshort] at hread
    refine ⟨isPlain_of_basicText (Option.some.inj hread) (by simp; omega), ?_⟩
    rintro rfl hrest
    obtain ⟨tail, rfl⟩ := List.head?_eq_some_iff.mp hrest
    exact hshort tail rfl
  · rintro ⟨hplain, hempty⟩
    exact quotedText?_of_isPlain hplain hempty

end ServiceCatalog.Toml
