import ServiceCatalog.Proofs.Toml.Quoted

/-!
# Parts of keys and unquoted values

Parts of keys and unquoted values are read the same whatever stands behind them, as long as it looks alike.
-/

namespace ServiceCatalog.Toml

open ServiceCatalog.Text

variable {cs rest : List Char}

theorem simpleKey_plain (hdouble : cs.head? ≠ some '"') (hsingle : cs.head? ≠ some '\'') :
    simpleKey cs =
      if (cs.takeWhile isKeyChar).isEmpty then fail cs "invalid key"
      else .ok (⟨cs.length, String.ofList (cs.takeWhile isKeyChar)⟩, cs.dropWhile isKeyChar) := by
  rw [simpleKey.eq_def]
  split <;> simp_all

theorem simpleKey_passes {key : Key} (h : simpleKey cs = .ok (key, rest)) :
    Passes (fun cs rest => ∃ key' : Key, key'.name = key.name ∧ simpleKey cs = .ok (key', rest)) cs rest := by
  unfold simpleKey at h
  split at h
  · obtain ⟨⟨s, rest⟩, hread, heq⟩ := map_eq_ok_iff.mp h
    cases heq
    obtain ⟨body, rfl, -, hbody⟩ := basicText_closes hread
    refine ⟨'"' :: (body ++ closing '"' false), by simp, fun rest' _ => ?_⟩
    refine ⟨_, ?_, map_eq_ok_iff.mpr ⟨_, hbody rest' nofun, rfl⟩⟩
    rfl
  · obtain ⟨⟨s, rest⟩, hread, heq⟩ := map_eq_ok_iff.mp h
    cases heq
    obtain ⟨body, rfl, -, hbody⟩ := literalText_closes hread
    refine ⟨'\'' :: (body ++ closing '\'' false), by simp, fun rest' _ => ?_⟩
    refine ⟨_, ?_, map_eq_ok_iff.mpr ⟨_, hbody rest' nofun, rfl⟩⟩
    rfl
  · dsimp only at h
    split at h
    · cases h
    · rename_i hname
      cases h
      refine (run_passes isKeyChar cs).imp fun cs' rest' ⟨htake, hdrop⟩ => ?_
      refine ⟨⟨cs'.length, String.ofList (cs.takeWhile isKeyChar)⟩, rfl, ?_⟩
      have hplain (c : Char) (hc : isKeyChar c = false) : cs'.head? ≠ some c := by
        rintro hhead
        obtain ⟨tail, rfl⟩ := List.head?_eq_some_iff.mp hhead
        rw [List.takeWhile_cons_of_neg (by simp [hc])] at htake
        simp [← htake] at hname
      rw [simpleKey_plain (hplain _ (by decide)) (hplain _ (by decide)), htake, hdrop, if_neg hname]

/-! ## Unquoted values -/

/-- Whether a time stands behind a date, with a blank between them. -/
def TimeFollows (first next : List Char) : Prop :=
  afterDate? first = some [] ∧ ∃ c tail, next = ' ' :: c :: tail ∧ c.isDigit = true

theorem scalarText_of_not (h : ¬TimeFollows (cs.takeWhile isScalarChar) (cs.dropWhile isScalarChar)) :
    scalarText cs = (cs.takeWhile isScalarChar, cs.dropWhile isScalarChar) := by
  unfold scalarText
  dsimp only
  split
  · rename_i c tail hdate htail
    have hdigit : ¬c.isDigit = true := fun hdigit => h ⟨hdate, c, tail, htail, hdigit⟩
    rw [if_neg hdigit, htail]
  · rfl

theorem scalarText_of_time {c : Char} {tail : List Char} (hdate : afterDate? (cs.takeWhile isScalarChar) = some [])
    (htail : cs.dropWhile isScalarChar = ' ' :: c :: tail) (hdigit : c.isDigit = true) :
    scalarText cs = (cs.takeWhile isScalarChar ++ ' ' :: (c :: tail).takeWhile isScalarChar,
      (c :: tail).dropWhile isScalarChar) := by
  unfold scalarText
  simp [hdate, htail, hdigit]

/-- Whether a time follows is seen from the blank and the character behind it. -/
theorem Alike.timeFollows_iff {first next next' : List Char} (h : Alike next next') :
    TimeFollows first next' → TimeFollows first next := by
  rintro ⟨hdate, c, tail, rfl, hdigit⟩
  cases h with
  | cons hhead =>
    obtain ⟨tail, rfl⟩ := List.head?_eq_some_iff.mp hhead
    exact ⟨hdate, c, tail, rfl, hdigit⟩

theorem scalarText_passes {text : List Char} (h : scalarText cs = (text, rest)) :
    Passes (fun cs rest => scalarText cs = (text, rest)) cs rest := by
  have hrun := run_passes isScalarChar cs
  by_cases htime : TimeFollows (cs.takeWhile isScalarChar) (cs.dropWhile isScalarChar)
  · obtain ⟨hdate, c, tail, htail, hdigit⟩ := htime
    rw [scalarText_of_time hdate htail hdigit] at h
    cases h
    have hblank : Passes (fun next rest => ∃ time, next = ' ' :: time ∧
        time.takeWhile isScalarChar = (c :: tail).takeWhile isScalarChar ∧ time.dropWhile isScalarChar = rest)
        (' ' :: c :: tail) ((c :: tail).dropWhile isScalarChar) :=
      (run_passes isScalarChar (c :: tail)).after [' '] fun time rest htime => ⟨time, rfl, htime⟩
    rw [htail] at hrun
    refine hrun.trans hblank ?_
    rintro cs' - rest ⟨htake, hdrop⟩ ⟨time, rfl, htime, hrest⟩
    obtain ⟨time, rfl⟩ : ∃ time', time = c :: time' := by
      have hscalar : isScalarChar c = true := by simp [isScalarChar, Char.isAlphanum, hdigit]
      rw [List.takeWhile_cons_of_pos hscalar] at htime
      have hprefix := List.takeWhile_prefix isScalarChar (l := time)
      rw [htime] at hprefix
      obtain ⟨back, rfl⟩ := hprefix
      exact ⟨_, rfl⟩
    rw [← htake] at hdate
    rw [scalarText_of_time hdate hdrop hdigit, htake, htime, hrest]
  · rw [scalarText_of_not htime] at h
    cases h
    refine hrun.trans (.here (P := fun next rest => next = rest ∧ Alike (cs.dropWhile isScalarChar) rest)
      fun rest' halike => ⟨rfl, halike⟩) ?_
    rintro cs' next rest ⟨htake, hdrop⟩ ⟨rfl, halike⟩
    rw [scalarText_of_not, htake, hdrop]
    rw [htake, hdrop]
    exact fun hfollows => htime (halike.timeFollows_iff hfollows)

end ServiceCatalog.Toml
