import Mathlib.Data.List.TakeWhile
import ServiceCatalog.Proofs.Results
import ServiceCatalog.Toml.Reader

/-!
# What a reader looks at

A reader that stops in a text has looked at what it passed and hardly any further. It reads the same in front of every
other text that looks alike from there.
-/

namespace ServiceCatalog.Toml

open ServiceCatalog.Text

/-- Texts that look alike to a reader that stops in front of them: they begin with the same character, and behind it
with the same one too, unless the first is a quote. -/
inductive Alike : List Char → List Char → Prop
  | nil : Alike [] []
  | quote {rest rest' : List Char} : Alike ('"' :: rest) ('"' :: rest')
  | cons {c : Char} {rest rest' : List Char} : rest.head? = rest'.head? → Alike (c :: rest) (c :: rest')

namespace Alike

variable {rest rest' : List Char}

theorem head?_eq (h : Alike rest rest') : rest'.head? = rest.head? := by
  cases h <;> rfl

theorem refl (rest : List Char) : Alike rest rest := by
  cases rest with
  | nil => exact .nil
  | cons c rest => exact .cons rfl

theorem append (h : Alike rest rest') (front : List Char) : Alike (front ++ rest) (front ++ rest') := by
  cases front with
  | nil => exact h
  | cons c front =>
    refine .cons ?_
    cases front with
    | nil => exact h.head?_eq.symm
    | cons d front => rfl

end Alike

/-- A reader passes from `cs` to `rest`, and this does not depend on what stands there, as long as it looks alike. -/
def Passes (P : List Char → List Char → Prop) (cs rest : List Char) : Prop :=
  ∃ front, cs = front ++ rest ∧ ∀ rest', Alike rest rest' → P (front ++ rest') rest'

namespace Passes

variable {P Q R : List Char → List Char → Prop} {cs mid rest : List Char}

theorem here (h : ∀ rest', Alike rest rest' → P rest' rest') : Passes P rest rest := ⟨[], rfl, h⟩

theorem suffix (h : Passes P cs rest) : rest <:+ cs := by
  obtain ⟨front, rfl, -⟩ := h
  exact List.suffix_append front rest

theorem imp (h : Passes P cs rest) (himp : ∀ cs rest, P cs rest → Q cs rest) : Passes Q cs rest := by
  obtain ⟨front, rfl, hfront⟩ := h
  exact ⟨front, rfl, fun rest' halike => himp _ _ (hfront rest' halike)⟩

theorem trans (first : Passes P cs mid) (second : Passes Q mid rest)
    (hstep : ∀ cs mid rest, P cs mid → Q mid rest → R cs rest) : Passes R cs rest := by
  obtain ⟨front, rfl, hfront⟩ := first
  obtain ⟨back, rfl, hback⟩ := second
  refine ⟨front ++ back, (List.append_assoc ..).symm, fun rest' halike => ?_⟩
  rw [List.append_assoc]
  exact hstep _ _ _ (hfront _ (halike.append back)) (hback rest' halike)

/-- What stands behind begins as before. -/
theorem and_head (h : Passes P cs rest) : Passes (fun cs rest' => P cs rest' ∧ rest'.head? = rest.head?) cs rest := by
  obtain ⟨front, rfl, hfront⟩ := h
  exact ⟨front, rfl, fun rest' halike => ⟨hfront rest' halike, halike.head?_eq⟩⟩

theorem after (front : List Char) (h : Passes P mid rest) (hstep : ∀ mid rest, P mid rest → Q (front ++ mid) rest) :
    Passes Q (front ++ mid) rest := by
  obtain ⟨back, rfl, hback⟩ := h
  refine ⟨front ++ back, (List.append_assoc ..).symm, fun rest' halike => ?_⟩
  rw [List.append_assoc]
  exact hstep _ _ (hback rest' halike)

end Passes

/-- A run of characters ends at the same place in front of texts that look alike. -/
theorem run_passes (p : Char → Bool) (cs : List Char) :
    Passes (fun cs' rest => cs'.takeWhile p = cs.takeWhile p ∧ cs'.dropWhile p = rest) cs (cs.dropWhile p) := by
  refine ⟨cs.takeWhile p, List.takeWhile_append_dropWhile.symm, fun rest' halike => ?_⟩
  have hrun : ∀ c ∈ cs.takeWhile p, p c = true := fun c hc => List.mem_takeWhile_imp hc
  have hend : rest'.takeWhile p = [] ∧ rest'.dropWhile p = rest' := by
    cases rest' with
    | nil => exact ⟨rfl, rfl⟩
    | cons d rest' =>
      have hd := List.head?_dropWhile_not p cs
      rw [← halike.head?_eq, List.head?_cons] at hd
      simp_all
  refine ⟨?_, ?_⟩
  · rw [List.takeWhile_append_of_pos hrun, hend.1, List.append_nil]
  · rw [List.dropWhile_append_of_pos hrun, hend.2]

/-! ## Blanks, line ends and comments -/

theorem skipSpace_passes (cs : List Char) : Passes (fun cs rest => skipSpace cs = rest) cs (skipSpace cs) :=
  (run_passes isSpace cs).imp fun _ _ h => h.2

theorem skipVoid_cons {inComment : Bool} {c : Char} {rest : List Char} (hbreak : c ≠ '\n')
    (hreturn : c = '\r' → rest.head? ≠ some '\n') :
    skipVoid inComment (c :: rest) =
      if inComment then
        if isControl c then fail (c :: rest) "invalid comment" else skipVoid true rest
      else if isSpace c then skipVoid false rest
      else if c = '#' then skipVoid true rest
      else .ok (c :: rest) := by
  rw [skipVoid.eq_def]
  split <;> simp_all

theorem skipVoid_passes {inComment : Bool} {cs rest : List Char} (h : skipVoid inComment cs = .ok rest) :
    Passes (fun cs rest => skipVoid inComment cs = .ok rest) cs rest := by
  fun_induction skipVoid inComment cs with
  | case1 inComment =>
    cases h
    refine .here fun rest' halike => ?_
    cases halike
    rfl
  | case2 inComment cs ih => exact (ih h).after ['\n'] fun _ _ h => h
  | case3 inComment cs ih => exact (ih h).after ['\r', '\n'] fun _ _ h => h
  | case4 => cases h
  | case5 c cs hbreak hreturn hcontrol ih =>
    refine (ih h).after [c] fun mid rest hmid => ?_
    rw [List.singleton_append, skipVoid_cons hbreak (by rintro rfl; exact absurd rfl hcontrol)]
    simpa [hcontrol] using hmid
  | case6 inComment c cs hbreak hreturn hcomment hspace ih =>
    refine (ih h).after [c] fun mid rest hmid => ?_
    rw [List.singleton_append, skipVoid_cons hbreak (by rintro rfl; cases hspace)]
    simpa [hcomment, hspace] using hmid
  | case7 inComment cs hcomment _ hspace _ ih =>
    refine (ih h).after ['#'] fun mid rest hmid => ?_
    rw [List.singleton_append, skipVoid_cons (by decide) (by rintro ⟨⟩)]
    simpa [hcomment, hspace, isSpace] using hmid
  | case8 inComment c cs hbreak hreturn hcomment hspace hmark =>
    cases h
    refine .here fun rest' halike => ?_
    -- A carriage return is left where it is only if no line feed is next, which cannot be seen behind a quote.
    have hnext : ∃ tail, rest' = c :: tail ∧ (c = '\r' → tail.head? ≠ some '\n') := by
      cases halike with
      | quote => exact ⟨_, rfl, nofun⟩
      | cons hhead =>
        refine ⟨_, rfl, fun hc hbad => ?_⟩
        rw [← hhead] at hbad
        obtain ⟨tail, rfl⟩ := List.head?_eq_some_iff.mp hbad
        exact hreturn tail hc rfl
    obtain ⟨tail, rfl, htail⟩ := hnext
    rw [skipVoid_cons hbreak htail]
    simp [hcomment, hspace, hmark]

theorem endLine_passes {cs rest : List Char} (h : endLine cs = .ok rest) :
    Passes (fun cs rest => endLine cs = .ok rest) cs rest := by
  have hend : Passes (fun mid rest => ∀ cs, skipSpace cs = mid → endLine cs = .ok rest) (skipSpace cs) rest := by
    unfold endLine at h
    split at h
    · rename_i hnone
      cases h
      rw [hnone]
      refine .here fun rest' halike cs hcs => ?_
      cases halike
      rw [endLine, hcs]
    · rename_i tail hfeed
      cases h
      rw [hfeed]
      refine Passes.after ['\n'] (.here (P := Eq) fun _ _ => rfl) fun mid rest hmid cs hcs => ?_
      rw [endLine, hcs, hmid]
      rfl
    · rename_i tail hreturn
      cases h
      rw [hreturn]
      refine Passes.after ['\r', '\n'] (.here (P := Eq) fun _ _ => rfl) fun mid rest hmid cs hcs => ?_
      rw [endLine, hcs, hmid]
      rfl
    · rename_i tail hmark
      rw [hmark]
      refine (skipVoid_passes h).after ['#'] fun mid rest hmid cs hcs => ?_
      rw [endLine, hcs]
      exact hmid
    · cases h
  exact (skipSpace_passes cs).trans hend fun cs mid rest hmid hrest => hrest cs hmid

end ServiceCatalog.Toml
