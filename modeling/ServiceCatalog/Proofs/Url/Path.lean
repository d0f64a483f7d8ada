import Mathlib.Data.List.Basic
import ServiceCatalog.Endpoint
import ServiceCatalog.Proofs.Url.Authority

/-!
# Paths

The segments of a path that is read hold no slash, so that the written path shows where each of them ends. A path that
is written with a slash at its end has an empty last segment, whatever dots it holds, and paths are joined behind the
last slash.
-/

namespace ServiceCatalog.Url

open Text

/-! ## Segments -/

theorem Percent.slash_not_mem_octet (o : UInt8) : '/' ∉ Percent.octet o := by
  have hdigit : ∀ n < 16, Percent.hexDigit n ≠ '/' := by decide
  have hhigh := hdigit (o.toNat / 16) (by have := o.toNat_lt; omega)
  have hlow := hdigit (o.toNat % 16) (by omega)
  simp [Percent.octet, Ne.symm hhigh, Ne.symm hlow]

theorem Percent.slash_not_mem_encode {set : Percent.EncodeSet} {cs : List Char} (h : '/' ∉ cs) :
    '/' ∉ Percent.encode set cs := by
  intro hmem
  obtain ⟨c, hc, hslash⟩ := List.mem_flatMap.mp hmem
  unfold Percent.encodeChar at hslash
  split at hslash
  · obtain ⟨o, -, ho⟩ := List.mem_flatMap.mp hslash
    exact Percent.slash_not_mem_octet o ho
  · obtain rfl := List.mem_singleton.mp hslash
    exact h hc

theorem mem_of_mem_dropSegment {place : List (List Char)} {s : List Char} (h : s ∈ dropSegment place) : s ∈ place := by
  unfold dropSegment at h
  split at h
  · exact h
  · exact (List.dropLast_sublist place).subset h

/-- Following segments adds none but those that are followed, and the empty one. -/
theorem mem_walk {place parts : List (List Char)} {s : List Char} (h : s ∈ walk place parts) :
    s ∈ place ∨ s ∈ parts ∨ s = [] := by
  fun_induction walk place parts with
  | case1 place => simpa using h
  | case2 place segment hup =>
    obtain hplace | hempty := List.mem_append.mp h
    · exact Or.inl (mem_of_mem_dropSegment hplace)
    · exact Or.inr (Or.inr (List.mem_singleton.mp hempty))
  | case3 place segment _ hstay =>
    obtain hplace | hempty := List.mem_append.mp h
    · exact Or.inl hplace
    · exact Or.inr (Or.inr (List.mem_singleton.mp hempty))
  | case4 place segment _ _ =>
    obtain hplace | hsegment := List.mem_append.mp h
    · exact Or.inl hplace
    · exact Or.inr (Or.inl hsegment)
  | case5 place segment rest _ hup ih =>
    obtain hplace | hrest | hempty := ih h
    · exact Or.inl (mem_of_mem_dropSegment hplace)
    · exact Or.inr (Or.inl (List.mem_cons_of_mem _ hrest))
    · exact Or.inr (Or.inr hempty)
  | case6 place segment rest _ hup hstay ih =>
    obtain hplace | hrest | hempty := ih h
    · exact Or.inl hplace
    · exact Or.inr (Or.inl (List.mem_cons_of_mem _ hrest))
    · exact Or.inr (Or.inr hempty)
  | case7 place segment rest _ hup hstay ih =>
    obtain hplace | hrest | hempty := ih h
    · obtain hplace | hsegment := List.mem_append.mp hplace
      · exact Or.inl hplace
      · exact Or.inr (Or.inl (List.mem_cons.mpr (Or.inl (List.mem_singleton.mp hsegment))))
    · exact Or.inr (Or.inl (List.mem_cons_of_mem _ hrest))
    · exact Or.inr (Or.inr hempty)

theorem walk_ne_nil (place parts : List (List Char)) : walk place parts ≠ [] := by
  fun_induction walk place parts with
  | case1 | case2 | case3 | case4 => simp
  | case5 _ _ _ _ _ ih => exact ih
  | case6 _ _ _ _ _ _ ih => exact ih
  | case7 _ _ _ _ _ _ ih => exact ih

/-- Segments that end with the empty one lead to a place. -/
theorem getLast?_walk {place parts : List (List Char)} (h : parts.getLast? = some []) :
    (walk place parts).getLast? = some [] := by
  have hrest {segment : List Char} {rest : List (List Char)} (hmore : rest = [] → False)
      (h : (segment :: rest).getLast? = some []) : rest.getLast? = some [] := by
    obtain ⟨next, more, rfl⟩ := List.exists_cons_of_ne_nil hmore
    rwa [List.getLast?_cons_cons] at h
  fun_induction walk place parts with
  | case1 place => cases h
  | case2 place segment hup => simp
  | case3 place segment _ hstay => simp
  | case4 place segment _ _ => simpa using h
  | case5 place segment rest hmore hup ih => exact ih (hrest hmore h)
  | case6 place segment rest hmore hup hstay ih => exact ih (hrest hmore h)
  | case7 place segment rest hmore hup hstay ih => exact ih (hrest hmore h)

theorem slash_not_mem_of_mem_segments {cs : List Char} {s : String} (h : s ∈ segments cs) : '/' ∉ s.toList := by
  obtain ⟨segment, hsegment, rfl⟩ := List.mem_map.mp h
  rw [String.toList_ofList]
  obtain hnone | hpart | rfl := mem_walk hsegment
  · cases hnone
  · obtain ⟨part, hmem, rfl⟩ := List.mem_map.mp hpart
    exact Percent.slash_not_mem_encode (Host.not_mem_of_mem_cutAt hmem)
  · simp

theorem segments_ne_nil (cs : List Char) : segments cs ≠ [] := by
  unfold segments
  simp [walk_ne_nil]

/-- A slash at the end of a path leaves an empty last segment. -/
theorem getLast?_segments {cs : List Char} (h : cs.getLast? = some '/') : (segments cs).getLast? = some "" := by
  have hbody (body : List Char) :
      ((walk [] ((Host.cutAt '/' ((body ++ ['/']).map fun c => if c = '\\' then '/' else c)).map
        (Percent.encode Percent.path))).map String.ofList).getLast? = some "" := by
    have hslash : (['/'].map fun c => if c = '\\' then '/' else c) = ['/'] := rfl
    have hnone : Host.cutAt '/' [] = [[]] := rfl
    rw [List.map_append, hslash, Host.cutAt_append_cons, hnone, List.map_append, List.getLast?_map,
      getLast?_walk (by simp [Percent.encode])]
    rfl
  obtain ⟨front, rfl⟩ := List.getLast?_eq_some_iff.mp h
  -- The first slash of a path is dropped: a path of one slash has no other to end with.
  cases front with
  | nil => decide
  | cons c rest =>
    unfold segments
    dsimp only [List.cons_append]
    split
    · exact hbody rest
    · exact hbody (c :: rest)

/-! ## Written paths -/

/-- The path of an address up to its last slash. -/
def directoryText (u : Url) : String := String.ofList (dropEndWhile (· != '/') u.pathText.toList)

/-- The path of an address with a slash at its end. -/
def slashedPathText (u : Url) : String := String.ofList (Endpoint.withSlash u.pathText.toList)

theorem cons_intercalate {path : List String} (h : path ≠ []) :
    '/' :: ['/'].intercalate (path.map String.toList) = path.flatMap fun s => '/' :: s.toList := by
  induction path with
  | nil => exact absurd rfl h
  | cons s path ih =>
    cases path with
    | nil => simp
    | cons next more =>
      have hmore := ih (by simp)
      rw [List.map_cons] at hmore
      rw [List.map_cons, List.map_cons, List.intercalate_cons_cons, List.flatMap_cons, ← hmore]
      simp

/-- A path is written with a slash in front of each segment. -/
theorem toList_pathText {u : Url} (h : u.path ≠ []) : u.pathText.toList = u.path.flatMap fun s => '/' :: s.toList := by
  rw [← cons_intercalate h, pathText, String.toList_append, String.toList_intercalate]
  rfl

section LastSegment

variable {u : Url} {front : List String} {last : String} (hpath : u.path = front ++ [last])

include hpath

theorem toList_pathText_append :
    u.pathText.toList = (front.flatMap fun s => '/' :: s.toList) ++ '/' :: last.toList := by
  rw [toList_pathText (by simp [hpath]), hpath]
  simp

variable (hlast : '/' ∉ last.toList)

include hlast

/-- The last slash of a path stands in front of its last segment. -/
theorem toList_directoryText : u.directoryText.toList = (front.flatMap fun s => '/' :: s.toList) ++ ['/'] := by
  have hback : ∀ c ∈ last.toList.reverse, (c != '/') = true := by
    intro c hc
    have hne : c ≠ '/' := by
      rintro rfl
      exact hlast (List.mem_reverse.mp hc)
    simpa using hne
  rw [directoryText, String.toList_ofList, toList_pathText_append hpath, List.append_cons, dropEndWhile,
    List.reverse_append, List.dropWhile_append_of_pos hback, List.reverse_append, List.reverse_singleton,
    List.singleton_append, List.dropWhile_cons_of_neg (by simp), List.reverse_cons, List.reverse_reverse]

theorem getLast?_pathText : u.pathText.toList.getLast? = some '/' ↔ last = "" := by
  rw [toList_pathText_append hpath, List.getLast?_append_of_ne_nil _ (by simp)]
  constructor
  · intro h
    by_contra hne
    have hchars : last.toList ≠ [] := by simpa using hne
    obtain ⟨c, rest, hcs⟩ := List.exists_cons_of_ne_nil hchars
    rw [hcs, List.getLast?_cons_cons, ← hcs] at h
    exact hlast (List.mem_of_getLast? h)
  · rintro rfl
    rfl

/-- Segments are joined behind the last slash of the path. -/
theorem pathText_join {segments : List String} (hsegments : segments ≠ []) :
    (u.join segments).pathText = u.directoryText ++ "/".intercalate segments := by
  have hjoined : (u.join segments).path = front ++ segments := by simp [join, hpath]
  apply String.toList_inj.mp
  rw [toList_pathText (by simp [hjoined, hsegments]), hjoined, String.toList_append, toList_directoryText hpath hlast,
    String.toList_intercalate, List.flatMap_append, ← cons_intercalate hsegments]
  simp

/-- The path up to its last slash is the path with a slash at its end exactly if it ends with one. -/
theorem directoryText_eq_iff : u.directoryText = u.slashedPathText ↔ u.pathText.toList.getLast? = some '/' := by
  rw [← String.toList_inj, toList_directoryText hpath hlast, slashedPathText, String.toList_ofList,
    Endpoint.withSlash]
  split
  · rename_i hslash
    obtain rfl := (getLast?_pathText hpath hlast).mp hslash
    simp [toList_pathText_append hpath]
  · rename_i hslash
    simpa [toList_pathText_append hpath] using hslash

end LastSegment

end ServiceCatalog.Url
