import Mathlib.Algebra.GroupWithZero.Nat
import Mathlib.Data.List.Forall2
import ServiceCatalog.Output.Tabular

/-!
# The table of members

Every member has a block of rows in the table of members, one for each of its config files, or a single one without any.
Each config file is told in exactly one row of the table, and each volume in exactly one row as well, the first of the
block of its member.
-/

namespace ServiceCatalog.Output

open Service

/-- The cells of a config file. -/
def fileCells (config : MemberConfig) : List String := [config.fileName, config.fileId, config.md5]

/-- What the row with a number is like in the block of a member. -/
structure IsRow (m : Member) (number : Nat) (row : List String) : Prop where
  /-- The first row names the member, its zone and its volume. -/
  lead : row.take 3 = if number = 0 then [m.name, m.zone.getD "-", m.volumeId] else ["", "", ""]
  /-- Every row has the config file with its number, if there is any. -/
  file : row.drop 3 = (m.configs[number]?.map fileCells).getD ["-", "-", "-"]

/-- What the block of a member is like. -/
structure IsBlock (m : Member) (block : List (List String)) : Prop where
  length : block.length = max 1 m.configs.length
  row : ∀ number row, block[number]? = some row → IsRow m number row

theorem isBlock_memberRows (m : Member) : IsBlock m (memberRows m) := by
  unfold memberRows
  cases hconfigs : m.configs with
  | nil =>
    refine ⟨by rw [hconfigs]; rfl, fun number row hrow => ?_⟩
    cases number with
    | zero =>
      cases hrow
      exact ⟨rfl, by rw [hconfigs]; rfl⟩
    | succ => cases hrow
  | cons config more =>
    refine ⟨?_, fun number row hrow => ?_⟩
    · rw [hconfigs, List.length_cons, List.length_cons, List.length_map]
      omega
    · cases number with
      | zero =>
        cases hrow
        exact ⟨rfl, by rw [hconfigs]; rfl⟩
      | succ number =>
        rw [List.getElem?_cons_succ, List.getElem?_map, Option.map_eq_some_iff] at hrow
        obtain ⟨c, hc, rfl⟩ := hrow
        exact ⟨rfl, by rw [hconfigs, List.getElem?_cons_succ, hc]; rfl⟩

variable {members : List Member}

theorem length_rows_membersTable (members : List Member) :
    (membersTable members).rows.length = (members.map fun m => max 1 m.configs.length).sum := by
  rw [membersTable, List.length_flatMap]
  exact congrArg List.sum (List.map_congr_left fun m _ => (isBlock_memberRows m).length)

/-- Where the block of a member begins, behind those of all members before it. -/
def firstRow (members : List Member) (i : Nat) : Nat :=
  ((members.take i).map fun m => max 1 m.configs.length).sum

/-- Whatever one member is changed to, the rows of the members before it and behind it stay. -/
theorem exists_rows_modify {i : Nat} (hi : i < members.length) :
    ∃ before behind, before.length = firstRow members i ∧
      ∀ f, (membersTable (members.modify i f)).rows = before ++ memberRows (f members[i]) ++ behind := by
  refine ⟨(membersTable (members.take i)).rows, (membersTable (members.drop (i + 1))).rows,
    length_rows_membersTable _, fun f => ?_⟩
  simp only [membersTable, List.modify_eq_take_cons_drop hi, List.flatMap_append, List.flatMap_cons,
    List.append_assoc]

theorem exists_row_modify {i : Nat} (hi : i < members.length) (f : Member → Member) {number : Nat}
    (hnumber : number < max 1 (f members[i]).configs.length) :
    ∃ row, (membersTable (members.modify i f)).rows[firstRow members i + number]? = some row ∧
      IsRow (f members[i]) number row := by
  obtain ⟨before, behind, hbefore, hrows⟩ := exists_rows_modify hi
  have hblock := isBlock_memberRows (f members[i])
  have hlt : number < (memberRows (f members[i])).length := by rwa [hblock.length]
  refine ⟨_, ?_, hblock.row number _ (List.getElem?_eq_getElem hlt)⟩
  rw [hrows, ← hbefore, List.append_assoc, List.getElem?_append_right (Nat.le_add_right _ _),
    Nat.add_sub_cancel_left, List.getElem?_append_left hlt, List.getElem?_eq_getElem hlt]

theorem getElem?_rows_modify_of_outside {i : Nat} (hi : i < members.length) {f g : Member → Member} {length r : Nat}
    (hf : (f members[i]).configs.length = length) (hg : (g members[i]).configs.length = length)
    (hr : r < firstRow members i ∨ firstRow members i + max 1 length ≤ r) :
    (membersTable (members.modify i f)).rows[r]? = (membersTable (members.modify i g)).rows[r]? := by
  obtain ⟨before, behind, hbefore, hrows⟩ := exists_rows_modify hi
  rw [hrows, hrows, List.append_assoc, List.append_assoc]
  rw [← hbefore] at hr
  obtain hfront | hback := hr
  · rw [List.getElem?_append_left hfront, List.getElem?_append_left hfront]
  · have hlength {h : Member → Member} (hh : (h members[i]).configs.length = length) :
        (memberRows (h members[i])).length = max 1 length := by
      rw [(isBlock_memberRows _).length, hh]
    have hle : before.length ≤ r := Nat.le_of_add_right_le hback
    have hbehind : max 1 length ≤ r - before.length := Nat.le_sub_of_add_le' hback
    rw [List.getElem?_append_right hle, List.getElem?_append_right hle,
      List.getElem?_append_right (by rwa [hlength hf]), List.getElem?_append_right (by rwa [hlength hg]),
      hlength hf, hlength hg]

/-- A row tells a part of a member if some of its cells show whatever is put in place of the part. That other rows may
have the same cells by chance does not count. -/
def Tells {α : Type} (members : List Member) (i : Nat) (put : α → Member → Member)
    (cells : List String → List String) (shown : α → List String) (r : Nat) : Prop :=
  ∀ a, (membersTable (members.modify i (put a))).rows[r]?.map cells = some (shown a)

/-- If only one row of the block of a member depends on a part of it, it is the only one of all rows to tell the part. -/
theorem tells_iff {α : Type} {i : Nat} (hi : i < members.length) {put : α → Member → Member}
    {cells : List String → List String} {shown : α → List String} {number : Nat}
    (hlength : ∀ a, (put a members[i]).configs.length = members[i].configs.length)
    (hnumber : number < max 1 members[i].configs.length)
    (hrow : ∀ a row, IsRow (put a members[i]) number row → cells row = shown a)
    (hother : ∀ k, k ≠ number → ∃ other, ∀ a row, IsRow (put a members[i]) k row → cells row = other)
    (hshown : ∃ a b, shown a ≠ shown b) (r : Nat) :
    Tells members i put cells shown r ↔ r = firstRow members i + number := by
  constructor
  · intro htells
    by_contra hne
    -- Any other row has the same cells for two values that are shown differently.
    obtain ⟨a, b, hab⟩ := hshown
    refine hab (Option.some.inj ?_)
    rw [← htells a, ← htells b]
    by_cases hinside : ∃ k < max 1 members[i].configs.length, r = firstRow members i + k
    · obtain ⟨k, hk, rfl⟩ := hinside
      obtain ⟨rowA, hrowA, hisA⟩ := exists_row_modify hi (put a) (by rwa [hlength])
      obtain ⟨rowB, hrowB, hisB⟩ := exists_row_modify hi (put b) (by rwa [hlength])
      obtain ⟨other, hsame⟩ := hother k fun hsame => hne (by rw [hsame])
      rw [hrowA, hrowB, Option.map_some, Option.map_some, hsame a _ hisA, hsame b _ hisB]
    · have houtside : r < firstRow members i ∨ firstRow members i + max 1 members[i].configs.length ≤ r := by
        by_contra hnot
        exact hinside ⟨r - firstRow members i, by omega, by omega⟩
      rw [getElem?_rows_modify_of_outside hi (hlength a) (hlength b) houtside]
  · rintro rfl a
    obtain ⟨row, hget, his⟩ := exists_row_modify hi (put a) (by rwa [hlength])
    rw [hget, Option.map_some, hrow a row his]

/-- A row tells the config file with a number of a member. -/
def TellsFile (members : List Member) (i number : Nat) : Nat → Prop :=
  Tells members i (fun config m => { m with configs := m.configs.set number config }) (List.drop 3) fileCells

/-- A row tells the volume of a member. -/
def TellsVolume (members : List Member) (i : Nat) : Nat → Prop :=
  Tells members i (fun volumeId m => { m with volumeId }) (fun row => (row.take 3).drop 2) fun volumeId => [volumeId]

theorem tellsFile_iff {i : Nat} (hi : i < members.length) {number : Nat} (hnumber : number < members[i].configs.length)
    (r : Nat) : TellsFile members i number r ↔ r = firstRow members i + number := by
  refine tells_iff hi (fun _ => List.length_set) (by omega) (fun config row his => ?_) (fun k hk => ?_)
    ⟨⟨"a", "", ""⟩, ⟨"b", "", ""⟩, by decide⟩ r
  · rw [his.file, List.getElem?_set_self hnumber]
    rfl
  · refine ⟨(members[i].configs[k]?.map fileCells).getD ["-", "-", "-"], fun config row his => ?_⟩
    rw [his.file, List.getElem?_set_ne (Ne.symm hk)]

theorem tellsVolume_iff {i : Nat} (hi : i < members.length) (r : Nat) :
    TellsVolume members i r ↔ r = firstRow members i := by
  change _ ↔ r = firstRow members i + 0
  refine tells_iff hi (fun _ => rfl) (by omega) (fun volumeId row his => ?_) (fun k hk => ?_)
    ⟨"a", "b", by decide⟩ r
  · rw [his.lead, if_pos rfl]
    rfl
  · refine ⟨[""], fun volumeId row his => ?_⟩
    rw [his.lead, if_neg hk]
    rfl

/-- For every list of members, the rows of their table are their blocks one behind the other, so that there are as many
as all members have config files, those without any counting for one. Of all these rows exactly one tells the config file
with a given number of a given member, and exactly one tells the volume of the member: the first row of its block. -/
theorem membersTable_rows (members : List Member) :
    (∃ blocks, (membersTable members).rows = blocks.flatten ∧ List.Forall₂ IsBlock members blocks) ∧
    (membersTable members).rows.length = (members.map fun m => max 1 m.configs.length).sum ∧
    ∀ i : Fin members.length,
      (∀ number : Fin members[i].configs.length, ∀ r,
        TellsFile members i number r ↔ r = firstRow members i + number) ∧
      ∀ r, TellsVolume members i r ↔ r = firstRow members i := by
  refine ⟨⟨members.map memberRows, List.flatMap_def .., ?_⟩, length_rows_membersTable members, fun i => ⟨?_, ?_⟩⟩
  · rw [List.forall₂_map_right_iff, List.forall₂_same]
    exact fun m _ => isBlock_memberRows m
  · exact fun number r => tellsFile_iff i.isLt number.isLt r
  · exact fun r => tellsVolume_iff i.isLt r

end ServiceCatalog.Output
