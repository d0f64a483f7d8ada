import ServiceCatalog.Output.Format
import ServiceCatalog.Proofs.Json.Record
import ServiceCatalog.Request.Create

/-!
# Values on the wire

Every value that is sent or received is read back from its JSON form, whatever its texts and numbers are and whichever
of its optional parts are there. The lists of members and the config files that are printed for machines are read back
as well, although their fields are printed in the order of their keys.
-/

namespace ServiceCatalog

open Json

/-! ## Parts -/

theorem Json.int64?_integer (n : Int64) : int64? (integer n.toInt) = some n := by
  have hmin : Int64.minValue.toInt ≤ n.toInt := Int64.minValue_le_toInt n
  have hmax : n.toInt ≤ Int64.maxValue.toInt := Int64.toInt_le n
  rw [integer, int64?, if_pos ⟨hmin, hmax⟩, Int64.ofInt_toInt]

theorem Json.exact_int64 (n : Int64) : (integer n.toInt).exact := by
  have hmin := n.le_toInt
  have hmax := n.toInt_lt
  simp only [integer, exact, Text.minInt64, Text.maxWord64]
  omega

namespace Request

theorem kind_readsBack : ReadsBack 0 kindToJson kindOfJson? where
  exact kind := by cases kind <;> trivial
  depth _ := .refl
  read kind := by cases kind <;> decide

end Request

/-! ## Services -/

namespace Service

theorem Identity.readsBack : ReadsBack 1 Identity.toJson Identity.ofJson? where
  exact _ := ⟨trivial, trivial, trivial, trivial⟩
  depth _ := .refl
  read s := by simp [Identity.toJson, Identity.ofJson?, record?, single?, valuesOf, required?, text?]

theorem Resources.readsBack : ReadsBack 1 Resources.toJson Resources.ofJson? where
  exact r := ⟨exact_int64 _, exact_int64 _, exact_int64 _, exact_int64 _, trivial⟩
  depth _ := .refl
  read r := by simp [Resources.toJson, Resources.ofJson?, record?, single?, valuesOf, required?, int64?_integer]

theorem Credentials.readsBack : ReadsBack 1 Credentials.toJson Credentials.ofJson? where
  exact _ := ⟨trivial, trivial, trivial⟩
  depth _ := .refl
  read c := by simp [Credentials.toJson, Credentials.ofJson?, record?, single?, valuesOf, required?, text?]

theorem MemberConfig.readsBack : ReadsBack 1 MemberConfig.toJson MemberConfig.ofJson? where
  exact _ := ⟨trivial, trivial, trivial, trivial⟩
  depth _ := .refl
  read c := by
    simp [MemberConfig.toJson, MemberConfig.ofJson?, record?, single?, valuesOf, required?, withDefault?, text?]

theorem Member.readsBack : ReadsBack 3 Member.toJson Member.ofJson? where
  exact m := by
    have hconfigs := MemberConfig.readsBack.list.exact m.configs
    cases hzone : m.zone <;> simpa [Member.toJson, hzone, exact, exactFields] using hconfigs
  depth m := by
    have hconfigs := MemberConfig.readsBack.list.depth m.configs
    cases hzone : m.zone <;> simp [Member.toJson, hzone, depth, depthOfFields] at hconfigs ⊢ <;> omega
  read m := by
    obtain ⟨name, zone, volumeId, configs⟩ := m
    have hconfigs := MemberConfig.readsBack.list.read configs
    cases zone <;>
      simp [Member.toJson, Member.ofJson?, record?, single?, valuesOf, required?, withDefault?, nullable?, text?,
        hconfigs]

theorem ConfigFile.readsBack : ReadsBack 1 ConfigFile.toJson ConfigFile.ofJson? where
  exact _ := ⟨trivial, trivial, trivial, trivial, trivial⟩
  depth _ := .refl
  read f := by
    simp [ConfigFile.toJson, ConfigFile.ofJson?, record?, single?, valuesOf, required?, withDefault?, text?]

end Service

/-! ## Requests about services that exist -/

namespace Request

open Service

theorem CheckInit.readsBack : ReadsBack 2 CheckInit.toJson CheckInit.ofJson? where
  exact r :=
    ⟨kind_readsBack.exact r.kind, Identity.readsBack.exact r.service, Credentials.readsBack.exact r.admin, trivial⟩
  depth _ := .refl
  read r := by
    simp [CheckInit.toJson, CheckInit.ofJson?, record?, single?, valuesOf, required?, kind_readsBack.read,
      Identity.readsBack.read, Credentials.readsBack.read]

theorem ListServices.readsBack : ReadsBack 1 ListServices.toJson ListServices.ofJson? where
  exact _ := ⟨trivial, trivial, trivial, trivial⟩
  depth _ := .refl
  read r := by
    simp [ListServices.toJson, ListServices.ofJson?, record?, single?, valuesOf, required?, withDefault?, text?]

theorem GetConfigFile.readsBack : ReadsBack 1 GetConfigFile.toJson GetConfigFile.ofJson? where
  exact _ := ⟨trivial, trivial, trivial, trivial, trivial⟩
  depth _ := .refl
  read r := by simp [GetConfigFile.toJson, GetConfigFile.ofJson?, record?, single?, valuesOf, required?, text?]

end Request

/-! ## Results in the order of their keys -/

namespace Service

theorem MemberConfig.readsBack_sorted : ReadsBack 1 (fun c => (MemberConfig.toJson c).sorted) MemberConfig.ofJson? :=
  MemberConfig.readsBack.sorted fun c => by
    rw [MemberConfig.ofJson?, MemberConfig.toJson, record?_sorted (by simp)]
    simp [record?, single?, valuesOf, required?, withDefault?, text?, sorted]

theorem Member.readsBack_sorted : ReadsBack 3 (fun m => (Member.toJson m).sorted) Member.ofJson? :=
  Member.readsBack.sorted fun m => by
    obtain ⟨name, zone, volumeId, configs⟩ := m
    have hconfigs := MemberConfig.readsBack_sorted.list.read configs
    rw [Member.ofJson?, Member.toJson, record?_sorted (by cases zone <;> simp)]
    cases zone <;>
      simp [record?, single?, valuesOf, required?, withDefault?, nullable?, text?, sorted, sortedItems_eq_map,
        Function.comp_def, hconfigs]

theorem ConfigFile.readsBack_sorted : ReadsBack 1 (fun f => (ConfigFile.toJson f).sorted) ConfigFile.ofJson? :=
  ConfigFile.readsBack.sorted fun f => by
    rw [ConfigFile.ofJson?, ConfigFile.toJson, record?_sorted (by simp)]
    simp [record?, single?, valuesOf, required?, withDefault?, text?, sorted]

end Service

theorem Output.print_members_json (members : List Service.Member) :
    print .json (.members members) = (Json.array (members.map fun m => m.toJson.sorted)).spread ++ "\n" := by
  rw [print, printValue, payload, sorted, sortedItems_eq_map, List.map_map]
  · rfl
  all_goals nofun

/-- Every value on the wire is read back from its text, and so are the lists of members and the config files that are
printed as JSON. -/
theorem wire_forms_read_back :
    (∀ s, ReadAs Service.Identity.ofJson? s.toJson.compact s) ∧
    (∀ r, ReadAs Service.Resources.ofJson? r.toJson.compact r) ∧
    (∀ c, ReadAs Service.Credentials.ofJson? c.toJson.compact c) ∧
    (∀ r, ReadAs Request.CheckInit.ofJson? r.toJson.compact r) ∧
    (∀ r, ReadAs Request.ListServices.ofJson? r.toJson.compact r) ∧
    (∀ r, ReadAs Request.GetConfigFile.ofJson? r.toJson.compact r) ∧
    (∀ c, ReadAs Service.MemberConfig.ofJson? c.toJson.compact c) ∧
    (∀ m, ReadAs Service.Member.ofJson? m.toJson.compact m) ∧
    (∀ f, ReadAs Service.ConfigFile.ofJson? f.toJson.compact f) ∧
    (∀ members, ReadAs (list? Service.Member.ofJson?) (Output.print .json (.members members)) members) ∧
    (∀ file, ReadAs Service.ConfigFile.ofJson? (Output.print .json (.configFile file)) file) := by
  refine ⟨Service.Identity.readsBack.compact ?_, Service.Resources.readsBack.compact ?_,
    Service.Credentials.readsBack.compact ?_, Request.CheckInit.readsBack.compact ?_,
    Request.ListServices.readsBack.compact ?_, Request.GetConfigFile.readsBack.compact ?_,
    Service.MemberConfig.readsBack.compact ?_, Service.Member.readsBack.compact ?_,
    Service.ConfigFile.readsBack.compact ?_, fun members => ?_, Service.ConfigFile.readsBack_sorted.spread ?_⟩
  case refine_10 =>
    rw [Output.print_members_json]
    exact Service.Member.readsBack_sorted.list.spread (by decide) members
  all_goals decide

end ServiceCatalog
