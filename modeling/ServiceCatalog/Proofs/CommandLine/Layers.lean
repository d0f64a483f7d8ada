import ServiceCatalog.Proofs.CommandLine.Written

/-!
# Layers of settings

A setting comes from the command line, or else from its variable, or else from the chosen profile, or else it has its
standard value.
-/

namespace ServiceCatalog.CommandLine

open Progress Text

/-! ## What options give -/

/-- The value that an option has for a setting. -/
def Item.valueFor? (name : String) : Item → Option String
  | .value s text => if s.name = name then some text else none
  | .flag _ => none

theorem Item.valueFor?_self (s : Setting) (text : String) : (Item.value s text).valueFor? s.name = some text :=
  if_pos rfl

theorem Item.valueFor?_of_ne {s : Setting} {name : String} (h : s.name ≠ name) (text : String) :
    (Item.value s text).valueFor? name = none := if_neg h

/-- Whether an option raises a flag. -/
def Item.raises (name : String) : Item → Bool
  | .flag f => f.name = name
  | .value _ _ => false

/-- The value that options give a setting. Options that can be read give it no more than once. -/
def valueOf? (name : String) (items : List Item) : Option String := (items.filterMap (Item.valueFor? name)).getLast?

/-- Whether options raise a flag. -/
def raises (name : String) (items : List Item) : Bool := items.any (Item.raises name)

/-- An option that there is. -/
def Item.Known : Item → Prop
  | .value s _ => s ∈ settings
  | .flag f => f ∈ flags

theorem known_of_writes {words : List String} {items : List Item} (h : Writes words items) :
    ∀ item ∈ items, item.Known := by
  have hflags {cs : List Char} {fs : List Flag} (hspells : Spells cs fs) : ∀ item ∈ fs.map Item.flag, item.Known := by
    simp only [List.forall_mem_map]
    induction hspells with
    | nil => simp
    | cons hf _ ih =>
      rw [List.forall_mem_cons]
      exact ⟨hf.1, ih⟩
  induction h with
  | nil => simp
  | stop => simp
  | flag hf _ ih => exact List.forall_mem_cons.mpr ⟨hf, ih⟩
  | spaced hs _ _ ih => exact List.forall_mem_cons.mpr ⟨hs, ih⟩
  | joined hs _ ih => exact List.forall_mem_cons.mpr ⟨hs, ih⟩
  | letters hspells _ ih => exact List.forall_mem_append.mpr ⟨hflags hspells, ih⟩
  | letterSpaced hspells hs _ _ _ ih =>
    exact List.forall_mem_append.mpr ⟨hflags hspells, List.forall_mem_cons.mpr ⟨hs, ih⟩⟩
  | letterJoined hspells hs _ _ _ ih =>
    exact List.forall_mem_append.mpr ⟨hflags hspells, List.forall_mem_cons.mpr ⟨hs, ih⟩⟩

/-- A part of the options that follows from the options given: each of them puts something new there or leaves it. -/
structure Tracks {β : Type} (get : Options → β) (effect : Item → Option β) : Prop where
  put : ∀ s ∈ settings, ∀ text o o', s.put text o = .ok o' → get o' = (effect (.value s text)).getD (get o)
  change : ∀ f ∈ flags, ∀ change, f.effect = .sets change → ∀ o, get (change o) = (effect (.flag f)).getD (get o)
  count : ∀ f ∈ flags, f.effect = .counts → ∀ o n, get { o with verbose := n } = (effect (.flag f)).getD (get o)

namespace Tracks

variable {β : Type} {get : Options → β} {effect : Item → Option β} {p q : Progress} {items : List Item}

theorem give (h : Tracks get effect) (hp : p.pending = none) {item : Item} (hknown : item.Known)
    (hgive : p.give item = .ok q) : get q.options = (effect item).getD (get p.options) := by
  cases item with
  | value s text =>
    change p.assign s text = .ok q at hgive
    unfold assign at hgive
    split at hgive
    · cases hgive
    · obtain ⟨o, ho, rfl⟩ := map_eq_ok_iff.mp hgive
      exact h.put s hknown text p.options o ho
  | flag f =>
    change p.raise f = .ok q at hgive
    unfold raise at hgive
    rw [settle_of_pending hp] at hgive
    dsimp only [Except.bind] at hgive
    split at hgive
    · cases hgive
    · rename_i hcounts
      cases hgive
      exact h.count f hknown hcounts p.options _
    · rename_i change hsets
      split at hgive
      · cases hgive
      · cases hgive
        exact h.change f hknown change hsets p.options

theorem foldlM (h : Tracks get effect) (hp : p.pending = none) (hknown : ∀ item ∈ items, item.Known)
    (hgiven : items.foldlM Progress.give p = .ok q) :
    get q.options = (items.filterMap effect).getLast?.getD (get p.options) := by
  induction items generalizing p with
  | nil =>
    cases hgiven
    rfl
  | cons item items ih =>
    obtain ⟨r, hr, hrest⟩ := bind_eq_ok_iff.mp hgiven
    rw [List.forall_mem_cons] at hknown
    rw [ih (pending_of_give hp hr) hknown.2 hrest, h.give hp hknown.1 hr]
    cases heffect : effect item with
    | none => rw [List.filterMap_cons_none heffect, Option.getD_none]
    | some b =>
      rw [List.filterMap_cons_some heffect, List.getLast?_cons, Option.getD_some, Option.getD_some]

end Tracks

/-! ## What the environment gives -/

/-- What the environment gives to a setting that was not given before: the value of its variable. -/
def variableItem? (env : Environment) (given : List String) (s : Setting) : Option Item :=
  if s.name ∈ given then none else (s.variableName.bind env.get?).map (.value s)

theorem fromVariable_eq (env : Environment) (p : Progress) (s : Setting) :
    fromVariable env p s = (variableItem? env p.given s).elim (.ok p) p.give := by
  unfold fromVariable variableItem?
  by_cases hgiven : s.name ∈ p.given
  · rw [if_pos hgiven]
    split
    · rfl
    · simp [hgiven]
  · rw [if_neg hgiven]
    split
    · rename_i hvalue
      simp [hvalue]
    · rename_i text hvalue
      simp [hvalue, hgiven, give]

theorem variableItem?_eq_some_iff {env : Environment} {given : List String} {s : Setting} {item : Item} :
    variableItem? env given s = some item ↔
      s.name ∉ given ∧ ∃ text, s.variableName.bind env.get? = some text ∧ .value s text = item := by
  unfold variableItem?
  by_cases hgiven : s.name ∈ given
  · simp [hgiven]
  · rw [if_neg hgiven, Option.map_eq_some_iff]
    simp [hgiven]

theorem given_of_assign {p q : Progress} {s : Setting} {text : String} (h : p.assign s text = .ok q) :
    q.given = s.name :: p.given := by
  unfold assign at h
  split at h
  · cases h
  · obtain ⟨_, -, rfl⟩ := map_eq_ok_iff.mp h
    rfl

/-- Taking values from variables comes down to giving them. -/
theorem foldlM_fromVariable (env : Environment) {ss : List Setting} (hnames : (ss.map Setting.name).Nodup)
    (p : Progress) :
    ss.foldlM (fromVariable env) p = (ss.filterMap (variableItem? env p.given)).foldlM give p := by
  induction ss generalizing p with
  | nil => rfl
  | cons s ss ih =>
    rw [List.map_cons, List.nodup_cons] at hnames
    rw [List.foldlM_cons, fromVariable_eq]
    cases hitem : variableItem? env p.given s with
    | none =>
      rw [List.filterMap_cons_none hitem]
      exact ih hnames.2 p
    | some item =>
      obtain ⟨-, text, -, rfl⟩ := variableItem?_eq_some_iff.mp hitem
      rw [List.filterMap_cons_some hitem, List.foldlM_cons]
      refine bind_congr_of_ok fun q hq => ?_
      -- That this setting is given now does not matter to the others, whose names are different.
      have hothers : ss.filterMap (variableItem? env q.given) = ss.filterMap (variableItem? env p.given) := by
        refine List.filterMap_congr fun t ht => ?_
        have hne : t.name ≠ s.name := fun heq => hnames.1 (heq ▸ List.mem_map_of_mem ht)
        simp [variableItem?, given_of_assign hq, hne]
      rw [ih hnames.2 q, hothers]

theorem known_of_mem_variableItems (env : Environment) (given : List String) :
    ∀ item ∈ settings.filterMap (variableItem? env given), item.Known := by
  intro item hitem
  obtain ⟨s, hs, hvalue⟩ := List.mem_filterMap.mp hitem
  obtain ⟨-, text, -, rfl⟩ := variableItem?_eq_some_iff.mp hvalue
  exact hs

/-- The environment gives a setting the value of its variable, unless the setting was given before. -/
theorem valueOf?_variableItems (env : Environment) (given : List String) {s : Setting} (hs : s ∈ settings) :
    valueOf? s.name (settings.filterMap (variableItem? env given)) =
      if s.name ∈ given then none else s.variableName.bind env.get? := by
  obtain ⟨front, back, hsplit⟩ := List.append_of_mem hs
  have hnodup := nodup_names
  rw [hsplit, List.map_append, List.map_cons, List.nodup_middle, List.nodup_cons, List.mem_append] at hnodup
  have hother {ss : List Setting} (hss : s.name ∉ ss.map Setting.name) :
      ss.filterMap (fun t => (variableItem? env given t).bind (Item.valueFor? s.name)) = [] := by
    refine List.filterMap_eq_nil_iff.mpr fun t ht => ?_
    have hname : t.name ≠ s.name := fun heq => hss (heq ▸ List.mem_map_of_mem ht)
    cases hitem : variableItem? env given t with
    | none => rfl
    | some item =>
      obtain ⟨-, text, -, rfl⟩ := variableItem?_eq_some_iff.mp hitem
      exact Item.valueFor?_of_ne hname text
  have hown : (variableItem? env given s).bind (Item.valueFor? s.name) =
      if s.name ∈ given then none else s.variableName.bind env.get? := by
    unfold variableItem?
    split
    · rfl
    · cases s.variableName.bind env.get? with
      | none => rfl
      | some text => exact Item.valueFor?_self s text
  unfold valueOf?
  rw [List.filterMap_filterMap, hsplit, List.filterMap_append, List.filterMap_cons, hown,
    hother (mt Or.inl hnodup.1), hother (mt Or.inr hnodup.1)]
  cases (if s.name ∈ given then none else s.variableName.bind env.get?) <;> rfl

theorem name_ne_of_flag {s : Setting} (hs : s ∈ settings) {f : Flag} (hf : f ∈ flags) : s.name ≠ f.name := by
  have hnone := (find?_name_of_flag hf).1
  rw [List.find?_eq_none] at hnone
  simpa using hnone s hs

theorem given_of_raise {p q : Progress} {f : Flag} (hp : p.pending = none) (h : p.raise f = .ok q) :
    q.given = p.given ∨ q.given = f.name :: p.given := by
  unfold raise at h
  rw [settle_of_pending hp] at h
  dsimp only [Except.bind] at h
  split at h
  · cases h
  · cases h
    exact Or.inl rfl
  · split at h
    · cases h
    · cases h
      exact Or.inr rfl

theorem mem_given_of_give {p q : Progress} {item : Item} (hp : p.pending = none) (hknown : item.Known)
    (hgive : p.give item = .ok q) {s : Setting} (hs : s ∈ settings) :
    s.name ∈ q.given ↔ s.name ∈ p.given ∨ (item.valueFor? s.name).isSome = true := by
  cases item with
  | value t text =>
    rw [given_of_assign hgive, List.mem_cons]
    by_cases hname : t.name = s.name
    · simp [Item.valueFor?, hname]
    · simp [Item.valueFor?, hname, Ne.symm hname]
  | flag f =>
    have hname := name_ne_of_flag hs hknown
    obtain hsame | hmore := given_of_raise hp hgive
    · simp [Item.valueFor?, hsame]
    · simp [Item.valueFor?, hmore, hname]

/-- A setting counts as given once an option gives it a value. -/
theorem mem_given_iff {p q : Progress} {items : List Item} (hp : p.pending = none) (hknown : ∀ item ∈ items, item.Known)
    (hgiven : items.foldlM give p = .ok q) {s : Setting} (hs : s ∈ settings) :
    s.name ∈ q.given ↔ s.name ∈ p.given ∨ (valueOf? s.name items).isSome = true := by
  induction items generalizing p with
  | nil =>
    cases hgiven
    simp [valueOf?]
  | cons item items ih =>
    obtain ⟨r, hr, hrest⟩ := bind_eq_ok_iff.mp hgiven
    rw [List.forall_mem_cons] at hknown
    rw [ih (pending_of_give hp hr) hknown.2 hrest, mem_given_of_give hp hknown.1 hr hs, or_assoc]
    cases hvalue : item.valueFor? s.name with
    | none => simp [valueOf?, hvalue]
    | some text => simp [valueOf?, hvalue, List.getLast?_cons]

/-- Options can give a value to a setting that was not given before, and no more than once. -/
theorem length_valuesFor_le {p q : Progress} {items : List Item} (hp : p.pending = none)
    (hgiven : items.foldlM give p = .ok q) (name : String) :
    (name ∈ p.given → items.filterMap (Item.valueFor? name) = []) ∧
      (items.filterMap (Item.valueFor? name)).length ≤ 1 := by
  induction items generalizing p with
  | nil => simp
  | cons item items ih =>
    obtain ⟨r, hr, hrest⟩ := bind_eq_ok_iff.mp hgiven
    obtain ⟨hnone, hone⟩ := ih (pending_of_give hp hr) hrest
    cases item with
    | value s text =>
      have hnew : s.name ∉ p.given := by
        intro hold
        simp [give, assign, hold] at hr
      rw [given_of_assign hr, List.mem_cons] at hnone
      by_cases hname : s.name = name
      · subst hname
        rw [List.filterMap_cons_some (Item.valueFor?_self s text), hnone (Or.inl rfl)]
        exact ⟨fun hold => absurd hold hnew, le_rfl⟩
      · rw [List.filterMap_cons_none (Item.valueFor?_of_ne hname text)]
        exact ⟨fun hold => hnone (Or.inr hold), hone⟩
    | flag f =>
      rw [List.filterMap_cons_none rfl]
      refine ⟨fun hold => hnone ?_, hone⟩
      obtain hsame | hmore := given_of_raise hp hr
      · rwa [hsame]
      · rw [hmore]
        exact List.mem_cons_of_mem _ hold

theorem exists_put_of_foldlM {p q : Progress} {items : List Item} (hgiven : items.foldlM give p = .ok q) {s : Setting}
    {text : String} (hmem : .value s text ∈ items) : ∃ o o', s.put text o = .ok o' := by
  induction items generalizing p with
  | nil => cases hmem
  | cons item items ih =>
    obtain ⟨r, hr, hrest⟩ := bind_eq_ok_iff.mp hgiven
    cases hmem with
    | head =>
      change p.assign s text = .ok r at hr
      unfold assign at hr
      split at hr
      · cases hr
      · obtain ⟨o', ho', -⟩ := map_eq_ok_iff.mp hr
        exact ⟨p.options, o', ho'⟩
    | tail _ hmem => exact ih hrest hmem

theorem mem_of_valueOf? {name text : String} {items : List Item} (h : valueOf? name items = some text) :
    ∃ s, .value s text ∈ items ∧ s.name = name := by
  obtain ⟨item, hitem, hvalue⟩ := List.mem_filterMap.mp (List.mem_of_getLast? h)
  cases item with
  | flag f => cases hvalue
  | value s own =>
    by_cases hname : s.name = name
    · subst hname
      rw [Item.valueFor?_self, Option.some.injEq] at hvalue
      exact ⟨s, hvalue ▸ hitem, rfl⟩
    · rw [Item.valueFor?_of_ne hname] at hvalue
      cases hvalue

/-! ## What the words and the environment give together -/

/-- The options of a run are those of its words, followed by those of the variables of settings that the words do not
give. -/
theorem exists_given_of_parse {env : Environment} {words : List String} {items : List Item} {o : Options}
    (hwrites : Writes words items) (h : parse env words = .ok o) :
    ∃ given, (∀ s ∈ settings, s.name ∈ given ↔ (valueOf? s.name items).isSome = true) ∧
      ∃ q, (items ++ settings.filterMap (variableItem? env given)).foldlM give {} = .ok q ∧ q.options = o := by
  obtain ⟨p, hp, h⟩ := bind_eq_ok_iff.mp h
  obtain ⟨q, hq, h⟩ := bind_eq_ok_iff.mp h
  have hitems : items.foldlM give {} = .ok p := by
    rw [readWords_of_writes hwrites rfl] at hp
    exact hp
  refine ⟨p.given, fun s hs => ?_, q, ?_, ?_⟩
  · rw [mem_given_iff rfl (known_of_writes hwrites) hitems hs]
    simp
  · rw [List.foldlM_append, hitems]
    exact (foldlM_fromVariable env nodup_names p).symm.trans hq
  · split at h
    · cases h
      rfl
    · cases h

/-- The words of a run give no setting a value more than once, and each value is one that the setting can have. -/
theorem given_of_parse {env : Environment} {words : List String} {items : List Item} {o : Options}
    (hwrites : Writes words items) (h : parse env words = .ok o) :
    (∀ name, (items.filterMap (Item.valueFor? name)).length ≤ 1) ∧
      ∀ s text, .value s text ∈ items → ∃ before after, s.put text before = .ok after := by
  obtain ⟨given, -, q, hq, -⟩ := exists_given_of_parse hwrites h
  rw [List.foldlM_append] at hq
  obtain ⟨p, hp, -⟩ := bind_eq_ok_iff.mp hq
  exact ⟨fun name => (length_valuesFor_le rfl hp name).2, fun s text hmem => exists_put_of_foldlM hp hmem⟩

namespace Tracks

variable {env : Environment} {words : List String} {items : List Item} {o : Options}

/-- A part that the value of a setting fills, read in some way, is filled from the words or else from the variable. -/
theorem get_of_parse {β : Type} {get : Options → Option β} {name : String} {read : String → Option β}
    (htracks : Tracks get fun item => (item.valueFor? name).map read) (hempty : get {} = none)
    {s : Setting} (hs : s ∈ settings) (hname : s.name = name) (hwrites : Writes words items)
    (h : parse env words = .ok o) :
    get o = ((valueOf? name items).or (s.variableName.bind env.get?)).bind read := by
  subst hname
  obtain ⟨given, hgiven, q, hq, rfl⟩ := exists_given_of_parse hwrites h
  have hknown := List.forall_mem_append.mpr ⟨known_of_writes hwrites, known_of_mem_variableItems env given⟩
  have hvalues (items : List Item) : (items.filterMap fun item => (item.valueFor? s.name).map read).getLast? =
      (valueOf? s.name items).map read := by
    rw [← List.map_filterMap, List.getLast?_map]
    rfl
  rw [htracks.foldlM rfl hknown hq, hempty, List.filterMap_append, List.getLast?_append, hvalues, hvalues,
    valueOf?_variableItems env given hs]
  have hmem := hgiven s hs
  cases hvalue : valueOf? s.name items with
  | none =>
    rw [hvalue] at hmem
    rw [if_neg (by simp [hmem])]
    cases s.variableName.bind env.get? <;> rfl
  | some text =>
    rw [hvalue] at hmem
    rw [if_pos (by simp [hmem])]
    rfl

/-- A part that a flag raises says whether the words have that flag. -/
theorem raised_of_parse {get : Options → Bool} {name : String}
    (htracks : Tracks get fun item => if item.raises name then some true else none) (hempty : get {} = false)
    (hwrites : Writes words items) (h : parse env words = .ok o) : get o = raises name items := by
  obtain ⟨given, -, q, hq, rfl⟩ := exists_given_of_parse hwrites h
  have hknown := List.forall_mem_append.mpr ⟨known_of_writes hwrites, known_of_mem_variableItems env given⟩
  have hlast (items : List Item) (before : Bool) :
      (items.filterMap fun item => if item.raises name then some true else none).getLast?.getD before =
        (before || raises name items) := by
    induction items generalizing before with
    | nil => simp [raises]
    | cons item items ih =>
      by_cases hraises : item.raises name = true
      · simp only [List.filterMap_cons, if_pos hraises, List.getLast?_cons, Option.getD_some, ih]
        simp [raises, hraises]
      · simp only [List.filterMap_cons, if_neg hraises, ih]
        simp [raises, hraises]
  have hvariables : raises name (settings.filterMap (variableItem? env given)) = false := by
    refine List.any_eq_false.mpr fun item hitem => ?_
    obtain ⟨s, -, hvalue⟩ := List.mem_filterMap.mp hitem
    obtain ⟨-, text, -, rfl⟩ := variableItem?_eq_some_iff.mp hvalue
    exact Bool.false_ne_true
  rw [htracks.foldlM rfl hknown hq, hlast, hempty]
  unfold raises at hvariables ⊢
  rw [List.any_append, hvariables, Bool.or_false, Bool.false_or]

end Tracks

end ServiceCatalog.CommandLine
