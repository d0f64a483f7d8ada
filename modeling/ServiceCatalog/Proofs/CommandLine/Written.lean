import Mathlib.Data.List.Forall2
import Mathlib.Data.List.Nodup
import Mathlib.Data.List.TakeWhile
import ServiceCatalog.CommandLine.Parser
import ServiceCatalog.Proofs.Results

/-!
# Command lines as they are written

A command line writes options one after another, each in one of a few forms. Reading it comes down to giving these
options in turn, and a line that can be read is written in that way.
-/

namespace ServiceCatalog.CommandLine

/-- An option as it is given: a setting with its value, or a flag. -/
inductive Item where
  | value (s : Setting) (text : String)
  | flag (f : Flag)

/-- Whether a word behind a setting is its value: it begins with no dash, or is only a dash, or is a negative number and
the setting one of numbers. -/
def Setting.Accepts (s : Setting) (word : String) : Prop :=
  word.toList.head? ≠ some '-' ∨ word = "-" ∨
    s.mayBeNegative = true ∧ ∃ digits, word.toList = '-' :: digits ∧ isNumber digits = true

/-- Letters that stand for flags. -/
abbrev Spells : List Char → List Flag → Prop := List.Forall₂ fun c f => f ∈ flags ∧ f.letter = some c

/-- The words of a command line, and the options that they write. -/
inductive Writes : List String → List Item → Prop
  | nil : Writes [] []
  | stop : Writes ["--"] []
  /-- A flag by its name. -/
  | flag {f : Flag} {words : List String} {items : List Item} :
    f ∈ flags → Writes words items → Writes (("--" ++ f.name) :: words) (.flag f :: items)
  /-- A setting by its name, with its value in the next word. -/
  | spaced {s : Setting} {text : String} {words : List String} {items : List Item} :
    s ∈ settings → s.Accepts text → Writes words items →
      Writes (("--" ++ s.name) :: text :: words) (.value s text :: items)
  /-- A setting by its name, with its value in the same word. -/
  | joined {s : Setting} {text : String} {words : List String} {items : List Item} :
    s ∈ settings → Writes words items → Writes (("--" ++ s.name ++ "=" ++ text) :: words) (.value s text :: items)
  /-- Flags by their letters. -/
  | letters {c : Char} {cs : List Char} {fs : List Flag} {words : List String} {items : List Item} :
    Spells (c :: cs) fs → Writes words items →
      Writes (String.ofList ('-' :: c :: cs) :: words) (fs.map .flag ++ items)
  /-- A setting by its letter behind those of flags, with its value in the next word. -/
  | letterSpaced {cs : List Char} {fs : List Flag} {c : Char} {s : Setting} {text : String} {words : List String}
      {items : List Item} :
    Spells cs fs → s ∈ settings → s.letter = some c → s.Accepts text → Writes words items →
      Writes (String.ofList ('-' :: (cs ++ [c])) :: text :: words) (fs.map .flag ++ .value s text :: items)
  /-- A setting by its letter behind those of flags, with its value in the same word. -/
  | letterJoined {cs : List Char} {fs : List Flag} {c : Char} {s : Setting} {mark text : List Char}
      {words : List String} {items : List Item} :
    Spells cs fs → s ∈ settings → s.letter = some c →
      (mark = ['='] ∨ mark = [] ∧ text ≠ [] ∧ text.head? ≠ some '=') → Writes words items →
      Writes (String.ofList ('-' :: (cs ++ c :: (mark ++ text))) :: words)
        (fs.map .flag ++ .value s (String.ofList text) :: items)

/-! ## Names and letters -/

theorem nodup_names : (settings.map Setting.name).Nodup := by decide

theorem find?_name {s : Setting} (hs : s ∈ settings) : settings.find? (·.name == s.name) = some s := by
  have hsome : (settings.find? (·.name == s.name)).isSome := List.find?_isSome.mpr ⟨s, hs, by simp⟩
  obtain ⟨found, hfound⟩ := Option.isSome_iff_exists.mp hsome
  have hname : found.name = s.name := by simpa using List.find?_some hfound
  rw [hfound, List.inj_on_of_nodup_map nodup_names (List.mem_of_find?_eq_some hfound) hs hname]

theorem find?_name_of_flag {f : Flag} (hf : f ∈ flags) :
    settings.find? (·.name == f.name) = none ∧ flags.find? (·.name == f.name) = some f := by
  simp only [flags, List.mem_cons, List.not_mem_nil, or_false] at hf
  obtain rfl | rfl | rfl | rfl | rfl := hf <;> exact ⟨rfl, rfl⟩

theorem find?_letter {s : Setting} (hs : s ∈ settings) {c : Char} (hc : s.letter = some c) :
    settings.find? (·.letter == some c) = some s := by
  have hlettered : s ∈ settings.filter (·.letter.isSome) := List.mem_filter.mpr ⟨hs, by simp [hc]⟩
  change s ∈ [_, _] at hlettered
  simp only [List.mem_cons, List.not_mem_nil, or_false] at hlettered
  obtain rfl | rfl := hlettered <;> cases hc <;> rfl

theorem find?_letter_of_flag {f : Flag} (hf : f ∈ flags) {c : Char} (hc : f.letter = some c) :
    settings.find? (·.letter == some c) = none ∧ flags.find? (·.letter == some c) = some f := by
  simp only [flags, List.mem_cons, List.not_mem_nil, or_false] at hf
  obtain rfl | rfl | rfl | rfl | rfl := hf <;> cases hc <;> exact ⟨rfl, rfl⟩

theorem plain_setting {s : Setting} (hs : s ∈ settings) : s.name.toList ≠ [] ∧ '=' ∉ s.name.toList := by
  have hall : ∀ name ∈ settings.map Setting.name, name.toList ≠ [] ∧ '=' ∉ name.toList := by decide
  exact hall s.name (List.mem_map_of_mem hs)

theorem plain_flag {f : Flag} (hf : f ∈ flags) : f.name.toList ≠ [] ∧ '=' ∉ f.name.toList := by
  have hall : ∀ name ∈ flags.map Flag.name, name.toList ≠ [] ∧ '=' ∉ name.toList := by decide
  exact hall f.name (List.mem_map_of_mem hf)

/-- No letter is a dash. -/
theorem letter_ne_dash {s : Setting} (hs : s ∈ settings) : s.letter ≠ some '-' := by
  have hall : ∀ letter ∈ settings.map Setting.letter, letter ≠ some '-' := by decide
  exact hall s.letter (List.mem_map_of_mem hs)

theorem letter_ne_dash_of_flag {f : Flag} (hf : f ∈ flags) : f.letter ≠ some '-' := by
  have hall : ∀ letter ∈ flags.map Flag.letter, letter ≠ some '-' := by decide
  exact hall f.letter (List.mem_map_of_mem hf)

theorem cutAtEquals_of_not_mem {name : List Char} (h : '=' ∉ name) : cutAtEquals name = (name, none) := by
  have hdrop : name.dropWhile (· != '=') = [] := by
    rw [List.dropWhile_eq_nil_iff]
    intro c hc
    exact bne_iff_ne.mpr fun heq => h (heq ▸ hc)
  unfold cutAtEquals
  rw [hdrop]

theorem cutAtEquals_append {name : List Char} (h : '=' ∉ name) (value : List Char) :
    cutAtEquals (name ++ '=' :: value) = (name, some value) := by
  have hname : ∀ c ∈ name, (c != '=') = true := fun c hc => bne_iff_ne.mpr fun heq => h (heq ▸ hc)
  have hdrop : (name ++ '=' :: value).dropWhile (· != '=') = '=' :: value := by
    rw [List.dropWhile_append_of_pos hname]
    rfl
  have htake : (name ++ '=' :: value).takeWhile (· != '=') = name := by
    rw [List.takeWhile_append_of_pos hname]
    simp
  unfold cutAtEquals
  rw [hdrop, htake]

theorem of_cutAtEquals {cs name : List Char} {value : Option (List Char)} (h : cutAtEquals cs = (name, value)) :
    cs = name ++ (value.elim [] ('=' :: ·)) := by
  unfold cutAtEquals at h
  have hsplit := List.takeWhile_append_dropWhile (p := (· != '=')) (l := cs)
  split at h
  · cases h
    simp
  · rename_i d back hdrop
    cases h
    have hd : d = '=' := by
      have hfirst := List.head?_dropWhile_not (· != '=') cs
      rw [hdrop] at hfirst
      simpa using hfirst
    subst hd
    rw [hdrop] at hsplit
    exact hsplit.symm

/-! ## Steps of the reader -/

namespace Progress

/-- Gives an option. -/
def give (p : Progress) : Item → Except Refusal Progress
  | .value s text => p.assign s text
  | .flag f => p.raise f

variable {p q : Progress} {s : Setting} {f : Flag} {text : String}

theorem settle_of_pending (h : p.pending = none) : p.settle = .ok p := by
  unfold settle
  rw [h]

theorem pending_of_assign (h : p.assign s text = .ok q) : q.pending = p.pending := by
  unfold assign at h
  split at h
  · cases h
  · obtain ⟨_, -, rfl⟩ := map_eq_ok_iff.mp h
    rfl

theorem pending_of_settle (h : p.settle = .ok q) : q.pending = none := by
  unfold settle at h
  split at h
  · rename_i hpending
    cases h
    exact hpending
  · cases h
  · exact pending_of_assign h

theorem raise_eq (p : Progress) (f : Flag) : p.raise f = p.settle >>= fun q => q.raise f := by
  cases hsettle : p.settle with
  | error refusal => simp only [raise, hsettle]; rfl
  | ok q =>
    have hq := settle_of_pending (pending_of_settle hsettle)
    simp only [raise, hsettle, bind, Except.bind, hq]

theorem pending_of_raise (h : p.raise f = .ok q) : q.pending = none := by
  obtain ⟨settled, hsettle, hraised⟩ := bind_eq_ok_iff.mp h
  have hpending := pending_of_settle hsettle
  dsimp only at hraised
  split at hraised
  · cases hraised
  · cases hraised
    exact hpending
  · split at hraised
    · cases hraised
    · cases hraised
      exact hpending

theorem pending_of_give {item : Item} (hp : p.pending = none) (h : p.give item = .ok q) : q.pending = none := by
  cases item with
  | value s text => exact (pending_of_assign h).trans hp
  | flag f => exact pending_of_raise h

theorem pending_of_foldlM {items : List Item} (hp : p.pending = none) (h : items.foldlM give p = .ok q) :
    q.pending = none := by
  induction items generalizing p with
  | nil =>
    cases h
    exact hp
  | cons item items ih =>
    obtain ⟨r, hr, hrest⟩ := bind_eq_ok_iff.mp h
    exact ih (pending_of_give hp hr) hrest

theorem settle_of_waiting (h : p.waiting? = some s) : ∃ refusal, p.settle = .error refusal := by
  unfold waiting? at h
  unfold settle
  split at h
  · rename_i hpending
    rw [hpending]
    exact ⟨_, rfl⟩
  · cases h

theorem waiting?_of_pending (h : p.pending = none) : p.waiting? = none := by
  unfold waiting?
  rw [h]

/-- Flags that follow each other settle what is under way before the first of them. -/
theorem foldlM_flags_settle {β : Type} (fs : List Flag) (p : Progress) (next : Progress → Except Refusal β) :
    ((fs.map Item.flag).foldlM give p >>= fun q => q.settle >>= next) =
      p.settle >>= fun q => (fs.map Item.flag).foldlM give q >>= next := by
  induction fs generalizing p with
  | nil => rfl
  | cons f fs ih =>
    have hfirst (q : Progress) : ((f :: fs).map Item.flag).foldlM give q =
        q.raise f >>= fun r => (fs.map Item.flag).foldlM give r := rfl
    simp only [hfirst, bind_assoc, ih]
    rw [raise_eq, bind_assoc]
    refine bind_congr_of_ok fun settled _ => bind_congr_of_ok fun r hr => ?_
    rw [settle_of_pending (pending_of_raise hr)]
    rfl

end Progress

open Progress

variable {p q : Progress} {s : Setting} {word text : String} {words : List String}

theorem readWords_long {c : Char} {cs : List Char} (hword : word.toList = '-' :: '-' :: c :: cs) :
    readWords p (word :: words) = longOption p (c :: cs) >>= fun p => readWords p words := by
  rw [readWords]
  simp only [hword]
  rfl

theorem readWords_short {c : Char} {cs : List Char} (hword : word.toList = '-' :: c :: cs) (hc : c ≠ '-')
    (hnumber : isNegativeValue p (c :: cs) = false) :
    readWords p (word :: words) = shortOptions p (c :: cs) >>= fun p => readWords p words := by
  rw [readWords]
  simp only [hword]
  split
  · simp_all
  · simp_all
  · rename_i heq
    cases heq
    simp only [hnumber, Bool.false_eq_true, if_false]
    rfl
  · simp_all

theorem isNumber_dash (cs : List Char) : isNumber ('-' :: cs) = false := by
  simp [isNumber]

theorem readWords_accepted (hwaiting : p.waiting? = some s) (h : s.Accepts word) :
    readWords p (word :: words) = readWords { p with pending := some (s, some word) } words := by
  have hplain : plainWord p word = .ok { p with pending := some (s, some word) } := by
    unfold plainWord
    rw [hwaiting]
  have hnext : (plainWord p word).bind (fun p => readWords p words) =
      readWords { p with pending := some (s, some word) } words := by
    rw [hplain]
    rfl
  rw [readWords]
  obtain hfirst | rfl | ⟨hnegative, digits, hword, hnumber⟩ := h
  · split
    · simp_all
    · simp_all
    · simp_all
    · exact hnext
  · exact hnext
  · have hvalue : isNegativeValue p digits = true := by simp [isNegativeValue, hwaiting, hnegative, hnumber]
    -- No number begins with a second dash.
    cases digits with
    | nil => simp only [hword, hnext]
    | cons c cs =>
      have hc : c ≠ '-' := by
        rintro rfl
        rw [isNumber_dash] at hnumber
        cases hnumber
      split
      · rename_i heq
        exact absurd (by simpa [hword] using heq) (mt And.left hc)
      · rename_i heq
        exact absurd (by simpa [hword] using heq) (mt And.left hc)
      · rename_i heq
        obtain ⟨rfl, rfl⟩ : c = _ ∧ cs = _ := by simpa using hword.symm.trans heq
        rw [if_pos hvalue, hnext]
      · simp_all

theorem shortOptions_flags {cs : List Char} {fs : List Flag} (hspells : Spells cs fs) (p : Progress)
    (tail : List Char) :
    shortOptions p (cs ++ tail) = (fs.map Item.flag).foldlM give p >>= fun q => shortOptions q tail := by
  induction hspells generalizing p with
  | nil => rfl
  | @cons c f cs fs hf _ ih =>
    obtain ⟨hsetting, hflag⟩ := find?_letter_of_flag hf.1 hf.2
    have hfirst : (f :: fs).map Item.flag = .flag f :: fs.map Item.flag := rfl
    rw [List.cons_append, shortOptions, hsetting, hflag, hfirst, List.foldlM_cons, bind_assoc]
    exact bind_congr fun r => ih r

theorem longOption_flag {f : Flag} (hf : f ∈ flags) : longOption p f.name.toList = p.raise f := by
  obtain ⟨hsetting, hflag⟩ := find?_name_of_flag hf
  simp only [longOption, cutAtEquals_of_not_mem (plain_flag hf).2, String.ofList_toList, hsetting, hflag]
  rfl

theorem longOption_setting (hs : s ∈ settings) : longOption p s.name.toList = p.begin s := by
  simp only [longOption, cutAtEquals_of_not_mem (plain_setting hs).2, String.ofList_toList, find?_name hs]

theorem longOption_joined (hs : s ∈ settings) (text : List Char) :
    longOption p (s.name.toList ++ '=' :: text) = p.attach s (String.ofList text) := by
  simp only [longOption, cutAtEquals_append (plain_setting hs).2, String.ofList_toList, find?_name hs]

theorem readWords_name {name : List Char} (hname : name ≠ []) (tail : List Char)
    (hword : word.toList = '-' :: '-' :: (name ++ tail)) :
    readWords p (word :: words) = longOption p (name ++ tail) >>= fun p => readWords p words := by
  obtain ⟨c, cs, rfl⟩ := List.exists_cons_of_ne_nil hname
  exact readWords_long hword

theorem readWords_letters {cs : List Char} (hp : p.waiting? = none) (hne : cs ≠ []) (hdash : cs.head? ≠ some '-') :
    readWords p (String.ofList ('-' :: cs) :: words) = shortOptions p cs >>= fun p => readWords p words := by
  obtain ⟨c, cs, rfl⟩ := List.exists_cons_of_ne_nil hne
  exact readWords_short (by simp) (by simpa using hdash) (by simp [isNegativeValue, hp])

/-- A setting that is begun takes the next word as its value. -/
theorem readWords_begin (haccepts : s.Accepts text) {next : Progress → Except Refusal Progress}
    (hnext : ∀ r : Progress, r.waiting? = none → readWords r words = r.settle >>= next) :
    (p.begin s >>= fun p => readWords p (text :: words)) = p.settle >>= fun q => q.assign s text >>= next := by
  cases hsettle : p.settle with
  | error refusal => simp only [Progress.begin, hsettle]; rfl
  | ok q =>
    have hpending := pending_of_settle hsettle
    have hvalue : readWords { q with pending := some (s, none) } (text :: words) =
        readWords { q with pending := some (s, some text) } words := readWords_accepted rfl haccepts
    have hassign : ({ q with pending := some (s, some text) } : Progress).settle = q.assign s text := by
      simp only [settle, ← hpending]
    simp only [Progress.begin, hsettle, Except.map, bind, Except.bind]
    rw [hvalue, hnext { q with pending := some (s, some text) } rfl, hassign]
    rfl

theorem readWords_attach {next : Progress → Except Refusal Progress}
    (hnext : ∀ r : Progress, r.waiting? = none → readWords r words = r.settle >>= next) :
    (p.attach s text >>= fun p => readWords p words) = p.settle >>= fun q => q.assign s text >>= next := by
  change (p.settle >>= fun q => q.assign s text) >>= _ = _
  rw [bind_assoc]
  refine bind_congr_of_ok fun settled hsettled => bind_congr_of_ok fun r hr => ?_
  have hpending := (pending_of_assign hr).trans (pending_of_settle hsettled)
  rw [hnext r (waiting?_of_pending hpending), settle_of_pending hpending]
  rfl

theorem foldlM_settled {items : List Item} (h : q.pending = none) :
    (q.settle >>= fun q => items.foldlM give q) = items.foldlM give q := by
  rw [settle_of_pending h]
  rfl

theorem head?_ne_dash {cs tail : List Char} {fs : List Flag} (hspells : Spells cs fs) (htail : tail.head? ≠ some '-') :
    (cs ++ tail).head? ≠ some '-' := by
  cases hspells with
  | nil => exact htail
  | cons hf _ =>
    rintro hdash
    obtain rfl : _ = '-' := Option.some.inj hdash
    exact letter_ne_dash_of_flag hf.1 hf.2

/-- Reading the words of options gives these options in turn, after what was under way before. -/
theorem readWords_of_writes {items : List Item} (h : Writes words items) {p : Progress} (hp : p.waiting? = none) :
    readWords p words = p.settle >>= fun p => items.foldlM give p := by
  induction h generalizing p with
  | nil => simp [readWords]
  | stop => simp [readWords]
  | @flag f words items hf hwrites ih =>
    rw [readWords_name (plain_flag hf).1 [] (by simp), List.append_nil, longOption_flag hf, raise_eq, bind_assoc]
    refine bind_congr_of_ok fun settled _ => bind_congr_of_ok fun r hr => ?_
    have hpending := pending_of_raise hr
    rw [ih (waiting?_of_pending hpending), foldlM_settled hpending]
  | @spaced s text words items hs haccepts hwrites ih =>
    rw [readWords_name (plain_setting hs).1 [] (by simp), List.append_nil, longOption_setting hs,
      readWords_begin haccepts fun r hr => ih hr]
    rfl
  | @joined s text words items hs hwrites ih =>
    rw [readWords_name (plain_setting hs).1 ('=' :: text.toList) (by simp), longOption_joined hs,
      String.ofList_toList]
    exact readWords_attach fun r hr => ih hr
  | @letters c cs fs words items hspells hwrites ih =>
    have hdash := head?_ne_dash hspells (show ([] : List Char).head? ≠ some '-' by simp)
    rw [List.append_nil] at hdash
    rw [readWords_letters hp (List.cons_ne_nil _ _) hdash, ← List.append_nil (c :: cs), shortOptions_flags hspells,
      bind_assoc]
    simp only [List.foldlM_append]
    rw [← foldlM_flags_settle]
    refine bind_congr_of_ok fun r hr => ?_
    cases hspells with
    | @cons _ f _ fs _ _ =>
      obtain ⟨first, hfirst, hrest⟩ := bind_eq_ok_iff.mp hr
      exact ih (waiting?_of_pending (pending_of_foldlM (pending_of_raise hfirst) hrest))
  | @letterSpaced cs fs c s text words items hspells hs hc haccepts hwrites ih =>
    have hbegin (r : Progress) : shortOptions r [c] = r.begin s := by
      simp only [shortOptions, find?_letter hs hc]
    rw [readWords_letters hp (by simp) (head?_ne_dash hspells (by simpa [hc] using letter_ne_dash hs)),
      shortOptions_flags hspells, bind_assoc]
    simp only [hbegin, readWords_begin haccepts fun r hr => ih hr, List.foldlM_append]
    exact foldlM_flags_settle fs p _
  | @letterJoined cs fs c s mark text words items hspells hs hc hmark hwrites ih =>
    have hattach (r : Progress) : shortOptions r (c :: (mark ++ text)) = r.attach s (String.ofList text) := by
      obtain rfl | ⟨rfl, htext, hmark⟩ := hmark
      · simp only [shortOptions, find?_letter hs hc, List.cons_append, List.nil_append]
      · obtain ⟨d, rest, rfl⟩ := List.exists_cons_of_ne_nil htext
        have hd : d ≠ '=' := by simpa using hmark
        simp only [shortOptions, find?_letter hs hc, List.nil_append]
        split
        · simp_all
        · simp_all
        · rfl
    rw [readWords_letters hp (by simp) (head?_ne_dash hspells (by simpa [hc] using letter_ne_dash hs)),
      shortOptions_flags hspells, bind_assoc]
    simp only [hattach, readWords_attach fun r hr => ih hr, List.foldlM_append]
    exact foldlM_flags_settle fs p _

/-! ## Every line that can be read is written so -/

/-- While a value is waited for, no option can begin. -/
theorem not_ok_of_waiting (hwaiting : p.waiting? = some s) :
    (∀ t, p.begin t ≠ .ok q) ∧ (∀ t text, p.attach t text ≠ .ok q) ∧ ∀ f, p.raise f ≠ .ok q := by
  obtain ⟨refusal, hsettle⟩ := settle_of_waiting hwaiting
  refine ⟨fun t h => ?_, fun t text h => ?_, fun f h => ?_⟩
  · simp [Progress.begin, hsettle, Except.map] at h
  · simp [Progress.attach, hsettle, Except.bind] at h
  · simp [Progress.raise, hsettle, Except.bind] at h

theorem waiting?_of_begin (h : p.begin s = .ok q) : p.waiting? = none ∧ q.waiting? = some s := by
  cases hwaiting : p.waiting? with
  | some t => exact absurd h ((not_ok_of_waiting hwaiting).1 s)
  | none =>
    obtain ⟨r, -, rfl⟩ := map_eq_ok_iff.mp h
    exact ⟨rfl, rfl⟩

theorem waiting?_of_attach (h : p.attach s text = .ok q) : p.waiting? = none ∧ q.waiting? = none := by
  cases hwaiting : p.waiting? with
  | some t => exact absurd h ((not_ok_of_waiting hwaiting).2.1 s text)
  | none =>
    obtain ⟨r, hr, hq⟩ := bind_eq_ok_iff.mp h
    exact ⟨rfl, waiting?_of_pending ((pending_of_assign hq).trans (pending_of_settle hr))⟩

theorem waiting?_of_raise {f : Flag} (h : p.raise f = .ok q) : p.waiting? = none ∧ q.waiting? = none := by
  cases hwaiting : p.waiting? with
  | some t => exact absurd h ((not_ok_of_waiting hwaiting).2.2 f)
  | none => exact ⟨rfl, waiting?_of_pending (pending_of_raise h)⟩

theorem mem_of_find?_name {name : String} (h : settings.find? (·.name == name) = some s) :
    s ∈ settings ∧ s.name = name :=
  ⟨List.mem_of_find?_eq_some h, by simpa using List.find?_some h⟩

theorem mem_of_find?_letter {c : Char} (h : settings.find? (·.letter == some c) = some s) :
    s ∈ settings ∧ s.letter = some c :=
  ⟨List.mem_of_find?_eq_some h, by simpa using List.find?_some h⟩

/-- A word that begins with two dashes is a name, alone or with a value. -/
theorem longOption_cases {cs : List Char} (h : longOption p cs = .ok q) :
    p.waiting? = none ∧
      ((∃ f ∈ flags, cs = f.name.toList ∧ q.waiting? = none) ∨
        (∃ s ∈ settings, cs = s.name.toList ∧ q.waiting? = some s) ∨
        ∃ s ∈ settings, ∃ text, cs = s.name.toList ++ '=' :: text ∧ q.waiting? = none) := by
  unfold longOption at h
  rcases hcut : cutAtEquals cs with ⟨name, value⟩
  have hcs := of_cutAtEquals hcut
  rw [hcut] at h
  dsimp only at h
  split at h
  · rename_i s hfind
    obtain ⟨hs, hname⟩ := mem_of_find?_name hfind
    have hname : name = s.name.toList := by simp [hname]
    subst hname
    cases value with
    | none =>
      obtain ⟨hp, hq⟩ := waiting?_of_begin h
      exact ⟨hp, Or.inr (Or.inl ⟨s, hs, by simpa using hcs, hq⟩)⟩
    | some text =>
      obtain ⟨hp, hq⟩ := waiting?_of_attach h
      exact ⟨hp, Or.inr (Or.inr ⟨s, hs, text, by simpa using hcs, hq⟩)⟩
  · rename_i f _ hfind
    have hf : f ∈ flags := List.mem_of_find?_eq_some hfind
    have hname : name = f.name.toList := by
      have hsame : f.name = String.ofList name := by simpa using List.find?_some hfind
      simp [hsame]
    subst hname
    cases value with
    | some text => cases h
    | none =>
      obtain ⟨hp, hq⟩ := waiting?_of_raise h
      exact ⟨hp, Or.inl ⟨f, hf, by simpa using hcs, hq⟩⟩
  · cases h

/-- A word that begins with one dash is a row of flags, perhaps with a setting at its end and perhaps with its value. -/
theorem shortOptions_cases {cs : List Char} (h : shortOptions p cs = .ok q) :
    (∃ fs, Spells cs fs ∧ (p.waiting? = none → q.waiting? = none)) ∨
      ∃ front fs c s, Spells front fs ∧ s ∈ settings ∧ s.letter = some c ∧
        (cs = front ++ [c] ∧ q.waiting? = some s ∨
          ∃ mark text, cs = front ++ c :: (mark ++ text) ∧
            (mark = ['='] ∨ mark = [] ∧ text ≠ [] ∧ text.head? ≠ some '=') ∧ q.waiting? = none) := by
  induction cs generalizing p with
  | nil =>
    cases h
    exact Or.inl ⟨[], .nil, id⟩
  | cons c rest ih =>
    rw [shortOptions] at h
    split at h
    · rename_i s hfind
      obtain ⟨hs, hletter⟩ := mem_of_find?_letter hfind
      refine Or.inr ⟨[], [], c, s, .nil, hs, hletter, ?_⟩
      split at h
      · exact Or.inl ⟨rfl, (waiting?_of_begin h).2⟩
      · rename_i text
        exact Or.inr ⟨['='], text, rfl, Or.inl rfl, (waiting?_of_attach h).2⟩
      · rename_i hne hmark
        refine Or.inr ⟨[], rest, rfl, Or.inr ⟨rfl, hne, ?_⟩, (waiting?_of_attach h).2⟩
        cases rest with
        | nil => simp
        | cons d text =>
          rintro hd
          obtain rfl : d = '=' := Option.some.inj hd
          exact hmark text rfl
    · rename_i f _ hfind
      have hf : f ∈ flags := List.mem_of_find?_eq_some hfind
      have hletter : f.letter = some c := by simpa using List.find?_some hfind
      obtain ⟨r, hr, hrest⟩ := bind_eq_ok_iff.mp h
      have hwaiting := (waiting?_of_raise hr).2
      obtain ⟨fs, hspells, hq⟩ | ⟨front, fs, d, s, hspells, hs, hd, hcases⟩ := ih hrest
      · exact Or.inl ⟨f :: fs, .cons ⟨hf, hletter⟩ hspells, fun _ => hq hwaiting⟩
      · refine Or.inr ⟨c :: front, f :: fs, d, s, .cons ⟨hf, hletter⟩ hspells, hs, hd, ?_⟩
        obtain ⟨rfl, hq⟩ | ⟨mark, text, rfl, hmark, hq⟩ := hcases
        · exact Or.inl ⟨rfl, hq⟩
        · exact Or.inr ⟨mark, text, rfl, hmark, hq⟩
    · cases h

theorem eq_ofList {cs : List Char} (hword : word.toList = cs) : word = String.ofList cs := by
  rw [← hword, String.ofList_toList]

theorem eq_name {name : String} (hword : word.toList = '-' :: '-' :: name.toList) : word = "--" ++ name := by
  rw [eq_ofList hword]
  apply String.toList_inj.mp
  simp

/-- Words that options write, behind the value of a setting if one waits for it. -/
def Continues (waiting : Option Setting) (words : List String) : Prop :=
  match waiting with
  | none => ∃ items, Writes words items
  | some s => ∃ text rest items, words = text :: rest ∧ s.Accepts text ∧ Writes rest items

theorem continues_of_name {cs : List Char} (hword : word.toList = '-' :: '-' :: cs) (h : longOption p cs = .ok q)
    (hrest : Continues q.waiting? words) : Continues p.waiting? (word :: words) := by
  obtain ⟨hp, hcases⟩ := longOption_cases h
  rw [hp]
  obtain ⟨f, hf, rfl, hq⟩ | ⟨s, hs, rfl, hq⟩ | ⟨s, hs, text, rfl, hq⟩ := hcases
  · rw [hq] at hrest
    obtain ⟨items, hitems⟩ := hrest
    rw [eq_name hword]
    exact ⟨_, .flag hf hitems⟩
  · rw [hq] at hrest
    obtain ⟨text, rest, items, rfl, haccepts, hitems⟩ := hrest
    rw [eq_name hword]
    exact ⟨_, .spaced hs haccepts hitems⟩
  · rw [hq] at hrest
    obtain ⟨items, hitems⟩ := hrest
    have hjoined : word = "--" ++ s.name ++ "=" ++ String.ofList text := by
      rw [eq_ofList hword]
      apply String.toList_inj.mp
      simp
    rw [hjoined]
    exact ⟨_, .joined hs hitems⟩

theorem waiting?_of_shortOptions {c : Char} {cs : List Char} (h : shortOptions p (c :: cs) = .ok q) :
    p.waiting? = none := by
  rw [shortOptions] at h
  split at h
  · split at h
    · exact (waiting?_of_begin h).1
    · exact (waiting?_of_attach h).1
    · exact (waiting?_of_attach h).1
  · obtain ⟨r, hr, -⟩ := bind_eq_ok_iff.mp h
    exact (waiting?_of_raise hr).1
  · cases h

theorem continues_of_letters {c : Char} {cs : List Char} (hword : word.toList = '-' :: c :: cs)
    (h : shortOptions p (c :: cs) = .ok q) (hrest : Continues q.waiting? words) :
    Continues p.waiting? (word :: words) := by
  have hp := waiting?_of_shortOptions h
  rw [hp, eq_ofList hword]
  obtain ⟨fs, hspells, hq⟩ | ⟨front, fs, d, s, hspells, hs, hd, hcases⟩ := shortOptions_cases h
  · rw [hq hp] at hrest
    obtain ⟨items, hitems⟩ := hrest
    exact ⟨_, .letters hspells hitems⟩
  · obtain ⟨hcs, hq⟩ | ⟨mark, text, hcs, hmark, hq⟩ := hcases
    · rw [hq] at hrest
      obtain ⟨text, rest, items, rfl, haccepts, hitems⟩ := hrest
      rw [hcs]
      exact ⟨_, .letterSpaced hspells hs hd haccepts hitems⟩
    · rw [hq] at hrest
      obtain ⟨items, hitems⟩ := hrest
      rw [hcs]
      exact ⟨_, .letterJoined hspells hs hd hmark hitems⟩

theorem continues_of_value (h : plainWord p word = .ok q) (haccepts : ∀ s, p.waiting? = some s → s.Accepts word)
    (hrest : Continues q.waiting? words) : Continues p.waiting? (word :: words) := by
  unfold plainWord at h
  cases hwaiting : p.waiting? with
  | none =>
    rw [hwaiting] at h
    cases h
  | some s =>
    rw [hwaiting] at h
    cases h
    obtain ⟨items, hitems⟩ := hrest
    exact ⟨word, words, items, rfl, haccepts s hwaiting, hitems⟩

/-- Words that can be read are those of options. -/
theorem continues_of_readWords (h : readWords p words = .ok q) : Continues p.waiting? words := by
  have hwaits (p : Progress) (s : Setting) (hwaiting : p.waiting? = some s) : p.settle ≠ .ok q := by
    obtain ⟨refusal, hsettle⟩ := settle_of_waiting hwaiting
    simp [hsettle]
  induction words generalizing p with
  | nil =>
    cases hwaiting : p.waiting? with
    | none => exact ⟨[], .nil⟩
    | some s => exact absurd h (hwaits p s hwaiting)
  | cons word rest ih =>
    rw [readWords] at h
    split at h
    · rename_i hword
      split at h
      · rename_i hempty
        obtain rfl : rest = [] := by simpa using hempty
        cases hwaiting : p.waiting? with
        | none =>
          rw [eq_ofList hword]
          exact ⟨[], .stop⟩
        | some s => exact absurd h (hwaits p s hwaiting)
      · cases h
    · rename_i cs _ hword
      obtain ⟨r, hr, hrest⟩ := bind_eq_ok_iff.mp h
      exact continues_of_name hword hr (ih hrest)
    · rename_i c cs _ _ hword
      split at h
      · -- A negative number is the value of the setting that waits.
        rename_i hnegative
        obtain ⟨r, hr, hrest⟩ := bind_eq_ok_iff.mp h
        refine continues_of_value hr (fun s hwaiting => ?_) (ih hrest)
        obtain ⟨hsigned, hnumber⟩ : s.mayBeNegative = true ∧ isNumber (c :: cs) = true := by
          simpa [isNegativeValue, hwaiting] using hnegative
        exact Or.inr (Or.inr ⟨hsigned, _, hword, hnumber⟩)
      · obtain ⟨r, hr, hrest⟩ := bind_eq_ok_iff.mp h
        exact continues_of_letters hword hr (ih hrest)
    · rename_i hshort hlong hword
      obtain ⟨r, hr, hrest⟩ := bind_eq_ok_iff.mp h
      refine continues_of_value hr (fun s _ => ?_) (ih hrest)
      cases hcs : word.toList with
      | nil => exact Or.inl (by simp [hcs])
      | cons c cs =>
        by_cases hc : c = '-'
        · subst hc
          cases cs with
          | nil => exact Or.inr (Or.inl (eq_ofList hcs))
          | cons d cs => exact absurd hcs (hword d cs)
        · exact Or.inl (by simpa [hcs] using hc)

end ServiceCatalog.CommandLine
