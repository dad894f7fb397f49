import Mathlib.Data.List.Nodup
import NestedStyles.Proofs.Results
import NestedStyles.Settings.Overlay

/-!
What overlays do to settings.

An overlay is described by what its options give under each name, the last entry with a name
counting. Laying options over settings one overlay after the other then is laying their union over
them at once, and options that are refused leave nothing behind. They are refused if a name among
them is unknown, or if what is given for a group of settings cannot be one.
-/

set_option autoImplicit false

namespace NestedStyles

section Entries

variable {α : Type}

/-- What entries give under a name. Of several entries with it the last one counts. -/
def given? (name : Text) : List (Text × α) → Option α
  | [] => none
  | entry :: rest => (given? name rest).or (if entry.1 = name then some entry.2 else none)

theorem given?_append (name : Text) (earlier later : List (Text × α)) :
    given? name (earlier ++ later) = (given? name later).or (given? name earlier) := by
  induction earlier with
  | nil => simp [given?]
  | cons entry rest ih => rw [List.cons_append, given?, ih, given?, Option.or_assoc]

theorem given?_single_self (name : Text) (value : α) :
    given? name [(name, value)] = some value := by
  simp [given?]

theorem given?_single_of_ne {name other : Text} (apart : other ≠ name) (value : α) :
    given? name [(other, value)] = none := by
  simp [given?, apart]

theorem given?_eq_none_iff {name : Text} {entries : List (Text × α)} :
    given? name entries = none ↔ name ∉ entries.map (·.1) := by
  induction entries with
  | nil => simp [given?]
  | cons entry rest ih =>
      rw [given?, List.map_cons, List.mem_cons, not_or, ← ih, Option.or_eq_none_iff, and_comm]
      simp [eq_comm]

/-- Entries with one more, which takes the place of an earlier one with its name. -/
def withEntry (entries : List (Text × α)) (entry : Text × α) : List (Text × α) :=
  if (entries.map (·.1)).contains entry.1 then
    entries.map (fun earlier => if earlier.1 = entry.1 then entry else earlier)
  else entries ++ [entry]

/-- Entries with later ones laid over them, name by name. -/
def union (earlier later : List (Text × α)) : List (Text × α) :=
  later.foldl withEntry earlier

/-- The union of a series of entries, the later ones laid over the earlier ones. -/
def unionAll (series : List (List (Text × α))) : List (Text × α) :=
  series.foldl union []

theorem unionAll_eq_foldl (series : List (List (Text × α))) :
    unionAll series = series.flatten.foldl withEntry [] :=
  List.foldl_flatten.symm

theorem mem_withEntry {entries : List (Text × α)} {entry other : Text × α}
    (mem : other ∈ withEntry entries entry) : other ∈ entries ∨ other = entry := by
  unfold withEntry at mem
  split at mem
  · obtain ⟨earlier, known, same⟩ := List.mem_map.mp mem
    split at same
    · exact .inr same.symm
    · exact .inl (same ▸ known)
  · simpa using mem

theorem map_fst_replaced (entries : List (Text × α)) (entry : Text × α) :
    (entries.map (fun earlier => if earlier.1 = entry.1 then entry else earlier)).map (·.1) =
      entries.map (·.1) := by
  rw [List.map_map]
  refine List.map_congr_left (fun earlier _ => ?_)
  by_cases same : earlier.1 = entry.1 <;> simp [same]

theorem nodup_withEntry {entries : List (Text × α)} (different : (entries.map (·.1)).Nodup)
    (entry : Text × α) : ((withEntry entries entry).map (·.1)).Nodup := by
  unfold withEntry
  split
  · rwa [map_fst_replaced]
  · next fresh =>
      rw [List.contains_iff_mem] at fresh
      rw [List.map_append]
      exact List.nodup_append_comm.mp (List.nodup_cons.mpr ⟨fresh, different⟩)

theorem given?_replaced (name : Text) (entries : List (Text × α)) (entry : Text × α) :
    given? name (entries.map (fun earlier => if earlier.1 = entry.1 then entry else earlier)) =
      if entry.1 = name then (given? name entries).map (fun _ => entry.2)
      else given? name entries := by
  induction entries with
  | nil => simp [given?]
  | cons first rest ih =>
      rw [List.map_cons, given?, ih, given?]
      by_cases same : first.1 = entry.1
      · by_cases named : entry.1 = name
        · simp only [same, named, if_pos, Option.map_or, Option.map_some]
        · simp only [same, named, if_pos, if_neg, not_false_eq_true]
      · by_cases named : entry.1 = name
        · have apart : first.1 ≠ name := named ▸ same
          simp only [if_neg same, if_neg apart, if_pos named, Option.or_none]
        · simp only [named, same, if_neg, not_false_eq_true]

theorem given?_withEntry (name : Text) (entries : List (Text × α)) (entry : Text × α) :
    given? name (withEntry entries entry) = (given? name [entry]).or (given? name entries) := by
  unfold withEntry
  split
  · next known =>
      rw [List.contains_iff_mem] at known
      rw [given?_replaced]
      by_cases named : entry.1 = name
      · subst named
        obtain ⟨value, found⟩ :=
          Option.ne_none_iff_exists'.mp (fun missing => given?_eq_none_iff.mp missing known)
        simp [given?, found]
      · rw [if_neg named, given?_single_of_ne named, Option.none_or]
  · exact given?_append name entries [entry]

/-- The union gives under each name what the last entry with it gives. -/
theorem given?_unionAll (name : Text) (series : List (List (Text × α))) :
    given? name (unionAll series) = given? name series.flatten := by
  have joined : ∀ later earlier : List (Text × α), given? name (later.foldl withEntry earlier) =
      (given? name later).or (given? name earlier) := by
    intro later
    induction later with
    | nil => exact fun earlier => (Option.none_or).symm
    | cons entry rest ih =>
        intro earlier
        rw [List.foldl_cons, ih, given?_withEntry, ← Option.or_assoc]
        rfl
  rw [unionAll_eq_foldl, joined]
  exact Option.or_none

/-- A union has each name once. -/
theorem nodup_unionAll (series : List (List (Text × α))) :
    ((unionAll series).map (·.1)).Nodup := by
  rw [unionAll_eq_foldl]
  refine List.foldlRecOn (motive := fun made => (made.map (·.1)).Nodup) series.flatten withEntry
    ?_ (fun made different entry _ => nodup_withEntry different entry)
  exact List.nodup_nil

theorem mem_unionAll {series : List (List (Text × α))} {entry : Text × α}
    (mem : entry ∈ unionAll series) : entry ∈ series.flatten := by
  rw [unionAll_eq_foldl] at mem
  refine List.foldlRecOn (motive := fun made => ∀ entry ∈ made, entry ∈ series.flatten)
    series.flatten withEntry ?_ (fun made known added given other mem => ?_) entry mem
  · exact fun _ none => absurd none List.not_mem_nil
  obtain earlier | rfl := mem_withEntry mem
  · exact known other earlier
  · exact given

/-- Entries with new values in place of their own, where there are any. -/
def renewed (entries : List (Text × Value)) (new : Text → Option Value) : List (Text × Value) :=
  entries.map (fun entry => (entry.1, (new entry.1).getD entry.2))

variable {entries : List (Text × Value)}

theorem renewed_of_none {new : Text → Option Value}
    (silent : ∀ name ∈ entries.map (·.1), new name = none) : renewed entries new = entries := by
  refine (List.map_congr_left (fun entry mem => ?_)).trans (List.map_id entries)
  rw [silent entry.1 (List.mem_map_of_mem mem)]
  rfl

theorem renewed_renewed (earlier later : Text → Option Value) :
    renewed (renewed entries earlier) later =
      renewed entries (fun name => (later name).or (earlier name)) := by
  simp [renewed, Option.getD_or]

/-- Where every name stands once, a single new value changes a single entry. -/
theorem renewed_single (different : (entries.map (·.1)).Nodup) {i : Nat} {name : Text}
    {old : Value} (found : entries[i]? = some (name, old)) (value : Value) :
    renewed entries (given? · [(name, value)]) = entries.set i (name, value) := by
  have inside : i < entries.length := (List.getElem?_eq_some_iff.mp found).1
  refine List.ext_getElem? (fun j => ?_)
  rw [renewed, List.getElem?_map, List.getElem?_set]
  by_cases same : i = j
  · rw [if_pos same, if_pos inside, ← same, found, Option.map_some, given?_single_self,
      Option.getD_some]
  rw [if_neg same]
  cases there : entries[j]? with
  | none => rfl
  | some entry =>
      have apart : name ≠ entry.1 := by
        intro equal
        have named : (entries.map (·.1))[i]? = (entries.map (·.1))[j]? := by
          rw [List.getElem?_map, List.getElem?_map, found, there, Option.map_some, Option.map_some,
            equal]
        exact same ((List.getElem?_inj (by rwa [List.length_map]) different).mp named)
      rw [Option.map_some, given?_single_of_ne apart, Option.getD_none]

/-- Fields that are set one after the other end up as the list of them gives them. The hypothesis
says what setting a single field does. -/
theorem entries_of_foldlM {σ : Type} {entries : σ → List (Text × Value)}
    {set? : σ → Text → Value → Option σ}
    (set : ∀ {s changed : σ} {name : Text} {value : Value}, set? s name value = some changed →
      entries changed = renewed (entries s) (given? · [(name, value)]))
    {fields : List (Text × Value)} : ∀ {s result : σ},
      fields.foldlM (fun s entry => set? s entry.1 entry.2) s = some result →
        entries result = renewed (entries s) (given? · fields) := by
  induction fields with
  | nil =>
      rintro s _ ⟨⟩
      exact (renewed_of_none (fun _ _ => rfl)).symm
  | cons entry rest ih =>
      intro s result ended
      rw [List.foldlM_cons] at ended
      obtain ⟨changed, started, further⟩ := Option.bind_eq_some_iff.mp ended
      rw [ih further, set started, renewed_renewed]
      simp only [given?, Option.none_or]

/-- Fields can be set one after the other if each of them can be. -/
theorem isSome_foldlM {σ : Type} {names : List Text} {set? : σ → Text → Value → Option σ}
    (settable : ∀ s name value, (set? s name value).isSome = true ↔ name ∈ names)
    (fields : List (Text × Value)) : ∀ s : σ,
      (fields.foldlM (fun s entry => set? s entry.1 entry.2) s).isSome = true ↔
        ∀ field ∈ fields, field.1 ∈ names := by
  induction fields with
  | nil => simp
  | cons field rest ih =>
      intro s
      rw [List.foldlM_cons, List.forall_mem_cons, ← settable s field.1 field.2]
      cases set? s field.1 field.2 with
      | none => simp
      | some changed => simpa using ih changed

end Entries

namespace FormatSettings

theorem nodup_names : names.Nodup := by
  decide +kernel

theorem entries_of_set? {s changed : FormatSettings} {name : Text} {value : Value}
    (done : s.set? name value = some changed) :
    changed.entries = renewed s.entries (given? · [(name, value)]) := by
  have different : (s.entries.map (·.1)).Nodup := nodup_names
  rw [set?] at done
  repeat' split at done
  case isFalse => contradiction
  all_goals
    rw [Option.some.injEq] at done
    subst_vars
  · exact (renewed_single (i := 0) different rfl value).symm
  · exact (renewed_single (i := 1) different rfl value).symm
  · exact (renewed_single (i := 2) different rfl value).symm
  · exact (renewed_single (i := 3) different rfl value).symm
  · exact (renewed_single (i := 4) different rfl value).symm
  · exact (renewed_single (i := 5) different rfl value).symm
  · exact (renewed_single (i := 6) different rfl value).symm

theorem eq_of_entries {s other : FormatSettings} (same : s.entries = other.entries) :
    s = other := by
  cases s
  cases other
  simpa only [entries, List.cons.injEq, Prod.mk.injEq, true_and, and_true, mk.injEq] using same

/-- Settings that something given stands for: a group made beforehand, or the defaults with the
fields of a mapping. -/
def IsGiven (settings : FormatSettings) : Given → Prop
  | .format ready => settings = ready
  | .value (.mapping fields) =>
    settings.entries = renewed ({} : FormatSettings).entries (given? · fields)
  | _ => False

theorem isGiven_of_ofGiven {given : Given} {settings : FormatSettings}
    (done : ofGiven given = .ok settings) : settings.IsGiven given := by
  unfold ofGiven at done
  split at done
  · cases done
    rfl
  · split at done
    · next fields made set =>
        cases done
        exact entries_of_foldlM entries_of_set? set
    · cases done
  · cases done

theorem eq_of_isGiven {given : Given} {s other : FormatSettings} (means : s.IsGiven given)
    (others : other.IsGiven given) : s = other := by
  unfold IsGiven at means others
  split at means
  · exact means.trans others.symm
  · exact eq_of_entries (means.trans others.symm)
  · exact means.elim

theorem isSome_set? (s : FormatSettings) (name : Text) (value : Value) :
    (s.set? name value).isSome = true ↔ name ∈ names := by
  unfold set? names entries
  simp only [List.map_cons, List.map_nil, List.mem_cons, List.not_mem_nil, or_false]
  repeat' split
  all_goals simp_all only [Option.isSome_some, Option.isSome_none, true_or, or_true, or_self,
    Bool.false_eq_true]

/-- That something given can stand for such settings: a group made beforehand, or a mapping of known
fields. -/
def Fits : Given → Prop
  | .format _ => True
  | .value (.mapping fields) => ∀ field ∈ fields, field.1 ∈ names
  | _ => False

theorem isOk_ofGiven_iff (given : Given) : (ofGiven given).isOk = true ↔ Fits given := by
  cases given with
  | format settings => exact iff_of_true rfl trivial
  | naming settings => exact iff_of_false Bool.false_ne_true id
  | value value =>
      cases value with
      | mapping fields =>
          have settable := isSome_foldlM isSome_set? fields {}
          rw [← ofEntries?] at settable
          rw [Fits, ← settable, ofGiven]
          cases ofEntries? fields <;> rfl
      | _ => exact iff_of_false Bool.false_ne_true id

end FormatSettings

namespace NamingSettings

theorem nodup_names : names.Nodup := by
  decide +kernel

theorem entries_of_set? {s changed : NamingSettings} {name : Text} {value : Value}
    (done : s.set? name value = some changed) :
    changed.entries = renewed s.entries (given? · [(name, value)]) := by
  have different : (s.entries.map (·.1)).Nodup := nodup_names
  rw [set?] at done
  repeat' split at done
  case isFalse => contradiction
  all_goals
    rw [Option.some.injEq] at done
    subst_vars
  · exact (renewed_single (i := 0) different rfl value).symm
  · exact (renewed_single (i := 1) different rfl value).symm
  · exact (renewed_single (i := 2) different rfl value).symm
  · exact (renewed_single (i := 3) different rfl value).symm

theorem eq_of_entries {s other : NamingSettings} (same : s.entries = other.entries) :
    s = other := by
  cases s
  cases other
  simpa only [entries, List.cons.injEq, Prod.mk.injEq, true_and, and_true, mk.injEq] using same

/-- Settings that something given stands for: a group made beforehand, or the defaults with the
fields of a mapping. -/
def IsGiven (settings : NamingSettings) : Given → Prop
  | .naming ready => settings = ready
  | .value (.mapping fields) =>
    settings.entries = renewed ({} : NamingSettings).entries (given? · fields)
  | _ => False

theorem isGiven_of_ofGiven {given : Given} {settings : NamingSettings}
    (done : ofGiven given = .ok settings) : settings.IsGiven given := by
  unfold ofGiven at done
  split at done
  · cases done
    rfl
  · split at done
    · next fields made set =>
        cases done
        exact entries_of_foldlM entries_of_set? set
    · cases done
  · cases done

theorem eq_of_isGiven {given : Given} {s other : NamingSettings} (means : s.IsGiven given)
    (others : other.IsGiven given) : s = other := by
  unfold IsGiven at means others
  split at means
  · exact means.trans others.symm
  · exact eq_of_entries (means.trans others.symm)
  · exact means.elim

theorem isSome_set? (s : NamingSettings) (name : Text) (value : Value) :
    (s.set? name value).isSome = true ↔ name ∈ names := by
  unfold set? names entries
  simp only [List.map_cons, List.map_nil, List.mem_cons, List.not_mem_nil, or_false]
  repeat' split
  all_goals simp_all only [Option.isSome_some, Option.isSome_none, true_or, or_true, or_self,
    Bool.false_eq_true]

/-- That something given can stand for such settings: a group made beforehand, or a mapping of known
fields. -/
def Fits : Given → Prop
  | .naming _ => True
  | .value (.mapping fields) => ∀ field ∈ fields, field.1 ∈ names
  | _ => False

theorem isOk_ofGiven_iff (given : Given) : (ofGiven given).isOk = true ↔ Fits given := by
  cases given with
  | naming settings => exact iff_of_true rfl trivial
  | format settings => exact iff_of_false Bool.false_ne_true id
  | value value =>
      cases value with
      | mapping fields =>
          have settable := isSome_foldlM isSome_set? fields {}
          rw [← ofEntries?] at settable
          rw [Fits, ← settable, ofGiven]
          cases ofEntries? fields <;> rfl
      | _ => exact iff_of_false Bool.false_ne_true id

end NamingSettings

namespace Settings

theorem nodup_names : names.Nodup := by
  decide +kernel

theorem entries_set (s : Settings) (name : Text) (value : Value) :
    (s.set name value).entries = renewed s.entries (given? · [(name, value)]) := by
  have different : (s.entries.map (·.1)).Nodup := nodup_names.of_append_left
  unfold set
  repeat' split
  case isFalse first second third fourth =>
    refine (renewed_of_none (fun other known => given?_single_of_ne ?_ value)).symm
    rintro rfl
    simp only [entries, List.map_cons, List.map_nil, List.mem_cons, List.not_mem_nil, or_false,
      first, second, third, fourth] at known
  all_goals subst_vars
  · exact (renewed_single (i := 0) different rfl value).symm
  · exact (renewed_single (i := 1) different rfl value).symm
  · exact (renewed_single (i := 2) different rfl value).symm
  · exact (renewed_single (i := 3) different rfl value).symm

theorem format_set (s : Settings) (name : Text) (value : Value) :
    (s.set name value).format = s.format := by
  unfold set
  repeat' split
  all_goals rfl

theorem naming_set (s : Settings) (name : Text) (value : Value) :
    (s.set name value).naming = s.naming := by
  unfold set
  repeat' split
  all_goals rfl

theorem formatName_ne_namingName : formatName ≠ namingName := by
  decide +kernel

theorem not_mem_of_group {s : Settings} {name : Text} (group : name ∈ [formatName, namingName]) :
    name ∉ s.entries.map (·.1) :=
  fun single => (List.nodup_append.mp nodup_names).2.2 name single name group rfl

/-- What becomes of a group of settings: it stays if nothing is given for it, and is what is given
otherwise. The predicate says when a group is what is given. -/
def Regrouped {σ : Type} (IsGiven : σ → Given → Prop) (old : σ) (given : Option Given) (new : σ) :
    Prop :=
  given.elim (new = old) (IsGiven new)

namespace Regrouped

variable {σ : Type} {IsGiven : σ → Given → Prop} {old middle new : σ}

theorem trans {earlier later : Option Given} (first : Regrouped IsGiven old earlier middle)
    (second : Regrouped IsGiven middle later new) :
    Regrouped IsGiven old (later.or earlier) new := by
  cases later with
  | none =>
      have same : new = middle := second
      rw [same]
      exact first
  | some given => exact second

theorem unique {given : Option Given} {other : σ} (means : Regrouped IsGiven old given new)
    (meant : Regrouped IsGiven old given other)
    (determined : ∀ {given : Given} {s t : σ}, IsGiven s given → IsGiven t given → s = t) :
    new = other := by
  cases given with
  | none => exact Eq.trans means (Eq.symm meant)
  | some given => exact determined means meant

end Regrouped

/-- How options laid over settings change them: what is given replaces what was there, groups as a
whole, and all else stays. -/
structure Overlaid (base : Settings) (options : List (Text × Given)) (result : Settings) :
    Prop where
  single : result.entries =
    renewed base.entries (fun name => (given? name options).map Given.toValue)
  format : Regrouped FormatSettings.IsGiven base.format (given? formatName options) result.format
  naming : Regrouped NamingSettings.IsGiven base.naming (given? namingName options) result.naming

namespace Overlaid

variable {base middle result : Settings} {options earlier later : List (Text × Given)}

theorem nil : Overlaid base [] base :=
  ⟨(renewed_of_none (fun _ _ => rfl)).symm, rfl, rfl⟩

/-- Only what is given under each name counts. -/
theorem congr (same : ∀ name, given? name earlier = given? name later)
    (overlaid : Overlaid base earlier result) : Overlaid base later result := by
  obtain ⟨single, format, naming⟩ := overlaid
  simp only [same] at single format naming
  exact ⟨single, format, naming⟩

/-- One overlay after the other is one overlay, of all options in a row. -/
theorem trans (first : Overlaid base earlier middle) (second : Overlaid middle later result) :
    Overlaid base (earlier ++ later) result where
  single := by
    rw [second.single, first.single, renewed_renewed]
    simp only [given?_append, Option.map_or]
  format := by
    rw [given?_append]
    exact first.format.trans second.format
  naming := by
    rw [given?_append]
    exact first.naming.trans second.naming

theorem unique {other : Settings} (overlaid : Overlaid base options result)
    (others : Overlaid base options other) : result = other := by
  have single : result.entries = other.entries := overlaid.single.trans others.single.symm
  have format : result.format = other.format :=
    overlaid.format.unique others.format FormatSettings.eq_of_isGiven
  have naming : result.naming = other.naming :=
    overlaid.naming.unique others.naming NamingSettings.eq_of_isGiven
  cases result
  cases other
  simp only [entries, List.cons.injEq, Prod.mk.injEq, true_and, and_true] at single
  simp only [mk.injEq]
  exact ⟨single.1, single.2.1, single.2.2.1, single.2.2.2, format, naming⟩

end Overlaid

section Overlay

variable {base other result : Settings} {option : Text × Given} {options : List (Text × Given)}
  {fault : SettingsFault}

/-- An option for a group leaves the single settings alone. -/
theorem renewed_of_group {name : Text} (group : name ∈ [formatName, namingName])
    (s : Settings) (given : Given) :
    s.entries =
      renewed s.entries (fun single => (given? single [(name, given)]).map Given.toValue) := by
  refine (renewed_of_none (fun single known => ?_)).symm
  have apart : name ≠ single := by
    rintro rfl
    exact not_mem_of_group group known
  rw [given?_single_of_ne apart, Option.map_none]

/-- The step: what one option does. -/
theorem overlaid_of_overlayOne (done : base.overlayOne option = .ok result) :
    Overlaid base [option] result := by
  obtain ⟨name, given⟩ := option
  unfold overlayOne at done
  split at done
  · next named =>
      obtain ⟨made, read, same⟩ := bind_eq_ok_iff.mp done
      cases same
      replace named : name = formatName := named
      subst named
      refine ⟨renewed_of_group (by simp) base given, ?_, ?_⟩
      · rw [given?_single_self]
        exact FormatSettings.isGiven_of_ofGiven read
      · rw [given?_single_of_ne formatName_ne_namingName]
        rfl
  split at done
  · next other named =>
      obtain ⟨made, read, same⟩ := bind_eq_ok_iff.mp done
      cases same
      replace named : name = namingName := named
      subst named
      refine ⟨renewed_of_group (by simp) base given, ?_, ?_⟩
      · rw [given?_single_of_ne formatName_ne_namingName.symm]
        rfl
      · rw [given?_single_self]
        exact NamingSettings.isGiven_of_ofGiven read
  · next noFormat noNaming =>
      cases done
      refine ⟨?_, ?_, ?_⟩
      · rw [entries_set]
        refine congrArg _ (funext fun single => ?_)
        by_cases same : name = single <;> simp [given?, same]
      · rw [given?_single_of_ne noFormat, format_set]
        rfl
      · rw [given?_single_of_ne noNaming, naming_set]
        rfl

/-- The run: what options do one after the other. -/
theorem overlaid_of_foldlM : ∀ {base : Settings},
    options.foldlM overlayOne base = .ok result → Overlaid base options result := by
  induction options with
  | nil =>
      rintro base ⟨⟩
      exact Overlaid.nil
  | cons option rest ih =>
      intro base done
      rw [List.foldlM_cons] at done
      obtain ⟨middle, started, further⟩ := bind_eq_ok_iff.mp done
      exact (overlaid_of_overlayOne started).trans (ih further)

theorem overlaid_of_overlay (done : base.overlay options = .ok result) :
    Overlaid base options result := by
  unfold overlay at done
  split at done
  · exact overlaid_of_foldlM done
  · cases done

/-- Whether and why an option is refused does not depend on what it is laid over. -/
theorem overlayOne_eq_error (refused : base.overlayOne option = .error fault) (other : Settings) :
    other.overlayOne option = .error fault := by
  unfold overlayOne at refused
  split at refused
  · next named =>
      rw [overlayOne, if_pos named]
      cases read : FormatSettings.ofGiven option.2 with
      | error reason =>
          rw [read] at refused
          cases refused
          rfl
      | ok made =>
          rw [read] at refused
          cases refused
  split at refused
  · next unnamed named =>
      rw [overlayOne, if_neg unnamed, if_pos named]
      cases read : NamingSettings.ofGiven option.2 with
      | error reason =>
          rw [read] at refused
          cases refused
          rfl
      | ok made =>
          rw [read] at refused
          cases refused
  · cases refused

theorem foldlM_eq_error : ∀ {base : Settings}, options.foldlM overlayOne base = .error fault →
    ∀ other : Settings, options.foldlM overlayOne other = .error fault := by
  induction options with
  | nil =>
      rintro base ⟨⟩
  | cons option rest ih =>
      intro base refused other
      rw [List.foldlM_cons] at refused ⊢
      cases first : base.overlayOne option with
      | error reason =>
          rw [first] at refused
          cases refused
          rw [overlayOne_eq_error first other]
          rfl
      | ok changed =>
          rw [first] at refused
          cases others : other.overlayOne option with
          | error reason =>
              rw [overlayOne_eq_error others base] at first
              cases first
          | ok changed => exact ih refused changed

theorem overlay_eq_error (refused : base.overlay options = .error fault) (other : Settings) :
    other.overlay options = .error fault := by
  unfold overlay at refused ⊢
  split at refused
  · exact foldlM_eq_error refused other
  · exact refused

theorem isOk_overlayOne_iff (base : Settings) (option : Text × Given) :
    (base.overlayOne option).isOk = true ↔
      (option.1 = formatName → FormatSettings.Fits option.2) ∧
        (option.1 = namingName → NamingSettings.Fits option.2) := by
  rw [← FormatSettings.isOk_ofGiven_iff, ← NamingSettings.isOk_ofGiven_iff, overlayOne]
  split
  · next named =>
      have other : option.1 ≠ namingName := named ▸ formatName_ne_namingName
      simp only [named, true_imp_iff, formatName_ne_namingName, false_imp_iff, and_true]
      cases FormatSettings.ofGiven option.2 <;> rfl
  split
  · next unnamed named =>
      simp only [named, true_imp_iff, formatName_ne_namingName.symm, false_imp_iff, true_and]
      cases NamingSettings.ofGiven option.2 <;> rfl
  · next noFormat noNaming =>
      exact iff_of_true rfl ⟨fun named => absurd named noFormat, fun named => absurd named noNaming⟩

/-- That an option is known, and that a group can be made of what is given for one. -/
structure Acceptable (option : Text × Given) : Prop where
  known : option.1 ∈ names
  format : option.1 = formatName → FormatSettings.Fits option.2
  naming : option.1 = namingName → NamingSettings.Fits option.2

theorem isOk_foldlM_iff (options : List (Text × Given)) : ∀ base : Settings,
    (options.foldlM overlayOne base).isOk = true ↔
      ∀ option ∈ options, (option.1 = formatName → FormatSettings.Fits option.2) ∧
        (option.1 = namingName → NamingSettings.Fits option.2) := by
  induction options with
  | nil => exact fun base => iff_of_true rfl (List.forall_mem_nil _)
  | cons option rest ih =>
      intro base
      rw [List.foldlM_cons, List.forall_mem_cons, ← isOk_overlayOne_iff base]
      cases base.overlayOne option with
      | error fault => exact iff_of_false Bool.false_ne_true (fun fits => Bool.false_ne_true fits.1)
      | ok changed => exact (ih changed).trans (and_iff_right rfl).symm

/-- Options are accepted if every single one is acceptable, whatever they are laid over. -/
theorem isOk_overlay_iff (base : Settings) (options : List (Text × Given)) :
    (base.overlay options).isOk = true ↔ ∀ option ∈ options, Acceptable option := by
  have unknown_nil : unknownNames names options = [] ↔ ∀ option ∈ options, option.1 ∈ names := by
    simp [unknownNames]
  unfold overlay
  split
  · next known =>
      rw [isOk_foldlM_iff]
      constructor
      · intro fits option mem
        exact ⟨unknown_nil.mp known option mem, (fits option mem).1, (fits option mem).2⟩
      · intro fits option mem
        exact ⟨(fits option mem).format, (fits option mem).naming⟩
  · next some known =>
      constructor
      · intro refused
        cases refused
      · intro fits
        exact absurd (unknown_nil.mpr (fun option mem => (fits option mem).known)) known

end Overlay

/-- Whether options are accepted on their own, laid over the defaults. -/
def accepted (options : List (Text × Given)) : Bool :=
  (overlay {} options).isOk

/-- The settings with options laid over them, or as they are where the options are refused. -/
def attempt (base : Settings) (options : List (Text × Given)) : Settings :=
  match base.overlay options with
  | .ok result => result
  | .error _ => base

theorem accepted_unionAll {series : List (List (Text × Given))}
    (fit : ∀ options ∈ series, accepted options = true) : accepted (unionAll series) = true := by
  refine (isOk_overlay_iff {} _).mpr (fun option mem => ?_)
  obtain ⟨options, given, inside⟩ := List.mem_flatten.mp (mem_unionAll mem)
  exact (isOk_overlay_iff {} options).mp (fit options given) option inside

/-- The run over a series of overlays: only the accepted ones count. -/
theorem overlaid_attempts (series : List (List (Text × Given))) : ∀ base : Settings,
    Overlaid base (series.filter accepted).flatten (series.foldl attempt base) := by
  induction series with
  | nil => exact fun base => Overlaid.nil
  | cons options rest ih =>
      intro base
      rw [List.foldl_cons]
      cases ended : base.overlay options with
      | ok changed =>
          have fits : accepted options = true := by
            rw [accepted, isOk_overlay_iff, ← isOk_overlay_iff base, ended]
            rfl
          have next : base.attempt options = changed := by
            rw [attempt, ended]
          rw [List.filter_cons_of_pos fits, List.flatten_cons, next]
          exact (overlaid_of_overlay ended).trans (ih changed)
      | error fault =>
          have unfit : ¬accepted options = true := by
            rw [accepted, overlay_eq_error ended {}]
            exact Bool.false_ne_true
          have next : base.attempt options = base := by
            rw [attempt, ended]
          rw [List.filter_cons_of_neg unfit, next]
          exact ih base

/-- Overlays tried one after the other, the refused ones being skipped, come to the one overlay of
the union of those that are accepted on their own. An overlay is accepted exactly if all its options
are acceptable; what it does then is what `Overlaid` says, and a refusal has the same reason over
all settings. -/
theorem overlay_rightBiased :
    (∀ (base : Settings) (series : List (List (Text × Given))),
      ((unionAll (series.filter accepted)).map (·.1)).Nodup ∧
        base.overlay (unionAll (series.filter accepted)) = .ok (series.foldl attempt base)) ∧
    ∀ (base : Settings) (options : List (Text × Given)),
      match base.overlay options with
      | .ok result => (∀ option ∈ options, Acceptable option) ∧ Overlaid base options result
      | .error fault =>
        (∃ option ∈ options, ¬Acceptable option) ∧
          ∀ other : Settings, other.overlay options = .error fault := by
  refine ⟨fun base series => ⟨nodup_unionAll _, ?_⟩, fun base options => ?_⟩
  · have fit : ∀ options ∈ series.filter accepted, accepted options = true :=
      fun options mem => (List.mem_filter.mp mem).2
    cases ended : base.overlay (unionAll (series.filter accepted)) with
    | error fault =>
        have refused := overlay_eq_error ended {}
        have taken := accepted_unionAll fit
        rw [accepted, refused] at taken
        cases taken
    | ok result =>
        have atOnce := overlaid_of_overlay ended
        have inTurn := (overlaid_attempts series base).congr
          (fun name => (given?_unionAll name (series.filter accepted)).symm)
        rw [atOnce.unique inTurn]
  · have acceptable := isOk_overlay_iff base options
    cases ended : base.overlay options with
    | ok result =>
        rw [ended] at acceptable
        exact ⟨acceptable.mp rfl, overlaid_of_overlay ended⟩
    | error fault =>
        rw [ended] at acceptable
        refine ⟨?_, overlay_eq_error ended⟩
        by_contra every
        push Not at every
        exact Bool.false_ne_true (acceptable.mpr every)

end Settings

end NestedStyles
