import NestedStyles.Files.Conversion
import NestedStyles.Proofs.Files.Leading
import NestedStyles.Proofs.Results

/-!
What stays on a disk while files are converted: links and folders stand where they stood, folders are
only made where there was nothing, and files change only where outputs lead.

So a path that led to a place still leads there, and what it leads to is unchanged unless an output
leads there too.
-/

set_option autoImplicit false

namespace NestedStyles

namespace Disk

/-- How what stands at a location may change, given whether files may be written there. -/
inductive Change (written : Prop) : Option Item → Option Item → Prop
  | same (item : Option Item) : Change written item item
  | made : Change written none (some .folder)
  | wrote {item : Option Item} (here : written) (noFolder : item ≠ some .folder)
      (noLink : ∀ target, item ≠ some (.link target)) (content : List UInt8) (modified : Int) :
      Change written item (some (.file content modified))

theorem Change.trans {written : Prop} {a b c : Option Item} (first : Change written a b)
    (second : Change written b c) : Change written a c := by
  cases first with
  | same => exact second
  | made =>
      cases second with
      | same => exact .made
      | wrote here noFolder _ content modified => exact absurd rfl noFolder
  | wrote here noFolder noLink content modified =>
      cases second with
      | same => exact .wrote here noFolder noLink content modified
      | wrote _ _ _ later time => exact .wrote here noFolder noLink later time

theorem Change.link_iff {written : Prop} {a b : Option Item} (change : Change written a b)
    (target : Path) : b = some (.link target) ↔ a = some (.link target) := by
  cases change with
  | same => exact Iff.rfl
  | made => simp
  | wrote here noFolder noLink content modified => simp [noLink]

theorem Change.mono {written more : Prop} {a b : Option Item} (wider : written → more)
    (change : Change written a b) : Change more a b := by
  cases change with
  | same => exact .same _
  | made => exact .made
  | wrote here noFolder noLink content modified =>
      exact .wrote (wider here) noFolder noLink content modified

theorem Change.file_iff {written : Prop} {a b : Option Item} (change : Change written a b)
    (unwritten : ¬ written) (content : List UInt8) (modified : Int) :
    b = some (.file content modified) ↔ a = some (.file content modified) := by
  cases change with
  | same => exact Iff.rfl
  | made => simp
  | wrote here => exact absurd here unwritten

/-- How a disk changes while files may be written at some locations. -/
structure Grows (written : Location → Prop) (before after : Disk) : Prop where
  current : after.current = before.current
  items : ∀ place, Change (written place) (before.at? place) (after.at? place)

section Growth

variable {written : Location → Prop} {before middle after : Disk}

theorem Grows.refl (written : Location → Prop) (disk : Disk) : Grows written disk disk :=
  ⟨rfl, fun _ => .same _⟩

theorem Grows.trans (first : Grows written before middle) (second : Grows written middle after) :
    Grows written before after :=
  ⟨second.current.trans first.current, fun place => (first.items place).trans (second.items place)⟩

theorem Grows.mono {more : Location → Prop} (wider : ∀ place, written place → more place)
    (grows : Grows written before after) : Grows more before after :=
  ⟨grows.current, fun place => (grows.items place).mono (wider place)⟩

theorem Grows.direct (grows : Grows written before after) {location : Location}
    (direct : before.Direct location) : after.Direct location := by
  intro place initial target linked
  exact direct place initial target (((grows.items place).link_iff target).mp linked)

/-- Names that are not refused lead as they did. -/
theorem Grows.follow_eq (grows : Grows written before after) {names : List Text} :
    ∀ {here : Location}, (∀ reason, before.follow true here names ≠ .refused reason) →
      after.follow true here names = before.follow true here names := by
  induction names with
  | nil => exact fun _ => rfl
  | cons name rest ih =>
      intro here passed
      simp only [follow] at passed ⊢
      by_cases up : name = ['.', '.']
      · rw [if_pos up] at passed
        rw [if_pos up, if_pos up]
        exact ih passed
      rw [if_neg up] at passed
      rw [if_neg up, if_neg up]
      split
      · rfl
      rename_i short
      rw [if_neg short] at passed
      have change := grows.items (here ++ [name])
      generalize before.at? (here ++ [name]) = a at change passed ⊢
      generalize after.at? (here ++ [name]) = b at change ⊢
      -- Only folders are passed on the way; behind anything else there are no names left.
      cases rest with
      | nil =>
          cases change with
          | same => rfl
          | made => rfl
          | wrote here noFolder noLink =>
              rcases a with _ | _ | _ | target
              · rfl
              · exact absurd rfl noFolder
              · rfl
              · exact absurd rfl (noLink target)
      | cons next more =>
          cases change with
          | same =>
              rcases a with _ | _ | _ | target
              · exact absurd rfl (passed .notFound)
              · exact ih passed
              · exact absurd rfl (passed .notFolder)
              · rfl
          | made => exact absurd rfl (passed .notFound)
          | wrote here noFolder noLink =>
              rcases a with _ | _ | _ | target
              · exact absurd rfl (passed .notFound)
              · exact absurd rfl noFolder
              · exact absurd rfl (passed .notFolder)
              · exact absurd rfl (noLink target)

theorem Grows.leads (grows : Grows written before after) {links : Nat} {here place : Location}
    {names : List Text} (leads : Leads before true links here names place) :
    Leads after true links here names place := by
  induction leads with
  | arrived reached =>
      refine .arrived ?_
      rw [grows.follow_eq (by simp [reached]), reached]
  | link reached _ ih =>
      refine .link ?_ ih
      rw [grows.follow_eq (by simp [reached]), reached]

theorem Grows.locate_eq_ok (grows : Grows written before after) {path : Path} {place : Location}
    (led : before.locate path = .ok place) : after.locate path = .ok place := by
  rw [locate] at led ⊢
  cases refused : refusal? path with
  | some reason => simp only [refused] at led; cases led
  | none =>
      simp only [refused, startOf, grows.current] at led ⊢
      exact followLinks_eq_ok_iff.mpr (grows.leads (followLinks_eq_ok_iff.mp led))

/-- Where only links count, names lead as they did. -/
theorem Grows.follow_false (grows : Grows written before after) (names : List Text) :
    ∀ here : Location, after.follow false here names = before.follow false here names := by
  induction names with
  | nil => exact fun _ => rfl
  | cons name rest ih =>
      intro here
      simp only [follow, ih, Bool.false_and]
      have change := grows.items (here ++ [name])
      generalize before.at? (here ++ [name]) = a at change ⊢
      generalize after.at? (here ++ [name]) = b at change ⊢
      cases change with
      | same => rfl
      | made => rfl
      | wrote here noFolder noLink =>
          rcases a with _ | _ | _ | target
          · rfl
          · rfl
          · rfl
          · exact absurd rfl (noLink target)

theorem Grows.followLinks_false (grows : Grows written before after) (links : Nat) :
    ∀ (here : Location) (names : List Text),
      after.followLinks false links here names = before.followLinks false links here names := by
  induction links with
  | zero =>
      intro here names
      rw [followLinks, followLinks, grows.follow_false]
  | succ links ih =>
      intro here names
      rw [followLinks, followLinks, grows.follow_false]
      split <;> simp only [ih]

theorem Grows.resolve_eq (grows : Grows written before after) (path : Path) :
    after.resolve path = before.resolve path := by
  simp only [resolve, startOf, grows.current, grows.followLinks_false]

/-- A file that is not written can still be read. -/
theorem Grows.read_eq_ok (grows : Grows written before after) {path : Path} {content : List UInt8}
    (reads : before.read path = .ok content)
    (unwritten : ∀ place, before.resolve path = .ok place → ¬ written place) :
    after.read path = .ok content := by
  obtain ⟨place, modified, led, stood⟩ := read_eq_ok_iff.mp reads
  refine read_eq_ok_iff.mpr ⟨place, modified, grows.locate_eq_ok led, ?_⟩
  exact ((grows.items place).file_iff (unwritten place (resolve_of_locate led)) _ _).mpr stood

end Growth

section Writing

variable {written : Location → Prop} {disk after : Disk} {path : Path}

theorem grows_put {location : Location} {item : Item} (inside : location ≠ [])
    (change : Change (written location) (disk.at? location) (some item)) :
    Grows written disk (disk.put location item) := by
  refine ⟨rfl, fun place => ?_⟩
  rw [at?_put disk item inside]
  split
  · rename_i here
    rw [← here]
    exact change
  · exact .same _

theorem grows_makeFolder (made : disk.makeFolder path = .ok after) : Grows written disk after := by
  rw [makeFolder] at made
  split at made
  · cases made
  split at made
  · obtain ⟨item, _, refused⟩ := bind_eq_ok_iff.mp made
    cases refused
  obtain ⟨place, slotted, made⟩ := bind_eq_ok_iff.mp made
  obtain ⟨folder, _, slotted⟩ := bind_eq_ok_iff.mp slotted
  have inside : place ≠ [] := by
    split at slotted <;> cases slotted
    exact List.concat_ne_nil _ _
  split at made
  · cases made
  split at made
  · cases made
  · rename_i empty
    cases made
    exact grows_put inside (empty ▸ .made)

theorem grows_makeFoldersWithin (bound : Nat) :
    ∀ path disk, Grows written disk (makeFoldersWithin bound path disk).1 := by
  induction bound with
  | zero =>
      intro path disk
      rw [makeFoldersWithin]
      split
      · rename_i made
        exact grows_makeFolder made
      · exact .refl _ _
      · exact .refl _ _
  | succ bound ih =>
      intro path disk
      have above := ih path.parent disk
      rw [makeFoldersWithin]
      split
      · rename_i made
        exact grows_makeFolder made
      · revert above
        rcases makeFoldersWithin bound path.parent disk with ⟨middle, fault | _⟩
        · exact id
        · intro above
          simp only
          split
          · rename_i made
            exact above.trans (grows_makeFolder made)
          · exact above
          · exact above
      · exact .refl _ _

theorem exists_of_write {content : List UInt8} (wrote : disk.write path content = .ok after) :
    ∃ place, disk.locate path = .ok place ∧ disk.at? place ≠ some .folder ∧
      after = disk.put place (.file content disk.now) := by
  rw [write] at wrote
  cases led : disk.locate path with
  | error reason => simp only [led] at wrote; cases wrote
  | ok place =>
      simp only [led] at wrote
      split at wrote
      · cases wrote
      · rename_i noFolder
        cases wrote
        exact ⟨place, rfl, noFolder, rfl⟩

theorem grows_write (direct : disk.Direct disk.current) {content : List UInt8}
    (wrote : disk.write path content = .ok after) :
    Grows (fun place => disk.resolve path = .ok place) disk after ∧ after.read path = .ok content := by
  obtain ⟨place, led, noFolder, rfl⟩ := exists_of_write wrote
  have inside : place ≠ [] := by
    rintro rfl
    exact noFolder rfl
  have noLink : ∀ target, disk.at? place ≠ some (.link target) :=
    direct_of_locate direct led place List.prefix_rfl
  have grows : Grows (fun place => disk.resolve path = .ok place) disk
      (disk.put place (.file content disk.now)) :=
    grows_put inside (.wrote (resolve_of_locate led) noFolder noLink content disk.now)
  refine ⟨grows, ?_⟩
  refine read_eq_ok_iff.mpr ⟨place, disk.now, grows.locate_eq_ok led, ?_⟩
  rw [at?_put disk _ inside, if_pos rfl]

theorem grows_writeText (direct : disk.Direct disk.current) (path : Path) (text : Text) :
    Grows (fun place => disk.resolve path = .ok place) disk (disk.writeText path text).1 ∧
      ((disk.writeText path text).2 = .ok () →
        (disk.writeText path text).1.read path = .ok (Utf8.encode text)) := by
  have made : Grows (fun place => disk.resolve path = .ok place) disk
      (disk.makeFolders path.parent).1 := grows_makeFoldersWithin _ _ _
  rw [writeText]
  revert made
  rcases disk.makeFolders path.parent with ⟨middle, fault | _⟩
  · intro made
    refine ⟨made, ?_⟩
    rintro ⟨⟩
  · intro made
    cases wrote : middle.write path (Utf8.encode text) with
    | error fault =>
        simp only [wrote]
        refine ⟨made, ?_⟩
        rintro ⟨⟩
    | ok after =>
        have current : middle.Direct middle.current := made.current ▸ made.direct direct
        obtain ⟨grows, reads⟩ := grows_write current wrote
        simp only [wrote]
        refine ⟨made.trans (grows.mono fun place led => ?_), fun _ => reads⟩
        rwa [← made.resolve_eq path]

/-- What the conversion of a file does to the disk: nothing, or it writes a stylesheet. -/
theorem convertFile_cases [Romanization] (disk : Disk) (settings : Settings) (source output : Path) :
    (disk.convertFile settings source output).disk = disk ∧
        (∀ target, (disk.convertFile settings source output).result ≠ .ok (some target)) ∨
      ∃ markup stylesheet, disk.readText source = .ok markup ∧
        convert settings markup = .ok (some stylesheet) ∧
        (disk.convertFile settings source output).disk = (disk.writeText output stylesheet).1 ∧
        (disk.convertFile settings source output).result =
          (disk.writeText output stylesheet).2.map fun _ => some output := by
  rw [convertFile]
  cases text : disk.readText source with
  | error fault => exact .inl ⟨rfl, by rintro _ ⟨⟩⟩
  | ok markup =>
      cases converted : (Conversion.run settings markup).result with
      | error fault =>
          refine .inl ?_
          simp only [converted]
          exact ⟨trivial, by rintro _ ⟨⟩⟩
      | ok made =>
          cases made with
          | none =>
              refine .inl ?_
              simp only [converted]
              exact ⟨trivial, by rintro _ ⟨⟩⟩
          | some stylesheet =>
              refine .inr ⟨markup, stylesheet, rfl, converted, ?_⟩
              simp only [converted]
              rcases disk.writeText output stylesheet with ⟨after, fault | _⟩
              · exact ⟨rfl, rfl⟩
              · exact ⟨rfl, rfl⟩

/-- A file is converted: the disk grows, and a path that is written holds the stylesheet of the text that
was read. -/
theorem grows_convertFile [Romanization] (direct : disk.Direct disk.current) (settings : Settings)
    (source output : Path) :
    Grows (fun place => disk.resolve output = .ok place) disk
        (disk.convertFile settings source output).disk ∧
      ∀ target, (disk.convertFile settings source output).result = .ok (some target) →
        target = output ∧ ∃ markup stylesheet, disk.readText source = .ok markup ∧
          convert settings markup = .ok (some stylesheet) ∧
          (disk.convertFile settings source output).disk.read output =
            .ok (Utf8.encode stylesheet) := by
  rcases convertFile_cases disk settings source output with
    ⟨same, failed⟩ | ⟨markup, stylesheet, text, converted, left, ended⟩
  · rw [same]
    exact ⟨.refl _ _, fun target written => absurd written (failed target)⟩
  obtain ⟨grows, reads⟩ := grows_writeText direct output stylesheet
  rw [left, ended]
  refine ⟨grows, fun target written => ?_⟩
  cases wrote : (disk.writeText output stylesheet).2 with
  | error fault =>
      rw [wrote] at written
      cases written
  | ok done =>
      rw [wrote] at written
      cases written
      exact ⟨rfl, markup, stylesheet, text, converted, reads wrote⟩

end Writing

end Disk

end NestedStyles
