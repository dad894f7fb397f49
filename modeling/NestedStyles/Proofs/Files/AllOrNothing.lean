import NestedStyles.Proofs.Conversion
import NestedStyles.Proofs.Files.Descent
import NestedStyles.Proofs.Files.Growth

/-!
What a conversion leaves on a disk. Either a stylesheet is written, and nothing else changes but
that the folders for it are made; or none is, and then those folders are all that may be new, and
they are made for a stylesheet alone.
-/

set_option autoImplicit false

namespace NestedStyles

/-- That a path stands for a folder on the way of another path, or for its end. -/
def Path.Above (above path : Path) : Prop :=
  above.root = path.root ∧ above.parts <+: path.parts

theorem Path.Above.refl (path : Path) : path.Above path :=
  ⟨rfl, List.prefix_rfl⟩

theorem Path.Above.of_parent {above path : Path} (parent : above.Above path.parent) :
    above.Above path :=
  ⟨parent.1, parent.2.trans (List.dropLast_prefix _)⟩

namespace Disk

section Paving

variable {before middle after disk : Disk} {path : Path}

/-- That nothing has changed at a location, or that a folder was made there where nothing stood, for
a path that leads over it. -/
def Paved (path : Path) (before after : Disk) (place : Location) : Prop :=
  after.at? place = before.at? place ∨ before.at? place = none ∧ after.at? place = some .folder ∧
    ∃ above : Path, above.Above path ∧ before.resolve above = .ok place

/-- That a disk has changed by folders alone that were made on the way of a path. -/
structure Paves (path : Path) (before after : Disk) : Prop where
  current : after.current = before.current
  items : ∀ place, Paved path before after place

theorem Paves.refl (path : Path) (disk : Disk) : Paves path disk disk :=
  ⟨rfl, fun _ => .inl rfl⟩

theorem Paves.grows {written : Location → Prop} (paves : Paves path before after) :
    Grows written before after := by
  refine ⟨paves.current, fun place => ?_⟩
  rcases paves.items place with same | ⟨empty, made, -⟩
  · rw [same]
    exact .same _
  · rw [empty, made]
    exact .made

theorem Paves.of_parent (paves : Paves path.parent before after) : Paves path before after :=
  ⟨paves.current, fun place => (paves.items place).imp_right
    fun ⟨empty, made, above, leads, resolved⟩ => ⟨empty, made, above, leads.of_parent, resolved⟩⟩

theorem Paves.trans (first : Paves path before middle) (second : Paves path middle after) :
    Paves path before after := by
  refine ⟨second.current.trans first.current, fun place => ?_⟩
  have grows : Grows (fun _ => False) before middle := first.grows
  rcases second.items place with same | ⟨empty, made, above, leads, resolved⟩
  · rcases first.items place with unchanged | ⟨empty, made, paved⟩
    · exact .inl (same.trans unchanged)
    · exact .inr ⟨empty, same.trans made, paved⟩
  · rw [grows.resolve_eq] at resolved
    rcases first.items place with unchanged | ⟨_, filled, -⟩
    · exact .inr ⟨unchanged ▸ empty, made, above, leads, resolved⟩
    · cases empty.symm.trans filled

/-- A path leads to the slot for its last name while nothing stands there. -/
theorem resolve_of_slot {folder : Location} (named : path.name ≠ []) (down : path.name ≠ ['.', '.'])
    (short : ¬ maxNameBytes < (Utf8.encode path.name).length)
    (led : disk.locate path.parent = .ok folder) (stands : disk.at? folder = some .folder)
    (empty : disk.at? (folder ++ [path.name]) = none) :
    disk.resolve path = .ok (folder ++ [path.name]) := by
  have onward : disk.follow true folder [path.name] = .arrived (folder ++ [path.name]) := by
    rw [follow_last down fun target linked => ?_, if_neg short]
    rw [empty] at linked
    cases linked
  have leads := (locate_eq_ok_iff.mp led).2.append stands onward
  have parts := congrArg Path.parts (Path.child_parent_name named)
  rw [show path.parent.parts ++ [path.name] = path.parts from parts] at leads
  exact followLinks_eq_ok_iff.mpr (leads.loose.mono (by decide))

theorem paves_makeFolder (made : disk.makeFolder path = .ok after) : Paves path disk after := by
  rw [makeFolder] at made
  split at made
  · cases made
  split at made
  · obtain ⟨item, _, refused⟩ := bind_eq_ok_iff.mp made
    cases refused
  rename_i proper
  obtain ⟨named, down⟩ := not_or.mp proper
  obtain ⟨place, slotted, made⟩ := bind_eq_ok_iff.mp made
  obtain ⟨folder, led, slotted⟩ := bind_eq_ok_iff.mp slotted
  split at slotted
  · rename_i stands
    cases slotted
    split at made
    · cases made
    rename_i short
    split at made
    · cases made
    rename_i empty
    cases made
    have resolved := resolve_of_slot named down short led stands empty
    refine ⟨rfl, fun place => ?_⟩
    rw [Paved, at?_put disk _ (List.concat_ne_nil _ _)]
    split
    · rename_i here
      subst here
      exact .inr ⟨empty, rfl, path, .refl path, resolved⟩
    · exact .inl rfl
  · cases slotted
  · cases slotted

theorem paves_makeFoldersWithin (bound : Nat) :
    ∀ path disk, Paves path disk (makeFoldersWithin bound path disk).1 := by
  induction bound with
  | zero =>
      intro path disk
      rw [makeFoldersWithin]
      split
      · rename_i made
        exact paves_makeFolder made
      · exact .refl _ _
      · exact .refl _ _
  | succ bound ih =>
      intro path disk
      have above := (ih path.parent disk).of_parent
      rw [makeFoldersWithin]
      split
      · rename_i made
        exact paves_makeFolder made
      · revert above
        rcases makeFoldersWithin bound path.parent disk with ⟨middle, fault | _⟩
        · exact id
        · intro above
          simp only
          split
          · rename_i made
            exact above.trans (paves_makeFolder made)
          · exact above
          · exact above
      · exact .refl _ _

end Paving

section Writing

variable {disk after : Disk} {path : Path}

/-- That a disk has changed by the file at a place, where a path leads before and after, and by
folders that were made on the way there. -/
structure Writes (path : Path) (content : List UInt8) (before after : Disk) (place : Location) :
    Prop where
  current : after.current = before.current
  stood : before.resolve path = .ok place
  stands : after.resolve path = .ok place
  written : ∃ modified, after.at? place = some (.file content modified)
  reads : after.read path = .ok content
  elsewhere : ∀ other, other ≠ place → Paved path.parent before after other

/-- The folders for a text are made, and then it is written or not. -/
theorem exists_writeText (disk : Disk) (path : Path) (text : Text) :
    ∃ middle, Paves path.parent disk middle ∧
      ((∃ fault, disk.writeText path text = (middle, .error fault)) ∨
        ∃ after, middle.write path (Utf8.encode text) = .ok after ∧
          disk.writeText path text = (after, .ok ())) := by
  have paves : Paves path.parent disk (disk.makeFolders path.parent).1 :=
    paves_makeFoldersWithin _ _ _
  rw [writeText]
  rcases made : disk.makeFolders path.parent with ⟨middle, fault | _⟩
  · rw [made] at paves
    exact ⟨middle, paves, .inl ⟨_, rfl⟩⟩
  · rw [made] at paves
    refine ⟨middle, paves, ?_⟩
    cases wrote : middle.write path (Utf8.encode text) with
    | error fault => exact .inl ⟨.disk fault, by simp only [wrote]⟩
    | ok after => exact .inr ⟨after, rfl, by simp only [wrote]⟩

theorem writes_of_write {middle : Disk} {text : Text} (direct : disk.Direct disk.current)
    (paves : Paves path.parent disk middle)
    (wrote : middle.write path (Utf8.encode text) = .ok after) :
    ∃ place, Writes path (Utf8.encode text) disk after place := by
  have made : Grows (fun place => disk.resolve path = .ok place) disk middle := paves.grows
  have current : middle.Direct middle.current := made.current ▸ made.direct direct
  obtain ⟨grows, reads⟩ := grows_write current wrote
  obtain ⟨place, led, noFolder, rfl⟩ := exists_of_write wrote
  have inside : place ≠ [] := fun root => noFolder (root ▸ rfl)
  have stood := resolve_of_locate led
  refine ⟨place, grows.current.trans made.current, (made.resolve_eq path).symm.trans stood,
    (grows.resolve_eq path).trans stood, ⟨middle.now, ?_⟩, reads, fun other apart => ?_⟩
  · rw [at?_put middle _ inside, if_pos rfl]
  · rw [Paved, at?_put middle _ inside, if_neg (Ne.symm apart)]
    exact paves.items other

/-- A conversion that writes nothing, for whatever reason, leaves all files and links as they were,
and makes folders only for a stylesheet that was then not written. A conversion that writes leaves
the stylesheet of the text that was read where its output leads, and all else as it was but for
folders on the way there. -/
theorem convertFile_allOrNothing [Romanization] (direct : disk.Direct disk.current)
    (settings : Settings) (source output : Path) :
    ((∀ target, (disk.convertFile settings source output).result ≠ .ok (some target)) →
        Paves output.parent disk (disk.convertFile settings source output).disk ∧
        ((disk.convertFile settings source output).disk ≠ disk →
          ∃ markup stylesheet, disk.readText source = .ok markup ∧
            convert settings markup = .ok (some stylesheet))) ∧
      ∀ target, (disk.convertFile settings source output).result = .ok (some target) →
        target = output ∧ ∃ markup stylesheet place, disk.readText source = .ok markup ∧
          convert settings markup = .ok (some stylesheet) ∧
          Writes output (Utf8.encode stylesheet) disk
            (disk.convertFile settings source output).disk place := by
  rcases convertFile_cases disk settings source output with
    ⟨same, failed⟩ | ⟨markup, stylesheet, text, converted, left, ended⟩
  · refine ⟨fun _ => ⟨?_, fun changed => absurd same changed⟩, fun target written => ?_⟩
    · rw [same]
      exact .refl _ _
    · exact absurd written (failed target)
  rw [left, ended]
  obtain ⟨middle, paves, ⟨fault, written⟩ | ⟨after, wrote, written⟩⟩ :=
    exists_writeText disk output stylesheet
  · rw [written]
    refine ⟨fun _ => ⟨paves, fun _ => ⟨markup, stylesheet, text, converted⟩⟩, ?_⟩
    rintro _ ⟨⟩
  · rw [written]
    refine ⟨fun failed => absurd rfl (failed output), ?_⟩
    rintro _ ⟨⟩
    obtain ⟨place, writes⟩ := writes_of_write direct paves wrote
    exact ⟨rfl, markup, stylesheet, place, text, converted, writes⟩

def desk : Disk where
  items := [(["a.html".toList], .file (Utf8.encode Markup.leaf) 0)]

def desk.page : Path := ⟨[], ["a.html".toList]⟩

/-- Where the stylesheet of the page goes, in a folder that is missing. -/
def desk.sheet : Path := ⟨[], ["out".toList, "a.scss".toList]⟩

set_option maxRecDepth 4096 in
theorem convertFile_desk :
    desk.Direct desk.current ∧ ∃ stylesheet place,
      convert { formatOutput := .bool false } Markup.leaf = .ok (some stylesheet) ∧
        Writes desk.sheet (Utf8.encode stylesheet) desk
          (desk.convertFile { formatOutput := .bool false } desk.page desk.sheet).disk place := by
  have typed : ({ formatOutput := .bool false } : Settings).WellTyped :=
    { Settings.wellTyped_default with formatOutput := rfl }
  have read : desk.readText desk.page = .ok Markup.leaf := rfl
  have cleans : Text.clean? Markup.leaf = some Markup.leaf := by decide +kernel
  have styled : Node.Matters (.element "p".toList [("class".toList, "a".toList)] []) :=
    .inr (.inl ⟨"a".toList, by decide +kernel, 'a', by decide +kernel, by decide +kernel⟩)
  obtain ⟨outline, made⟩ := Option.ne_none_iff_exists'.mp fun none =>
    (Outline.ofForest?_eq_none_iff 1 [.element "p".toList [("class".toList, "a".toList)] []]).mp
      none [0] _ rfl styled
  obtain ⟨raw, written, -⟩ := Raw.ne_nil_of_ofForest? typed made 0
  have converted : convert { formatOutput := .bool false } Markup.leaf = .ok (some raw) := by
    rw [convert_of_read _ cleans Markup.read_leaf, made, Option.elim_some, Conversion.stylesheet,
      written]
    rfl
  have ended : (desk.convertFile { formatOutput := .bool false } desk.page desk.sheet).result =
      .ok (some desk.sheet) := by
    have landed : (desk.writeText desk.sheet raw).2 = .ok () := rfl
    rw [convert] at converted
    simp only [convertFile, read, converted]
    rcases written : desk.writeText desk.sheet raw with ⟨after, fault | _⟩
    · rw [written] at landed
      cases landed
    · rfl
  have direct : desk.Direct desk.current := direct_nil desk
  obtain ⟨-, markup, stylesheet, place, text, result, writes⟩ :=
    (convertFile_allOrNothing direct { formatOutput := .bool false } desk.page desk.sheet).2 _ ended
  rw [read] at text
  cases text
  exact ⟨direct, stylesheet, place, result, writes⟩

end Writing

end Disk

end NestedStyles
