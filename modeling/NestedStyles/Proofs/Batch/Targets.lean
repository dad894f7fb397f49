import Mathlib.Data.List.Nodup
import NestedStyles.Batch.Output
import NestedStyles.CommandLine.Inputs
import NestedStyles.Proofs.Results

/-!
The paths for the stylesheets of a batch.

The path for a stylesheet keeps the folder and the stem of its source, or the stem alone where an output
is given. So files that differ in their endings alone share a path, and no other files do. Without links
on the disk, paths for stylesheets also lead to different places unless folder and stem are the same, and
none leads to a file that is to be converted.
-/

set_option autoImplicit false

namespace NestedStyles

def Path.stem (path : Path) : Text :=
  path.name.take (path.name.length - (Path.endingOf path.name).length)

/-- The last dot and what follows are the ending of a name if there is something on either side. -/
theorem Path.endingOf_dotted {stem after : Text} (nonempty : stem ≠ []) (filled : after ≠ [])
    (plain : '.' ∉ after) : Path.endingOf (stem ++ '.' :: after) = '.' :: after := by
  have behind : ((stem ++ '.' :: after).reverse.takeWhile (· != '.')).reverse = after := by
    have others : ∀ c ∈ after.reverse, (c != '.') = true := by
      intro c member
      exact bne_iff_ne.mpr fun same => plain (same ▸ List.mem_reverse.mp member)
    rw [List.reverse_append, List.reverse_cons, List.append_assoc,
      List.takeWhile_append_of_pos others]
    simp
  have pos := List.length_pos_iff.mpr nonempty
  rw [Path.endingOf, behind]
  refine if_neg ?_
  simp only [List.isEmpty_iff, filled, List.length_append, List.length_cons, Bool.or_eq_true,
    decide_eq_true_eq, false_or]
  omega

namespace Batch

section Naming

variable {disk : Disk} {output : Option Path}

/-- What the path for a stylesheet comes from: the folder and the stem. -/
def site (output : Option Path) (path : Path) : Path × Text :=
  (output.getD path.parent, path.stem)

/-- The path for a stylesheet in a folder. -/
def sited (site : Path × Text) : Path :=
  site.1.child (site.2 ++ stylesheetEnding)

theorem sited_injective : Function.Injective sited := by
  rintro ⟨folder, stem⟩ ⟨other, more⟩ same
  have parents : folder = other := by
    rw [← Path.parent_child folder (stem ++ stylesheetEnding),
      ← Path.parent_child other (more ++ stylesheetEnding)]
    exact congrArg Path.parent same
  have names : stem ++ stylesheetEnding = more ++ stylesheetEnding := by
    rw [← Path.name_child folder (stem ++ stylesheetEnding),
      ← Path.name_child other (more ++ stylesheetEnding)]
    exact congrArg Path.name same
  rw [parents, List.append_cancel_right names]

theorem stylesheetPath_eq_ok {path target : Path} (computed : stylesheetPath path = .ok target) :
    target = path.parent.child (path.stem ++ stylesheetEnding) := by
  rw [stylesheetPath, Path.withEnding?] at computed
  split at computed
  · rename_i made
    split at made
    · cases made
    · cases made
      cases computed
      rfl
  · cases computed

theorem outputPath_eq_ok {path target : Path}
    (computed : outputPath disk output false path = .ok target) :
    sited (site output path) = target := by
  cases output with
  | none => exact (stylesheetPath_eq_ok computed).symm
  | some given =>
      have steps : (stylesheetPath path >>= fun beside => .ok (given.child beside.name)) =
          .ok target := computed
      obtain ⟨beside, found, named⟩ := bind_eq_ok_iff.mp steps
      cases named
      rw [stylesheetPath_eq_ok found, Path.name_child]
      rfl

theorem mapM_outputPath_eq_ok {files targets : List Path}
    (computed : files.mapM (outputPath disk output false) = .ok targets) :
    (files.map (site output)).map sited = targets := by
  rw [List.map_map, ← List.forall₂_eq_eq_eq, List.forall₂_map_left_iff]
  exact (mapM_eq_ok_iff.mp computed).imp fun _ _ computed => outputPath_eq_ok computed

/-- Paths for stylesheets are distinct if their folders or stems are. -/
theorem nodup_targets_iff {files targets : List Path}
    (computed : files.mapM (outputPath disk output (files.length == 1)) = .ok targets) :
    targets.Nodup ↔ (files.map (site output)).Nodup := by
  cases alone : files.length == 1 with
  | false =>
      rw [alone] at computed
      rw [← mapM_outputPath_eq_ok computed, List.nodup_map_iff sited_injective]
  | true =>
      obtain ⟨path, rfl⟩ := List.length_eq_one_iff.mp (beq_iff_eq.mp alone)
      obtain ⟨target, rfl⟩ := List.length_eq_one_iff.mp (mapM_eq_ok_iff.mp computed).length_eq.symm
      exact ⟨fun _ => List.nodup_singleton _, fun _ => List.nodup_singleton _⟩

theorem length_endingOf_lt {name : Text} (named : name ≠ []) :
    (Path.endingOf name).length < name.length := by
  have pos := List.length_pos_iff.mpr named
  rw [Path.endingOf]
  split
  · exact pos
  · rename_i long
    simp only [Bool.or_eq_true, decide_eq_true_eq, not_or] at long
    simp only [List.length_cons]
    omega

theorem stem_ne_nil {path : Path} (named : path.name ≠ []) : path.stem ≠ [] := by
  have short := length_endingOf_lt named
  rw [Path.stem, ← List.length_pos_iff, List.length_take]
  omega

theorem endingOf_append {stem : Text} (nonempty : stem ≠ []) :
    Path.endingOf (stem ++ stylesheetEnding) = stylesheetEnding :=
  Path.endingOf_dotted nonempty (by decide) (by decide)

def Unlinked (disk : Disk) : Prop :=
  ∀ place target, disk.at? place ≠ some (.link target)

theorem unlinked_of_forall (plain : ∀ entry ∈ disk.items, ∀ target, entry.2 ≠ .link target) :
    Unlinked disk := by
  have found : ∀ (items : List (Location × Item)), (∀ entry ∈ items, ∀ target,
      entry.2 ≠ .link target) → ∀ place target, Disk.found? place items ≠ some (.link target) := by
    intro items plain place target
    induction items with
    | nil => exact fun linked => by cases linked
    | cons entry rest ih =>
        rw [List.forall_mem_cons] at plain
        rw [Disk.found?]
        split
        · exact fun linked => plain.1 target (Option.some.inj linked)
        · exact ih plain.2
  intro place target
  cases place with
  | nil => exact fun linked => by cases linked
  | cons name rest => exact found disk.items plain (name :: rest) target

/-- Where names lead if nothing stands in the way. -/
def climb (here : Location) (names : List Text) : Location :=
  names.foldl (fun here name => if name = ['.', '.'] then here.dropLast else here ++ [name]) here

theorem follow_of_unlinked (unlinked : Unlinked disk) (names : List Text) :
    ∀ here, disk.follow false here names = .arrived (climb here names) := by
  induction names with
  | nil => exact fun _ => rfl
  | cons name rest ih =>
      intro here
      have plain := unlinked (here ++ [name])
      simp only [Disk.follow, ih, Bool.false_and, climb, List.foldl_cons]
      split
      · rfl
      generalize disk.at? (here ++ [name]) = item at plain ⊢
      rcases item with _ | _ | _ | target
      · rfl
      · rfl
      · rfl
      · exact absurd rfl (plain target)

theorem resolve_of_unlinked (unlinked : Unlinked disk) (path : Path) :
    disk.resolve path = .ok (climb (disk.startOf path) path.parts) := by
  rw [Disk.resolve, Disk.followLinks, follow_of_unlinked unlinked]

theorem resolve_child_of_unlinked (unlinked : Unlinked disk) (path : Path) {name : Text}
    (plain : name ≠ ['.', '.']) :
    disk.resolve (path.child name) = .ok (climb (disk.startOf path) path.parts ++ [name]) := by
  have start : disk.startOf (path.child name) = disk.startOf path := rfl
  rw [resolve_of_unlinked unlinked, start, climb, climb, Path.child, List.foldl_append]
  exact congrArg Except.ok (if_neg plain)

end Naming

/-- A name that a markup file may have: neither that of the folder above nor that of a stylesheet. -/
structure NamesMarkup (name : Text) : Prop where
  named : name ≠ []
  plain : name ≠ ['.', '.']
  other : ∀ stem, stem ≠ [] → name ≠ stem ++ stylesheetEnding

theorem namesMarkup_of_isMarkup {path : Path} (markup : CommandLine.isMarkup path = true) :
    NamesMarkup path.name := by
  have lowered : Text.lower (Path.endingOf path.name) ∈ CommandLine.markupEndings :=
    List.contains_iff_mem.mp markup
  refine ⟨?_, ?_, ?_⟩
  · intro name
    rw [name] at lowered
    revert lowered
    decide +kernel
  · intro name
    rw [name] at lowered
    revert lowered
    decide +kernel
  · intro stem nonempty name
    rw [name, endingOf_append nonempty] at lowered
    revert lowered
    decide +kernel

theorem namesMarkup_of_suffix {name ending : Text} (suffix : ending <:+ name)
    (among : ending ∈ CommandLine.markupEndings) : NamesMarkup name := by
  have last : name.getLast? = some 'l' ∨ name.getLast? = some 'm' := by
    obtain ⟨front, rfl⟩ := suffix
    simp only [CommandLine.markupEndings, List.mem_cons, List.not_mem_nil, or_false] at among
    rcases among with rfl | rfl
    · left
      rw [List.getLast?_append]
      rfl
    · right
      rw [List.getLast?_append]
      rfl
  refine ⟨?_, ?_, ?_⟩
  · rintro rfl
    revert last
    decide
  · rintro rfl
    revert last
    decide
  · rintro stem _ rfl
    have ended : stylesheetEnding.getLast? = some 's' := by decide
    rw [List.getLast?_append, ended] at last
    simp at last

section Collecting

variable {disk : Disk}

theorem mem_of_mem_firstSpellings {path : Path} {spellings : List (Path × Location)} :
    ∀ {known : List Location}, path ∈ CommandLine.firstSpellings known spellings →
      path ∈ spellings.map Prod.fst := by
  induction spellings with
  | nil => exact fun member => member
  | cons first rest ih =>
      intro known member
      rw [CommandLine.firstSpellings] at member
      split at member
      · exact List.mem_cons_of_mem _ (ih member)
      · rcases List.mem_cons.mp member with rfl | later
        · exact List.mem_cons_self
        · exact List.mem_cons_of_mem _ (ih later)

theorem parts_descend (names : List Text) :
    ∀ path, (CommandLine.descend path names).parts = path.parts ++ names := by
  induction names with
  | nil => exact fun path => (List.append_nil _).symm
  | cons name rest ih =>
      intro path
      have next : CommandLine.descend path (name :: rest) =
          CommandLine.descend (path.child name) rest := rfl
      rw [next, ih, Path.child, List.append_assoc]
      rfl

theorem namesMarkup_of_matching {path file : Path} {folder : Location} {ending : Text}
    (among : ending ∈ CommandLine.markupEndings)
    (member : file ∈ CommandLine.matching disk path folder ending) : NamesMarkup file.name := by
  rw [CommandLine.matching, CommandLine.ordered, List.mem_mergeSort] at member
  obtain ⟨⟨names, item⟩, -, found⟩ := List.mem_filterMap.mp member
  simp only [Option.ite_none_right_eq_some, Option.some.injEq] at found
  obtain ⟨suffix, rfl⟩ := found
  have suffix := List.isSuffixOf_iff_suffix.mp suffix
  refine namesMarkup_of_suffix ?_ among
  rw [Path.name, parts_descend, List.getLast?_append]
  cases last : names.getLast? with
  | some name =>
      rw [last] at suffix
      exact suffix
  | none =>
      rw [last, Option.getD_none, List.suffix_nil] at suffix
      rw [suffix]
      exact List.nil_suffix

theorem namesMarkup_of_expand {path : Path} {files : List Path} {records : List Record}
    (expanded : CommandLine.expand disk path = .ok (files, records)) :
    ∀ file ∈ files, NamesMarkup file.name := by
  obtain ⟨item, -, expanded⟩ := bind_eq_ok_iff.mp expanded
  intro file member
  split at expanded
  · cases expanded
    cases member
  · split at expanded
    · cases expanded
      cases member
    · cases expanded
      obtain ⟨ending, among, matched⟩ := List.mem_flatMap.mp member
      exact namesMarkup_of_matching among matched
  · split at expanded
    · rename_i markup
      cases expanded
      cases List.mem_singleton.mp member
      exact namesMarkup_of_isMarkup markup
    · cases expanded
      cases member

theorem namesMarkup_of_expandAll {paths : List Path} :
    ∀ {files : List Path}, (CommandLine.expandAll disk paths).2 = .ok files →
      ∀ file ∈ files, NamesMarkup file.name := by
  induction paths with
  | nil =>
      intro files expanded file member
      cases expanded
      cases member
  | cons path rest ih =>
      intro files expanded
      rw [CommandLine.expandAll] at expanded
      split at expanded
      · cases expanded
      rename_i first records here
      cases further : (CommandLine.expandAll disk rest).2 with
      | error fault => simp only [further] at expanded; cases expanded
      | ok more =>
          simp only [further] at expanded
          cases expanded
          intro file member
          rcases List.mem_append.mp member with own | later
          · exact namesMarkup_of_expand here file own
          · exact ih further file later

/-- Files that are collected have names of markup files. -/
theorem namesMarkup_of_collect {inputs : List Text} {files : List Path}
    (collected : (CommandLine.collect disk inputs).result = .ok files) :
    ∀ file ∈ files, NamesMarkup file.name := by
  intro file member
  obtain ⟨paths, expanded, distinct⟩ := bind_eq_ok_iff.mp collected
  obtain ⟨spellings, placed, first⟩ := bind_eq_ok_iff.mp distinct
  cases first
  have spelled : paths = spellings.map Prod.fst := by
    rw [← List.forall₂_eq_eq_eq, List.forall₂_map_right_iff]
    refine (mapM_eq_ok_iff.mp placed).imp fun path spelling step => ?_
    obtain ⟨place, -, same⟩ := bind_eq_ok_iff.mp step
    cases same
    rfl
  exact namesMarkup_of_expandAll expanded file (spelled ▸ mem_of_mem_firstSpellings member)

end Collecting

/-- That two paths stand for one place. -/
def Meet (disk : Disk) (a b : Path) : Prop :=
  ∃ place, disk.resolve a = .ok place ∧ disk.resolve b = .ok place

/-- That of two files with their outputs neither is written where the other is read or written. -/
structure Apart (disk : Disk) (a b : Path × Path) : Prop where
  outputs : ¬ Meet disk a.2 b.2
  forwards : ¬ Meet disk a.2 b.1
  backwards : ¬ Meet disk b.2 a.1

section Unlinked

variable {disk : Disk}

theorem resolve_sited (unlinked : Unlinked disk) (site : Path × Text) :
    disk.resolve (sited site) =
      .ok (climb (disk.startOf site.1) site.1.parts ++ [site.2 ++ stylesheetEnding]) := by
  refine resolve_child_of_unlinked unlinked _ fun same => ?_
  have length := congrArg List.length same
  simp [stylesheetEnding] at length

/-- Without links, what is written for one file is not what is read for another. -/
theorem not_meet_of_namesMarkup (unlinked : Unlinked disk) {site : Path × Text} {path : Path}
    (stem : site.2 ≠ []) (markup : NamesMarkup path.name) : ¬ Meet disk (sited site) path := by
  rintro ⟨place, written, read⟩
  rw [← Path.child_parent_name markup.named, resolve_child_of_unlinked unlinked _ markup.plain] at read
  rw [resolve_sited unlinked] at written
  cases written
  have same := List.append_inj_right' (Except.ok.inj read) rfl
  exact markup.other site.2 stem (List.head_eq_of_cons_eq same)

/-- Without links, files in different folders or with different stems are converted apart. -/
theorem pairwise_apart_of_unlinked (unlinked : Unlinked disk) {output : Option Path}
    {files targets : List Path} (markup : ∀ path ∈ files, NamesMarkup path.name)
    (computed : files.mapM (outputPath disk output (files.length == 1)) = .ok targets)
    (distinct : (files.map fun path => (disk.resolve (site output path).1, path.stem)).Nodup) :
    (files.zip targets).Pairwise (Apart disk) := by
  cases alone : files.length == 1 with
  | true =>
      obtain ⟨path, rfl⟩ := List.length_eq_one_iff.mp (beq_iff_eq.mp alone)
      obtain ⟨target, rfl⟩ := List.length_eq_one_iff.mp (mapM_eq_ok_iff.mp computed).length_eq.symm
      exact List.pairwise_singleton _ _
  | false =>
      rw [alone] at computed
      rw [← mapM_outputPath_eq_ok computed, List.map_map, ← List.map_prod_left_eq_zip,
        List.pairwise_map]
      refine (List.pairwise_map.mp distinct).imp_of_mem ?_
      intro a b inA inB different
      have stem : ∀ path ∈ files, (site output path).2 ≠ [] :=
        fun path member => stem_ne_nil (markup path member).named
      refine ⟨?_, not_meet_of_namesMarkup unlinked (stem a inA) (markup b inB),
        not_meet_of_namesMarkup unlinked (stem b inB) (markup a inA)⟩
      rintro ⟨place, first, second⟩
      have same := Except.ok.inj (((resolve_sited unlinked _).symm.trans first).trans
        (second.symm.trans (resolve_sited unlinked _)))
      refine different (Prod.ext ?_ ?_)
      · rw [resolve_of_unlinked unlinked, resolve_of_unlinked unlinked]
        exact congrArg Except.ok (List.append_inj_left' same rfl)
      · exact List.append_cancel_right (List.head_eq_of_cons_eq (List.append_inj_right' same rfl))

end Unlinked

end Batch

end NestedStyles
