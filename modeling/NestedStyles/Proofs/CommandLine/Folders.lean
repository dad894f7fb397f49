import NestedStyles.Proofs.Batch.Targets
import NestedStyles.Proofs.Files.Descent

/-!
Files that a search of a folder finds, and files that are accepted when they are named.

A search goes by the last characters of a name, whatever has it. A path that is named has to lead to a
file, and what follows the last dot of its name counts in any case, but only behind something else. On a
disk without links the two agree on every path below the folder but those that are `Misjudged`.
-/

set_option autoImplicit false

namespace NestedStyles

theorem Path.endingOf_suffix (name : Text) : Path.endingOf name <:+ name := by
  have parts := List.takeWhile_append_dropWhile (p := (· != '.')) (l := name.reverse)
  rw [Path.endingOf]
  split
  · exact List.nil_suffix
  rename_i long
  cases rest : name.reverse.dropWhile (· != '.') with
  | nil =>
      rw [rest, List.append_nil] at parts
      rw [parts, List.reverse_reverse, Nat.sub_self] at long
      simp at long
  | cons dot front =>
      have stops := List.head_dropWhile_not (· != '.') (l := name.reverse) (by simp [rest])
      simp only [rest, List.head_cons, bne_eq_false_iff_eq] at stops
      rw [rest, stops] at parts
      refine ⟨front.reverse, ?_⟩
      simpa using congrArg List.reverse parts

namespace CommandLine

open Batch

section Names

/-- That a name ends as the names of markup files do. -/
def EndsAsMarkup (name : Text) : Prop :=
  ∃ ending ∈ markupEndings, ending <:+ name

theorem dotted_of_mem_markupEndings : ∀ ending ∈ markupEndings,
    ending = '.' :: ending.tail ∧ ending.tail ≠ [] ∧ '.' ∉ ending.tail := by decide

theorem lower_of_mem_markupEndings : ∀ ending ∈ markupEndings, Text.lower ending = ending := by
  decide +kernel

theorem endingOf_of_mem_markupEndings : ∀ name ∈ markupEndings, Path.endingOf name = [] := by
  decide

theorem isMarkup_iff {path : Path} : isMarkup path = true ↔ Text.lower path.ending ∈ markupEndings :=
  List.contains_iff_mem

/-- A name ends as those of markup files do if that is all of it or its ending. -/
theorem endsAsMarkup_iff {name : Text} :
    EndsAsMarkup name ↔ name ∈ markupEndings ∨ Path.endingOf name ∈ markupEndings := by
  constructor
  · rintro ⟨ending, among, stem, rfl⟩
    obtain ⟨dotted, filled, plain⟩ := dotted_of_mem_markupEndings ending among
    by_cases bare : stem = []
    · left
      rwa [bare, List.nil_append]
    · right
      rw [dotted, Path.endingOf_dotted bare filled plain, ← dotted]
      exact among
  · rintro (bare | among)
    · exact ⟨name, bare, List.suffix_rfl⟩
    · exact ⟨_, among, Path.endingOf_suffix name⟩

theorem isMarkup_of_ending {path : Path} (among : path.ending ∈ markupEndings) :
    isMarkup path = true := by
  rw [isMarkup_iff, lower_of_mem_markupEndings _ among]
  exact among

theorem not_isMarkup_of_bare {path : Path} (bare : path.name ∈ markupEndings) :
    ¬ isMarkup path = true := by
  rw [isMarkup_iff, Path.ending, endingOf_of_mem_markupEndings _ bare]
  decide +kernel

end Names

section Descending

variable {disk : Disk} {path : Path} {place : Location} {names : List Text}

theorem root_descend (names : List Text) : ∀ path, (descend path names).root = path.root := by
  induction names with
  | nil => exact fun _ => rfl
  | cons name rest ih => exact fun path => ih (path.child name)

theorem startOf_descend : disk.startOf (descend path names) = disk.startOf path := by
  rw [Disk.startOf, Disk.startOf, Path.isAbsolute, Path.isAbsolute, root_descend]

theorem name_descend (filled : names ≠ []) :
    (descend path names).name = names.getLast?.getD [] := by
  rw [Path.name, parts_descend, List.getLast?_append, List.getLast?_eq_some_getLast filled]
  rfl

/-- Paths below one path differ in their names. -/
theorem descend_injective : Function.Injective (descend path) := by
  intro names more same
  have parts := congrArg Path.parts same
  rw [parts_descend, parts_descend] at parts
  exact List.append_cancel_left parts

theorem climb_of_straight :
    ∀ {here}, ['.', '.'] ∉ names → climb here names = here ++ names := by
  induction names with
  | nil => exact fun _ => (List.append_nil _).symm
  | cons name rest ih =>
      intro here straight
      rw [List.mem_cons, not_or] at straight
      have step : climb here (name :: rest) = climb (here ++ [name]) rest :=
        congrArg (climb · rest) (if_neg (Ne.symm straight.1))
      rw [step, ih straight.2, List.append_assoc, List.singleton_append]

/-- Below a folder, paths stand for the places that their names say. -/
theorem resolve_descend (unlinked : Unlinked disk) (led : disk.locate path = .ok place)
    (straight : ['.', '.'] ∉ names) : disk.resolve (descend path names) = .ok (place ++ names) := by
  have above := (Disk.resolve_of_locate led).symm.trans (resolve_of_unlinked unlinked path)
  rw [resolve_of_unlinked unlinked, startOf_descend, parts_descend, climb, List.foldl_append,
    ← climb, ← climb, ← Except.ok.inj above, climb_of_straight straight]

/-- What stands below a folder is found there, under any path that the disk takes. -/
theorem find?_descend_iff (unlinked : Unlinked disk) (orderly : disk.Orderly)
    (led : disk.locate path = .ok place) (folder : disk.at? place = some .folder)
    (straight : ['.', '.'] ∉ names) (item : Item) :
    disk.find? (descend path names) = .ok (some item) ↔
      Disk.refusal? (descend path names) = none ∧ disk.at? (place ++ names) = some item := by
  rw [Disk.find?_eq_some_iff]
  constructor
  · rintro ⟨below, ledBelow, stands⟩
    have same := (Disk.resolve_of_locate ledBelow).symm.trans (resolve_descend unlinked led straight)
    rw [← Except.ok.inj same]
    exact ⟨(Disk.locate_eq_ok_iff.mp ledBelow).1, stands⟩
  · rintro ⟨taken, stands⟩
    have further := orderly.follow_below (fun target linked =>
      unlinked _ target (linked ▸ stands)) names stands
    refine ⟨place ++ names, Disk.locate_eq_ok_iff.mpr ⟨taken, ?_⟩, stands⟩
    rw [startOf_descend, parts_descend]
    exact (Disk.locate_eq_ok_iff.mp led).2.append folder further

end Descending

section Spelling

variable {disk : Disk}

/-- A path with the place that it stands for where there are no links. -/
def spelling (disk : Disk) (path : Path) : Path × Location :=
  (path, climb (disk.startOf path) path.parts)

theorem distinct_of_unlinked (unlinked : Unlinked disk) (paths : List Path) :
    distinct disk paths = .ok (firstSpellings [] (paths.map (spelling disk))) := by
  have placed : paths.mapM (fun path => do return (path, ← placeOf disk path)) =
      .ok (paths.map (spelling disk)) := by
    rw [mapM_eq_ok_iff, List.forall₂_map_right_iff, List.forall₂_same]
    intro path _
    rw [placeOf, resolve_of_unlinked unlinked]
    rfl
  rw [distinct, placed]
  rfl

/-- Every place that is not known before keeps one of its paths. -/
theorem exists_mem_firstSpellings {path : Path} {place : Location}
    {spellings : List (Path × Location)} :
    ∀ {known}, place ∉ known → (path, place) ∈ spellings →
      ∃ other ∈ firstSpellings known spellings, (other, place) ∈ spellings := by
  induction spellings with
  | nil => exact fun _ member => by cases member
  | cons first rest ih =>
      obtain ⟨own, here⟩ := first
      intro known fresh member
      rw [firstSpellings]
      by_cases same : place = here
      · subst same
        rw [if_neg (fun taken => fresh (List.contains_iff_mem.mp taken))]
        exact ⟨own, List.mem_cons_self, List.mem_cons_self⟩
      have later : (path, place) ∈ rest :=
        (List.mem_cons.mp member).resolve_left fun first => same (congrArg Prod.snd first)
      split
      · obtain ⟨other, kept, spelled⟩ := ih fresh later
        exact ⟨other, kept, List.mem_cons_of_mem _ spelled⟩
      · obtain ⟨other, kept, spelled⟩ :=
          ih (fun among => (List.mem_cons.mp among).elim same fresh) later
        exact ⟨other, List.mem_cons_of_mem _ kept, List.mem_cons_of_mem _ spelled⟩

/-- What is collected for one path is what that stands for, without further spellings. -/
theorem collect_singleton (unlinked : Unlinked disk) {text : Text} {files : List Path}
    {records : List Record} (expanded : expand disk (Path.ofText text) = .ok (files, records)) :
    (collect disk [text]).result = .ok (firstSpellings [] (files.map (spelling disk))) := by
  have all : expandAll disk [Path.ofText text] = (records, .ok files) := by
    simp [expandAll, expanded, Except.map]
  rw [collect, List.map_singleton, all]
  exact distinct_of_unlinked unlinked files

end Spelling

section Searching

variable {disk : Disk} {path : Path} {place : Location} {names : List Text}

theorem mem_matching_iff {file : Path} {ending : Text} :
    file ∈ matching disk path place ending ↔ ∃ names item, (names, item) ∈ disk.below place ∧
      ending <:+ names.getLast?.getD [] ∧ descend path names = file := by
  rw [matching, ordered, List.mem_mergeSort, List.mem_filterMap, Prod.exists]
  simp only [Option.ite_none_right_eq_some, Option.some.injEq, List.isSuffixOf_iff_suffix]

theorem exists_of_mem_search {file : Path}
    (found : file ∈ markupEndings.flatMap (matching disk path place)) :
    ∃ names item, names ≠ [] ∧ (place ++ names, item) ∈ disk.items ∧ descend path names = file := by
  obtain ⟨ending, -, matched⟩ := List.mem_flatMap.mp found
  obtain ⟨names, item, listed, -, same⟩ := mem_matching_iff.mp matched
  obtain ⟨filled, inside⟩ := Disk.mem_below_iff.mp listed
  exact ⟨names, item, filled, inside, same⟩

/-- A search finds whatever stands below and has a name that ends as those of markup files do. -/
theorem mem_search_iff (filled : names ≠ []) :
    descend path names ∈ markupEndings.flatMap (matching disk path place) ↔
      (∃ item, disk.at? (place ++ names) = some item) ∧ EndsAsMarkup (descend path names).name := by
  rw [List.mem_flatMap, name_descend filled,
    Disk.exists_at?_iff (List.append_ne_nil_of_right_ne_nil _ filled)]
  constructor
  · rintro ⟨ending, among, matched⟩
    obtain ⟨same, item, listed, ends, spelled⟩ := mem_matching_iff.mp matched
    cases descend_injective spelled
    exact ⟨⟨item, (Disk.mem_below_iff.mp listed).2⟩, ending, among, ends⟩
  · rintro ⟨⟨item, listed⟩, ending, among, ends⟩
    exact ⟨ending, among, mem_matching_iff.mpr
      ⟨names, item, Disk.mem_below_iff.mpr ⟨filled, listed⟩, ends, rfl⟩⟩

/-- No two paths that a search finds stand for one place, so none is left out. -/
theorem mem_firstSpellings_search_iff (unlinked : Unlinked disk) (orderly : disk.Orderly)
    (led : disk.locate path = .ok place) {file : Path} :
    file ∈ firstSpellings [] ((markupEndings.flatMap (matching disk path place)).map
        (spelling disk)) ↔ file ∈ markupEndings.flatMap (matching disk path place) := by
  generalize same : markupEndings.flatMap (matching disk path place) = found
  have spelled : ∀ {file here}, (file, here) ∈ found.map (spelling disk) →
      file ∈ found ∧ disk.resolve file = .ok here := by
    intro file here member
    obtain ⟨own, among, written⟩ := List.mem_map.mp member
    cases written
    exact ⟨among, resolve_of_unlinked unlinked _⟩
  have below : ∀ {file}, file ∈ found → ∃ names, descend path names = file ∧
      disk.resolve file = .ok (place ++ names) := by
    intro file among
    obtain ⟨names, item, -, listed, rfl⟩ := exists_of_mem_search (same ▸ among)
    exact ⟨names, rfl, resolve_descend unlinked led fun up =>
      orderly.plain _ listed (List.mem_append_right _ up)⟩
  constructor
  · intro kept
    obtain ⟨⟨own, here⟩, member, rfl⟩ := List.mem_map.mp (mem_of_mem_firstSpellings kept)
    exact (spelled member).1
  · intro among
    obtain ⟨names, rfl, stands⟩ := below among
    have own : spelling disk (descend path names) ∈ found.map (spelling disk) :=
      List.mem_map_of_mem among
    obtain ⟨other, kept, member⟩ := exists_mem_firstSpellings List.not_mem_nil own
    obtain ⟨amongOther, led⟩ := spelled member
    obtain ⟨more, rfl, standsOther⟩ := below amongOther
    have meet := standsOther.symm.trans (led.trans ((spelled own).2.symm.trans stands))
    cases List.append_cancel_left (Except.ok.inj meet)
    exact kept

end Searching

section Collecting

variable {disk : Disk}

theorem expand_of_missing {path : Path} (looked : disk.find? path = .ok none) :
    expand disk path = .ok ([], [missingRecord path]) := by
  simp [expand, looked, Except.mapError, bind, Except.bind, pure, Except.pure]

theorem expand_of_folder {path : Path} {place : Location} (led : disk.locate path = .ok place)
    (stands : disk.at? place = some .folder) :
    expand disk path = .ok (markupEndings.flatMap (matching disk path place), []) := by
  have looked := Disk.find?_eq_some_iff.mpr ⟨place, led, stands⟩
  simp [expand, looked, led, Except.mapError, bind, Except.bind, pure, Except.pure]

theorem expand_of_file {path : Path} {item : Item} (looked : disk.find? path = .ok (some item))
    (noFolder : item ≠ .folder) :
    expand disk path =
      if isMarkup path then .ok ([path], []) else .ok ([], [otherRecord path]) := by
  cases item with
  | folder => exact absurd rfl noFolder
  | file content modified =>
      simp [expand, looked, Except.mapError, bind, Except.bind, pure, Except.pure]
  | link target => simp [expand, looked, Except.mapError, bind, Except.bind, pure, Except.pure]

/-- A folder stands for all below it that has a name that ends as those of markup files do. -/
theorem exists_collect_folder (unlinked : Unlinked disk) (orderly : disk.Orderly) {folder : Text}
    {place : Location} (led : disk.locate (Path.ofText folder) = .ok place)
    (stands : disk.at? place = some .folder) :
    ∃ found, (collect disk [folder]).result = .ok found ∧ ∀ names, names ≠ [] →
      (descend (Path.ofText folder) names ∈ found ↔
        (∃ item, disk.at? (place ++ names) = some item) ∧
          EndsAsMarkup (descend (Path.ofText folder) names).name) := by
  refine ⟨_, collect_singleton unlinked (expand_of_folder led stands), fun names filled => ?_⟩
  rw [mem_firstSpellings_search_iff unlinked orderly led, mem_search_iff filled]

/-- A path that is named stands for itself if it leads to a file and has the ending of one. -/
theorem collect_named_iff (unlinked : Unlinked disk) {text : Text} :
    (collect disk [text]).result = .ok [Path.ofText text] ↔
      (∃ content modified, disk.find? (Path.ofText text) = .ok (some (.file content modified))) ∧
        isMarkup (Path.ofText text) = true := by
  cases looked : disk.find? (Path.ofText text) with
  | error fault =>
      have failed : (collect disk [text]).result = .error (.disk fault) := by
        simp [collect, expandAll, expand, looked, Except.mapError, bind, Except.bind]
      simp [failed]
  | ok item =>
      rcases item with _ | _ | ⟨content, modified⟩ | target
      · simp [collect_singleton unlinked (expand_of_missing looked), firstSpellings]
      · obtain ⟨place, led, stands⟩ := Disk.find?_eq_some_iff.mp looked
        rw [collect_singleton unlinked (expand_of_folder led stands)]
        constructor
        · intro alone
          have member := List.mem_singleton_self (Path.ofText text)
          rw [← Except.ok.inj alone] at member
          obtain ⟨_, found, same⟩ := List.mem_map.mp (mem_of_mem_firstSpellings member)
          obtain ⟨_, searched, rfl⟩ := List.mem_map.mp found
          -- Whatever a search finds lies below the folder, and so is not the folder itself.
          obtain ⟨names, _, filled, -, spelled⟩ := exists_of_mem_search searched
          have whole : descend (Path.ofText text) names = descend (Path.ofText text) [] :=
            spelled.trans same
          exact absurd (descend_injective whole) filled
        · rintro ⟨⟨_, _, ⟨⟩⟩, _⟩
      · have expanded := expand_of_file looked Item.noConfusion
        by_cases markup : isMarkup (Path.ofText text) = true
        · rw [if_pos markup] at expanded
          simp [collect_singleton unlinked expanded, firstSpellings, spelling, markup]
        · rw [if_neg markup] at expanded
          simp [collect_singleton unlinked expanded, firstSpellings, markup]
      · obtain ⟨place, -, linked⟩ := Disk.find?_eq_some_iff.mp looked
        exact absurd linked (unlinked place target)

end Collecting

section Agreeing

variable {disk : Disk}

/-- The paths of which a search says otherwise than their naming does. -/
inductive Misjudged (disk : Disk) (path : Path) : Prop
  /-- A folder is found, but not accepted. -/
  | folder (stands : disk.find? path = .ok (some .folder)) (ends : EndsAsMarkup path.name)
  /-- A file whose name is an ending is found, but not accepted. -/
  | bare {content : List UInt8} {modified : Int}
      (stands : disk.find? path = .ok (some (.file content modified)))
      (bare : path.name ∈ markupEndings)
  /-- A file whose ending is one of markup in another case is accepted, but not found. -/
  | otherCase {content : List UInt8} {modified : Int}
      (stands : disk.find? path = .ok (some (.file content modified)))
      (markup : isMarkup path = true) (other : path.ending ∉ markupEndings)
  /-- What stands where a path leads that the disk does not take is found, but not accepted. -/
  | refused {place : Location} {item : Item} (refused : Disk.refusal? path ≠ none)
      (led : disk.resolve path = .ok place) (stands : disk.at? place = some item)
      (ends : EndsAsMarkup path.name)

/-- A path below a folder is found in it exactly if it is accepted when it is named, but for the paths
that are misjudged; and of those the two never agree. -/
theorem searched_iff_named (unlinked : Unlinked disk) (orderly : disk.Orderly)
    {folder path : Text} {names : List Text}
    (stands : disk.find? (Path.ofText folder) = .ok (some .folder))
    (below : Path.ofText path = descend (Path.ofText folder) names) (filled : names ≠ [])
    (straight : ['.', '.'] ∉ names) :
    ∃ found, (collect disk [folder]).result = .ok found ∧
      ((Path.ofText path ∈ found ↔ (collect disk [path]).result = .ok [Path.ofText path]) ↔
        ¬ Misjudged disk (Path.ofText path)) := by
  obtain ⟨place, led, isFolder⟩ := Disk.find?_eq_some_iff.mp stands
  obtain ⟨found, collected, searched⟩ := exists_collect_folder unlinked orderly led isFolder
  have leads := resolve_descend unlinked led straight
  have reaches := find?_descend_iff unlinked orderly led isFolder straight
  refine ⟨found, collected, ?_⟩
  rw [collect_named_iff unlinked, below, searched names filled]
  generalize descend (Path.ofText folder) names = file at leads reaches ⊢
  constructor
  · rintro agree (⟨stands, ends⟩ | ⟨stands, bare⟩ | ⟨stands, markup, other⟩ |
      ⟨refused, resolved, stands, ends⟩)
    · obtain ⟨⟨_, _, isFile⟩, _⟩ := agree.mp ⟨⟨_, ((reaches _).mp stands).2⟩, ends⟩
      rw [stands] at isFile
      cases isFile
    · refine not_isMarkup_of_bare bare (agree.mp ⟨⟨_, ((reaches _).mp stands).2⟩, ?_⟩).2
      exact endsAsMarkup_iff.mpr (.inl bare)
    · rcases endsAsMarkup_iff.mp (agree.mpr ⟨⟨_, _, stands⟩, markup⟩).2 with bare | among
      · exact not_isMarkup_of_bare bare markup
      · exact other among
    · cases Except.ok.inj (leads.symm.trans resolved)
      obtain ⟨⟨_, _, isFile⟩, _⟩ := agree.mp ⟨⟨_, stands⟩, ends⟩
      exact refused ((reaches _).mp isFile).1
  · intro judged
    constructor
    · rintro ⟨⟨item, stands⟩, ends⟩
      have taken : Disk.refusal? file = none := by
        by_contra refused
        exact judged (.refused refused leads stands ends)
      have looked := (reaches item).mpr ⟨taken, stands⟩
      rcases item with _ | ⟨content, modified⟩ | target
      · exact absurd (.folder looked ends) judged
      · refine ⟨⟨content, modified, looked⟩, ?_⟩
        rcases endsAsMarkup_iff.mp ends with bare | among
        · exact absurd (.bare looked bare) judged
        · exact isMarkup_of_ending among
      · exact absurd stands (unlinked _ target)
    · rintro ⟨⟨content, modified, looked⟩, markup⟩
      refine ⟨⟨_, ((reaches _).mp looked).2⟩, ?_⟩
      by_contra other
      exact judged (.otherCase looked markup fun among => other (endsAsMarkup_iff.mpr (.inr among)))

/-- A folder with a file of markup and with a folder that is named like one. -/
def archive : Disk where
  items := [(["site".toList], .folder), (["site".toList, "old.html".toList], .folder),
    (["site".toList, "a.html".toList], .file [] 0)]

theorem searched_iff_named_archive :
    ∃ found, (collect archive ["site".toList]).result = .ok found ∧
      ¬ (Path.ofText "site/old.html".toList ∈ found ↔
        (collect archive ["site/old.html".toList]).result =
          .ok [Path.ofText "site/old.html".toList]) := by
  have unlinked : Unlinked archive := unlinked_of_forall (by simp [archive])
  have orderly : archive.Orderly := ⟨by decide +kernel, by decide +kernel, by decide +kernel⟩
  have stands : archive.find? (Path.ofText "site".toList) = .ok (some .folder) := by decide +kernel
  have below : Path.ofText "site/old.html".toList =
      descend (Path.ofText "site".toList) ["old.html".toList] := by decide +kernel
  obtain ⟨found, collected, agree⟩ :=
    searched_iff_named unlinked orderly stands below (List.cons_ne_nil _ _) (by decide)
  have misjudged : Misjudged archive (Path.ofText "site/old.html".toList) :=
    .folder (by decide +kernel) ⟨".html".toList, by decide, by decide +kernel⟩
  exact ⟨found, collected, fun same => agree.mp same misjudged⟩

end Agreeing

end CommandLine

end NestedStyles
