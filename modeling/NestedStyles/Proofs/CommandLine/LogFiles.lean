import Mathlib.Data.Set.Card
import NestedStyles.CommandLine.Logbook
import NestedStyles.Proofs.Files.Listing

/-!
The log files on a disk: the files in the folder of logs that have the name of one. They are found with the
times of their last change, the oldest first, and those in front are the ones that are removed.
-/

set_option autoImplicit false

namespace NestedStyles

theorem Utf8.encode_append (front back : Text) :
    encode (front ++ back) = encode front ++ encode back :=
  List.flatMap_append

namespace Logbook

/-- Where the folder of logs stands. -/
def site (disk : Disk) : Location :=
  disk.current ++ folder.parts

def nameOf (stamp : Text) : Text :=
  opening ++ stamp ++ ending

/-- That a file in the folder of logs has the name of a log file and was last changed at a time. -/
def HasLog (disk : Disk) (name : Text) (modified : Int) : Prop :=
  isLogName name = true ∧ ∃ content, disk.at? (site disk ++ [name]) = some (.file content modified)

def logNames (disk : Disk) : Set Text :=
  {name | ∃ modified, HasLog disk name modified}

/-- A name that a file system takes. -/
structure Takeable (name : Text) : Prop where
  short : (Utf8.encode name).length ≤ Disk.maxNameBytes
  unended : Char.ofNat 0 ∉ name

/-- What holds of a folder of logs without links, however its content came there. -/
structure Sound (disk : Disk) : Prop where
  single : disk.Single
  plain : ∀ below target, disk.at? (site disk ++ below) ≠ some (.link target)
  named : ∀ name item, disk.at? (site disk ++ [name]) = some item → Takeable name

section Leading

variable {disk : Disk} {name : Text}

theorem parts_folder : folder.parts = ["logs".toList] := by
  decide

theorem site_ne (disk : Disk) (name : Text) : site disk ≠ site disk ++ [name] := by simp

/-- A disk is sound if its items are. -/
theorem sound_of_forall (single : disk.Single)
    (plain : ∀ entry ∈ disk.items, ∀ target, entry.2 ≠ .link target)
    (named : ∀ entry ∈ disk.items, ∀ name ∈ entry.1,
      (Utf8.encode name).length ≤ Disk.maxNameBytes ∧ Char.ofNat 0 ∉ name) : Sound disk := by
  have inside : ∀ below, site disk ++ below ≠ [] := by
    intro below
    rw [site, parts_folder]
    simp
  refine ⟨single, fun below target linked => ?_, fun name item stands => ?_⟩
  · exact plain _ (Disk.mem_items_of_at? (inside below) linked) target rfl
  · obtain ⟨short, unended⟩ := named _ (Disk.mem_items_of_at? (inside [name]) stands) name (by simp)
    exact ⟨short, unended⟩

theorem down_of_isLogName (log : isLogName name = true) : name ≠ ['.', '.'] := by
  rintro rfl
  exact absurd log (by decide)

theorem isLogName_nameOf (stamp : Text) : isLogName (nameOf stamp) = true := by
  have behind : (nameOf stamp).drop opening.length = stamp ++ ending := by
    rw [nameOf, List.append_assoc, List.drop_left]
  rw [isLogName, behind, Bool.and_eq_true, List.isPrefixOf_iff_prefix, List.isSuffixOf_iff_suffix]
  exact ⟨⟨stamp ++ ending, by rw [nameOf, List.append_assoc]⟩, List.suffix_append _ _⟩

theorem locate_folder (sound : Sound disk) : disk.locate folder = .ok (site disk) := by
  have taken : Disk.refusal? folder = none := by decide +kernel
  have start : disk.startOf folder = disk.current := rfl
  have plain := sound.plain []
  rw [List.append_nil, site, parts_folder] at plain
  have led := Disk.follow_last (by decide) plain
  rw [if_neg (by decide +kernel)] at led
  rw [Disk.locate, taken, start, site, parts_folder, Disk.followLinks]
  simp only [led]

/-- Where the path of a log file leads, if the disk takes it. -/
theorem locate_child (sound : Sound disk) (stands : disk.at? (site disk) = some .folder)
    (down : name ≠ ['.', '.']) (taken : Disk.refusal? (folder.child name) = none) :
    disk.locate (folder.child name) =
      if Disk.maxNameBytes < (Utf8.encode name).length then .error .nameTooLong
      else .ok (site disk ++ [name]) := by
  have start : disk.startOf (folder.child name) = disk.current := rfl
  have parts : (folder.child name).parts = ["logs".toList, name] := by
    rw [Path.child, parts_folder]
    rfl
  have led := Disk.follow_last down (sound.plain [name])
  rw [site, parts_folder] at stands led ⊢
  have through : disk.follow true disk.current ["logs".toList, name] =
      disk.follow true (disk.current ++ ["logs".toList]) [name] := by
    rw [Disk.follow, if_neg (by decide), if_neg (by decide +kernel)]
    simp only [stands]
  rw [Disk.locate, start, parts, Disk.followLinks, through, led]
  simp only [taken]
  by_cases long : Disk.maxNameBytes < (Utf8.encode name).length
  · simp only [if_pos long]
  · simp only [if_neg long]

theorem toText_child (name : Text) : (folder.child name).toText = "logs/".toList ++ name := by
  rw [Path.toText, Path.child, parts_folder]
  rfl

theorem refusal?_child (takeable : Takeable name) : Disk.refusal? (folder.child name) = none := by
  have unended : Char.ofNat 0 ∉ "logs/".toList ++ name := by
    rw [List.mem_append, not_or]
    exact ⟨by decide, takeable.unended⟩
  have lead : (Utf8.encode "logs/".toList).length = 5 := by decide +kernel
  have short : ¬ Disk.maxPathBytes < (Utf8.encode ("logs/".toList ++ name)).length := by
    have bounded := takeable.short
    rw [Utf8.encode_append, List.length_append, lead, Disk.maxPathBytes]
    rw [Disk.maxNameBytes] at bounded
    omega
  rw [Disk.refusal?, toText_child, if_neg short, if_neg]
  rwa [List.contains_iff_mem]

theorem unended_of_refusal? (taken : Disk.refusal? (folder.child name) = none) :
    Char.ofNat 0 ∉ name := by
  intro member
  have ended : (folder.child name).toText.contains (Char.ofNat 0) = true := by
    rw [toText_child, List.contains_iff_mem]
    exact List.mem_append_right _ member
  rw [Disk.refusal?, if_pos ended] at taken
  cases taken

/-- The file of a name that stands in the folder of logs is found under its path. -/
theorem modified?_eq_some_iff (sound : Sound disk) (stands : disk.at? (site disk) = some .folder)
    (log : isLogName name = true) {item : Item} (here : disk.at? (site disk ++ [name]) = some item)
    {modified : Int} :
    modified? disk name = some modified ↔ ∃ content, item = .file content modified := by
  have takeable := sound.named name item here
  have led : disk.locate (folder.child name) = .ok (site disk ++ [name]) := by
    rw [locate_child sound stands (down_of_isLogName log) (refusal?_child takeable)]
    exact if_neg (Nat.not_lt.mpr takeable.short)
  have looked : disk.look (folder.child name) = .ok item := by
    rw [Disk.look, led]
    simp only [bind, Except.bind, here]
  rw [modified?, looked]
  cases item <;> simp

end Leading

section Aging

variable {disk : Disk} {name : Text} {modified : Int}

def timed (disk : Disk) : List (Text × Int) :=
  (disk.listing (site disk)).filterMap fun name =>
    if isLogName name then (modified? disk name).map fun modified => (name, modified) else none

/-- The log files with their times, the oldest first. -/
def aged (disk : Disk) : List (Text × Int) :=
  (timed disk).mergeSort fun a b => decide (a.2 ≤ b.2)

theorem map_fst_aged (disk : Disk) : (aged disk).map Prod.fst = logFiles disk (site disk) := rfl

theorem mem_aged_iff (sound : Sound disk) (stands : disk.at? (site disk) = some .folder) :
    (name, modified) ∈ aged disk ↔ HasLog disk name modified := by
  rw [aged, List.mem_mergeSort, timed, List.mem_filterMap]
  simp only [Option.ite_none_right_eq_some, Option.map_eq_some_iff, Prod.mk.injEq]
  constructor
  · rintro ⟨_, member, log, time, found, rfl, rfl⟩
    obtain ⟨item, here⟩ := Disk.mem_listing_iff.mp member
    obtain ⟨content, rfl⟩ := (modified?_eq_some_iff sound stands log here).mp found
    exact ⟨log, content, here⟩
  · rintro ⟨log, content, here⟩
    exact ⟨name, Disk.mem_listing_iff.mpr ⟨_, here⟩, log, modified,
      (modified?_eq_some_iff sound stands log here).mpr ⟨content, rfl⟩, rfl, rfl⟩

theorem mem_logFiles_iff (sound : Sound disk) (stands : disk.at? (site disk) = some .folder) :
    name ∈ logFiles disk (site disk) ↔ name ∈ logNames disk := by
  rw [← map_fst_aged, List.mem_map, logNames, Set.mem_ofPred_eq]
  constructor
  · rintro ⟨⟨own, time⟩, member, rfl⟩
    exact ⟨time, (mem_aged_iff sound stands).mp member⟩
  · rintro ⟨time, log⟩
    exact ⟨(name, time), (mem_aged_iff sound stands).mpr log, rfl⟩

theorem nodup_logFiles (sound : Sound disk) : (logFiles disk (site disk)).Nodup := by
  have different : ((timed disk).map Prod.fst).Nodup := by
    rw [List.Nodup, List.pairwise_map, timed, List.pairwise_filterMap]
    refine (Disk.nodup_listing sound.single (site disk)).imp ?_
    intro name other apart
    simp only [Option.ite_none_right_eq_some, Option.map_eq_some_iff]
    rintro _ ⟨-, _, -, rfl⟩ _ ⟨-, _, -, rfl⟩ same
    exact apart same
  rw [← map_fst_aged]
  exact ((List.mergeSort_perm _ _).map Prod.fst).nodup_iff.mpr different

theorem pairwise_aged (disk : Disk) : (aged disk).Pairwise fun a b => a.2 ≤ b.2 := by
  have sorted : (aged disk).Pairwise fun a b => decide (a.2 ≤ b.2) = true :=
    List.pairwise_mergeSort (by simp; omega) (by simp; omega) (timed disk)
  simpa only [decide_eq_true_eq] using sorted

/-- A log file was last changed at one time only. -/
theorem HasLog.unique {time : Int} (first : HasLog disk name modified)
    (second : HasLog disk name time) : modified = time := by
  obtain ⟨-, content, here⟩ := first
  obtain ⟨-, other, again⟩ := second
  cases here.symm.trans again
  rfl

/-- The log files that are removed so that a number of them remain. -/
def outdated (keep : Nat) (disk : Disk) : List Text :=
  (logFiles disk (site disk)).take ((logFiles disk (site disk)).length - keep)

theorem rotate_eq (sound : Sound disk) (keep : Nat) :
    rotate keep disk =
      (outdated keep disk).foldl (fun left name => left.drop (site disk ++ [name])) disk := by
  rw [rotate, locate_folder sound]
  rfl

section Removing

variable {keep : Nat}

theorem outdated_subset (sound : Sound disk) (stands : disk.at? (site disk) = some .folder) :
    ∀ name ∈ outdated keep disk, name ∈ logNames disk :=
  fun _ member => (mem_logFiles_iff sound stands).mp (List.mem_of_mem_take member)

/-- No log file that is removed is newer than one that stays. -/
theorem le_of_outdated (sound : Sound disk) (stands : disk.at? (site disk) = some .folder)
    {old kept : Text} (first : old ∈ outdated keep disk) (second : kept ∉ outdated keep disk)
    {time : Int} (oldLog : HasLog disk old modified) (keptLog : HasLog disk kept time) :
    modified ≤ time := by
  -- The list of ages is cut where that of names is, and everything in front of the cut is older.
  have split := List.take_append_drop ((logFiles disk (site disk)).length - keep) (aged disk)
  have sorted := pairwise_aged disk
  rw [← split, List.pairwise_append] at sorted
  rw [outdated, ← map_fst_aged, ← List.map_take, List.mem_map] at first second
  obtain ⟨⟨_, age⟩, early, rfl⟩ := first
  obtain rfl := ((mem_aged_iff sound stands).mp (List.mem_of_mem_take early)).unique oldLog
  have late := (mem_aged_iff sound stands).mpr keptLog
  rw [← split, List.mem_append] at late
  rcases late with early | late
  · exact absurd ⟨_, early, rfl⟩ second
  · exact sorted.2.2 _ early _ late

theorem encard_setOf_mem {names : List Text} (different : names.Nodup) :
    {name | name ∈ names}.encard = names.length := by
  rw [← List.coe_toFinset, Set.encard_coe_eq_coe_finsetCard,
    List.toFinset_card_of_nodup different]

theorem encard_logNames (sound : Sound disk) (stands : disk.at? (site disk) = some .folder) :
    (logNames disk).encard = (logFiles disk (site disk)).length := by
  rw [← encard_setOf_mem (nodup_logFiles sound)]
  congr 1
  ext name
  exact (mem_logFiles_iff sound stands).symm

/-- Of the log files as many stay as are to be kept, or all if there are fewer. -/
theorem encard_kept (sound : Sound disk) (stands : disk.at? (site disk) = some .folder) (keep : Nat) :
    (logNames disk \ {name | name ∈ outdated keep disk}).encard =
      min keep (logFiles disk (site disk)).length := by
  have split := List.take_append_drop ((logFiles disk (site disk)).length - keep)
    (logFiles disk (site disk))
  have different := nodup_logFiles sound
  have kept : logNames disk \ {name | name ∈ outdated keep disk} =
      {name | name ∈ (logFiles disk (site disk)).drop
        ((logFiles disk (site disk)).length - keep)} := by
    ext name
    rw [Set.mem_sdiff, ← mem_logFiles_iff sound stands, Set.mem_ofPred_eq, Set.mem_ofPred_eq,
      outdated]
    rw [← split, List.nodup_append] at different
    constructor
    · rintro ⟨member, stays⟩
      rw [← split, List.mem_append] at member
      exact member.resolve_left stays
    · intro late
      exact ⟨List.mem_of_mem_drop late, fun early => different.2.2 name early name late rfl⟩
  rw [kept, encard_setOf_mem (different.sublist (List.drop_sublist _ _)), List.length_drop]
  congr 1
  omega

end Removing

end Aging

end Logbook

end NestedStyles
