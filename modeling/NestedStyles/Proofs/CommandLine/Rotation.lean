import NestedStyles.Proofs.CommandLine.LogFiles
import NestedStyles.Proofs.Files.Growth

/-!
The log files that are kept. A run that starts its log file first removes the oldest log files, as many as
there are too many, and changes nothing else in the folder of logs but its own file. So there are never more
log files than are to be kept, however many runs there were.
-/

set_option autoImplicit false

namespace NestedStyles

namespace Logbook

section Changing

variable {before middle after disk : Disk} {stamp : Text}

/-- What changes on a disk while it stays as it is at some locations. -/
structure Keeps (stays : Location → Prop) (before after : Disk) : Prop where
  current : after.current = before.current
  now : after.now = before.now
  single : before.Single → after.Single
  elsewhere : ∀ place, stays place → after.at? place = before.at? place

theorem Keeps.site_eq {stays : Location → Prop} (keeps : Keeps stays before after) :
    site after = site before := by
  rw [site, site, keeps.current]

/-- The folder of logs stays sound if nothing is added that would not be. -/
theorem Keeps.sound {stays : Location → Prop} (keeps : Keeps stays before after)
    (sound : Sound before)
    (added : ∀ below item, ¬ stays (site before ++ below) →
      after.at? (site before ++ below) = some item →
        (∀ target, item ≠ .link target) ∧ ∀ name, below = [name] → Takeable name) :
    Sound after := by
  refine ⟨keeps.single sound.single, ?_, ?_⟩
  · intro below target linked
    rw [keeps.site_eq] at linked
    by_cases kept : stays (site before ++ below)
    · rw [keeps.elsewhere _ kept] at linked
      exact sound.plain below target linked
    · exact (added below _ kept linked).1 target rfl
  · intro name item stands
    rw [keeps.site_eq] at stands
    by_cases kept : stays (site before ++ [name])
    · rw [keeps.elsewhere _ kept] at stands
      exact sound.named name item stands
    · exact (added [name] item kept stands).2 name rfl

/-- The folder of logs is there, and nothing else has changed. -/
structure Opened (before after : Disk) : Prop extends Keeps (· ≠ site before) before after where
  stands : after.at? (site before) = some .folder

theorem opened_of_makeFolder (made : before.makeFolder folder = .ok after) :
    Opened before after := by
  have named : ¬ (folder.name = [] ∨ folder.name = ['.', '.']) := by decide
  have above : before.locate folder.parent = .ok before.current := by
    have taken : Disk.refusal? folder.parent = none := by decide +kernel
    rw [Disk.locate, taken]
    rfl
  rw [Disk.makeFolder] at made
  split at made
  · cases made
  rw [if_neg named, Disk.slot, above] at made
  obtain ⟨place, slotted, made⟩ := bind_eq_ok_iff.mp made
  have here : place = site before := by
    obtain ⟨_, ⟨⟩, slotted⟩ := bind_eq_ok_iff.mp slotted
    split at slotted <;> cases slotted
    rfl
  split at made
  · cases made
  split at made
  · cases made
  cases made
  have inside : site before ≠ [] := List.concat_ne_nil _ before.current
  subst here
  refine ⟨⟨rfl, rfl, fun single => single.put _ _, fun place apart => ?_⟩, ?_⟩
  · rw [Disk.at?_put before _ inside, if_neg apart.symm]
  · rw [Disk.at?_put before _ inside, if_pos rfl]

theorem opened_of_acceptFolder (sound : Sound before) {reason : DiskReason}
    (accepted : before.acceptFolder folder reason = .ok ()) : Opened before before := by
  obtain ⟨isFolder, looked, accepted⟩ := bind_eq_ok_iff.mp accepted
  split at accepted
  · rename_i yes
    obtain ⟨item, found, same⟩ := bind_eq_ok_iff.mp looked
    cases same
    obtain ⟨place, led, stands⟩ := Disk.find?_eq_some_iff.mp (found.trans (by simpa using yes))
    rw [locate_folder sound] at led
    cases led
    exact ⟨⟨rfl, rfl, id, fun _ _ => rfl⟩, stands⟩
  · cases accepted

/-- The folder in front of that of logs is never made. -/
theorem fst_makeFoldersWithin_parent (disk : Disk) :
    (Disk.makeFoldersWithin 0 folder.parent disk).1 = disk := by
  -- Its path has no last name, and such a path is refused whatever is on the disk.
  have unmade : ∀ made, disk.makeFolder folder.parent ≠ .ok made := by
    intro made same
    rw [Disk.makeFolder] at same
    split at same
    · cases same
    rw [if_pos (.inl (by decide))] at same
    obtain ⟨_, -, same⟩ := bind_eq_ok_iff.mp same
    cases same
  rw [Disk.makeFoldersWithin]
  split
  · rename_i made same
    exact absurd same (unmade made)
  · rfl
  · rfl

theorem opened_of_makeFolders (sound : Sound before)
    (made : before.makeFolders folder = (after, .ok ())) : Opened before after := by
  have accepted : ∀ {reason}, (before, before.acceptFolder folder reason) = (after, .ok ()) →
      Opened before after := by
    intro reason same
    obtain ⟨rfl, accepted⟩ := Prod.mk.inj same
    exact opened_of_acceptFolder sound accepted
  have bound : folder.parts.length = 0 + 1 := by decide
  rw [Disk.makeFolders, bound, Disk.makeFoldersWithin] at made
  split at made
  · rename_i opened
    obtain ⟨rfl, -⟩ := Prod.mk.inj made
    exact opened_of_makeFolder opened
  · rename_i missing
    have unmade := fst_makeFoldersWithin_parent before
    revert made unmade
    rcases Disk.makeFoldersWithin 0 folder.parent before with ⟨middle, fault | _⟩
    · rintro ⟨⟩
    · rintro made rfl
      simp only [missing] at made
      cases made
  · exact accepted made

theorem Opened.sound (opened : Opened before after) (sound : Sound before) : Sound after := by
  refine opened.toKeeps.sound sound fun below item changed here => ?_
  have own : below = [] := by simpa using changed
  subst own
  rw [List.append_nil, opened.stands] at here
  cases here
  exact ⟨fun target => Item.noConfusion, fun name same => absurd same.symm (List.cons_ne_nil _ _)⟩

theorem Opened.hasLog_iff (opened : Opened before after) {name : Text} {modified : Int} :
    HasLog after name modified ↔ HasLog before name modified := by
  rw [HasLog, HasLog, opened.site_eq, opened.elsewhere _ (by simp)]

theorem Opened.logNames_eq (opened : Opened before after) : logNames after = logNames before := by
  ext name
  exact exists_congr fun modified => opened.hasLog_iff

/-- Log files have been dropped from the folder of logs, and nothing else has changed. -/
structure Dropped (names : Set Text) (before after : Disk) : Prop
    extends Keeps (fun place => ∀ name ∈ names, place ≠ site before ++ [name]) before after where
  gone : ∀ name ∈ names, after.at? (site before ++ [name]) = none

theorem dropped_rotate (sound : Sound disk) (keep : Nat) :
    Dropped {name | name ∈ outdated keep disk} disk (rotate keep disk) := by
  rw [rotate_eq sound]
  obtain ⟨left, same⟩ := Disk.exists_foldl_drop_eq (site disk) (outdated keep disk) disk
  refine ⟨⟨by rw [same], by rw [same], Disk.Single.foldl_drop _ _, ?_⟩, ?_⟩
  · intro place apart
    rw [Disk.at?_foldl_drop, if_neg]
    rintro ⟨name, member, same⟩
    exact apart name member same.symm
  · intro name member
    rw [Disk.at?_foldl_drop, if_pos ⟨name, member, rfl⟩]

theorem Dropped.sound {names : Set Text} (dropped : Dropped names before after)
    (sound : Sound before) : Sound after := by
  refine dropped.toKeeps.sound sound fun below item changed here => ?_
  push Not at changed
  obtain ⟨name, member, same⟩ := changed
  rw [same, dropped.gone name member] at here
  cases here

/-- A log file has been written in the folder of logs, and nothing else has changed. -/
structure Written (name : Text) (before after : Disk) : Prop
    extends Keeps (· ≠ site before ++ [name]) before after where
  takeable : Takeable name
  stands : ∃ content, after.at? (site before ++ [name]) = some (.file content before.now)

theorem written_append (sound : Sound disk) (stands : disk.at? (site disk) = some .folder)
    {text : Text} (wrote : append stamp text disk = .ok after) :
    Written (nameOf stamp) disk after := by
  obtain ⟨place, led, -, rfl⟩ := Disk.exists_of_write wrote
  have taken := (Disk.locate_eq_ok_iff.mp led).1
  have path : pathOf stamp = folder.child (nameOf stamp) := rfl
  rw [path] at led taken
  rw [locate_child sound stands (down_of_isLogName (isLogName_nameOf stamp)) taken] at led
  split at led
  · cases led
  rename_i short
  cases led
  have inside : site disk ++ [nameOf stamp] ≠ [] := List.concat_ne_nil _ _
  refine ⟨⟨rfl, rfl, fun single => single.put _ _, fun place apart => ?_⟩,
    ⟨Nat.le_of_not_lt short, unended_of_refusal? taken⟩, ?_⟩
  · rw [Disk.at?_put disk _ inside, if_neg apart.symm]
  · rw [Disk.at?_put disk _ inside, if_pos rfl]
    exact ⟨_, rfl⟩

theorem Written.sound {name : Text} (written : Written name before after) (sound : Sound before) :
    Sound after := by
  obtain ⟨content, stands⟩ := written.stands
  refine written.toKeeps.sound sound fun below item changed here => ?_
  have own : below = [name] := by simpa using changed
  subst own
  cases stands.symm.trans here
  refine ⟨fun target => Item.noConfusion, fun other same => ?_⟩
  cases same
  exact written.takeable

/-- A log file that is written is there behind it, and there is no other that was not there before. -/
theorem Written.subset {name : Text} (written : Written name before after) :
    logNames after ⊆ insert name (logNames before) := by
  rintro other ⟨time, log, content, here⟩
  by_cases own : other = name
  · exact .inl own
  · rw [written.site_eq, written.elsewhere _ (by simpa using own)] at here
    exact .inr ⟨time, log, content, here⟩

theorem Dropped.subset {names : Set Text} (dropped : Dropped names before after) :
    logNames after ⊆ logNames before \ names := by
  rintro name ⟨time, log, content, here⟩
  rw [dropped.site_eq] at here
  have stays : name ∉ names := by
    intro member
    rw [dropped.gone name member] at here
    cases here
  rw [dropped.elsewhere] at here
  · exact ⟨⟨time, log, content, here⟩, stays⟩
  · intro other member same
    cases List.append_cancel_left same
    exact stays member

/-- If only so many files stay and one is written, there is at most one more than that. -/
theorem Written.encard_le {name : Text} {names : Set Text} (keep : Nat)
    (written : Written name middle after) (dropped : Dropped names before middle)
    (stay : (logNames before \ names).encard ≤ keep) : (logNames after).encard ≤ (keep + 1 : Nat) := by
  have only : logNames after ⊆ insert name (logNames before \ names) :=
    written.subset.trans (Set.insert_subset_insert dropped.subset)
  calc (logNames after).encard
    _ ≤ (logNames before \ names).encard + 1 :=
        (Set.encard_le_encard only).trans (Set.encard_insert_le _ _)
    _ ≤ keep + 1 := by gcongr
    _ = (keep + 1 : Nat) := by norm_cast

end Changing

section Starting

variable {before after : Disk} {stamp : Text}

/-- What has happened once a run has started its log file: the oldest log files are removed so that one
less remains than there may be, and the file of the run is there. -/
structure Rotated (stamp : Text) (removed : Set Text) (before after : Disk) : Prop where
  /-- Only log files are removed. -/
  logs : removed ⊆ logNames before
  /-- None that is removed is newer than one that stays. -/
  oldest : ∀ old ∈ removed, ∀ kept ∉ removed, ∀ modified time,
    HasLog before old modified → HasLog before kept time → modified ≤ time
  /-- As many stay as there is room for beside the file of the run. -/
  kept : maxFiles ≤ (logNames before).encard → (logNames before \ removed).encard = (maxFiles - 1 : Nat)
  spared : (logNames before).encard < maxFiles → removed = ∅
  gone : ∀ name ∈ removed, name ≠ nameOf stamp → after.at? (site before ++ [name]) = none
  fresh : HasLog after (nameOf stamp) before.now
  bounded : (logNames after).encard ≤ maxFiles
  current : after.current = before.current
  stands : after.at? (site before) = some .folder
  /-- Nothing else has changed. -/
  others : ∀ place, place ≠ site before → place ≠ site before ++ [nameOf stamp] →
    (∀ name ∈ removed, place ≠ site before ++ [name]) → after.at? place = before.at? place

/-- What `start` does, step by step. -/
theorem exists_of_start (sound : Sound before) (started : start stamp before = (after, .ok ())) :
    ∃ opened left, Opened before opened ∧
      Dropped {name | name ∈ outdated (maxFiles - 1) opened} opened left ∧
      Written (nameOf stamp) left after := by
  rw [start] at started
  split at started
  · cases started
  rename_i opened made
  have folder := opened_of_makeFolders sound made
  have soundOpened := folder.sound sound
  have dropped := dropped_rotate soundOpened (maxFiles - 1)
  -- The folder outlasts what is dropped from it, so the new file finds its place there.
  have stands : (rotate (maxFiles - 1) opened).at? (site (rotate (maxFiles - 1) opened)) =
      some .folder := by
    rw [dropped.site_eq, dropped.elsewhere _ fun name _ => site_ne opened name, folder.site_eq]
    exact folder.stands
  dsimp only at started
  split at started
  · cases started
  rename_i wrote
  cases started
  exact ⟨opened, _, folder, dropped, written_append (dropped.sound soundOpened) stands wrote⟩

theorem rotated_of_start (sound : Sound before) (started : start stamp before = (after, .ok ())) :
    ∃ removed, Rotated stamp removed before after := by
  obtain ⟨opened, left, folder, dropped, written⟩ := exists_of_start sound started
  have soundOpened := folder.sound sound
  have same : site left = site before := dropped.site_eq.trans folder.site_eq
  have stands : opened.at? (site opened) = some .folder := by
    rw [folder.site_eq]
    exact folder.stands
  have count := encard_logNames soundOpened stands
  have kept := encard_kept soundOpened stands (maxFiles - 1)
  have elsewhere := written.elsewhere
  have gone := dropped.gone
  rw [same] at elsewhere
  rw [folder.site_eq] at gone
  rw [folder.logNames_eq] at count kept
  refine ⟨{name | name ∈ outdated (maxFiles - 1) opened}, {
    logs := ?logs, oldest := ?oldest, kept := ?kept, spared := ?spared, gone := ?gone
    fresh := ?fresh, bounded := ?bounded, current := ?current, stands := ?stands
    others := ?others }⟩
  case logs =>
    rw [← folder.logNames_eq]
    exact outdated_subset soundOpened stands
  case oldest =>
    intro old first other second modified time oldLog otherLog
    exact le_of_outdated soundOpened stands first second (folder.hasLog_iff.mpr oldLog)
      (folder.hasLog_iff.mpr otherLog)
  case kept =>
    intro many
    rw [count, Nat.cast_le] at many
    rw [kept, min_eq_left (by omega)]
  case spared =>
    -- The file of the run is not counted yet, so one less than the bound is no file too many.
    intro few
    rw [count, Nat.cast_lt] at few
    have none : outdated (maxFiles - 1) opened = [] := by
      rw [outdated, Nat.sub_eq_zero_of_le (Nat.le_sub_one_of_lt few), List.take_zero]
    simp [none]
  case gone =>
    intro name member other
    rw [elsewhere _ (by simpa using other)]
    exact gone name member
  case fresh =>
    obtain ⟨content, here⟩ := written.stands
    rw [dropped.now, folder.now] at here
    rw [HasLog, written.site_eq]
    exact ⟨isLogName_nameOf stamp, content, here⟩
  case bounded =>
    refine written.encard_le (maxFiles - 1) dropped ?_
    rw [folder.logNames_eq, kept]
    exact_mod_cast min_le_left _ _
  case current => rw [written.current, dropped.current, folder.current]
  case stands =>
    rw [elsewhere _ (site_ne before _), dropped.elsewhere _ ?_]
    · exact folder.stands
    · rw [folder.site_eq]
      exact fun name _ => site_ne before name
  case others =>
    intro place outside other stays
    rw [elsewhere place other, dropped.elsewhere place ?_, folder.elsewhere place outside]
    rwa [folder.site_eq]

/-- What happens to the log files: a run starts its own, a run writes on in a file that is there, or time
passes and things change outside the folder of logs. -/
inductive Step : Disk → Disk → Prop where
  | start {before after : Disk} {stamp : Text} (started : Logbook.start stamp before = (after, .ok ())) :
      Step before after
  | append {before after : Disk} {stamp text : Text} (there : nameOf stamp ∈ logNames before)
      (wrote : Logbook.append stamp text before = .ok after) : Step before after
  | elsewhere {before after : Disk} (current : after.current = before.current)
      (single : before.Single → after.Single)
      (same : ∀ below, after.at? (site before ++ below) = before.at? (site before ++ below)) :
      Step before after

/-- A sound folder of logs that does not hold more log files than are to be kept. -/
structure Within (disk : Disk) : Prop where
  sound : Sound disk
  stands : disk.at? (site disk) = some .folder
  bounded : (logNames disk).encard ≤ maxFiles

theorem sound_of_start (sound : Sound before) (started : start stamp before = (after, .ok ())) :
    Sound after := by
  obtain ⟨opened, left, folder, dropped, written⟩ := exists_of_start sound started
  exact written.sound (dropped.sound (folder.sound sound))

theorem within_of_start (sound : Sound before) (started : start stamp before = (after, .ok ())) :
    Within after := by
  obtain ⟨removed, rotated⟩ := rotated_of_start sound started
  have same : site after = site before := by
    rw [site, site, rotated.current]
  refine ⟨sound_of_start sound started, ?_, rotated.bounded⟩
  rw [same]
  exact rotated.stands

theorem Within.append (within : Within before) {text : Text} (there : nameOf stamp ∈ logNames before)
    (wrote : Logbook.append stamp text before = .ok after) : Within after := by
  have written := written_append within.sound within.stands wrote
  refine ⟨written.sound within.sound, ?_, ?_⟩
  · rw [written.site_eq, written.elsewhere _ (site_ne before _)]
    exact within.stands
  · refine le_trans (Set.encard_le_encard ?_) within.bounded
    rw [← Set.insert_eq_of_mem there]
    exact written.subset

theorem Within.elsewhere (within : Within before) (current : after.current = before.current)
    (single : before.Single → after.Single)
    (same : ∀ below, after.at? (site before ++ below) = before.at? (site before ++ below)) :
    Within after := by
  have unmoved : site after = site before := by
    rw [site, site, current]
  have names : logNames after = logNames before := by
    ext name
    simp only [logNames, Set.mem_ofPred_eq, HasLog, unmoved, same]
  have itself := same []
  rw [List.append_nil] at itself
  refine ⟨⟨single within.sound.single, ?_, ?_⟩, ?_, ?_⟩
  · intro below target
    rw [unmoved, same]
    exact within.sound.plain below target
  · intro name item
    rw [unmoved, same]
    exact within.sound.named name item
  · rw [unmoved, itself]
    exact within.stands
  · rw [names]
    exact within.bounded

theorem Within.step (within : Within before) (step : Step before after) : Within after := by
  cases step with
  | start started => exact within_of_start within.sound started
  | append there wrote => exact within.append there wrote
  | elsewhere current single same => exact within.elsewhere current single same

theorem Within.steps (within : Within before) (steps : Relation.ReflTransGen Step before after) :
    Within after := by
  induction steps with
  | refl => exact within
  | tail _ step ih => exact ih.step step

/-- A run that starts its log file removes the oldest log files alone, and those alone that there is no
room for, and leaves all else as it is. From then on there are never more log files than are to be kept. -/
theorem start_keeps_newest (sound : Sound before) (started : start stamp before = (after, .ok ())) :
    (∃ removed, Rotated stamp removed before after) ∧
      ∀ later, Relation.ReflTransGen Step after later → (logNames later).encard ≤ maxFiles :=
  ⟨rotated_of_start sound started,
    fun _ steps => ((within_of_start sound started).steps steps).bounded⟩

/-- A folder with as many log files as are to be kept, one older than the other, and with a folder that
is named like one. -/
def crowded : Disk where
  items :=
    (["logs".toList], .folder) ::
      ("abcdefghijklmnopqrst".toList.zipIdx.map fun (letter, age) =>
        (["logs".toList, nameOf [letter]], .file [] age)) ++
      [(["logs".toList, nameOf "tree".toList], .folder)]
  now := 30

theorem listing_crowded : crowded.listing (site crowded) =
    "abcdefghijklmnopqrst".toList.map (fun letter => nameOf [letter]) ++ [nameOf "tree".toList] := by
  rw [Disk.listing, List.mergeSort_of_pairwise]
  · decide +kernel
  · decide +kernel

theorem logFiles_crowded : logFiles crowded (site crowded) =
    "abcdefghijklmnopqrst".toList.map fun letter => nameOf [letter] := by
  have times : timed crowded =
      "abcdefghijklmnopqrst".toList.zipIdx.map fun (letter, age) => (nameOf [letter], (age : Int)) := by
    rw [timed, listing_crowded]
    decide +kernel
  rw [← map_fst_aged, aged, times, List.mergeSort_of_pairwise]
  · decide +kernel
  · decide +kernel

theorem start_keeps_newest_crowded :
    ∃ after, start "new".toList crowded = (after, .ok ()) ∧
      (∃ removed, Rotated "new".toList removed crowded after) ∧
      ∀ later, Relation.ReflTransGen Step after later → (logNames later).encard ≤ maxFiles := by
  have sound : Sound crowded :=
    sound_of_forall (by rw [Disk.Single]; decide +kernel) (by simp [crowded]) (by decide +kernel)
  have opened : crowded.makeFolders folder = (crowded, .ok ()) := by decide +kernel
  have oldest : outdated (maxFiles - 1) crowded = [nameOf "a".toList] := by
    rw [outdated, logFiles_crowded]
    decide +kernel
  have wrote : append "new".toList [] (crowded.drop (site crowded ++ [nameOf "a".toList])) =
      .ok ((crowded.drop (site crowded ++ [nameOf "a".toList])).put
        (site crowded ++ [nameOf "new".toList]) (.file [] 30)) := by
    decide +kernel
  obtain ⟨after, started⟩ : ∃ after, start "new".toList crowded = (after, .ok ()) := by
    rw [start, opened]
    simp only [rotate_eq sound, oldest, List.foldl_cons, List.foldl_nil, wrote]
    exact ⟨_, rfl⟩
  exact ⟨after, started, start_keeps_newest sound started⟩

end Starting

end Logbook

end NestedStyles
