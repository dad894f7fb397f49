import Mathlib.Data.List.Induction
import NestedStyles.Proofs.Files.Leading
import NestedStyles.Proofs.Results

/-!
What stands below a folder. A path that leads to a folder goes on from there; on an orderly disk every
item below a folder is reached by its names, and the items below a location are all that stand there.
-/

set_option autoImplicit false

namespace NestedStyles

namespace Disk

/-- What holds of the items of a file system, however they came there: each stands in a folder, and no
name on the way is that of the folder above or too long. -/
structure Orderly (disk : Disk) : Prop where
  nested : ∀ entry ∈ disk.items, disk.at? entry.1.dropLast = some .folder
  plain : ∀ entry ∈ disk.items, ['.', '.'] ∉ entry.1
  short : ∀ entry ∈ disk.items, ∀ name ∈ entry.1, (Utf8.encode name).length ≤ maxNameBytes

section Items

variable {disk : Disk}

theorem mem_of_found? {location : Location} {item : Item} {items : List (Location × Item)}
    (found : found? location items = some item) : (location, item) ∈ items := by
  induction items with
  | nil => cases found
  | cons entry rest ih =>
      rw [found?] at found
      split at found
      · rename_i same
        rw [← Option.some.inj found, ← same]
        exact List.mem_cons_self
      · exact List.mem_cons_of_mem _ (ih found)

theorem exists_found?_of_mem {location : Location} {item : Item} {items : List (Location × Item)}
    (member : (location, item) ∈ items) : ∃ first, found? location items = some first := by
  induction items with
  | nil => cases member
  | cons entry rest ih =>
      rw [found?]
      split
      · exact ⟨entry.2, rfl⟩
      · rename_i other
        rcases List.mem_cons.mp member with rfl | behind
        · exact absurd rfl other
        · exact ih behind

theorem mem_items_of_at? {location : Location} {item : Item} (inside : location ≠ [])
    (stands : disk.at? location = some item) : (location, item) ∈ disk.items := by
  obtain ⟨name, rest, rfl⟩ := List.exists_cons_of_ne_nil inside
  exact mem_of_found? stands

/-- Something stands at a location exactly if an item is listed for it. -/
theorem exists_at?_iff {location : Location} (inside : location ≠ []) :
    (∃ item, disk.at? location = some item) ↔ ∃ item, (location, item) ∈ disk.items := by
  constructor
  · rintro ⟨item, stands⟩
    exact ⟨item, mem_items_of_at? inside stands⟩
  · rintro ⟨item, member⟩
    obtain ⟨name, rest, rfl⟩ := List.exists_cons_of_ne_nil inside
    exact exists_found?_of_mem member

theorem mem_below_iff {folder : Location} {names : List Text} {item : Item} :
    (names, item) ∈ disk.below folder ↔ names ≠ [] ∧ (folder ++ names, item) ∈ disk.items := by
  rw [below, List.mem_filterMap]
  constructor
  · rintro ⟨⟨place, found⟩, member, given⟩
    simp only [Option.ite_none_right_eq_some, Option.some.injEq, Prod.mk.injEq, Bool.and_eq_true,
      List.isPrefixOf_iff_prefix, bne_iff_ne] at given
    obtain ⟨⟨⟨more, rfl⟩, longer⟩, cut, rfl⟩ := given
    rw [List.drop_left] at cut
    subst cut
    refine ⟨?_, member⟩
    rintro rfl
    exact longer (by rw [List.append_nil])
  · rintro ⟨filled, member⟩
    refine ⟨(folder ++ names, item), member, ?_⟩
    simp [filled]

/-- If no location is listed twice, none below a folder is. -/
theorem nodup_below (different : (disk.items.map Prod.fst).Nodup) (folder : Location) :
    ((disk.below folder).map Prod.fst).Nodup := by
  rw [List.Nodup, List.pairwise_map, below, List.pairwise_filterMap]
  refine (List.pairwise_map.mp different).imp ?_
  rintro ⟨place, item⟩ ⟨other, more⟩ apart
  simp only [Option.ite_none_right_eq_some, Option.some.injEq, Bool.and_eq_true,
    List.isPrefixOf_iff_prefix]
  rintro _ ⟨⟨⟨names, rfl⟩, -⟩, rfl⟩ _ ⟨⟨⟨others, rfl⟩, -⟩, rfl⟩ same
  rw [List.drop_left, List.drop_left] at same
  exact apart (congrArg (folder ++ ·) same)

theorem find?_eq_some_iff {path : Path} {item : Item} :
    disk.find? path = .ok (some item) ↔
      ∃ place, disk.locate path = .ok place ∧ disk.at? place = some item := by
  rw [find?, look]
  cases disk.locate path with
  | error reason =>
      simp only [bind, Except.bind]
      cases reason.meansMissing <;> simp
  | ok place =>
      simp only [bind, Except.bind, Except.ok.injEq, exists_eq_left']
      cases disk.at? place with
      | none => simp [DiskReason.meansMissing]
      | some found => simp

/-- Whatever has something below it is a folder. -/
theorem Orderly.folder_of_at?_append (orderly : disk.Orderly) {place : Location}
    {names : List Text} :
    ∀ {item}, names ≠ [] → disk.at? (place ++ names) = some item → disk.at? place = some .folder := by
  induction names using List.reverseRecOn with
  | nil => exact fun filled => absurd rfl filled
  | append_singleton front last ih =>
      intro item _ stands
      rw [← List.append_assoc] at stands
      have above := orderly.nested _ (mem_items_of_at? (List.append_ne_nil_of_right_ne_nil _
        (List.cons_ne_nil last [])) stands)
      rw [List.dropLast_concat] at above
      by_cases first : front = []
      · rwa [first, List.append_nil] at above
      · exact ih first above

end Items

section Following

variable {disk : Disk}

/-- Where further names lead from what was reached. -/
def Reach.onward (disk : Disk) (more : List Text) : Reach → Reach
  | .arrived place => disk.follow true place more
  | .refused reason => .refused reason
  | .link folder target rest => .link folder target (rest ++ more)

/-- Names lead on from the folder that they lead to. -/
theorem follow_append {names : List Text} (more : List Text) :
    ∀ {here}, (∀ place, disk.follow true here names = .arrived place →
        disk.at? place = some .folder) →
      disk.follow true here (names ++ more) = (disk.follow true here names).onward disk more := by
  induction names with
  | nil => exact fun _ => rfl
  | cons name rest ih =>
      intro here ends
      rw [List.cons_append]
      simp only [follow] at ends ⊢
      by_cases up : name = ['.', '.']
      · rw [if_pos up] at ends
        rw [if_pos up, if_pos up]
        exact ih ends
      rw [if_neg up] at ends
      rw [if_neg up, if_neg up]
      split at ends
      · rename_i long
        rw [if_pos long, if_pos long]
        rfl
      rename_i short
      rw [if_neg short, if_neg short]
      generalize stood : disk.at? (here ++ [name]) = item at ends ⊢
      rcases item with _ | _ | _ | target
      · cases rest with
        | nil => cases stood.symm.trans (ends _ rfl)
        | cons next others => rfl
      · exact ih ends
      · cases rest with
        | nil => cases stood.symm.trans (ends _ rfl)
        | cons next others => rfl
      · rfl

/-- A path that leads to a folder, over links or not, leads on from there. -/
theorem Leads.append {links : Nat} {here place below : Location} {names more : List Text}
    (leads : Leads disk true links here names place) (folder : disk.at? place = some .folder)
    (further : disk.follow true place more = .arrived below) :
    Leads disk true links here (names ++ more) below := by
  induction leads with
  | arrived reached =>
      have ends := follow_append more fun _ ended =>
        Reach.arrived.inj (reached.symm.trans ended) ▸ folder
      rw [reached] at ends
      exact .arrived (ends.trans further)
  | link reached _ ih =>
      have met := follow_append more fun _ ended => Reach.noConfusion (reached.symm.trans ended)
      rw [reached] at met
      refine .link met ?_
      rw [← List.append_assoc]
      exact ih folder further

/-- On an orderly disk the names of an item lead to it from any folder above, unless it is a link. -/
theorem Orderly.follow_below (orderly : disk.Orderly) {item : Item}
    (plain : ∀ target, item ≠ .link target) (names : List Text) :
    ∀ {place}, disk.at? (place ++ names) = some item →
      disk.follow true place names = .arrived (place ++ names) := by
  induction names with
  | nil => exact fun _ => congrArg Reach.arrived (List.append_nil _).symm
  | cons name rest ih =>
      intro place stands
      have listed := mem_items_of_at? (by simp) stands
      have inside : name ∈ place ++ name :: rest := List.mem_append_right _ List.mem_cons_self
      have other : name ≠ ['.', '.'] := fun same => orderly.plain _ listed (same ▸ inside)
      have short : ¬ (true && decide (maxNameBytes < (Utf8.encode name).length)) = true := by
        have bounded := orderly.short _ listed name inside
        simpa using bounded
      have behind : place ++ name :: rest = (place ++ [name]) ++ rest := by
        rw [List.append_assoc, List.singleton_append]
      rw [behind] at stands ⊢
      have further := ih stands
      simp only [follow]
      rw [if_neg other, if_neg short]
      by_cases last : rest = []
      · subst last
        rw [List.append_nil] at stands ⊢
        rw [stands]
        cases item with
        | folder => rfl
        | file content modified => rfl
        | link target => exact absurd rfl (plain target)
      · rw [orderly.folder_of_at?_append last stands]
        exact further

end Following

end Disk

end NestedStyles
