import Mathlib.Data.List.Nodup
import NestedStyles.Proofs.Files.Descent

/-!
What stands in a folder, and what is left of it when some of it is dropped.
-/

set_option autoImplicit false

namespace NestedStyles

namespace Disk

variable {disk : Disk}

/-- That no location is listed twice. -/
def Single (disk : Disk) : Prop :=
  (disk.items.map Prod.fst).Nodup

theorem mem_map_fst_placed {location place : Location} {item : Item}
    {items : List (Location × Item)} (member : place ∈ (placed location item items).map Prod.fst) :
    place = location ∨ place ∈ items.map Prod.fst := by
  induction items with
  | nil => exact .inl (List.mem_singleton.mp member)
  | cons entry rest ih =>
      rw [placed] at member
      split at member
      · exact (List.mem_cons.mp member).imp_right (List.mem_cons_of_mem _)
      · rcases List.mem_cons.mp member with rfl | behind
        · exact .inr List.mem_cons_self
        · exact (ih behind).imp_right (List.mem_cons_of_mem _)

theorem Single.put (single : disk.Single) (location : Location) (item : Item) :
    (disk.put location item).Single := by
  have kept : ∀ items : List (Location × Item), (items.map Prod.fst).Nodup →
      ((placed location item items).map Prod.fst).Nodup := by
    intro items different
    induction items with
    | nil => exact List.nodup_singleton location
    | cons entry rest ih =>
        rw [List.map_cons, List.nodup_cons] at different
        rw [placed]
        split
        · rename_i same
          rw [List.map_cons, List.nodup_cons, ← same]
          exact different
        · rename_i other
          rw [List.map_cons, List.nodup_cons]
          refine ⟨fun member => ?_, ih different.2⟩
          exact (mem_map_fst_placed member).elim other different.1
  exact kept disk.items single

theorem Single.drop (single : disk.Single) (location : Location) : (disk.drop location).Single :=
  single.sublist (List.filter_sublist.map Prod.fst)

/-- A folder lists the names of all that stands in it. -/
theorem mem_listing_iff {folder : Location} {name : Text} :
    name ∈ disk.listing folder ↔ ∃ item, disk.at? (folder ++ [name]) = some item := by
  rw [exists_at?_iff (List.concat_ne_nil name folder), listing, List.mem_mergeSort,
    List.mem_filterMap]
  constructor
  · rintro ⟨⟨names, item⟩, member, given⟩
    obtain ⟨-, listed⟩ := mem_below_iff.mp member
    dsimp only at given
    split at given <;> cases given
    exact ⟨item, listed⟩
  · rintro ⟨item, listed⟩
    exact ⟨([name], item), mem_below_iff.mpr ⟨List.cons_ne_nil _ _, listed⟩, rfl⟩

theorem nodup_listing (single : disk.Single) (folder : Location) : (disk.listing folder).Nodup := by
  rw [listing, (List.mergeSort_perm _ _).nodup_iff, List.Nodup, List.pairwise_filterMap]
  refine (List.pairwise_map.mp (nodup_below single folder)).imp ?_
  rintro ⟨names, item⟩ ⟨others, more⟩ apart name own second again same
  dsimp only at own again
  split at own <;> cases own
  split at again <;> cases again
  exact apart (by rw [same])

/-- What is left when files of a folder are dropped: all but those. -/
theorem at?_foldl_drop (folder : Location) (names : List Text) (location : Location) :
    ∀ disk : Disk, (names.foldl (fun disk name => disk.drop (folder ++ [name])) disk).at? location =
      if ∃ name ∈ names, folder ++ [name] = location then none else disk.at? location := by
  induction names with
  | nil => simp
  | cons name rest ih =>
      intro disk
      rw [List.foldl_cons, ih, at?_drop disk (List.concat_ne_nil name folder)]
      simp only [List.exists_mem_cons_iff]
      split <;> split <;> simp_all

theorem Single.foldl_drop (folder : Location) (names : List Text) :
    ∀ {disk : Disk}, disk.Single →
      (names.foldl (fun disk name => disk.drop (folder ++ [name])) disk).Single := by
  induction names with
  | nil => exact fun single => single
  | cons name rest ih => exact fun single => ih (single.drop _)

/-- When files are dropped, the time and the folder that relative paths start from stay. -/
theorem exists_foldl_drop_eq (folder : Location) (names : List Text) :
    ∀ disk : Disk, ∃ left,
      names.foldl (fun disk name => disk.drop (folder ++ [name])) disk = { disk with items := left } := by
  induction names with
  | nil => exact fun disk => ⟨disk.items, rfl⟩
  | cons name rest ih => exact fun disk => ih (disk.drop _)

end Disk

end NestedStyles
