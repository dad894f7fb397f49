import Mathlib.Data.Char
import Mathlib.Data.List.Lex
import NestedStyles.Proofs.Batch.Outputs
import NestedStyles.Proofs.CommandLine.Folders

/-!
The files that inputs stand for, each once.

Every input stands for a list of paths. Of all these paths one is kept for each place that they
stand for: the first, in the order of the inputs. So an input that leads to known places alone
changes nothing, however it spells them.
-/

set_option autoImplicit false

namespace NestedStyles

section Order

theorem Text.precedes_iff {a : Text} : ∀ {b : Text}, Text.precedes a b = true ↔ ¬ b < a := by
  induction a with
  | nil => simp [Text.precedes]
  | cons x as ih =>
      intro b
      cases b with
      | nil => simp [Text.precedes]
      | cons y bs =>
          rw [Text.precedes, List.cons_lt_cons_iff]
          by_cases same : x = y
          · rw [if_pos same, ih, same]
            simp
          · rw [if_neg same, decide_eq_true_iff, not_or, not_lt]
            have apart : ¬ (y = x ∧ bs < as) := fun both => same both.1.symm
            exact ⟨fun less => ⟨less.le, apart⟩, fun fits => lt_of_le_of_ne fits.1 same⟩

/-- The order of paths is that of their lists of names. -/
theorem Path.go_iff {a : List Text} : ∀ {b : List Text}, Path.precedes.go a b = true ↔ ¬ b < a := by
  induction a with
  | nil => simp [Path.precedes.go]
  | cons x as ih =>
      intro b
      cases b with
      | nil => simp [Path.precedes.go]
      | cons y bs =>
          rw [Path.precedes.go, List.cons_lt_cons_iff]
          by_cases same : x = y
          · rw [if_pos same, ih, same]
            simp
          · rw [if_neg same, Text.precedes_iff, not_or]
            exact ⟨fun less => ⟨less, fun both => same both.1.symm⟩, And.left⟩

theorem Path.precedes_trans (a b c : Path) (first : Path.precedes a b = true)
    (second : Path.precedes b c = true) : Path.precedes a c = true := by
  rw [Path.precedes, Path.go_iff, not_lt] at first second ⊢
  exact first.trans second

theorem Path.precedes_total (a b : Path) : (Path.precedes a b || Path.precedes b a) = true := by
  rw [Bool.or_eq_true, Path.precedes, Path.precedes, Path.go_iff, Path.go_iff, not_lt, not_lt]
  exact le_total _ _

end Order

namespace CommandLine

open Batch

section Keeping

variable {disk : Disk} {known : List Location} {spellings : List (Path × Location)}

/-- That paths come with the places that they stand for. -/
def Resolved (disk : Disk) (spellings : List (Path × Location)) : Prop :=
  ∀ spelling ∈ spellings, disk.resolve spelling.1 = .ok spelling.2

theorem Resolved.tail {spelling : Path × Location}
    (resolved : Resolved disk (spelling :: spellings)) : Resolved disk spellings :=
  fun other behind => resolved other (List.mem_cons_of_mem _ behind)

/-- That of a list of paths one is left for each place that they stand for, the first. -/
structure FirstSpelled (disk : Disk) (paths kept : List Path) : Prop where
  distinct : (kept.map disk.resolve).Nodup
  inOrder : kept.Sublist paths
  first : ∀ place, kept.find? (fun path => disk.resolve path = .ok place) =
    paths.find? (fun path => disk.resolve path = .ok place)

theorem firstSpellings_sublist :
    ∀ {known}, (firstSpellings known spellings).Sublist (spellings.map Prod.fst) := by
  induction spellings with
  | nil => exact List.Sublist.slnil
  | cons spelling rest ih =>
      intro known
      rw [firstSpellings, List.map_cons]
      split
      · exact ih.cons _
      · exact ih.cons_cons _

/-- What is kept stands for no place that was known before. -/
theorem unknown_of_mem_firstSpellings (resolved : Resolved disk spellings) {path : Path} :
    ∀ {known}, path ∈ firstSpellings known spellings →
      ∀ place ∈ known, disk.resolve path ≠ .ok place := by
  induction spellings with
  | nil => exact fun member => by cases member
  | cons spelling rest ih =>
      intro known member place among
      rw [firstSpellings] at member
      split at member
      · exact ih resolved.tail member place among
      rename_i fresh
      rcases List.mem_cons.mp member with rfl | behind
      · intro leads
        have own := resolved spelling List.mem_cons_self
        cases own.symm.trans leads
        exact fresh (List.contains_iff_mem.mpr among)
      · exact ih resolved.tail behind place (List.mem_cons_of_mem _ among)

theorem nodup_firstSpellings (resolved : Resolved disk spellings) :
    ∀ {known}, ((firstSpellings known spellings).map disk.resolve).Nodup := by
  induction spellings with
  | nil => exact List.nodup_nil
  | cons spelling rest ih =>
      intro known
      rw [firstSpellings]
      split
      · exact ih resolved.tail
      · rw [List.map_cons, List.nodup_cons]
        refine ⟨fun again => ?_, ih resolved.tail⟩
        obtain ⟨path, member, same⟩ := List.mem_map.mp again
        rw [resolved spelling List.mem_cons_self] at same
        exact unknown_of_mem_firstSpellings resolved.tail member _ List.mem_cons_self same

theorem find?_firstSpellings (resolved : Resolved disk spellings) {place : Location} :
    ∀ {known}, place ∉ known →
      (firstSpellings known spellings).find? (fun path => disk.resolve path = .ok place) =
        (spellings.map Prod.fst).find? (fun path => disk.resolve path = .ok place) := by
  induction spellings with
  | nil => exact fun _ => rfl
  | cons spelling rest ih =>
      intro known fresh
      have own := resolved spelling List.mem_cons_self
      rw [firstSpellings, List.map_cons]
      by_cases here : spelling.2 = place
      · rw [if_neg fun taken => fresh (here ▸ List.contains_iff_mem.mp taken),
          List.find?_cons_of_pos (by simpa [here] using own),
          List.find?_cons_of_pos (by simpa [here] using own)]
      have passed : ∀ paths : List Path,
          (spelling.1 :: paths).find? (fun path => disk.resolve path = .ok place) =
            paths.find? (fun path => disk.resolve path = .ok place) :=
        fun _ => List.find?_cons_of_neg (by simpa [own] using here)
      rw [passed]
      split
      · exact ih resolved.tail fresh
      · rw [passed]
        exact ih resolved.tail fun among => (List.mem_cons.mp among).elim (Ne.symm here) fresh

theorem firstSpelled_firstSpellings (resolved : Resolved disk spellings) :
    FirstSpelled disk (spellings.map Prod.fst) (firstSpellings [] spellings) :=
  ⟨nodup_firstSpellings resolved, firstSpellings_sublist,
    fun _ => find?_firstSpellings resolved List.not_mem_nil⟩

/-- Paths that stand for places known before are passed over. -/
theorem firstSpellings_append_of_known {more : List (Path × Location)}
    (covered : ∀ spelling ∈ more, spelling.2 ∈ known) (back : List (Path × Location)) :
    firstSpellings known (more ++ back) = firstSpellings known back := by
  induction more with
  | nil => rfl
  | cons spelling rest ih =>
      rw [List.forall_mem_cons] at covered
      rw [List.cons_append, firstSpellings, if_pos (List.contains_iff_mem.mpr covered.1)]
      exact ih covered.2

theorem firstSpellings_insert {front more : List (Path × Location)}
    (back : List (Path × Location)) :
    ∀ {known}, (∀ spelling ∈ more, spelling.2 ∈ known ∨ spelling.2 ∈ front.map Prod.snd) →
      firstSpellings known (front ++ more ++ back) = firstSpellings known (front ++ back) := by
  induction front with
  | nil =>
      intro known covered
      refine firstSpellings_append_of_known (fun spelling member => ?_) back
      exact (covered spelling member).resolve_right List.not_mem_nil
  | cons first rest ih =>
      intro known covered
      have onward : ∀ {wider : List Location}, known ⊆ wider → first.2 ∈ wider →
          ∀ spelling ∈ more, spelling.2 ∈ wider ∨ spelling.2 ∈ rest.map Prod.snd := by
        intro wider grown taken spelling member
        rcases covered spelling member with before | among
        · exact .inl (grown before)
        rw [List.map_cons, List.mem_cons] at among
        rcases among with same | behind
        · exact .inl (same ▸ taken)
        · exact .inr behind
      rw [List.cons_append, List.cons_append, List.cons_append, firstSpellings, firstSpellings]
      split
      · rename_i taken
        exact ih (onward (List.Subset.refl _) (List.contains_iff_mem.mp taken))
      · exact congrArg (first.1 :: ·) (ih (onward (List.subset_cons_self _ _) List.mem_cons_self))

end Keeping

section Standing

variable {disk : Disk} {path : Path}

/-- That paths are what stands below a folder under a name with an ending, in order. -/
structure Found (disk : Disk) (path : Path) (folder : Location) (ending : Text)
    (found : List Path) : Prop where
  ordered : found.Pairwise (fun a b => Path.precedes a b = true)
  complete : ∀ file, file ∈ found ↔ ∃ names item, (names, item) ∈ disk.below folder ∧
    ending <:+ names.getLast?.getD [] ∧ descend path names = file
  once : (disk.items.map Prod.fst).Nodup → found.Nodup

/-- What an input stands for. -/
inductive StandsFor (disk : Disk) (path : Path) : List Path → Prop
  | missing (looked : disk.find? path = .ok none) : StandsFor disk path []
  | folder {place : Location} {html htm : List Path} (led : disk.locate path = .ok place)
      (stands : disk.at? place = some .folder)
      (first : Found disk path place ".html".toList html)
      (second : Found disk path place ".htm".toList htm) : StandsFor disk path (html ++ htm)
  | file {item : Item} (looked : disk.find? path = .ok (some item)) (noFolder : item ≠ .folder)
      (markup : Text.lower path.ending ∈ markupEndings) : StandsFor disk path [path]
  | other {item : Item} (looked : disk.find? path = .ok (some item)) (noFolder : item ≠ .folder)
      (unfit : Text.lower path.ending ∉ markupEndings) : StandsFor disk path []

theorem nodup_matching {folder : Location} {ending : Text}
    (unique : (disk.items.map Prod.fst).Nodup) : (matching disk path folder ending).Nodup := by
  rw [matching, ordered, (List.mergeSort_perm _ _).nodup_iff, List.Nodup, List.pairwise_filterMap]
  refine (List.pairwise_map.mp (Disk.nodup_below unique folder)).imp ?_
  rintro ⟨names, item⟩ ⟨others, more⟩ apart
  simp only [Option.ite_none_right_eq_some, Option.some.injEq]
  rintro _ ⟨-, rfl⟩ _ ⟨-, rfl⟩ same
  exact apart (descend_injective same)

theorem found_matching (disk : Disk) (path : Path) (folder : Location) (ending : Text) :
    Found disk path folder ending (matching disk path folder ending) :=
  ⟨List.pairwise_mergeSort Path.precedes_trans Path.precedes_total _, fun _ => mem_matching_iff,
    nodup_matching⟩

/-- The paths that an input stands for; none if the disk cannot tell. -/
def expansion (disk : Disk) (path : Path) : List Path :=
  match expand disk path with
  | .ok (files, _) => files
  | .error _ => []

/-- An input is expanded if the disk can tell what it leads to. -/
theorem exists_expand_iff :
    (∃ records, expand disk path = .ok (expansion disk path, records)) ↔
      ∃ item, disk.find? path = .ok item := by
  constructor
  · rintro ⟨records, expanded⟩
    obtain ⟨item, looked, -⟩ := bind_eq_ok_iff.mp expanded
    exact ⟨item, mapError_eq_ok_iff.mp looked⟩
  · rintro ⟨item, looked⟩
    have told : ∃ files records, expand disk path = .ok (files, records) := by
      rcases item with _ | item
      · exact ⟨_, _, expand_of_missing looked⟩
      by_cases folder : item = .folder
      · obtain ⟨place, led, stands⟩ := Disk.find?_eq_some_iff.mp (folder ▸ looked)
        exact ⟨_, _, expand_of_folder led stands⟩
      · rw [expand_of_file looked folder]
        split
        · exact ⟨_, _, rfl⟩
        · exact ⟨_, _, rfl⟩
    obtain ⟨files, records, expanded⟩ := told
    refine ⟨records, ?_⟩
    rw [expansion, expanded]

theorem standsFor_expansion {item : Option Item} (looked : disk.find? path = .ok item) :
    StandsFor disk path (expansion disk path) := by
  rcases item with _ | item
  · rw [expansion, expand_of_missing looked]
    exact .missing looked
  by_cases folder : item = .folder
  · subst folder
    obtain ⟨place, led, stands⟩ := Disk.find?_eq_some_iff.mp looked
    have both : markupEndings.flatMap (matching disk path place) =
        matching disk path place ".html".toList ++ matching disk path place ".htm".toList := by
      simp [markupEndings]
    rw [expansion, expand_of_folder led stands, both]
    exact .folder led stands (found_matching ..) (found_matching ..)
  · rw [expansion, expand_of_file looked folder]
    by_cases markup : isMarkup path = true
    · rw [if_pos markup]
      exact .file looked folder (isMarkup_iff.mp markup)
    · rw [if_neg markup]
      exact .other looked folder (mt isMarkup_iff.mpr markup)

end Standing

section Collecting

variable {disk : Disk}

theorem expandAll_of_looked {paths : List Path}
    (looked : ∀ path ∈ paths, ∃ item, disk.find? path = .ok item) :
    (expandAll disk paths).2 = .ok (paths.flatMap (expansion disk)) := by
  induction paths with
  | nil => rfl
  | cons path rest ih =>
      rw [List.forall_mem_cons] at looked
      obtain ⟨records, expanded⟩ := exists_expand_iff.mpr looked.1
      rw [expandAll]
      simp only [expanded, ih looked.2]
      rfl

theorem looked_of_expandAll {paths : List Path} :
    ∀ {files}, (expandAll disk paths).2 = .ok files →
      ∀ path ∈ paths, ∃ item, disk.find? path = .ok item := by
  induction paths with
  | nil => exact fun _ => List.forall_mem_nil _
  | cons path rest ih =>
      intro files expanded
      rw [expandAll] at expanded
      split at expanded
      · cases expanded
      rename_i first records here
      cases further : (expandAll disk rest).2 with
      | error fault => simp only [further] at expanded; cases expanded
      | ok more =>
          refine List.forall_mem_cons.mpr ⟨?_, ih further⟩
          obtain ⟨item, looked, -⟩ := bind_eq_ok_iff.mp here
          exact ⟨item, mapError_eq_ok_iff.mp looked⟩

def spelled (disk : Disk) (path : Path) : Path × Location :=
  (path, (disk.resolve path).toOption.getD [])

theorem resolved_map_spelled {paths : List Path}
    (resolves : ∀ path ∈ paths, ∃ place, disk.resolve path = .ok place) :
    Resolved disk (paths.map (spelled disk)) := by
  intro spelling member
  obtain ⟨path, among, rfl⟩ := List.mem_map.mp member
  obtain ⟨place, led⟩ := resolves path among
  simp [spelled, led, Except.toOption]

theorem distinct_of_resolves {paths : List Path}
    (resolves : ∀ path ∈ paths, ∃ place, disk.resolve path = .ok place) :
    distinct disk paths = .ok (firstSpellings [] (paths.map (spelled disk))) := by
  have placed : paths.mapM (fun path => do return (path, ← placeOf disk path)) =
      .ok (paths.map (spelled disk)) := by
    rw [mapM_eq_ok_iff, List.forall₂_map_right_iff, List.forall₂_same]
    intro path among
    obtain ⟨place, led⟩ := resolves path among
    simp [placeOf, spelled, led, Except.mapError, Except.toOption]
  rw [distinct, placed]
  rfl

theorem resolves_of_distinct {paths kept : List Path} (told : distinct disk paths = .ok kept) :
    ∀ path ∈ paths, ∃ place, disk.resolve path = .ok place := by
  obtain ⟨spellings, placed, -⟩ := bind_eq_ok_iff.mp told
  have each : List.Forall₂ (fun path _ => (∃ place, disk.resolve path = .ok place) ∧ True)
      paths spellings := by
    refine (mapM_eq_ok_iff.mp placed).imp fun path spelling step => ⟨?_, trivial⟩
    obtain ⟨place, led, -⟩ := bind_eq_ok_iff.mp step
    exact ⟨place, mapError_eq_ok_iff.mp led⟩
  exact ((List.forall₂_and_left _ _).mp each).1

/-- That the disk can tell what an input leads to, and where the files are that it stands for. -/
def Reachable (disk : Disk) (input : Path) : Prop :=
  (∃ item, disk.find? input = .ok item) ∧
    ∀ file ∈ expansion disk input, ∃ place, disk.resolve file = .ok place

/-- That inputs stand for every file that an input stands for, however they spell it. -/
def Covered (disk : Disk) (inputs : List Path) (input : Path) : Prop :=
  (∃ item, disk.find? input = .ok item) ∧ ∀ file ∈ expansion disk input,
    ∃ other ∈ inputs, ∃ known ∈ expansion disk other, Meet disk file known

theorem covered_of_mem {inputs : List Path} {input : Path} (reachable : Reachable disk input)
    (among : input ∈ inputs) : Covered disk inputs input := by
  refine ⟨reachable.1, fun file stands => ⟨input, among, file, stands, ?_⟩⟩
  obtain ⟨place, led⟩ := reachable.2 file stands
  exact ⟨place, led, led⟩

theorem Covered.reachable {inputs : List Path} {input : Path}
    (covered : Covered disk inputs input) : Reachable disk input := by
  refine ⟨covered.1, fun file stands => ?_⟩
  obtain ⟨_, _, _, _, place, led, _⟩ := covered.2 file stands
  exact ⟨place, led⟩

theorem snd_spelled {path : Path} {place : Location} (led : disk.resolve path = .ok place) :
    (spelled disk path).2 = place := by
  simp [spelled, led, Except.toOption]

/-- The files of a covered input stand for places that are known. -/
theorem Covered.mem_places {inputs : List Path} {input file : Path}
    (covered : Covered disk inputs input) (stands : file ∈ expansion disk input) :
    (spelled disk file).2 ∈
      ((inputs.flatMap (expansion disk)).map (spelled disk)).map Prod.snd := by
  obtain ⟨other, among, known, inside, place, led, meets⟩ := covered.2 file stands
  rw [snd_spelled led, ← snd_spelled meets]
  exact List.mem_map_of_mem (List.mem_map_of_mem (List.mem_flatMap_of_mem among inside))

theorem resolves_of_reachable {inputs : List Path}
    (reachable : ∀ input ∈ inputs, Reachable disk input) :
    ∀ file ∈ inputs.flatMap (expansion disk), ∃ place, disk.resolve file = .ok place := by
  intro file member
  obtain ⟨input, among, stands⟩ := List.mem_flatMap.mp member
  exact (reachable input among).2 file stands

theorem collect_of_reachable {inputs : List Text}
    (reachable : ∀ input ∈ inputs.map Path.ofText, Reachable disk input) :
    (collect disk inputs).result = .ok (firstSpellings []
      (((inputs.map Path.ofText).flatMap (expansion disk)).map (spelled disk))) := by
  have steps : (collect disk inputs).result =
      (expandAll disk (inputs.map Path.ofText)).2 >>= distinct disk := rfl
  rw [steps, expandAll_of_looked fun input among => (reachable input among).1]
  exact distinct_of_resolves (resolves_of_reachable reachable)

theorem reachable_of_collect {inputs : List Text} {files : List Path}
    (collected : (collect disk inputs).result = .ok files) :
    ∀ input ∈ inputs.map Path.ofText, Reachable disk input := by
  have steps : (expandAll disk (inputs.map Path.ofText)).2 >>= distinct disk = .ok files :=
    collected
  obtain ⟨paths, expanded, told⟩ := bind_eq_ok_iff.mp steps
  have looked := looked_of_expandAll expanded
  have resolves := resolves_of_distinct told
  cases (expandAll_of_looked looked).symm.trans expanded
  exact fun input among => ⟨looked input among, fun file stands =>
    resolves file (List.mem_flatMap_of_mem among stands)⟩

/-- Inputs that stand for known places alone add nothing. -/
theorem collect_of_covered {front back more : List Text}
    (reachable : ∀ input ∈ (front ++ back).map Path.ofText, Reachable disk input)
    (given : ∀ input ∈ more, input ∈ front ∨
      Covered disk (front.map Path.ofText) (Path.ofText input)) :
    (collect disk (front ++ more ++ back)).result = (collect disk (front ++ back)).result := by
  have known := collect_of_reachable reachable
  rw [List.map_append] at reachable
  have covered : ∀ input ∈ more.map Path.ofText, Covered disk (front.map Path.ofText) input := by
    intro path member
    obtain ⟨input, among, rfl⟩ := List.mem_map.mp member
    rcases given input among with repeated | covered
    · have inFront : Path.ofText input ∈ front.map Path.ofText := List.mem_map_of_mem repeated
      exact covered_of_mem (reachable _ (List.mem_append_left _ inFront)) inFront
    · exact covered
  have all : ∀ input ∈ (front ++ more ++ back).map Path.ofText, Reachable disk input := by
    intro input member
    rw [List.map_append, List.map_append, List.mem_append, List.mem_append] at member
    rcases member with (inFront | among) | behind
    · exact reachable input (List.mem_append_left _ inFront)
    · exact (covered input among).reachable
    · exact reachable input (List.mem_append_right _ behind)
  rw [collect_of_reachable all, known]
  simp only [List.map_append, List.flatMap_append]
  refine congrArg Except.ok (firstSpellings_insert _ fun spelling member => .inr ?_)
  obtain ⟨file, inside, rfl⟩ := List.mem_map.mp member
  obtain ⟨input, among, stands⟩ := List.mem_flatMap.mp inside
  exact (covered input among).mem_places stands

/-- What inputs stand for is collected if the disk can tell what every input leads to and where its
files are. Of all these files one is kept for each place, the first. An input that stands for known
places alone changes nothing, wherever it is given behind those. -/
theorem collect_firstSpelled (disk : Disk) (inputs : List Text) :
    ((∃ files, (collect disk inputs).result = .ok files) ↔
        ∀ input ∈ inputs.map Path.ofText, Reachable disk input) ∧
      ∀ files, (collect disk inputs).result = .ok files →
        (∀ input ∈ inputs.map Path.ofText, StandsFor disk input (expansion disk input)) ∧
        FirstSpelled disk ((inputs.map Path.ofText).flatMap (expansion disk)) files ∧
        ∀ front back more, inputs = front ++ back →
          (∀ input ∈ more, input ∈ front ∨
            Covered disk (front.map Path.ofText) (Path.ofText input)) →
          (collect disk (front ++ more ++ back)).result = .ok files := by
  refine ⟨⟨fun ⟨files, collected⟩ => reachable_of_collect collected,
    fun reachable => ⟨_, collect_of_reachable reachable⟩⟩, fun files collected => ?_⟩
  have reachable := reachable_of_collect collected
  cases (collect_of_reachable reachable).symm.trans collected
  refine ⟨fun input among => ?_, ?_, ?_⟩
  · obtain ⟨item, looked⟩ := (reachable input among).1
    exact standsFor_expansion looked
  · have resolved := resolved_map_spelled (resolves_of_reachable reachable)
    have paths : ∀ files : List Path, (files.map (spelled disk)).map Prod.fst = files := by
      intro files
      rw [List.map_map]
      exact List.map_id files
    have kept := firstSpelled_firstSpellings resolved
    rwa [paths] at kept
  · rintro front back more rfl given
    exact (collect_of_covered reachable given).trans collected

def linkedPage : Disk where
  items := [(["a.html".toList], styled),
    (["b.html".toList], .link (Path.ofText "a.html".toList))]

/-- A link is another spelling of its file, and giving an input again changes nothing. -/
theorem collect_linkedPage :
    (collect linkedPage ["b.html".toList, "a.html".toList]).result = .ok [below ["b.html"]] ∧
      (collect linkedPage ["b.html".toList, "a.html".toList, "b.html".toList]).result =
        .ok [below ["b.html"]] := by
  have collected : (collect linkedPage ["b.html".toList, "a.html".toList]).result =
      .ok [below ["b.html"]] := rfl
  obtain ⟨-, -, again⟩ :=
    (collect_firstSpelled linkedPage ["b.html".toList, "a.html".toList]).2 _ collected
  refine ⟨collected, again ["b.html".toList, "a.html".toList] [] ["b.html".toList] rfl ?_⟩
  exact fun input given => .inl (List.mem_singleton.mp given ▸ List.mem_cons_self)

/-- A folder with two files, and a link to one of them. -/
def shelf : Disk where
  items := [(["s".toList], .folder), (["s".toList, "a.html".toList], styled),
    (["s".toList, "b.htm".toList], styled),
    (["s".toList, "c.html".toList], .link (Path.ofText "a.html".toList))]

/-- A link and a way over the folder above are other spellings of what the folder holds. -/
example : (collect shelf ["s/c.html".toList, "s".toList, "s/../s/b.htm".toList]).result =
    .ok [below ["s", "c.html"], below ["s", "b.htm"]] := by cbv

end Collecting

end CommandLine

end NestedStyles
