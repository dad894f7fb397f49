import NestedStyles.CommandLine.Romanized
import NestedStyles.Proofs.Batch.Ending
import NestedStyles.Proofs.Batch.Targets
import NestedStyles.Proofs.Files.Growth

/-!
Where the stylesheets of a batch go, and what they hold in the end.

The path for a stylesheet keeps the stem of its source and nothing else of its name. So files of one
folder that differ in their endings alone share a stylesheet, and the last of them wins. Files whose
outputs lead to different places all find their own stylesheet there.
-/

set_option autoImplicit false

namespace NestedStyles

namespace Batch

variable {σ : Type}

/-- That a path holds the stylesheet of the text that stood where a source leads. -/
def Holds [Romanization] (settings : Settings) (before after : Disk) (source target : Path) : Prop :=
  ∃ place content modified markup stylesheet, before.resolve source = .ok place ∧
    before.at? place = some (.file content modified) ∧ Utf8.decode content = .ok markup ∧
    convert settings markup = .ok (some stylesheet) ∧
    after.read target = .ok (Utf8.encode stylesheet)

section Submission

variable {settings : Settings} {output : Option Path} {disk after : Disk}

theorem exists_of_submitFrom_cons {crew : Crew} {single : Bool} {position : Nat} {path : Path}
    {rest : List Path} {jobs : List (Path × JobOutcome)}
    (submitted : submitFrom crew output single position disk (path :: rest) = (after, .ok jobs)) :
    ∃ target behind, outputPath disk output single path = .ok target ∧
      submitFrom crew output single (position + 1) (crew position disk path target).1 rest =
        (after, .ok behind) ∧
      jobs = (path, (crew position disk path target).2) :: behind := by
  rw [submitFrom] at submitted
  split at submitted
  · cases submitted
  rename_i target found
  refine ⟨target, ?_⟩
  rcases later : submitFrom crew output single (position + 1) (crew position disk path target).1
    rest with ⟨last, fault | behind⟩
  · simp only [later] at submitted
    cases submitted
  · simp only [later] at submitted
    cases submitted
    exact ⟨behind, found, rfl, rfl⟩

/-- The disk is only asked about the output of a single file. -/
theorem outputPath_of_several (disk other : Disk) (output : Option Path) (path : Path) :
    outputPath disk output false path = outputPath other output false path := by
  cases output <;> rfl

/-- The outputs of several files, or of none, do not depend on the disk. -/
theorem mapM_outputPath_of_several {single : Bool} {files targets : List Path} (other : Disk)
    (several : single = true → files = [])
    (computed : files.mapM (outputPath disk output single) = .ok targets) :
    files.mapM (outputPath other output single) = .ok targets := by
  cases single with
  | false =>
      refine mapM_eq_ok_iff.mpr ((mapM_eq_ok_iff.mp computed).imp fun source output found => ?_)
      rwa [outputPath_of_several _ disk]
  | true =>
      rw [several rfl] at computed ⊢
      exact computed

theorem apart_of_grows {written : Location → Prop} (grows : Disk.Grows written disk after)
    {a b : Path × Path} (apart : Apart disk a b) : Apart after a b := by
  have meets : ∀ a b, Meet after a b ↔ Meet disk a b := by
    intro a b
    simp only [Meet, grows.resolve_eq]
  exact ⟨mt (meets _ _).mp apart.outputs, mt (meets _ _).mp apart.forwards,
    mt (meets _ _).mp apart.backwards⟩

/-- What a later file is converted from stood there from the beginning, unless an output leads there. -/
theorem holds_of_grows [Romanization] {written : Location → Prop} {middle : Disk}
    {source target : Path} (grows : Disk.Grows written disk middle)
    (unwritten : ∀ place, disk.resolve source = .ok place → ¬ written place)
    (holds : Holds settings middle after source target) :
    Holds settings disk after source target := by
  obtain ⟨place, content, modified, markup, stylesheet, led, stood, decoded, rest⟩ := holds
  rw [grows.resolve_eq] at led
  have stands := ((grows.items place).file_iff (unwritten place led) _ _).mp stood
  exact ⟨place, content, modified, markup, stylesheet, led, stands, decoded, rest⟩

/-- A worker's own output, unless something is written there after it. -/
theorem holds_convertFile [Romanization] {written : Location → Prop}
    (direct : disk.Direct disk.current) {source output target : Path}
    (converted : (disk.convertFile settings source output).result = .ok (some target))
    (grows : Disk.Grows written (disk.convertFile settings source output).disk after)
    (unwritten : ∀ place, disk.resolve output = .ok place → ¬ written place) :
    target = output ∧ Holds settings disk after source output := by
  obtain ⟨first, made⟩ := Disk.grows_convertFile direct settings source output
  obtain ⟨same, markup, stylesheet, text, styled, reads⟩ := made target converted
  obtain ⟨content, read, decoded⟩ := bind_eq_ok_iff.mp text
  rw [mapError_eq_ok_iff] at read decoded
  obtain ⟨place, modified, led, stood⟩ := Disk.read_eq_ok_iff.mp read
  refine ⟨same, place, content, modified, markup, stylesheet, Disk.resolve_of_locate led, stood,
    decoded, styled, grows.read_eq_ok reads fun place led => ?_⟩
  rw [first.resolve_eq] at led
  exact unwritten place led

/-- What a job reports as written is the output of its file and holds the file's own stylesheet. -/
def Keeps [Romanization] (settings : Settings) (before after : Disk) (file : Path × Path)
    (job : Path × JobOutcome) : Prop :=
  ∀ target, job.2.written = some target →
    target = file.2 ∧ Holds settings before after file.1 target

/-- The record of a conversion says what was written. -/
theorem written_converting [Romanization] (position : Nat) {source target written : Path}
    (reported : (Crew.converting settings position disk source target).2.written = some written) :
    (disk.convertFile settings source target).result = .ok (some written) := by
  have report : (Worker.report source (disk.convertFile settings source target)).written =
      some written := reported
  rw [Worker.report] at report
  split at report
  · rename_i result converted
    rw [converted, ← report]
  · cases report

/-- Files that are converted one after the other, with outputs apart. -/
theorem keeps_submitFrom [Romanization] {single : Bool} {files : List Path} :
    ∀ {position : Nat} {disk : Disk} {targets : List Path} {jobs : List (Path × JobOutcome)},
      disk.Direct disk.current → (single = true → files.length ≤ 1) →
      files.mapM (outputPath disk output single) = .ok targets →
      (files.zip targets).Pairwise (Apart disk) →
      submitFrom (.converting settings) output single position disk files = (after, .ok jobs) →
      Disk.Grows (fun place => ∃ target ∈ targets, disk.resolve target = .ok place) disk after ∧
        List.Forall₂ (Keeps settings disk after) (files.zip targets) jobs := by
  induction files with
  | nil =>
      intro position disk targets jobs _ _ computed _ submitted
      cases submitted
      cases mapM_eq_ok_iff.mp computed
      exact ⟨.refl _ _, .nil⟩
  | cons path rest ih =>
      intro position disk targets jobs direct alone computed apart submitted
      cases mapM_eq_ok_iff.mp computed with
      | @cons _ target _ others found further =>
      obtain ⟨_, behind, again, later, rfl⟩ := exists_of_submitFrom_cons submitted
      cases found.symm.trans again
      rw [List.zip_cons_cons, List.pairwise_cons] at apart
      obtain ⟨away, apart⟩ := apart
      have first := (Disk.grows_convertFile direct settings path target).1
      change submitFrom _ output single _ (disk.convertFile settings path target).disk rest = _
        at later
      have several (one : single = true) : rest = [] :=
        List.length_eq_zero_iff.mp (Nat.le_zero.mp (Nat.le_of_succ_le_succ (alone one)))
      have next := mapM_outputPath_of_several (disk.convertFile settings path target).disk several
        (mapM_eq_ok_iff.mpr further)
      obtain ⟨grows, keeps⟩ := ih (first.current ▸ first.direct direct)
        (fun one => Nat.le_of_succ_le (alone one)) next
        (apart.imp fun away => apart_of_grows first away) later
      have paired : (rest.zip others).map Prod.snd = others :=
        List.map_snd_zip (Nat.le_of_eq further.length_eq.symm)
      refine ⟨?_, ?_⟩
      · refine (first.mono fun place led => ⟨target, List.mem_cons_self, led⟩).trans
          (grows.mono ?_)
        rintro place ⟨other, among, led⟩
        rw [first.resolve_eq] at led
        exact ⟨other, List.mem_cons_of_mem _ among, led⟩
      · refine .cons ?_ ?_
        · intro written reported
          have unwritten : ∀ place, disk.resolve target = .ok place → ¬ ∃ other ∈ others,
              (disk.convertFile settings path target).disk.resolve other = .ok place := by
            rintro place led ⟨other, among, reaches⟩
            rw [← paired] at among
            obtain ⟨pair, inside, rfl⟩ := List.mem_map.mp among
            rw [first.resolve_eq] at reaches
            exact (away pair inside).outputs ⟨place, led, reaches⟩
          obtain ⟨rfl, holds⟩ :=
            holds_convertFile direct (written_converting position reported) grows unwritten
          exact ⟨rfl, holds⟩
        · refine ((List.forall₂_and_left _ _).mpr ⟨away, keeps⟩).imp ?_
          rintro pair job ⟨away, keeps⟩ written reported
          obtain ⟨same, holds⟩ := keeps written reported
          exact ⟨same, holds_of_grows first (fun place led reaches =>
            away.forwards ⟨place, reaches, led⟩) holds⟩

end Submission

section Results

variable (batch : Batch) (pool : Pool) (processors : Nat) {order : List Nat} {disk : Disk}
  {files : List Path} (observer : Observer σ) (state : σ)

/-- Every path among the results of a batch whose outputs are apart holds its own file's stylesheet. -/
theorem holds_runWith [Romanization] {targets : List Path} {results : List (Option Path)}
    (direct : disk.Direct disk.current) (complete : order.Perm (List.range files.length))
    (computed : files.mapM (outputPath disk batch.output (files.length == 1)) = .ok targets)
    (apart : (files.zip targets).Pairwise (Apart disk))
    (ended : (batch.runWith pool processors (.converting batch.settings) order disk files observer
      state).results = .ok results)
    {i : Nat} {target : Path} (result : results[i]? = some (some target)) :
    ∃ source, (files.zip targets)[i]? = some (source, target) ∧
      Holds batch.settings disk (batch.runWith pool processors (.converting batch.settings) order disk
        files observer state).disk source target := by
  obtain ⟨after, fault, hindered⟩ | ⟨starts, after, jobs, submitted⟩ :=
    hindered_or_submitted observer state
  · rw [hindered] at ended
    cases ended
  have alone : (files.length == 1) = true → files.length ≤ 1 :=
    fun one => Nat.le_of_eq (beq_iff_eq.mp one)
  obtain ⟨-, keeps⟩ := keeps_submitFrom direct alone computed apart submitted
  have length : jobs.length = files.length := by
    rw [← keeps.length_eq, List.length_zip, (mapM_eq_ok_iff.mp computed).length_eq, Nat.min_self]
  rw [← length] at complete
  obtain ⟨raised, ends⟩ := exists_ends_runWith observer state starts submitted complete
  cases ends with
  | halted _ _ _ _ _ _ failed =>
      rw [failed] at ended
      cases ended
  | normally _ succeeded =>
      rw [succeeded] at ended
      cases ended
      obtain ⟨job, here, written⟩ : ∃ job, jobs[i]? = some job ∧ job.2.written = some target := by
        rw [reports, List.getElem?_map, List.getElem?_mapIdx, Option.map_map] at result
        obtain ⟨job, here, kept⟩ := Option.map_eq_some_iff.mp result
        exact ⟨job, here, JobOutcome.written_of_kept kept⟩
      obtain ⟨inside, rfl⟩ := List.getElem?_eq_some_iff.mp here
      have among : i < (files.zip targets).length := by rwa [keeps.length_eq]
      obtain ⟨rfl, holds⟩ := keeps.get among inside target written
      rw [runWith_of_submit _ _ starts submitted]
      exact ⟨_, List.getElem?_eq_getElem among, holds⟩

/-- The paths for the stylesheets of collected files are distinct if no two files have the same folder
and stem. Where they lead to different places, and to none of the other files, every result names a file
with the stylesheet of its own source. Without links they do so if no two files have the same folder and
stem, wherever the folders are spelled. -/
theorem outputs_of_collect [Romanization] {inputs : List Text} {targets : List Path}
    (direct : disk.Direct disk.current)
    (collected : (CommandLine.collect disk inputs).result = .ok files)
    (complete : order.Perm (List.range files.length))
    (computed : files.mapM (outputPath disk batch.output (files.length == 1)) = .ok targets) :
    (targets.Nodup ↔ (files.map (site batch.output)).Nodup) ∧
      (Unlinked disk →
        (files.map fun path => (disk.resolve (site batch.output path).1, path.stem)).Nodup →
        (files.zip targets).Pairwise (Apart disk)) ∧
      ((files.zip targets).Pairwise (Apart disk) → ∀ results,
        (batch.runWith pool processors (.converting batch.settings) order disk files observer
          state).results = .ok results →
        ∀ (i : Nat) target, results[i]? = some (some target) →
          ∃ source, (files.zip targets)[i]? = some (source, target) ∧
            Holds batch.settings disk (batch.runWith pool processors (.converting batch.settings) order
              disk files observer state).disk source target) := by
  refine ⟨nodup_targets_iff computed, fun unlinked distinct => ?_,
    fun apart results ended i target result => ?_⟩
  · exact pairwise_apart_of_unlinked unlinked (namesMarkup_of_collect collected) computed distinct
  · exact holds_runWith batch pool processors observer state direct complete computed apart ended result

end Results

def below (names : List String) : Path :=
  ⟨[], names.map String.toList⟩

def styled : Item :=
  .file (Utf8.encode "<b class=x></b>".toList) 0

def twoFolders : Disk where
  items := [(["a.html".toList], styled), (["d".toList], .folder),
    (["d".toList, "a.html".toList], styled)]

theorem unlinked_twoFolders : Unlinked twoFolders :=
  unlinked_of_forall (by simp [twoFolders, styled])

/-- Files of one name in two folders get their stylesheets beside them. -/
theorem outputs_of_collect_twoFolders :
    ∃ targets, [below ["a.html"], below ["d", "a.html"]].mapM (outputPath twoFolders none false) =
        .ok targets ∧ targets.Nodup ∧
      ([below ["a.html"], below ["d", "a.html"]].zip targets).Pairwise (Apart twoFolders) ∧
      ∀ results, (({} : Batch).runWith .queued 1 (.converting {}) [0, 1] twoFolders
          [below ["a.html"], below ["d", "a.html"]] Observer.idle ()).results = .ok results →
        ∀ (i : Nat) target, results[i]? = some (some target) →
          ∃ source, ([below ["a.html"], below ["d", "a.html"]].zip targets)[i]? =
              some (source, target) ∧
            Holds {} twoFolders (({} : Batch).runWith .queued 1 (.converting {}) [0, 1] twoFolders
              [below ["a.html"], below ["d", "a.html"]] Observer.idle ()).disk source target := by
  have computed : [below ["a.html"], below ["d", "a.html"]].mapM (outputPath twoFolders none false) =
      .ok [below ["a.scss"], below ["d", "a.scss"]] := rfl
  have collected : (CommandLine.collect twoFolders ["a.html".toList, "d/a.html".toList]).result =
      .ok [below ["a.html"], below ["d", "a.html"]] := rfl
  have complete : [0, 1].Perm (List.range [below ["a.html"], below ["d", "a.html"]].length) := by
    decide
  obtain ⟨-, spread, holds⟩ := outputs_of_collect {} .queued 1 Observer.idle ()
    twoFolders.direct_nil collected complete computed
  have apart := spread unlinked_twoFolders (by decide)
  exact ⟨_, computed, by decide, apart, holds apart⟩

/-- A disk with two files that differ in their endings alone. -/
def twoEndings : Disk where
  items := [(["a.html".toList], styled), (["a.htm".toList], styled)]

/-- Files that differ in their endings alone get one path for their stylesheets. -/
theorem outputs_twoEndings :
    (CommandLine.collect twoEndings ["a.html".toList, "a.htm".toList]).result =
        .ok [below ["a.html"], below ["a.htm"]] ∧
      [below ["a.html"], below ["a.htm"]].mapM (outputPath twoEndings none false) =
        .ok [below ["a.scss"], below ["a.scss"]] ∧
      ¬ [below ["a.scss"], below ["a.scss"]].Nodup :=
  ⟨rfl, rfl, by decide⟩

end Batch

end NestedStyles
