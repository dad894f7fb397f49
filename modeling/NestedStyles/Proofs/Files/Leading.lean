import NestedStyles.Files.Disk

/-!
Where paths lead on a disk. `Leads` is the way over links, one at a time; the place at its end is not
behind a link, and it is the location that the path stands for.
-/

set_option autoImplicit false

namespace NestedStyles

namespace Disk

/-- That no link stands on the way to a location. -/
def Direct (disk : Disk) (location : Location) : Prop :=
  ∀ place, place <+: location → ∀ target, disk.at? place ≠ some (.link target)

theorem direct_nil (disk : Disk) : disk.Direct [] := by
  intro place initial target linked
  rw [List.prefix_nil.mp initial] at linked
  cases linked

theorem Direct.dropLast {disk : Disk} {location : Location} (direct : disk.Direct location) :
    disk.Direct location.dropLast :=
  fun place initial => direct place (initial.trans (List.dropLast_prefix location))

theorem Direct.snoc {disk : Disk} {location : Location} {name : Text}
    (direct : disk.Direct location)
    (plain : ∀ target, disk.at? (location ++ [name]) ≠ some (.link target)) :
    disk.Direct (location ++ [name]) := by
  intro place initial
  rcases List.prefix_concat_iff.mp initial with rfl | before
  · exact plain
  · exact direct place before

/-- That names lead from a location to a place, over a number of links at most. -/
inductive Leads (disk : Disk) (strict : Bool) : Nat → Location → List Text → Location → Prop
  | arrived {links : Nat} {here place : Location} {names : List Text}
      (reached : disk.follow strict here names = .arrived place) :
      Leads disk strict links here names place
  | link {links : Nat} {here folder place : Location} {names rest : List Text} {target : Path}
      (reached : disk.follow strict here names = .link folder target rest)
      (further : Leads disk strict links (if target.isAbsolute then [] else folder)
        (target.parts ++ rest) place) :
      Leads disk strict (links + 1) here names place

theorem followLinks_eq_ok_iff {disk : Disk} {strict : Bool} {links : Nat} :
    ∀ {here place : Location} {names : List Text},
      disk.followLinks strict links here names = .ok place ↔
        Leads disk strict links here names place := by
  induction links with
  | zero =>
      intro here place names
      rw [followLinks]
      constructor
      · intro led
        cases reached : disk.follow strict here names with
        | arrived location =>
            simp only [reached, Except.ok.injEq] at led
            exact .arrived (led ▸ reached)
        | refused reason => simp only [reached] at led; cases led
        | link folder target rest => simp only [reached] at led; cases led
      · intro leads
        cases leads with
        | arrived reached => simp only [reached]
  | succ links ih =>
      intro here place names
      rw [followLinks]
      constructor
      · intro led
        cases reached : disk.follow strict here names with
        | arrived location =>
            simp only [reached, Except.ok.injEq] at led
            exact .arrived (led ▸ reached)
        | refused reason => simp only [reached] at led; cases led
        | link folder target rest =>
            simp only [reached] at led
            exact .link reached (ih.mp led)
      · intro leads
        cases leads with
        | arrived reached => simp only [reached]
        | link reached further =>
            simp only [reached]
            exact ih.mpr further

section Leading

variable {disk : Disk}

/-- The last name leads to its place, whether anything is there or not, unless that is a link. -/
theorem follow_last {here : Location} {name : Text} (down : name ≠ ['.', '.'])
    (plain : ∀ target, disk.at? (here ++ [name]) ≠ some (.link target)) :
    disk.follow true here [name] =
      if maxNameBytes < (Utf8.encode name).length then .refused .nameTooLong
      else .arrived (here ++ [name]) := by
  rw [follow, if_neg down]
  simp only [Bool.true_and, decide_eq_true_eq]
  split
  · rfl
  · generalize disk.at? (here ++ [name]) = item at plain ⊢
    rcases item with _ | _ | _ | target
    · rfl
    · rfl
    · rfl
    · exact absurd rfl (plain target)

/-- Names that are not refused lead to the same end where nothing is refused. -/
theorem follow_false_of_passed {names : List Text} :
    ∀ {here : Location}, (∀ reason, disk.follow true here names ≠ .refused reason) →
      disk.follow false here names = disk.follow true here names := by
  induction names with
  | nil => exact fun _ => rfl
  | cons name rest ih =>
      intro here passed
      simp only [follow] at passed ⊢
      by_cases up : name = ['.', '.']
      · rw [if_pos up] at passed
        rw [if_pos up, if_pos up]
        exact ih passed
      rw [if_neg up] at passed
      rw [if_neg up, if_neg up]
      split at passed
      · exact absurd rfl (passed .nameTooLong)
      rename_i short
      rw [if_neg short, if_neg (by simp)]
      generalize disk.at? (here ++ [name]) = item at passed ⊢
      rcases item with _ | _ | _ | target
      · cases rest with
        | nil => rfl
        | cons next more => exact absurd rfl (passed .notFound)
      · exact ih passed
      · cases rest with
        | nil => rfl
        | cons next more => exact absurd rfl (passed .notFolder)
      · rfl

theorem Leads.loose {links : Nat} {here place : Location} {names : List Text}
    (leads : Leads disk true links here names place) : Leads disk false links here names place := by
  induction leads with
  | arrived reached =>
      refine .arrived ?_
      rw [follow_false_of_passed (by simp [reached]), reached]
  | link reached _ ih =>
      refine .link ?_ ih
      rw [follow_false_of_passed (by simp [reached]), reached]

theorem Leads.mono {strict : Bool} {links : Nat} {here place : Location} {names : List Text}
    (leads : Leads disk strict links here names place) :
    ∀ {more}, links ≤ more → Leads disk strict more here names place := by
  induction leads with
  | arrived reached => exact fun _ => .arrived reached
  | link reached _ ih =>
      intro more fits
      obtain ⟨left, rfl⟩ : ∃ left, more = left + 1 := ⟨more - 1, by omega⟩
      exact .link reached (ih (by omega))

theorem locate_eq_ok_iff {path : Path} {place : Location} :
    disk.locate path = .ok place ↔
      refusal? path = none ∧ Leads disk true maxLinks (disk.startOf path) path.parts place := by
  rw [locate, ← followLinks_eq_ok_iff]
  cases refusal? path <;> simp

/-- A path stands for the place that it leads to. -/
theorem resolve_of_locate {path : Path} {place : Location} (led : disk.locate path = .ok place) :
    disk.resolve path = .ok place :=
  followLinks_eq_ok_iff.mpr ((locate_eq_ok_iff.mp led).2.loose.mono (by decide))

/-- That no link stands on the way to where names led so far. -/
def Reach.Direct (disk : Disk) : Reach → Prop
  | .arrived location => disk.Direct location
  | .refused _ => True
  | .link folder _ _ => disk.Direct folder

theorem direct_follow {strict : Bool} {names : List Text} :
    ∀ {here : Location}, disk.Direct here → (disk.follow strict here names).Direct disk := by
  induction names with
  | nil => exact fun direct => direct
  | cons name rest ih =>
      intro here direct
      rw [follow]
      split
      · exact ih direct.dropLast
      split
      · trivial
      have next : (∀ target, disk.at? (here ++ [name]) ≠ some (.link target)) →
          (disk.follow strict (here ++ [name]) rest).Direct disk :=
        fun plain => ih (direct.snoc plain)
      cases stood : disk.at? (here ++ [name]) with
      | none =>
          simp only [stood]
          split
          · trivial
          · exact next (by simp [stood])
      | some item =>
          cases item with
          | folder =>
              simp only [stood]
              exact next (by simp [stood])
          | link target =>
              simp only [stood]
              exact direct
          | file content modified =>
              simp only [stood]
              split
              · trivial
              · exact next (by simp [stood])

theorem Leads.direct {strict : Bool} {links : Nat} {here place : Location} {names : List Text}
    (leads : Leads disk strict links here names place) (direct : disk.Direct here) :
    disk.Direct place := by
  induction leads with
  | @arrived links here place names reached =>
      have ended : (disk.follow strict here names).Direct disk := direct_follow direct
      rwa [reached] at ended
  | @link links here folder place names rest target reached _ ih =>
      have ended : (disk.follow strict here names).Direct disk := direct_follow direct
      rw [reached] at ended
      refine ih ?_
      split
      · exact disk.direct_nil
      · exact ended

theorem direct_of_locate (direct : disk.Direct disk.current) {path : Path} {place : Location}
    (led : disk.locate path = .ok place) : disk.Direct place := by
  refine (locate_eq_ok_iff.mp led).2.direct ?_
  rw [startOf]
  split
  · exact disk.direct_nil
  · exact direct

/-- A file is read where its path leads. -/
theorem read_eq_ok_iff {path : Path} {content : List UInt8} :
    disk.read path = .ok content ↔ ∃ place modified, disk.locate path = .ok place ∧
      disk.at? place = some (.file content modified) := by
  rw [read, look]
  cases disk.locate path with
  | error reason =>
      constructor
      · rintro ⟨⟩
      · rintro ⟨_, _, ⟨⟩, _⟩
  | ok place =>
      constructor
      · intro reads
        cases stood : disk.at? place with
        | none => simp only [bind, Except.bind, stood] at reads; cases reads
        | some item =>
            simp only [bind, Except.bind, stood] at reads
            cases item with
            | folder => cases reads
            | link target => cases reads
            | file bytes modified =>
                cases reads
                exact ⟨place, modified, rfl, stood⟩
      · rintro ⟨_, modified, ⟨⟩, stood⟩
        simp only [bind, Except.bind, stood]

end Leading

end Disk

end NestedStyles
