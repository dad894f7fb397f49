import NestedStyles.Proofs.Stylesheet.Laying

/-!
What the steps of laying out leave alone. `Respaced` says that a step changes nothing but blanks at the
end of what is written; `Onward` that it takes a front of what is still to be read. Neither touches the
note of the last piece.
-/

set_option autoImplicit false

namespace NestedStyles

open Text

namespace Layout

/-- That only the blanks at the end of what is written have changed. -/
structure Respaced (l next : Layout) : Prop where
  before : next.before = l.before
  rest : next.rest = l.rest
  last : next.last = l.last
  insideMap : next.insideMap = l.insideMap
  same : bare next.shown = bare l.shown

/-- That a layout goes on from another without going back in what is to be read. -/
structure Onward (l next : Layout) : Prop where
  last : next.last = l.last
  insideMap : next.insideMap = l.insideMap
  rest : next.rest <:+ l.rest

namespace Respaced

variable {l next : Layout}

theorem refl (l : Layout) : Respaced l l :=
  ⟨rfl, rfl, rfl, rfl, rfl⟩

theorem trans {a b c : Layout} (first : Respaced a b) (second : Respaced b c) : Respaced a c :=
  ⟨second.before.trans first.before, second.rest.trans first.rest, second.last.trans first.last,
    second.insideMap.trans first.insideMap, second.same.trans first.same⟩

theorem onward (respaced : Respaced l next) : Onward l next := by
  have same : next.rest <:+ l.rest := respaced.rest ▸ List.suffix_rfl
  exact ⟨respaced.last, respaced.insideMap, same⟩

theorem space (l : Layout) : Respaced l l.space :=
  ⟨rfl, rfl, rfl, rfl, (grown_space l).same⟩

theorem unspace (l : Layout) : Respaced l { l with spaced := false } :=
  ⟨rfl, rfl, rfl, rfl, by rw [bare_shown, bare_shown]⟩

theorem spaceIf (reason : Bool) (l : Layout) : Respaced l (l.spaceIf reason) := by
  cases reason with
  | true => exact .space l
  | false => exact .refl l

theorem newline (l : Layout) : Respaced l l.newline :=
  ⟨rfl, rfl, rfl, rfl, (grown_newline l).same⟩

theorem newlineAlways (l : Layout) : Respaced l l.newlineAlways :=
  ⟨rfl, rfl, rfl, rfl, (grown_newlineAlways l).same⟩

theorem trim (l : Layout) : Respaced l l.trim :=
  ⟨rfl, rfl, rfl, rfl, bare_shown_trim l⟩

theorem indent (l : Layout) : Respaced l l.indent :=
  ⟨rfl, rfl, rfl, rfl, rfl⟩

theorem outdent (l : Layout) : Respaced l l.outdent :=
  ⟨rfl, rfl, rfl, rfl, rfl⟩

theorem enterValue (l : Layout) : Respaced l l.enterValue :=
  ⟨rfl, rfl, rfl, rfl, rfl⟩

theorem leaveValue (l : Layout) : Respaced l l.leaveValue := by
  rw [Layout.leaveValue]
  split
  · exact ⟨rfl, rfl, rfl, rfl, rfl⟩
  · exact .refl l

theorem enterParens (l : Layout) : Respaced l l.enterParens :=
  ⟨rfl, rfl, rfl, rfl, rfl⟩

theorem leaveParens (l : Layout) : Respaced l l.leaveParens := by
  rw [Layout.leaveParens]
  split
  · exact .refl l
  · exact ⟨rfl, rfl, rfl, rfl, rfl⟩

end Respaced

namespace Onward

variable {l next : Layout}

theorem refl (l : Layout) : Onward l l :=
  ⟨rfl, rfl, List.suffix_rfl⟩

theorem trans {a b c : Layout} (first : Onward a b) (second : Onward b c) : Onward a c :=
  ⟨second.last.trans first.last, second.insideMap.trans first.insideMap,
    second.rest.trans first.rest⟩

theorem advance {piece rest : Text} (split : l.rest = piece ++ rest) :
    Onward l (l.advance piece rest) := by
  refine ⟨rfl, rfl, ?_⟩
  rw [split]
  exact List.suffix_append piece rest

theorem write (item : Text) (l : Layout) : Onward l (l.write item) :=
  ⟨rfl, rfl, List.suffix_rfl⟩

theorem skipBlanks (l : Layout) : Onward l l.skipBlanks := by
  rw [skipBlanks_eq]
  exact advance List.takeWhile_append_dropWhile.symm

theorem keepBreaks (style : PageStyle) (l : Layout) : Onward l (l.keepBreaks style) := by
  rw [keepBreaks_eq]
  exact (skipBlanks l).trans ⟨rfl, rfl, List.suffix_rfl⟩

end Onward

end Layout

end NestedStyles
