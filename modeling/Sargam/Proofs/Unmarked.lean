import Sargam.Composition
import Sargam.Export.Table
import Sargam.Proofs.Rendering
import Sargam.Proofs.Shortening

/-!
# Options change marks only

How notes are drawn is a matter of their marks alone. Whatever is drawn with two options looks the
same once the marks are taken away: cells, lines and whole tables. It is not enough that the texts
of cells do. A text of marks alone would take the place of a sustain sign, so a cell has to be
drawn as nothing under both options or under neither; and a text is cut and centred by its visible
characters, so both have to be done in the same way with the marks and without.

* `Text.unmark`: a text without its marks.
* `Text.unmark_centre`: marks can be taken away before a text is centred or after.
* `Swara.unmark_render`: without its marks a drawn note is its name.
* `Layout.mapRendered`: a layout with other music texts and nothing else changed.
* `options_change_marks_only`: what is shown of a composition under two options.
-/

namespace Sargam

namespace Text

/-! ## Texts without marks -/

/-- A text without its marks. -/
def unmark (text : String) : String := String.ofList (text.toList.filter isVisible)

theorem unmark_append (a b : String) : unmark (a ++ b) = unmark a ++ unmark b := by
  simp [unmark]

theorem filter_intercalate (keep : Char → Bool) (separator : List Char)
    (parts : List (List Char)) :
    (separator.intercalate parts).filter keep =
      (separator.filter keep).intercalate (parts.map (List.filter keep)) := by
  induction parts with
  | nil => rfl
  | cons part rest ih =>
    by_cases hnil : rest = []
    · subst hnil
      simp
    · rw [List.intercalate_cons_of_ne_nil hnil, List.filter_append, List.filter_append, ih,
        List.map_cons, List.intercalate_cons_of_ne_nil (by simpa using hnil)]

theorem unmark_intercalate (separator : String) (parts : List String) :
    unmark (separator.intercalate parts) = (unmark separator).intercalate (parts.map unmark) := by
  apply String.toList_injective
  simp only [unmark, String.toList_ofList, String.toList_intercalate, filter_intercalate,
    List.map_map, Function.comp_def]

theorem visibleCount_filter (cs : List Char) :
    visibleCount (cs.filter isVisible) = visibleCount cs := by
  simp [visibleCount, List.countP_filter]

theorem filter_fit (width : Nat) (cs : List Char) :
    (fit width cs).filter isVisible = fit width (cs.filter isVisible) := by
  have hellipsis : ['…'].filter isVisible = ['…'] := by decide
  unfold fit
  rw [visibleCount_filter]
  split
  · rfl
  · rw [List.filter_append, filter_takeVisible, hellipsis]

theorem filter_centreChars (width : Nat) (cs : List Char) :
    (centreChars width cs).filter isVisible = centreChars width (cs.filter isVisible) := by
  have hspaces : ∀ n, (List.replicate n ' ').filter isVisible = List.replicate n ' ' := by
    intro n
    rw [List.filter_replicate, if_pos (by decide)]
  have hcount := visibleCount_filter (fit width cs)
  rw [filter_fit] at hcount
  simp only [centreChars, List.filter_append, hspaces, filter_fit, hcount]

theorem unmark_centre (width : Nat) (text : String) :
    unmark (centre width text) = centre width (unmark text) := by
  simp only [unmark, centre, String.toList_ofList, filter_centreChars]

end Text

open Text

/-! ## Drawn notes without marks -/

theorem Swara.unmark_render (o : RenderOptions) (s : Swara) :
    unmark (s.render o) = s.base.name := by
  rw [unmark, Swara.render, String.toList_ofList, Swara.letters_renderChars, String.ofList_toList]

theorem unmark_renderSequence (o : RenderOptions) (separator : String) (swaras : List Swara) :
    unmark (renderSequence o separator swaras) =
      (unmark separator).intercalate (swaras.map fun s => s.base.name) := by
  rw [renderSequence, unmark_intercalate, List.map_map]
  exact congrArg _ (List.map_congr_left fun s _ => Swara.unmark_render o s)

namespace CellContent

theorem unmark_render_congr (o o' : RenderOptions) (content : CellContent) :
    unmark (content.render o) = unmark (content.render o') := by
  cases content with
  | empty => rfl
  | sustain => rfl
  | swaras group =>
    exact (unmark_renderSequence o " " group).trans (unmark_renderSequence o' " " group).symm

/-- A cell is drawn as nothing under all options or under none. -/
theorem isEmpty_render_congr (o o' : RenderOptions) (content : CellContent) :
    (content.render o).isEmpty = (content.render o').isEmpty := by
  cases content with
  | empty => rfl
  | sustain => rfl
  | swaras group =>
    cases group with
    | nil => rfl
    | cons s rest =>
      have hne : ∀ options, (renderSequence options " " (s :: rest)).isEmpty = false := by
        intro options
        simpa using renderSequence_cons_ne_empty options " " s rest
      exact (hne o).trans (hne o').symm

end CellContent

/-! ## Layouts -/

namespace Layout

/-- A layout with other music texts. -/
def mapRendered (f : String → String) (l : Layout) : Layout :=
  { l with vibhags := l.vibhags.map fun v =>
      { v with cells := v.cells.map fun c => { c with rendered := f c.rendered } } }

theorem row_eq (l : Layout) (cellText : Cell → String) :
    l.row cellText = " | ".intercalate
      ((l.vibhags.map fun v => v.cells.map cellText).map " ".intercalate) := by
  rw [row, List.map_map]
  rfl

theorem unmark_row (l : Layout) (cellText : Cell → String) :
    unmark (l.row cellText) = l.row fun c => unmark (cellText c) := by
  have hspace : unmark " " = " " := by decide
  have hbar : unmark " | " = " | " := by decide
  simp only [row, unmark_intercalate, hspace, hbar, List.map_map, Function.comp_def]

end Layout

namespace Grid

variable {t : Taal} {o o' : RenderOptions} {α : Type}

theorem map_cellLayouts_congr {f : Layout.Cell → α}
    (h : ∀ matra content, f (cellLayout t o matra content) = f (cellLayout t o' matra content))
    (matra : Nat) (cells : List CellContent) :
    (cellLayouts t o matra cells).map f = (cellLayouts t o' matra cells).map f := by
  induction cells generalizing matra with
  | nil => rfl
  | cons content rest ih => rw [cellLayouts, cellLayouts, List.map_cons, List.map_cons, h, ih]

theorem map_vibhagLayouts_congr {f : Layout.Vibhag → α}
    (h : ∀ number first last matra cells,
      f ⟨number, first, last, cellLayouts t o matra cells⟩ =
        f ⟨number, first, last, cellLayouts t o' matra cells⟩)
    (number matra : Nat) (sizes : List Nat) (cells : List CellContent) :
    (vibhagLayouts t o number matra sizes cells).map f =
      (vibhagLayouts t o' number matra sizes cells).map f := by
  induction sizes generalizing number matra cells with
  | nil => rfl
  | cons size rest ih =>
    rw [vibhagLayouts, vibhagLayouts, List.map_cons, List.map_cons, h, ih]

theorem mapRendered_layout (o o' : RenderOptions) (g : Grid) :
    (g.layout o).mapRendered unmark = (g.layout o').mapRendered unmark := by
  simp only [Layout.mapRendered, layout, Layout.mk.injEq, true_and]
  refine map_vibhagLayouts_congr (fun number first last matra cells => ?_) 1 1 _ _
  refine congrArg (Layout.Vibhag.mk number first last) (map_cellLayouts_congr ?_ matra cells)
  intro matra content
  simp only [cellLayout, CellContent.unmark_render_congr o o' content]

/-- A row does not depend on the options if the texts of its cells do not. -/
theorem row_layout_congr {cellText : Layout.Cell → String}
    (h : ∀ t matra content,
      cellText (cellLayout t o matra content) = cellText (cellLayout t o' matra content))
    (g : Grid) : (g.layout o).row cellText = (g.layout o').row cellText := by
  rw [Layout.row_eq, Layout.row_eq]
  refine congrArg (fun rows => " | ".intercalate (List.map " ".intercalate rows)) ?_
  exact map_vibhagLayouts_congr (fun _ _ _ matra cells =>
    map_cellLayouts_congr (h g.taal) matra cells) 1 1 _ _

theorem unmark_displayText (o o' : RenderOptions) (t : Taal) (matra : Nat)
    (content : CellContent) :
    unmark (cellLayout t o matra content).displayText =
      unmark (cellLayout t o' matra content).displayText := by
  have hempty := CellContent.isEmpty_render_congr o o' content
  dsimp only [Layout.Cell.displayText, cellLayout]
  rw [hempty]
  split
  · rfl
  · exact CellContent.unmark_render_congr o o' content

theorem unmark_toLine (o o' : RenderOptions) (g : Grid) :
    unmark (g.layout o).toLine = unmark (g.layout o').toLine := by
  rw [Layout.toLine, Layout.toLine, Layout.unmark_row, Layout.unmark_row]
  exact row_layout_congr (unmark_displayText o o') g

theorem unmark_tableRow (o o' : RenderOptions) {cellText : Layout.Cell → String}
    (h : ∀ t matra content, unmark (cellText (cellLayout t o matra content)) =
      unmark (cellText (cellLayout t o' matra content))) (g : Grid) :
    unmark (Export.tableRow (g.layout o) cellText) =
      unmark (Export.tableRow (g.layout o') cellText) := by
  rw [Export.tableRow, Export.tableRow, Layout.unmark_row, Layout.unmark_row]
  refine row_layout_congr (fun t matra content => ?_) g
  rw [unmark_centre, unmark_centre, h]

theorem unmark_tableLine (o o' : RenderOptions) (number : Nat) (g : Grid) :
    (Export.tableLine number (g.layout o)).map unmark =
      (Export.tableLine number (g.layout o')).map unmark := by
  have hmatra : unmark (Export.tableRow (g.layout o) fun c => c.matra.repr) =
      unmark (Export.tableRow (g.layout o') fun c => c.matra.repr) :=
    unmark_tableRow o o' (fun t matra content => by simp only [cellLayout]) g
  have hsymbol : unmark (Export.tableRow (g.layout o) Layout.Cell.symbol) =
      unmark (Export.tableRow (g.layout o') Layout.Cell.symbol) :=
    unmark_tableRow o o' (fun t matra content => by simp only [cellLayout]) g
  have hswar := unmark_tableRow o o' (unmark_displayText o o') g
  simp only [Export.tableLine, List.map_cons, unmark_append, hmatra, hsymbol, hswar]

end Grid

namespace Composition

variable {o o' : RenderOptions}

theorem unmark_tableLines (o o' : RenderOptions) (number : Nat) (lines : List Grid) :
    (Export.tableLines number (lines.map (Grid.layout o))).map unmark =
      (Export.tableLines number (lines.map (Grid.layout o'))).map unmark := by
  induction lines generalizing number with
  | nil => rw [List.map_nil, List.map_nil]
  | cons g rest ih =>
    rw [List.map_cons, List.map_cons, Export.tableLines, Export.tableLines, List.map_append,
      List.map_append, Grid.unmark_tableLine o o', ih]

theorem unmark_table (o o' : RenderOptions) (c : Composition) (heading : Bool) :
    unmark (Export.table (c.layouts o) heading) = unmark (Export.table (c.layouts o') heading) := by
  have hlines := unmark_tableLines o o' 1 c.lines
  rw [layouts, layouts]
  cases hcons : c.lines with
  | nil => rw [List.map_nil, List.map_nil]
  | cons g rest =>
    -- The heading says nothing of the music texts.
    have hheading : Export.tableHeading (g.layout o) ((g :: rest).map (Grid.layout o)).length =
        Export.tableHeading (g.layout o') ((g :: rest).map (Grid.layout o')).length := by
      simp only [List.length_map, Export.tableHeading, Grid.layout]
    rw [hcons] at hlines
    simp only [Export.table, List.map_cons] at hlines hheading ⊢
    rw [unmark_intercalate, unmark_intercalate, hheading]
    simp only [List.map_append, hlines]

end Composition

/-- **Options change marks only.** Under any two options the layouts of a composition differ in
the music texts of their cells alone, and these texts, the lines of text and the whole tables are
the same without their marks. -/
theorem options_change_marks_only (c : Composition) (o o' : RenderOptions) :
    (c.layouts o).map (Layout.mapRendered unmark) =
      (c.layouts o').map (Layout.mapRendered unmark) ∧
    ((c.layouts o).map fun l => unmark l.toLine) =
      ((c.layouts o').map fun l => unmark l.toLine) ∧
    ∀ heading, unmark (Export.table (c.layouts o) heading) =
      unmark (Export.table (c.layouts o') heading) := by
  refine ⟨?_, ?_, Composition.unmark_table o o' c⟩
  · rw [Composition.layouts, Composition.layouts, List.map_map, List.map_map]
    exact List.map_congr_left fun g _ => Grid.mapRendered_layout o o' g
  · rw [Composition.layouts, Composition.layouts, List.map_map, List.map_map]
    exact List.map_congr_left fun g _ => Grid.unmark_toLine o o' g

end Sargam
