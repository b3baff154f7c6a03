import Mathlib.Data.List.Nodup
import Sargam.Grid.Display
import Sargam.Proofs.Rendering
import Sargam.Proofs.Vibhags
import Sargam.Taal.Library

/-!
# Layouts show the whole cycle

The layout of a grid is a partition of the cycle. It is made with a matra counter of its own,
vibhag by vibhag, while the vibhag of a matra, its mark and the summary of the taal are found in
other ways. All of them agree.

* `getElem?_vibhagLayouts`, `cells_vibhagLayouts`: what a vibhag of a layout holds, and what the
  vibhags hold together.
* `Layout.ShowsMatra`, `Layout.ShowsVibhag`, `Layout.ShowsCycle`: a layout that shows each matra
  once, in its vibhag and with its own text, mark and syllable.
* `layout_shows_cycle`: the layout of every reachable grid is such a layout.
-/

namespace Sargam

/-! ## Texts of cells -/

namespace CellContent

theorem isEmpty_iff {content : CellContent} : content.isEmpty = true ↔ content = .empty := by
  cases content <;> simp [isEmpty]

/-- Nothing is drawn for an empty cell, and for no other proper content. -/
theorem render_eq_empty_iff {content : CellContent} (h : content.Proper) (o : RenderOptions) :
    content.render o = "" ↔ content = .empty := by
  cases content with
  | empty => exact iff_of_true rfl rfl
  | sustain => exact iff_of_false (by simp [render, sustainSign]) (by simp)
  | swaras group =>
    obtain ⟨s, rest, rfl⟩ := List.exists_cons_of_ne_nil fun hnil => h (congrArg swaras hnil)
    exact iff_of_false (renderSequence_cons_ne_empty o " " s rest) (by simp)

end CellContent

/-! ## Cells and vibhags laid out -/

namespace Grid

variable {t : Taal} {o : RenderOptions}

theorem getElem?_cellLayouts {matra : Nat} {cells : List CellContent} (index : Nat) :
    (cellLayouts t o matra cells)[index]? =
      cells[index]?.map (cellLayout t o (matra + index)) := by
  induction cells generalizing matra index with
  | nil => rfl
  | cons content rest ih =>
    cases index with
    | zero => rfl
    | succ index =>
      rw [cellLayouts, List.getElem?_cons_succ, List.getElem?_cons_succ, ih, Nat.add_right_comm,
        Nat.add_assoc]

theorem mem_cellLayouts {matra : Nat} {cells : List CellContent} {c : Layout.Cell}
    (h : c ∈ cellLayouts t o matra cells) :
    ∃ index content, cells[index]? = some content ∧ c = cellLayout t o (matra + index) content := by
  obtain ⟨index, hindex⟩ := List.getElem?_of_mem h
  rw [getElem?_cellLayouts] at hindex
  obtain ⟨content, hcontent, rfl⟩ := Option.map_eq_some_iff.mp hindex
  exact ⟨index, content, hcontent, rfl⟩

theorem map_matra_cellLayouts (matra : Nat) (cells : List CellContent) :
    (cellLayouts t o matra cells).map Layout.Cell.matra = List.range' matra cells.length := by
  induction cells generalizing matra with
  | nil => rfl
  | cons content rest ih =>
    rw [cellLayouts, List.map_cons, ih, List.length_cons, List.range'_succ]
    rfl

theorem length_cellLayouts (matra : Nat) (cells : List CellContent) :
    (cellLayouts t o matra cells).length = cells.length := by
  have hlength := congrArg List.length (map_matra_cellLayouts (t := t) (o := o) matra cells)
  rwa [List.length_map, List.length_range'] at hlength

theorem cellLayouts_append (matra : Nat) (cells more : List CellContent) :
    cellLayouts t o matra (cells ++ more) =
      cellLayouts t o matra cells ++ cellLayouts t o (matra + cells.length) more := by
  induction cells generalizing matra with
  | nil => rfl
  | cons content rest ih =>
    have hnext : matra + 1 + rest.length = matra + (rest.length + 1) := by omega
    rw [List.cons_append, cellLayouts, cellLayouts, ih, List.cons_append, List.length_cons, hnext]

/-- A vibhag of a layout begins after the matras of those before it and holds as many cells as
its size says. -/
theorem getElem?_vibhagLayouts {number matra : Nat} {sizes : List Nat}
    {cells : List CellContent} (index : Nat) :
    (vibhagLayouts t o number matra sizes cells)[index]? = sizes[index]?.map fun size =>
      ⟨number + index, matra + Taal.matrasBefore sizes index,
        matra + Taal.matrasBefore sizes index + size - 1,
        cellLayouts t o (matra + Taal.matrasBefore sizes index)
          ((cells.drop (Taal.matrasBefore sizes index)).take size)⟩ := by
  induction sizes generalizing number matra cells index with
  | nil => rfl
  | cons size rest ih =>
    cases index with
    | zero => simp [vibhagLayouts]
    | succ index =>
      rw [vibhagLayouts, List.getElem?_cons_succ, List.getElem?_cons_succ, ih,
        Taal.matrasBefore_cons_succ, List.drop_drop, Nat.add_right_comm number,
        Nat.add_assoc number, Nat.add_assoc matra]

theorem length_vibhagLayouts (number matra : Nat) (sizes : List Nat) (cells : List CellContent) :
    (vibhagLayouts t o number matra sizes cells).length = sizes.length := by
  induction sizes generalizing number matra cells with
  | nil => rfl
  | cons size rest ih => rw [vibhagLayouts, List.length_cons, ih, List.length_cons]

theorem cells_vibhagLayouts {number matra : Nat} {sizes : List Nat} {cells : List CellContent}
    (h : sizes.sum ≤ cells.length) :
    (vibhagLayouts t o number matra sizes cells).flatMap Layout.Vibhag.cells =
      cellLayouts t o matra (cells.take sizes.sum) := by
  induction sizes generalizing number matra cells with
  | nil => rfl
  | cons size rest ih =>
    rw [List.sum_cons] at h
    have hrest : rest.sum ≤ (cells.drop size).length := by
      rw [List.length_drop]
      omega
    have hlength : (cells.take size).length = size := by
      rw [List.length_take]
      omega
    rw [vibhagLayouts, List.flatMap_cons, ih hrest, List.sum_cons, List.take_add,
      cellLayouts_append, hlength]

end Grid

/-! ## Layouts that show a cycle -/

namespace Layout

/-- A cell that shows its matra as the grid and the taal have it, in the vibhag with a number. -/
structure ShowsMatra (t : Taal) (o : RenderOptions) (contents : List CellContent) (number : Nat)
    (c : Cell) : Prop where
  vibhag_eq : t.vibhagOf? c.matra = some number
  rendered_eq : contents[c.matra - 1]?.map (CellContent.render o) = some c.rendered
  isEmpty_iff_empty : c.isEmpty = true ↔ contents[c.matra - 1]? = some .empty
  isEmpty_iff_rendered : c.isEmpty = true ↔ c.rendered = ""
  bol_of_some : ∀ bols, t.bols = some bols → c.bol.isSome = true ∧ c.bol = bols[c.matra - 1]?
  bol_of_none : t.bols = none → c.bol = none
  sam_iff : c.marker = some .sam ↔ c.matra = t.sam
  khali_iff : c.marker = some .khali ↔ c.matra ∈ t.khali ∧ c.matra ≠ t.sam
  tali_iff : ∀ n, c.marker = some (.tali n) ↔
    n = number ∧ c.matra ∈ t.tali ∧ c.matra ∉ t.khali ∧ c.matra ≠ t.sam
  /-- The symbol tells the mark, and the mark the symbol. -/
  symbol_empty_iff : c.symbol = "" ↔ c.marker = none
  symbol_sam_iff : c.symbol = "X" ↔ c.marker = some .sam
  symbol_khali_iff : c.symbol = "0" ↔ c.marker = some .khali
  symbol_tali_iff : ∀ n, 0 < n → (c.symbol = n.repr ↔ c.marker = some (.tali n))

/-- A vibhag, at an index from 0, that shows its matras one after the other. -/
structure ShowsVibhag (t : Taal) (o : RenderOptions) (contents : List CellContent) (index : Nat)
    (v : Vibhag) : Prop where
  number_eq : v.number = index + 1
  size_eq : t.vibhagStructure[index]? = some v.cells.length
  matras_eq : v.cells.map Cell.matra = List.range' v.startMatra v.cells.length
  first_eq : v.cells.head?.map Cell.matra = some v.startMatra
  last_eq : v.cells.getLast?.map Cell.matra = some v.endMatra
  cell : ∀ c ∈ v.cells, ShowsMatra t o contents v.number c

/-- A layout that shows each matra of a cycle once: its vibhags are those of the taal, one after
the other, and its marks stand where the taal has them. -/
structure ShowsCycle (t : Taal) (o : RenderOptions) (contents : List CellContent) (l : Layout) :
    Prop where
  vibhag_count : l.vibhags.length = t.vibhagStructure.length
  vibhag : ∀ index v, l.vibhags[index]? = some v → ShowsVibhag t o contents index v
  matras_eq : l.cells.map Cell.matra = List.range' 1 t.totalMatras
  one_sam : l.cells.countP (fun c => c.marker = some .sam) = 1
  khali_matras : ∀ p, (∃ c ∈ l.cells, c.matra = p ∧ c.marker = some .khali) ↔
    p ∈ t.khali ∧ p ≠ t.sam
  tali_matras : ∀ p, (∃ c ∈ l.cells, ∃ n, c.matra = p ∧ c.marker = some (.tali n)) ↔
    p ∈ t.tali ∧ p ∉ t.khali ∧ p ≠ t.sam
  symbols_eq : l.cells.map Cell.symbol = t.summary.symbols

variable {t : Taal} {o : RenderOptions}

theorem showsMatra_cellLayout {contents : List CellContent} {index size offset : Nat}
    {content : CellContent} (hsize : t.vibhagStructure[index]? = some size)
    (hoffset : offset < size)
    (hcontent : contents[Taal.matrasBefore t.vibhagStructure index + offset]? = some content)
    (hproper : content.Proper) :
    ShowsMatra t o contents (index + 1)
      (Grid.cellLayout t o (1 + Taal.matrasBefore t.vibhagStructure index + offset) content) := by
  have hvibhag := Taal.vibhagOf?_eq_some hsize hoffset
  have hle := Taal.matrasBefore_add_le hsize
  rw [t.sum_vibhagStructure] at hle
  generalize hbefore : Taal.matrasBefore t.vibhagStructure index = before at *
  have hindex : 1 + before + offset - 1 = before + offset := by omega
  have hnumber : ∀ n, t.vibhagOf? (1 + before + offset) = some n ↔ n = index + 1 := by
    intro n
    rw [hvibhag, Option.some.injEq, eq_comm]
  refine
    { vibhag_eq := hvibhag
      rendered_eq := ?_
      isEmpty_iff_empty := ?_
      isEmpty_iff_rendered := ?_
      bol_of_some := fun bols hbols => ?_
      bol_of_none := fun hbols => ?_
      sam_iff := Taal.marker?_eq_sam_iff
      khali_iff := Taal.marker?_eq_khali_iff
      tali_iff := fun n => ?_
      symbol_empty_iff := Taal.symbol_eq_empty_iff
      symbol_sam_iff := Taal.symbol_eq_glyph_iff .sam (by decide)
      symbol_khali_iff := Taal.symbol_eq_glyph_iff .khali (by decide)
      symbol_tali_iff := fun n hn => Taal.symbol_eq_glyph_iff (.tali n) fun h => ?_ }
  · simp only [Grid.cellLayout, hindex, hcontent, Option.map_some]
  · simp only [Grid.cellLayout, hindex, hcontent, Option.some.injEq]
    exact CellContent.isEmpty_iff
  · exact CellContent.isEmpty_iff.trans (CellContent.render_eq_empty_iff hproper o).symm
  · have hlength := t.consistent.bols_length bols hbols
    have hlt : before + offset < bols.length := by omega
    simp only [Grid.cellLayout, hindex, hbols, Option.bind_some]
    exact ⟨by simp [hlt], trivial⟩
  · simp only [Grid.cellLayout, hbols, Option.bind_none]
  · rw [← hnumber n]
    exact Taal.marker?_eq_tali_iff
  · cases h
    exact Nat.lt_irrefl 0 hn

theorem showsVibhag_of_getElem? {g : Grid} (hg : g.WellFormed t) {index : Nat} {v : Vibhag}
    (hv : (g.layout o).vibhags[index]? = some v) : ShowsVibhag t o g.cells index v := by
  obtain rfl := hg.taal_eq
  rw [Grid.layout, Grid.getElem?_vibhagLayouts] at hv
  obtain ⟨size, hsize, rfl⟩ := Option.map_eq_some_iff.mp hv
  have hle := Taal.matrasBefore_add_le hsize
  rw [Taal.sum_vibhagStructure, ← hg.length_cells] at hle
  have hpos := Taal.vibhag_pos g.taal hsize
  generalize hbefore : Taal.matrasBefore g.taal.vibhagStructure index = before at *
  have hlength : ((g.cells.drop before).take size).length = size := by
    rw [List.length_take, List.length_drop]
    omega
  have hmatras := Grid.map_matra_cellLayouts (t := g.taal) (o := o) (1 + before)
    ((g.cells.drop before).take size)
  rw [hlength] at hmatras
  refine
    { number_eq := Nat.add_comm 1 index
      size_eq := ?_
      matras_eq := ?_
      first_eq := ?_
      last_eq := ?_
      cell := fun c hc => ?_ }
  · rw [hsize, Grid.length_cellLayouts, hlength]
  · rw [hmatras, Grid.length_cellLayouts, hlength]
  · rw [← List.head?_map, hmatras, List.head?_range', if_neg (by omega)]
  · rw [← List.getLast?_map, hmatras, List.getLast?_range', if_neg (by omega)]
  · obtain ⟨offset, content, hcontent, rfl⟩ := Grid.mem_cellLayouts hc
    have hoffset : offset < size := by
      have hlt := (List.getElem?_eq_some_iff.mp hcontent).1
      rwa [hlength] at hlt
    rw [List.getElem?_take, if_pos hoffset, List.getElem?_drop] at hcontent
    have hproper := hg.proper content (List.mem_of_getElem? hcontent)
    rw [Nat.add_comm 1 index]
    subst hbefore
    exact showsMatra_cellLayout hsize hoffset hcontent hproper

theorem cells_layout {g : Grid} (hg : g.WellFormed t) :
    (g.layout o).cells = Grid.cellLayouts t o 1 g.cells := by
  obtain rfl := hg.taal_eq
  have hsum : g.taal.vibhagStructure.sum = g.cells.length :=
    g.taal.sum_vibhagStructure.trans hg.length_cells.symm
  rw [cells, Grid.layout, Grid.cells_vibhagLayouts (Nat.le_of_eq hsum), hsum, List.take_length]

theorem map_matra_layout {g : Grid} (hg : g.WellFormed t) :
    (g.layout o).cells.map Cell.matra = List.range' 1 t.totalMatras := by
  rw [cells_layout hg, Grid.map_matra_cellLayouts, hg.length_cells]

theorem exists_cell_of_inCycle {g : Grid} (hg : g.WellFormed t) {p : Nat}
    (hp : t.inCycle p = true) : ∃ c ∈ (g.layout o).cells, c.matra = p := by
  have hrange := Taal.inCycle_iff.mp hp
  have hmem : p ∈ (g.layout o).cells.map Cell.matra := by
    rw [map_matra_layout hg, List.mem_range'_1]
    omega
  exact List.mem_map.mp hmem

theorem showsMatra_of_mem {g : Grid} (hg : g.WellFormed t) {c : Cell}
    (hc : c ∈ (g.layout o).cells) : ∃ number, ShowsMatra t o g.cells number c := by
  obtain ⟨v, hv, hcell⟩ := List.mem_flatMap.mp hc
  obtain ⟨index, hindex⟩ := List.getElem?_of_mem hv
  exact ⟨v.number, (showsVibhag_of_getElem? hg hindex).cell c hcell⟩

theorem countP_sam {g : Grid} (hg : g.WellFormed t) :
    (g.layout o).cells.countP (fun c => c.marker = some .sam) = 1 := by
  have hcount : (g.layout o).cells.countP (fun c => c.marker = some .sam) =
      ((g.layout o).cells.map Cell.matra).count t.sam := by
    rw [List.count, List.countP_map]
    refine List.countP_congr fun c hc => ?_
    obtain ⟨number, hshows⟩ := showsMatra_of_mem hg hc
    simp [hshows.sam_iff]
  have hmem : t.sam ∈ List.range' 1 t.totalMatras := by
    have hrange := Taal.inCycle_iff.mp t.consistent.sam_inCycle
    rw [List.mem_range'_1]
    omega
  rw [hcount, map_matra_layout hg]
  exact List.count_eq_one_of_mem List.nodup_range' hmem

theorem exists_khali_iff {g : Grid} (hg : g.WellFormed t) (p : Nat) :
    (∃ c ∈ (g.layout o).cells, c.matra = p ∧ c.marker = some .khali) ↔
      p ∈ t.khali ∧ p ≠ t.sam := by
  constructor
  · rintro ⟨c, hc, rfl, hmarker⟩
    obtain ⟨number, hshows⟩ := showsMatra_of_mem hg hc
    exact hshows.khali_iff.mp hmarker
  · intro hp
    obtain ⟨c, hc, rfl⟩ := exists_cell_of_inCycle hg (t.consistent.khali_inCycle p hp.1)
    obtain ⟨number, hshows⟩ := showsMatra_of_mem hg hc
    exact ⟨c, hc, rfl, hshows.khali_iff.mpr hp⟩

theorem exists_tali_iff {g : Grid} (hg : g.WellFormed t) (p : Nat) :
    (∃ c ∈ (g.layout o).cells, ∃ n, c.matra = p ∧ c.marker = some (.tali n)) ↔
      p ∈ t.tali ∧ p ∉ t.khali ∧ p ≠ t.sam := by
  constructor
  · rintro ⟨c, hc, n, rfl, hmarker⟩
    obtain ⟨number, hshows⟩ := showsMatra_of_mem hg hc
    exact ((hshows.tali_iff n).mp hmarker).2
  · intro hp
    obtain ⟨c, hc, rfl⟩ := exists_cell_of_inCycle hg (t.consistent.tali_inCycle p hp.1)
    obtain ⟨number, hshows⟩ := showsMatra_of_mem hg hc
    exact ⟨c, hc, number, rfl, (hshows.tali_iff number).mpr ⟨rfl, hp⟩⟩

theorem map_symbol_layout {g : Grid} (hg : g.WellFormed t) :
    (g.layout o).cells.map Cell.symbol = t.summary.symbols := by
  have hsymbol : ∀ c ∈ (g.layout o).cells, c.symbol = t.symbol c.matra := by
    rw [cells_layout hg]
    intro c hc
    obtain ⟨index, content, -, rfl⟩ := Grid.mem_cellLayouts hc
    rfl
  rw [List.map_congr_left hsymbol, Taal.summary, ← map_matra_layout (o := o) hg, List.map_map]
  rfl

end Layout

/-- **Layouts show the whole cycle.** Whatever has been done to a grid of a taal, and however it is
drawn, its layout shows each matra of the cycle once and in order, in the vibhag that the matra
lies in, with the text, the syllable and the mark of the matra. -/
theorem layout_shows_cycle (t : Taal) (edits : List Grid.Edit) (o : RenderOptions) :
    let g := (Grid.new t).run edits
    Layout.ShowsCycle t o g.cells (g.layout o) := by
  intro g
  have hg : g.WellFormed t := Grid.wellFormed_run (Grid.wellFormed_new t) edits
  exact
    { vibhag_count := by rw [Grid.layout, Grid.length_vibhagLayouts, hg.taal_eq]
      vibhag := fun index v => Layout.showsVibhag_of_getElem? hg
      matras_eq := Layout.map_matra_layout hg
      one_sam := Layout.countP_sam hg
      khali_matras := Layout.exists_khali_iff hg
      tali_matras := Layout.exists_tali_iff hg
      symbols_eq := Layout.map_symbol_layout hg }

end Sargam
