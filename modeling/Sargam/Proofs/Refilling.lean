import Sargam.Proofs.LineFilling
import Sargam.Proofs.NotePerMatra
import Sargam.Proofs.Spreading
import Sargam.Proofs.TokenLine

/-!
# Lines that are filled anew

To fill a line and to spread notes over it both empty the line first. What comes of it is decided
by the taal and by the words of the text: whatever else the line has held before is gone, and a
report does not depend on it either. A filled line holds its words one for each cell from matra 1
on. A line with notes spread over it holds all of them in order, in as many cells as it can, and
no cell has two notes more than another.

* `CellContent.ofWord_eq_ok_iff`, `CellContent.ofWord_eq_error_iff`: what a word of a line is.
* `Grid.filledCount_eq`: the number of filled cells when they are the first ones.
* `Grid.fill_eq_fill_new`, `Grid.distribute_eq`: what a line has held does not matter.
* `Grid.perform_fill_eq_error_iff`, `Grid.perform_fill_of_ok`: filling comes to what reading the
  words comes to.
* `Grid.HoldsWords`, `fill_decided_by_words`: filling, for every text.
* `Grid.HoldsEvenly`, `distribute_keeps_every_note`: spreading, for every text.
-/

namespace Sargam

open Text

/-! ## Contents -/

namespace CellContent

theorem ofWord_eq_ok_iff {word : String} {content : CellContent} :
    ofWord word = .ok content ↔ (word = sustainSign ∧ content = .sustain) ∨
      (word ≠ sustainSign ∧ ∃ s, Token.parse word = .ok s ∧ content = .swaras [s]) := by
  unfold ofWord
  split
  · rename_i hsign
    simp [hsign, eq_comm]
  · rename_i hsign
    rw [Except.map_eq_ok_iff]
    simp [hsign, eq_comm]

theorem exists_ofWord_iff {word : String} : (∃ content, ofWord word = .ok content) ↔
    word = sustainSign ∨ ∃ s, Token.parse word = .ok s := by
  unfold ofWord
  split
  · rename_i hsign
    simp [hsign]
  · rename_i hsign
    simp [hsign, Except.map_eq_ok_iff]

theorem ofWord_eq_error_iff {word : String} {fault : Token.Fault} :
    ofWord word = .error fault ↔ word ≠ sustainSign ∧ Token.parse word = .error fault := by
  unfold ofWord
  split
  · rename_i hsign
    simp [hsign]
  · rename_i hsign
    simp [hsign, Except.map_eq_error_iff]

theorem ne_empty_of_ofWord {word : String} {content : CellContent}
    (h : ofWord word = .ok content) : content ≠ .empty := by
  rcases ofWord_eq_ok_iff.mp h with ⟨-, rfl⟩ | ⟨-, s, -, rfl⟩
  · simp
  · simp

theorem isEmpty_eq_false_iff {content : CellContent} :
    content.isEmpty = false ↔ content ≠ .empty := by
  cases content <;> simp [isEmpty]

end CellContent

/-! ## Filled cells -/

/-- The members of a list that have a property are counted by their places if they come first. -/
theorem countP_eq_of_getElem? {α : Type} {p : α → Bool} {as : List α} {count : Nat}
    (hle : count ≤ as.length)
    (h : ∀ index a, as[index]? = some a → (p a = true ↔ index < count)) : as.countP p = count := by
  have hfirst : (as.take count).countP p = count := by
    have hall : ∀ a ∈ as.take count, p a = true := by
      intro a ha
      obtain ⟨index, hindex⟩ := List.mem_iff_getElem?.mp ha
      rw [List.getElem?_take] at hindex
      split at hindex
      · rename_i hlt
        exact (h index a hindex).mpr hlt
      · cases hindex
    rw [List.countP_eq_length.mpr hall, List.length_take_of_le hle]
  have hrest : (as.drop count).countP p = 0 := by
    rw [List.countP_eq_zero]
    intro a ha hpa
    obtain ⟨index, hindex⟩ := List.mem_iff_getElem?.mp ha
    rw [List.getElem?_drop] at hindex
    have hlt := (h _ a hindex).mp hpa
    omega
  calc as.countP p
      = (as.take count).countP p + (as.drop count).countP p := by
        rw [← List.countP_append, List.take_append_drop]
    _ = count := by rw [hfirst, hrest, Nat.add_zero]

namespace Grid

variable {t : Taal} {g : Grid}

theorem filledCount_eq {count : Nat} (hle : count ≤ g.cells.length)
    (h : ∀ index content, g.cells[index]? = some content →
      (content ≠ .empty ↔ index < count)) : g.filledCount = count := by
  refine countP_eq_of_getElem? hle fun index content hcontent => ?_
  rw [Bool.not_eq_true', CellContent.isEmpty_eq_false_iff]
  exact h index content hcontent

/-! ## What a line has held -/

/-- An edit comes to the same on two grids: it turns both into one grid, or fails on both for
the same reason and leaves each as it is. -/
structure SameOutcome (edit : Edit) (g other : Grid) : Prop where
  changed : ∀ changed, perform edit g = .ok () changed ↔ perform edit other = .ok () changed
  refused : ∀ fault, perform edit g = .error fault g ↔ perform edit other = .error fault other

theorem perform_eq_error_iff {edit : Edit} {fault : InputFault} :
    perform edit g = .error fault g ↔ g.apply edit = .error fault := by
  rw [perform_eq, Editing.allOrNothing_eq_error_iff]

theorem sameOutcome_of_apply_eq {edit : Edit} {other : Grid}
    (h : g.apply edit = other.apply edit) : SameOutcome edit g other where
  changed changed := by rw [perform_eq_ok_iff, perform_eq_ok_iff, h]
  refused fault := by rw [perform_eq_error_iff, perform_eq_error_iff, h]

theorem assign_eq_assign_new (hg : g.WellFormed t) (contents : List CellContent) :
    g.assign contents = (Grid.new t).assign contents := by
  rw [assign, assign, hg.taal_eq, hg.length_cells, (wellFormed_new t).length_cells]
  rfl

/-! ## Filling -/

theorem fill_eq_fill_new (hg : g.WellFormed t) (text : String) :
    g.fill text = (Grid.new t).fill text := by
  rw [fill_eq hg, fill_eq (wellFormed_new t), funext (assign_eq_assign_new hg)]

theorem perform_fill_eq_error_iff (hg : g.WellFormed t) {text : String} {fault : InputFault} :
    perform (.fill text) g = .error fault g ↔ readCells t.totalMatras text = .error fault := by
  rw [perform_eq_error_iff, apply, fill_eq_error_iff hg]

theorem perform_fill_of_ok (hg : g.WellFormed t) {text : String} {contents : List CellContent}
    (h : readCells t.totalMatras text = .ok contents) :
    perform (.fill text) g = .ok () ((Grid.new t).assign contents) := by
  rw [perform_eq_ok_iff, apply, fill_eq_fill_new hg, fill_eq (wellFormed_new t), h]
  rfl

theorem readCells_of_lt {total : Nat} {text : String} (h : total < (words text).length) :
    readCells total text = .error (.position ⟨(words text).length, total⟩) := if_pos h

theorem readCells_of_le {total : Nat} {text : String} (h : (words text).length ≤ total) :
    readCells total text = (readAll CellContent.ofWord (words text)).mapError .tokens :=
  if_neg (Nat.not_lt.mpr h)

/-- A text of no more words than cells, one of which is refused, is reported with all that are. -/
theorem readCells_of_refused {total : Nat} {text : String} (hfit : (words text).length ≤ total)
    (hbad : ∃ token ∈ words text, token ≠ CellContent.sustainSign ∧
      ∃ fault, Token.parse token = .error fault) :
    readCells total text = .error (.tokens (rejections CellContent.ofWord 1 (words text))) := by
  have hrejected : rejections CellContent.ofWord 1 (words text) ≠ [] := by
    obtain ⟨token, htoken, hne, fault, hfault⟩ := hbad
    rw [Ne, rejections_eq_nil_iff]
    intro hall
    obtain ⟨content, hcontent⟩ := hall token htoken
    cases hcontent.symm.trans (CellContent.ofWord_eq_error_iff.mpr ⟨hne, hfault⟩)
  rw [readCells_of_le hfit, readAll_eq_error_iff.mpr ⟨hrejected, rfl⟩]
  rfl

theorem exists_readCells_of_le {total : Nat} {text : String} (hfit : (words text).length ≤ total)
    (hread : ∀ token ∈ words text,
      token = CellContent.sustainSign ∨ ∃ s, Token.parse token = .ok s) :
    ∃ contents, readCells total text = .ok contents := by
  have haccepted : ∀ token ∈ words text, ∃ content, CellContent.ofWord token = .ok content :=
    fun token htoken => CellContent.exists_ofWord_iff.mpr (hread token htoken)
  obtain ⟨contents, hcontents⟩ := exists_readAll_eq_ok_iff.mpr
    (rejections_eq_nil_iff.mpr haccepted)
  rw [readCells_of_le hfit]
  exact ⟨contents, Except.mapError_eq_ok_iff.mpr hcontents⟩

/-- A grid of a taal that holds words, one for each cell from matra 1 on, and nothing else. -/
structure HoldsWords (t : Taal) (tokens : List String) (g : Grid) : Prop where
  taal_eq : g.taal = t
  length_cells : g.cells.length = t.totalMatras
  sustain : ∀ index : Nat, tokens[index]? = some CellContent.sustainSign →
    g.cells[index]? = some .sustain
  note : ∀ (index : Nat) (token : String), tokens[index]? = some token →
    token ≠ CellContent.sustainSign →
    ∃ s, Token.parse token = .ok s ∧ g.cells[index]? = some (.swaras [s])
  rest : ∀ index : Nat, tokens.length ≤ index → index < t.totalMatras →
    g.cells[index]? = some .empty
  filledCount_eq : g.filledCount = tokens.length

theorem holdsWords_of_readCells {text : String} {contents : List CellContent}
    (h : readCells t.totalMatras text = .ok contents) :
    HoldsWords t (words text) ((Grid.new t).assign contents) := by
  obtain ⟨hread, hle⟩ := readCells_eq_ok_iff.mp h
  have hlength : (words text).length = contents.length := by
    simpa using congrArg List.length hread
  have hsize : (Grid.new t).cells.length = t.totalMatras := (wellFormed_new t).length_cells
  have hcells : ((Grid.new t).assign contents).cells =
      contents ++ List.replicate (t.totalMatras - contents.length) .empty := by
    rw [assign_of_length_le (hsize.symm ▸ hle), hsize]
  have hword : ∀ (index : Nat) (token : String), (words text)[index]? = some token →
      ∃ content, ((Grid.new t).assign contents).cells[index]? = some content ∧
        CellContent.ofWord token = .ok content := by
    intro index token htoken
    obtain ⟨content, hcontent, hofWord⟩ := Except.exists_getElem?_of_map_eq hread htoken
    obtain ⟨hindex, -⟩ := List.getElem?_eq_some_iff.mp hcontent
    exact ⟨content, by rw [hcells, List.getElem?_append_left hindex, hcontent], hofWord⟩
  have hrest : ∀ index : Nat, (words text).length ≤ index → index < t.totalMatras →
      ((Grid.new t).assign contents).cells[index]? = some .empty := by
    intro index hindex htotal
    rw [hlength] at hindex
    rw [hcells, List.getElem?_append_right hindex, List.getElem?_replicate_of_lt (by omega)]
  refine ⟨rfl, (length_cells_assign _ _).trans hsize, fun index htoken => ?_,
    fun index token htoken hne => ?_, hrest, filledCount_eq ?_ fun index content hcontent => ?_⟩
  · obtain ⟨content, hcontent, hofWord⟩ := hword index _ htoken
    rw [hcontent, ← Except.ok.inj hofWord]
  · obtain ⟨content, hcontent, hofWord⟩ := hword index token htoken
    rcases CellContent.ofWord_eq_ok_iff.mp hofWord with ⟨hsign, -⟩ | ⟨-, s, hparse, rfl⟩
    · exact absurd hsign hne
    · exact ⟨s, hparse, hcontent⟩
  · rw [length_cells_assign, hsize, hlength]
    exact hle
  · rcases Nat.lt_or_ge index (words text).length with hindex | hindex
    · obtain ⟨found, hfound, hofWord⟩ := hword index _ (List.getElem?_eq_getElem hindex)
      rw [hcontent, Option.some.injEq] at hfound
      rw [hfound]
      exact iff_of_true (CellContent.ne_empty_of_ofWord hofWord) hindex
    · obtain ⟨htotal, -⟩ := List.getElem?_eq_some_iff.mp hcontent
      rw [length_cells_assign, hsize] at htotal
      rw [hrest index hindex htotal, Option.some.injEq] at hcontent
      exact iff_of_false (fun hne => hne hcontent.symm) (Nat.not_lt.mpr hindex)

end Grid

/-- **Filling is decided by the words.** Whatever has been done to a grid of a taal: a text with
more words than there are matras is refused for their number, whatever they are. Otherwise, if some
of its words are neither notes nor sustain signs, exactly these are reported, each with its place
and its fault and in the order of the places. Otherwise the grid holds the words, one for each
matra from the first one on, and nothing else. On any other grid of the taal it comes to the
same. -/
theorem fill_decided_by_words (t : Taal) (edits : List Grid.Edit) (text : String) :
    let g := (Grid.new t).run edits
    let tokens := words text
    (t.totalMatras < tokens.length →
      Grid.perform (.fill text) g = .error (.position ⟨tokens.length, t.totalMatras⟩) g) ∧
    (tokens.length ≤ t.totalMatras →
      (∃ token ∈ tokens, token ≠ CellContent.sustainSign ∧
        ∃ fault, Token.parse token = .error fault) →
      ∃ refused, Grid.perform (.fill text) g = .error (.tokens refused) g ∧
        refused.Pairwise (fun a b => a.position < b.position) ∧
        ∀ r, r ∈ refused ↔ ∃ index, tokens[index]? = some r.token ∧ r.position = index + 1 ∧
          r.token ≠ CellContent.sustainSign ∧ Token.parse r.token = .error r.fault) ∧
    (tokens.length ≤ t.totalMatras →
      (∀ token ∈ tokens, token = CellContent.sustainSign ∨ ∃ s, Token.parse token = .ok s) →
      ∃ filled, Grid.perform (.fill text) g = .ok () filled ∧ Grid.HoldsWords t tokens filled) ∧
    ∀ others, Grid.SameOutcome (.fill text) g ((Grid.new t).run others) := by
  intro g tokens
  have hg : g.WellFormed t := Grid.wellFormed_run (Grid.wellFormed_new t) edits
  refine ⟨fun hmany => ?_, fun hfit hbad => ?_, fun hfit hread => ?_, fun others => ?_⟩
  · exact (Grid.perform_fill_eq_error_iff hg).mpr (Grid.readCells_of_lt hmany)
  · refine ⟨rejections CellContent.ofWord 1 tokens, ?_, pairwise_rejections 1 tokens,
      fun r => ?_⟩
    · exact (Grid.perform_fill_eq_error_iff hg).mpr (Grid.readCells_of_refused hfit hbad)
    · rw [mem_rejections_iff]
      simp only [CellContent.ofWord_eq_error_iff, Nat.add_comm 1]
  · obtain ⟨contents, hcontents⟩ := Grid.exists_readCells_of_le hfit hread
    exact ⟨_, Grid.perform_fill_of_ok hg hcontents, Grid.holdsWords_of_readCells hcontents⟩
  · have hothers : ((Grid.new t).run others).WellFormed t :=
      Grid.wellFormed_run (Grid.wellFormed_new t) others
    apply Grid.sameOutcome_of_apply_eq
    rw [Grid.apply, Grid.apply, Grid.fill_eq_fill_new hg, Grid.fill_eq_fill_new hothers]

/-- For a line that holds other notes: a text that leaves cells empty, one with two bad words about
a sustain sign, and one with a bad word and a word too many. -/
theorem fill_decided_by_words_dadra :
    let g := (Grid.new Taal.dadra).run [.fill "NI - - PA", .setText 5 "SA RE"]
    let text := "SA -\u2003RE_k+1"
    let filled := (Grid.new Taal.dadra).run
      [.setText 1 "SA", .setText 2 "-", .setText 3 "RE_k+1"]
    let bad := "SA PA_k - XX"
    let refused : List Rejection :=
      [⟨2, "PA_k", .unlawful (.illegalModifier .pa .komal)⟩, ⟨4, "XX", .unknownNote "XX"⟩]
    let long := "SA XX GA MA PA DHA NI"
    (((words text).length ≤ Taal.dadra.totalMatras ∧ ∀ token ∈ words text,
        token = CellContent.sustainSign ∨ ∃ s, Token.parse token = .ok s) ∧
      Grid.perform (.fill text) g = .ok () filled ∧
      Grid.HoldsWords Taal.dadra (words text) filled ∧
      Grid.perform (.fill text) (Grid.new Taal.dadra) = .ok () filled) ∧
    (((words bad).length ≤ Taal.dadra.totalMatras ∧ ∃ token ∈ words bad,
        token ≠ CellContent.sustainSign ∧ ∃ fault, Token.parse token = .error fault) ∧
      Grid.perform (.fill bad) g = .error (.tokens refused) g ∧
      ∀ r, r ∈ refused ↔ ∃ index, (words bad)[index]? = some r.token ∧ r.position = index + 1 ∧
        r.token ≠ CellContent.sustainSign ∧ Token.parse r.token = .error r.fault) ∧
    (Taal.dadra.totalMatras < (words long).length ∧
      Grid.perform (.fill long) g = .error (.position ⟨7, 6⟩) g) := by
  intro g text filled bad refused long
  have htext : (words text).length ≤ Taal.dadra.totalMatras := by decide +kernel
  have hread : ∀ token ∈ words text,
      token = CellContent.sustainSign ∨ ∃ s, Token.parse token = .ok s := by
    have hrejections : rejections CellContent.ofWord 1 (words text) = [] := by decide +kernel
    exact fun token htoken =>
      CellContent.exists_ofWord_iff.mp (rejections_eq_nil_iff.mp hrejections token htoken)
  have hbad : (words bad).length ≤ Taal.dadra.totalMatras := by decide +kernel
  have hunread : ∃ token ∈ words bad,
      token ≠ CellContent.sustainSign ∧ ∃ fault, Token.parse token = .error fault :=
    ⟨"XX", by decide +kernel, by decide, .unknownNote "XX", by decide +kernel⟩
  have hlong : Taal.dadra.totalMatras < (words long).length := by decide +kernel
  have hfilled : Grid.perform (.fill text) g = .ok () filled := by decide +kernel
  have hrefused : Grid.perform (.fill bad) g = .error (.tokens refused) g := by decide +kernel
  have hlength : (words long).length = 7 := by decide +kernel
  obtain ⟨-, -, hgood, hother⟩ :=
    fill_decided_by_words Taal.dadra [.fill "NI - - PA", .setText 5 "SA RE"] text
  obtain ⟨made, hmade, hholds⟩ := hgood htext hread
  have hsame : made = filled := (EStateM.Result.ok.inj (hmade.symm.trans hfilled)).2
  rw [hsame] at hholds
  obtain ⟨reported, hreported, -, hmem⟩ := (fill_decided_by_words Taal.dadra
    [.fill "NI - - PA", .setText 5 "SA RE"] bad).2.1 hbad hunread
  have hreport : reported = refused :=
    InputFault.tokens.inj (EStateM.Result.error.inj (hreported.symm.trans hrefused)).1
  rw [hreport] at hmem
  have hmany := (fill_decided_by_words Taal.dadra
    [.fill "NI - - PA", .setText 5 "SA RE"] long).1 hlong
  rw [hlength] at hmany
  exact ⟨⟨⟨htext, hread⟩, hfilled, hholds, ((hother []).changed filled).mp hfilled⟩,
    ⟨⟨hbad, hunread⟩, hrefused, hmem⟩, hlong, hmany⟩

/-! ## Spreading -/

namespace Grid

variable {t : Taal} {g : Grid}

/-- The grid of a taal with swaras spread evenly over it. -/
def ofSwaras (t : Taal) (swaras : List Swara) : Grid :=
  ⟨t, (Sargam.distribute swaras t.totalMatras).map CellContent.ofSwaras⟩

theorem length_cells_ofSwaras (t : Taal) (swaras : List Swara) :
    (ofSwaras t swaras).cells.length = t.totalMatras := by
  rw [ofSwaras, List.length_map, length_distribute]

theorem distribute_eq (hg : g.WellFormed t) (text : String) :
    g.distribute text = (parseSequence text).map (ofSwaras t) := by
  have hassign : ∀ swaras,
      g.assign ((Sargam.distribute swaras g.cells.length).map CellContent.ofSwaras) =
        ofSwaras t swaras := by
    intro swaras
    rw [assign_of_length_eq (by rw [List.length_map, length_distribute]), hg.taal_eq,
      hg.length_cells, ofSwaras]
  rw [distribute, funext hassign]

/-- The filled cells are the first ones, as many as there are swaras, or all of them. -/
theorem ne_empty_iff_of_ofSwaras {swaras : List Swara} {index : Nat} {content : CellContent}
    (h : (ofSwaras t swaras).cells[index]? = some content) :
    content ≠ .empty ↔ index < min swaras.length t.totalMatras := by
  rw [ofSwaras, List.getElem?_map] at h
  obtain ⟨slot, hslot, rfl⟩ := Option.map_eq_some_iff.mp h
  rw [Ne, CellContent.ofSwaras_eq_empty_iff]
  exact ne_nil_iff_of_getElem?_distribute hslot

theorem filledCount_ofSwaras (t : Taal) (swaras : List Swara) :
    (ofSwaras t swaras).filledCount = min swaras.length t.totalMatras :=
  filledCount_eq ((length_cells_ofSwaras t swaras).symm ▸ Nat.min_le_right _ _)
    fun _ _ => ne_empty_iff_of_ofSwaras

/-- A grid of a taal that holds swaras in order and nothing else, in as many cells as it can and
spread evenly over them. -/
structure HoldsEvenly (t : Taal) (swaras : List Swara) (g : Grid) : Prop where
  taal_eq : g.taal = t
  length_cells : g.cells.length = t.totalMatras
  groups : g.cells.flatMap CellContent.group = swaras
  no_sustain : CellContent.sustain ∉ g.cells
  filledCount_eq : g.filledCount = min swaras.length t.totalMatras
  isComplete_iff : g.isComplete = true ↔ t.totalMatras ≤ swaras.length
  filled_first : ∀ (index : Nat) (content : CellContent), g.cells[index]? = some content →
    (content ≠ .empty ↔ index < g.filledCount)
  balanced : ∀ content ∈ g.cells, ∀ other ∈ g.cells,
    content.group.length ≤ other.group.length + 1

theorem holdsEvenly_ofSwaras (t : Taal) (swaras : List Swara) :
    HoldsEvenly t swaras (ofSwaras t swaras) where
  taal_eq := rfl
  length_cells := length_cells_ofSwaras t swaras
  groups := by
    have htotal : 0 < t.totalMatras := Nat.pos_of_ne_zero t.consistent.total_ne_zero
    rw [ofSwaras, List.flatMap_map,
      List.flatMap_congr fun slot _ => CellContent.group_ofSwaras slot, List.flatMap_id',
      flatten_distribute htotal]
  no_sustain hsustain := by
    obtain ⟨slot, -, hslot⟩ := List.mem_map.mp hsustain
    exact CellContent.ofSwaras_ne_sustain slot hslot
  filledCount_eq := filledCount_ofSwaras t swaras
  isComplete_iff := by
    rw [isComplete, decide_eq_true_eq, filledCount_ofSwaras, length_cells_ofSwaras,
      min_eq_right_iff]
  filled_first index content hcontent := by
    rw [filledCount_ofSwaras]
    exact ne_empty_iff_of_ofSwaras hcontent
  balanced content hcontent other hother := by
    obtain ⟨slot, hslot, rfl⟩ := List.mem_map.mp hcontent
    obtain ⟨another, hanother, rfl⟩ := List.mem_map.mp hother
    rw [CellContent.group_ofSwaras, CellContent.group_ofSwaras]
    exact length_le_of_mem_distribute hslot hanother

end Grid

/-- **Spreading keeps every note.** Whatever has been done to a grid of a taal: notes can be spread
over it exactly when they can be read, and what is reported of them is what reading them
reports. Then the cells together hold the notes in their order and no sustain sign; the first
cells are filled, as many as there are notes or all of them, and no two cells differ by more than
one note. On any other grid of the taal it comes to the same. -/
theorem distribute_keeps_every_note (t : Taal) (edits : List Grid.Edit) (text : String) :
    let g := (Grid.new t).run edits
    ((∃ spread, Grid.perform (.distribute text) g = .ok () spread) ↔
      ∃ swaras, parseSequence text = .ok swaras) ∧
    (∀ refused, Grid.perform (.distribute text) g = .error (.tokens refused) g ↔
      parseSequence text = .error refused) ∧
    (∀ swaras, parseSequence text = .ok swaras →
      ∃ spread, Grid.perform (.distribute text) g = .ok () spread ∧
        Grid.HoldsEvenly t swaras spread) ∧
    ∀ others, Grid.SameOutcome (.distribute text) g ((Grid.new t).run others) := by
  intro g
  have hg : g.WellFormed t := Grid.wellFormed_run (Grid.wellFormed_new t) edits
  refine ⟨?_, fun refused => ?_, fun swaras hread => ?_, fun others => ?_⟩
  · simp only [Grid.perform_eq_ok_iff, Grid.apply, Grid.distribute_eq hg,
      Except.mapError_eq_ok_iff, Except.map_eq_ok_iff]
    constructor
    · rintro ⟨spread, swaras, hread, -⟩
      exact ⟨swaras, hread⟩
    · rintro ⟨swaras, hread⟩
      exact ⟨_, swaras, hread, rfl⟩
  · rw [Grid.perform_eq_error_iff, Grid.apply, Grid.distribute_eq hg,
      Except.mapError_eq_error_iff]
    simp only [Except.map_eq_error_iff, InputFault.tokens.injEq, exists_eq_right]
  · refine ⟨_, ?_, Grid.holdsEvenly_ofSwaras t swaras⟩
    rw [Grid.perform_eq_ok_iff, Grid.apply, Grid.distribute_eq hg, hread]
    rfl
  · have hothers : ((Grid.new t).run others).WellFormed t :=
      Grid.wellFormed_run (Grid.wellFormed_new t) others
    apply Grid.sameOutcome_of_apply_eq
    rw [Grid.apply, Grid.apply, Grid.distribute_eq hg, Grid.distribute_eq hothers]

/-- For a line that holds other notes: eight notes for six matras, three notes, and a text whose
second word is a sustain sign, which is no note. -/
theorem distribute_keeps_every_note_dadra :
    let g := (Grid.new Taal.dadra).run [.fill "NI - - PA", .setText 6 "SA RE"]
    let text := "SA RE GA MA PA DHA NI SA+1"
    let spread := (Grid.new Taal.dadra).run [.setText 1 "SA", .setText 2 "RE",
      .setText 3 "GA MA", .setText 4 "PA", .setText 5 "DHA", .setText 6 "NI SA+1"]
    let few := "GA_k MA_t PA"
    let spreadFew := (Grid.new Taal.dadra).run [.fill few]
    let bad := "SA - RE"
    let refused : List Rejection := [⟨2, "-", .malformed (.octaveSuffix "-")⟩]
    (Grid.perform (.distribute text) g = .ok () spread ∧
      ∃ swaras, parseSequence text = .ok swaras ∧ Grid.HoldsEvenly Taal.dadra swaras spread) ∧
    (Grid.perform (.distribute few) g = .ok () spreadFew ∧
      ∃ swaras, parseSequence few = .ok swaras ∧ Grid.HoldsEvenly Taal.dadra swaras spreadFew) ∧
    (parseSequence bad = .error refused ∧
      Grid.perform (.distribute bad) g = .error (.tokens refused) g) := by
  intro g text spread few spreadFew bad refused
  have hspread : Grid.perform (.distribute text) g = .ok () spread := by decide +kernel
  have hspreadFew : Grid.perform (.distribute few) g = .ok () spreadFew := by decide +kernel
  have hbad : parseSequence bad = .error refused := by decide +kernel
  have hholds : ∀ text spread, Grid.perform (.distribute text) g = .ok () spread →
      ∃ swaras, parseSequence text = .ok swaras ∧
        Grid.HoldsEvenly Taal.dadra swaras spread := by
    intro text spread hspread
    obtain ⟨hiff, -, hspreads, -⟩ := distribute_keeps_every_note Taal.dadra
      [.fill "NI - - PA", .setText 6 "SA RE"] text
    obtain ⟨swaras, hread⟩ := hiff.mp ⟨spread, hspread⟩
    obtain ⟨made, hmade, hholds⟩ := hspreads swaras hread
    have hsame : made = spread := (EStateM.Result.ok.inj (hmade.symm.trans hspread)).2
    exact ⟨swaras, hread, hsame ▸ hholds⟩
  have hreport := (distribute_keeps_every_note Taal.dadra
    [.fill "NI - - PA", .setText 6 "SA RE"] bad).2.1 refused
  exact ⟨⟨hspread, hholds text spread hspread⟩, ⟨hspreadFew, hholds few spreadFew hspreadFew⟩,
    hbad, hreport.mpr hbad⟩

end Sargam
