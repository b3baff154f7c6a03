import Mathlib.Data.List.Nodup
import Sargam.Layout.Json
import Sargam.Proofs.JsonReading

/-!
# Layouts survive their export

A layout is written as an object with a name for each of its parts, and read by those names, so
nothing depends on the order of the parts. What may be absent is written as null, and nothing
else is; a mark is told from the others by its type. Reading refuses numbers above
`Layout.maxNumber`, which no layout can hold.

* `Json.get?_object`, `Json.required_object`, `Json.optional_object`: fields found by their names.
* `Layout.IsBounded`: layouts whose numbers can be read.
* `Marker.ofJson?_toJson`, `Layout.Cell.ofJson?_toJson`, `Layout.Vibhag.ofJson?_toJson`,
  `Layout.ofJson?_toJson`: each part is read from its own value.
* `Layout.jsonText_reads_back`: exported layouts are the layouts that are read from the export.
-/

namespace Sargam

/-! ## Fields -/

namespace Json

variable {α : Type} {fields : List (String × Json)} {key : String} {found : Json}

theorem find?_of_mem (hnames : (fields.map Prod.fst).Nodup) (h : (key, found) ∈ fields) :
    fields.find? (fun field => field.1 == key) = some (key, found) := by
  induction fields with
  | nil => cases h
  | cons field rest ih =>
    obtain ⟨hname, hnames⟩ := List.nodup_cons.mp hnames
    rcases List.mem_cons.mp h with rfl | h
    · exact List.find?_cons_of_pos (beq_self_eq_true key)
    · have hne : ¬ (field.1 == key) = true := by
        intro heq
        exact hname (eq_of_beq heq ▸ List.mem_map_of_mem h)
      exact (List.find?_cons_of_neg (p := fun f : String × Json => f.1 == key) hne).trans
        (ih hnames h)

/-- Where no name occurs twice, a field is found by its name. -/
theorem get?_object (hnames : (fields.map Prod.fst).Nodup) (h : (key, found) ∈ fields) :
    (object fields).get? key = some found := by
  have hreverse : (fields.reverse.map Prod.fst).Nodup := by
    rw [List.map_reverse]
    exact List.nodup_reverse.mpr hnames
  rw [get?, find?_of_mem hreverse (List.mem_reverse.mpr h)]
  rfl

theorem required_object {decode : Json → Option α} {a : α}
    (hnames : (fields.map Prod.fst).Nodup) (h : (key, found) ∈ fields)
    (hdecode : decode found = some a) : (object fields).required decode key = some a := by
  rw [required, get?_object hnames h]
  exact hdecode

theorem optional_object {decode : Json → Option α} {a : α}
    (hnames : (fields.map Prod.fst).Nodup) (h : (key, found) ∈ fields)
    (hdecode : decode found = some a) (hnull : found ≠ .null) :
    (object fields).optional decode key = some (some a) := by
  rw [optional, get?_object hnames h]
  split
  · cases ‹some found = none›
  · rename_i heq
    exact absurd (Option.some.inj heq) hnull
  · rename_i heq
    cases heq
    rw [hdecode, Option.map_some]

theorem optional_object_null {decode : Json → Option α} (hnames : (fields.map Prod.fst).Nodup)
    (h : (key, .null) ∈ fields) : (object fields).optional decode key = some none := by
  rw [optional, get?_object hnames h]

theorem natUpTo?_nat {limit n : Nat} (h : n ≤ limit) : (nat n).natUpTo? limit = some n := by
  show (if n ≤ limit then some n else none) = some n
  rw [if_pos h]

theorem text?_text (value : String) : (text value).text? = some value := rfl

theorem bool?_bool (value : Bool) : (bool value).bool? = some value := rfl

theorem items?_arrayOf {encode : α → Json} {decode : Json → Option α} {items : List α}
    (h : ∀ a ∈ items, decode (encode a) = some a) :
    (arrayOf encode items).items? decode = some items := by
  induction items with
  | nil => rfl
  | cons a items ih =>
    obtain ⟨ha, hitems⟩ := List.forall_mem_cons.mp h
    have hrest : (items.map encode).mapM decode = some items := ih hitems
    show ((a :: items).map encode).mapM decode = some (a :: items)
    rw [List.map_cons, List.mapM_cons, ha, hrest]
    rfl

theorem exact_arrayOf {encode : α → Json} {items : List α}
    (h : ∀ a ∈ items, Exact (encode a)) : Exact (arrayOf encode items) := by
  refine .array _ fun item hitem => ?_
  obtain ⟨a, ha, rfl⟩ := List.mem_map.mp hitem
  exact h a ha

end Json

/-! ## Marks -/

theorem Marker.toJson_ne_null (m : Marker) : Marker.toJson (some m) ≠ .null := by
  cases m <;> exact nofun

theorem Marker.exact_toJson (m : Option Marker) : (Marker.toJson m).Exact := by
  rcases m with - | - | - | vibhag
  · exact .null
  · exact .object _ (List.forall_mem_cons.mpr ⟨.text _, nofun⟩)
  · exact .object _ (List.forall_mem_cons.mpr ⟨.text _, nofun⟩)
  · exact .object _ (List.forall_mem_cons.mpr
      ⟨.text _, List.forall_mem_cons.mpr ⟨.number _, nofun⟩⟩)

theorem Marker.ofJson?_toJson {m : Marker}
    (h : ∀ vibhag, m = .tali vibhag → vibhag ≤ Layout.maxNumber) :
    Marker.ofJson? (Marker.toJson (some m)) = some m := by
  cases m with
  | sam => rfl
  | khali => rfl
  | tali vibhag =>
    have hnames : ([("type", Json.text "tali"), ("vibhag", .nat vibhag)].map Prod.fst).Nodup := by
      simp
    have htype : (Marker.toJson (some (.tali vibhag))).get? "type" = some (.text "tali") :=
      Json.get?_object hnames List.mem_cons_self
    have hvibhag : (Marker.toJson (some (.tali vibhag))).required
        (Json.natUpTo? Layout.maxNumber) "vibhag" = some vibhag :=
      Json.required_object hnames (List.mem_cons_of_mem _ List.mem_cons_self)
        (Json.natUpTo?_nat (h vibhag rfl))
    rw [Marker.ofJson?, htype, hvibhag]
    rfl

namespace Layout

/-! ## Layouts with numbers that can be read -/

structure Cell.IsBounded (c : Cell) : Prop where
  matra : c.matra ≤ maxNumber
  marker : ∀ vibhag, c.marker = some (.tali vibhag) → vibhag ≤ maxNumber

structure Vibhag.IsBounded (v : Vibhag) : Prop where
  number : v.number ≤ maxNumber
  startMatra : v.startMatra ≤ maxNumber
  endMatra : v.endMatra ≤ maxNumber
  cells : ∀ c ∈ v.cells, c.IsBounded

structure IsBounded (l : Layout) : Prop where
  totalMatras : l.totalMatras ≤ maxNumber
  vibhagStructure : ∀ n ∈ l.vibhagStructure, n ≤ maxNumber
  vibhags : ∀ v ∈ l.vibhags, v.IsBounded

/-! ## Reading what was written -/

theorem number?_nat {n : Nat} (h : n ≤ maxNumber) : number? (.nat n) = some n :=
  Json.natUpTo?_nat h

theorem Cell.exact_toJson (c : Cell) : c.toJson.Exact := by
  have hbol : (Json.ofOption (c.bol.map .text)).Exact := by
    cases c.bol with
    | none => exact .null
    | some bol => exact .text bol
  refine .object _ ?_
  simp only [List.forall_mem_cons]
  exact ⟨.number _, Marker.exact_toJson _, .text _, hbol, .text _, .bool _, nofun⟩

theorem Cell.ofJson?_toJson {c : Cell} (h : c.IsBounded) : Cell.ofJson? c.toJson = some c := by
  have hmatra : c.toJson.required number? "matra" = some c.matra :=
    Json.required_object (by simp) (by simp) (number?_nat h.matra)
  have hmarker : c.toJson.optional Marker.ofJson? "marker" = some c.marker := by
    cases hc : c.marker with
    | none => exact Json.optional_object_null (by simp) (by simp [hc, Marker.toJson])
    | some m =>
      have hbound : ∀ vibhag, m = .tali vibhag → vibhag ≤ maxNumber :=
        fun vibhag hm => h.marker vibhag (hc.trans (congrArg some hm))
      exact Json.optional_object (by simp) (by simp [hc]) (Marker.ofJson?_toJson hbound)
        m.toJson_ne_null
  have hsymbol : c.toJson.required Json.text? "symbol" = some c.symbol :=
    Json.required_object (by simp) (by simp) (Json.text?_text _)
  have hbol : c.toJson.optional Json.text? "bol" = some c.bol := by
    cases hc : c.bol with
    | none => exact Json.optional_object_null (by simp) (by simp [hc, Json.ofOption])
    | some bol =>
      exact Json.optional_object (by simp) (by simp [hc, Json.ofOption]) (Json.text?_text bol)
        nofun
  have hrendered : c.toJson.required Json.text? "rendered" = some c.rendered :=
    Json.required_object (by simp) (by simp) (Json.text?_text _)
  have hisEmpty : c.toJson.optional Json.bool? "isEmpty" = some (some c.isEmpty) :=
    Json.optional_object (by simp) (by simp) (Json.bool?_bool _) nofun
  simp only [Cell.ofJson?, hmatra, hmarker, hsymbol, hbol, hrendered, hisEmpty,
    Option.bind_eq_bind, Option.bind_some]
  rfl

theorem Vibhag.exact_toJson (v : Vibhag) : v.toJson.Exact := by
  refine .object _ ?_
  simp only [List.forall_mem_cons]
  exact ⟨.number _, .number _, .number _, Json.exact_arrayOf fun c _ => c.exact_toJson, nofun⟩

theorem Vibhag.ofJson?_toJson {v : Vibhag} (h : v.IsBounded) :
    Vibhag.ofJson? v.toJson = some v := by
  have hnumber : v.toJson.required number? "number" = some v.number :=
    Json.required_object (by simp) (by simp) (number?_nat h.number)
  have hstart : v.toJson.required number? "startMatra" = some v.startMatra :=
    Json.required_object (by simp) (by simp) (number?_nat h.startMatra)
  have hend : v.toJson.required number? "endMatra" = some v.endMatra :=
    Json.required_object (by simp) (by simp) (number?_nat h.endMatra)
  have hcells : v.toJson.required (Json.items? Cell.ofJson?) "cells" = some v.cells :=
    Json.required_object (by simp) (by simp)
      (Json.items?_arrayOf fun c hc => Cell.ofJson?_toJson (h.cells c hc))
  simp only [Vibhag.ofJson?, hnumber, hstart, hend, hcells, Option.bind_eq_bind,
    Option.bind_some]
  rfl

theorem exact_toJson (l : Layout) : l.toJson.Exact := by
  refine .object _ ?_
  simp only [List.forall_mem_cons]
  exact ⟨.text _, .text _, .number _, Json.exact_arrayOf fun n _ => .number _,
    Json.exact_arrayOf fun v _ => v.exact_toJson, nofun⟩

theorem ofJson?_toJson {l : Layout} (h : l.IsBounded) : ofJson? l.toJson = some l := by
  have hname : l.toJson.required Json.text? "taalName" = some l.taalName :=
    Json.required_object (by simp) (by simp) (Json.text?_text _)
  have hdisplay : l.toJson.required Json.text? "taalDisplayName" = some l.taalDisplayName :=
    Json.required_object (by simp) (by simp) (Json.text?_text _)
  have htotal : l.toJson.required number? "totalMatras" = some l.totalMatras :=
    Json.required_object (by simp) (by simp) (number?_nat h.totalMatras)
  have hstructure : l.toJson.required (Json.items? number?) "vibhagStructure" =
      some l.vibhagStructure :=
    Json.required_object (by simp) (by simp)
      (Json.items?_arrayOf fun n hn => number?_nat (h.vibhagStructure n hn))
  have hvibhags : l.toJson.required (Json.items? Vibhag.ofJson?) "vibhags" = some l.vibhags :=
    Json.required_object (by simp) (by simp)
      (Json.items?_arrayOf fun v hv => Vibhag.ofJson?_toJson (h.vibhags v hv))
  simp only [ofJson?, hname, hdisplay, htotal, hstructure, hvibhags, Option.bind_eq_bind,
    Option.bind_some]
  rfl

/-! ## Exports -/

/-- **Nothing is lost in the export as JSON.** The text of any layouts, whatever characters their
texts hold and however many parts they have, is a JSON text, and the layouts that it is read as
are the ones that were exported. -/
theorem jsonText_reads_back {layouts : List Layout} (h : ∀ l ∈ layouts, l.IsBounded) :
    ∃ value, Json.parse (jsonText layouts) = some value ∧ listOfJson? value = some layouts := by
  refine ⟨.arrayOf toJson layouts, Json.parse_write Json.isBlank_indented ?_, ?_⟩
  · exact Json.exact_arrayOf fun l _ => l.exact_toJson
  · exact Json.items?_arrayOf fun l hl => ofJson?_toJson (h l hl)

/-- Texts with quotes, backslashes, control characters and characters beyond U+FFFF, the greatest
number there is, a mark of each kind, a syllable that is empty and one that is absent, and lists
without items at every depth. -/
theorem jsonText_reads_back_hostile :
    let first : Cell := ⟨1, some (.tali maxNumber), "\"\\/", some "", "\x00\x1f\x7f", false⟩
    let second : Cell := ⟨maxNumber, some .khali, "é𝄞", some "null", "[\n\t\r\x08\x0c]", true⟩
    let third : Cell := ⟨0, none, "", none, "\\u0041", false⟩
    let layouts : List Layout :=
      [⟨"\"", "\\", maxNumber, [3, 0], [⟨1, 1, 3, [first, second, third]⟩, ⟨0, 0, 0, []⟩]⟩,
        ⟨"", "", 0, [], []⟩]
    (∀ l ∈ layouts, l.IsBounded) ∧
      ∃ value, Json.parse (jsonText layouts) = some value ∧
        listOfJson? value = some layouts := by
  intro first second third layouts
  have hmax : maxNumber ≤ maxNumber := Nat.le_refl _
  have hfirst : first.IsBounded := ⟨by decide, fun vibhag hm => by cases hm; exact hmax⟩
  have hsecond : second.IsBounded := ⟨hmax, nofun⟩
  have hthird : third.IsBounded := ⟨by decide, nofun⟩
  have hcells : ∀ c ∈ [first, second, third], c.IsBounded := by
    simpa only [List.forall_mem_cons] using ⟨hfirst, hsecond, hthird, nofun⟩
  have hvibhags : ∀ v ∈ [(⟨1, 1, 3, [first, second, third]⟩ : Vibhag), ⟨0, 0, 0, []⟩],
      v.IsBounded := by
    simp only [List.forall_mem_cons]
    exact ⟨⟨by decide, by decide, by decide, hcells⟩,
      ⟨by decide, by decide, by decide, nofun⟩, nofun⟩
  have hlayouts : ∀ l ∈ layouts, l.IsBounded := by
    refine List.forall_mem_cons.mpr ⟨⟨hmax, by decide, hvibhags⟩, ?_⟩
    exact List.forall_mem_singleton.mpr ⟨by decide, nofun, nofun⟩
  exact ⟨hlayouts, jsonText_reads_back hlayouts⟩

end Layout

end Sargam
