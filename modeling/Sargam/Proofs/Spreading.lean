import Mathlib.Algebra.Order.Floor.Div
import Sargam.Grid

/-!
# Spreading items over slots

Where there are more items than slots, each slot holds the run between two quotients, and the
two ends of a run are found apart from each other. The runs fit together all the same, since the
last end of a slot and the first one of the next are the same quotient; so the first slots hold
the first items, and all slots all of them. The length of a run is the difference of two rounded
numbers whose exact values are the same distance apart in every slot, so it is that distance,
rounded down or up.

* `flatten_map_segment`: runs between rising places, the first of which is 0, fit together.
* `flatten_take_distribute`: the first slots hold the items before a quotient.
* `getElem?_distribute_of_le`, `length_of_mem_distribute`: the slots when there are enough of them,
  and the lengths of the runs when there are not.
* `distribute_splits_evenly`: no item is lost, doubled or moved, and the slots are balanced.
-/

namespace Sargam

variable {α : Type}

/-! ## Runs -/

theorem take_append_segment {first last : Nat} (h : first ≤ last) (items : List α) :
    items.take first ++ segment items first last = items.take last := by
  have htake : (items.take last).take first = items.take first := by
    rw [List.take_take, Nat.min_eq_left h]
  rw [segment, ← htake, List.take_append_drop]

theorem length_segment {items : List α} {first last : Nat} (h : last ≤ items.length) :
    (segment items first last).length = last - first := by
  rw [segment, List.length_drop, List.length_take, Nat.min_eq_left h]

/-- Runs that each begin where the one before ends fit together. -/
theorem flatten_map_segment (items : List α) (cut : Nat → Nat) (hzero : cut 0 = 0)
    (hrise : ∀ slot, cut slot ≤ cut (slot + 1)) (count : Nat) :
    ((List.range count).map fun slot => segment items (cut slot) (cut (slot + 1))).flatten =
      items.take (cut count) := by
  induction count with
  | zero => rw [hzero, List.take_zero, List.range_zero, List.map_nil, List.flatten_nil]
  | succ count ih =>
    rw [List.range_succ, List.map_append, List.flatten_append, ih, List.map_singleton,
      List.flatten_singleton, take_append_segment (hrise count)]

/-! ## Quotients -/

section Quotients

variable {n total slot : Nat}

/-- The distance of two neighbouring quotients is not below the exact one, rounded down. -/
theorem div_add_le_succ_mul_div (n total slot : Nat) :
    slot * n / total + n / total ≤ (slot + 1) * n / total := by
  rw [Nat.succ_mul]
  exact Nat.div_add_div_le_add_div

/-- The distance of two neighbouring quotients is not above the exact one, rounded up. -/
theorem succ_mul_div_le_add_ceilDiv (h : 0 < total) (n slot : Nat) :
    (slot + 1) * n / total ≤ slot * n / total + n ⌈/⌉ total := by
  have hceil : n ≤ total * (n ⌈/⌉ total) := le_smul_ceilDiv h
  calc (slot + 1) * n / total
      = (slot * n + n) / total := by rw [Nat.succ_mul]
    _ ≤ (slot * n + total * (n ⌈/⌉ total)) / total :=
        Nat.div_le_div_right (Nat.add_le_add_left hceil _)
    _ = slot * n / total + n ⌈/⌉ total := Nat.add_mul_div_left _ _ h

theorem ceilDiv_le_succ_div (h : 0 < total) (n : Nat) : n ⌈/⌉ total ≤ n / total + 1 :=
  (ceilDiv_le_iff_le_mul h).mpr (Nat.le_of_lt (Nat.lt_mul_div_succ n h))

theorem mul_div_le_succ_mul_div (n total slot : Nat) :
    slot * n / total ≤ (slot + 1) * n / total :=
  Nat.le_of_add_right_le (div_add_le_succ_mul_div n total slot)

/-- No run ends beyond the last item. -/
theorem mul_div_le_of_le (h : slot ≤ total) (n : Nat) : slot * n / total ≤ n :=
  Nat.div_le_of_le_mul (Nat.mul_le_mul_right n h)

end Quotients

/-! ## Slots -/

variable {items : List α} {total : Nat}

theorem distribute_of_le (h : items.length ≤ total) :
    distribute items total =
      items.map (fun item => [item]) ++ List.replicate (total - items.length) [] := if_pos h

theorem distribute_of_lt (h : total < items.length) :
    distribute items total = (List.range total).map fun slot =>
      segment items (slot * items.length / total) ((slot + 1) * items.length / total) :=
  if_neg (Nat.not_le.mpr h)

theorem length_distribute (items : List α) (total : Nat) :
    (distribute items total).length = total := by
  rcases Nat.lt_or_ge total items.length with h | h
  · rw [distribute_of_lt h, List.length_map, List.length_range]
  · rw [distribute_of_le h, List.length_append, List.length_map, List.length_replicate,
      Nat.add_sub_cancel' h]

/-- While there are slots enough, each of the first ones holds one item and the others none. -/
theorem getElem?_distribute_of_le (h : items.length ≤ total) {index : Nat}
    (hindex : index < total) :
    (distribute items total)[index]? = some items[index]?.toList := by
  rw [distribute_of_le h]
  rcases Nat.lt_or_ge index items.length with hitem | hitem
  · rw [List.getElem?_append_left (by rwa [List.length_map]), List.getElem?_map,
      List.getElem?_eq_getElem hitem]
    rfl
  · rw [List.getElem?_append_right (by rwa [List.length_map]), List.length_map,
      List.getElem?_replicate_of_lt (by omega), List.getElem?_eq_none hitem]
    rfl

/-- The first slots hold the items before a quotient. -/
theorem flatten_take_distribute (h : total < items.length) {count : Nat} (hcount : count ≤ total) :
    ((distribute items total).take count).flatten = items.take (count * items.length / total) := by
  rw [distribute_of_lt h, ← List.map_take, List.take_range, Nat.min_eq_left hcount]
  exact flatten_map_segment items (fun slot => slot * items.length / total) (by simp)
    (mul_div_le_succ_mul_div _ _) count

theorem flatten_distribute (htotal : 0 < total) (items : List α) :
    (distribute items total).flatten = items := by
  rcases Nat.lt_or_ge total items.length with h | h
  · have hall := flatten_take_distribute h (Nat.le_refl total)
    rwa [List.take_of_length_le (Nat.le_of_eq (length_distribute items total)),
      Nat.mul_div_cancel_left _ htotal, List.take_length] at hall
  · have hsingle : (items.map fun item => [item]).flatten = items := by
      rw [← List.flatMap_def, List.flatMap_singleton']
    rw [distribute_of_le h, List.flatten_append, hsingle, List.flatten_replicate_nil,
      List.append_nil]

/-- Where there are more items than slots, a slot holds no less than the exact share, rounded
down, and no more than it, rounded up. -/
theorem length_of_mem_distribute (htotal : 0 < total) (h : total < items.length) {slot : List α}
    (hslot : slot ∈ distribute items total) :
    items.length / total ≤ slot.length ∧ slot.length ≤ items.length ⌈/⌉ total := by
  rw [distribute_of_lt h] at hslot
  obtain ⟨index, hindex, rfl⟩ := List.mem_map.mp hslot
  have hlast : (index + 1) * items.length / total ≤ items.length :=
    mul_div_le_of_le (Nat.succ_le_of_lt (List.mem_range.mp hindex)) _
  rw [length_segment hlast]
  have hdown := div_add_le_succ_mul_div items.length total index
  have hup := succ_mul_div_le_add_ceilDiv htotal items.length index
  constructor
  · omega
  · omega

theorem length_pos_of_mem_distribute (htotal : 0 < total) (h : total < items.length)
    {slot : List α} (hslot : slot ∈ distribute items total) : 0 < slot.length :=
  Nat.lt_of_lt_of_le (Nat.div_pos (Nat.le_of_lt h) htotal)
    (length_of_mem_distribute htotal h hslot).1

/-- The slots that hold an item are the first ones, as many as there are items, or all of them. -/
theorem ne_nil_iff_of_getElem?_distribute {index : Nat} {slot : List α}
    (hslot : (distribute items total)[index]? = some slot) :
    slot ≠ [] ↔ index < min items.length total := by
  obtain ⟨hindex, -⟩ := List.getElem?_eq_some_iff.mp hslot
  rw [length_distribute] at hindex
  rcases Nat.lt_or_ge total items.length with h | h
  · have hpos := length_pos_of_mem_distribute (Nat.zero_lt_of_lt hindex) h
      (List.mem_of_getElem? hslot)
    exact iff_of_true (List.ne_nil_of_length_pos hpos) (by omega)
  · rw [getElem?_distribute_of_le h hindex, Option.some.injEq] at hslot
    rw [← hslot, Nat.min_eq_left h]
    cases hitem : items[index]? with
    | none => simpa using hitem
    | some item =>
      obtain ⟨hlt, -⟩ := List.getElem?_eq_some_iff.mp hitem
      exact iff_of_true (List.cons_ne_nil item []) hlt

/-- No slot holds two items more than another one. -/
theorem length_le_of_mem_distribute {slot other : List α} (hslot : slot ∈ distribute items total)
    (hother : other ∈ distribute items total) : slot.length ≤ other.length + 1 := by
  have htotal : 0 < total := length_distribute items total ▸ List.length_pos_of_mem hslot
  rcases Nat.lt_or_ge total items.length with h | h
  · have hup := (length_of_mem_distribute htotal h hslot).2
    have hdown := (length_of_mem_distribute htotal h hother).1
    have hceil := ceilDiv_le_succ_div htotal items.length
    omega
  · obtain ⟨index, hindex⟩ := List.mem_iff_getElem?.mp hslot
    obtain ⟨hlt, -⟩ := List.getElem?_eq_some_iff.mp hindex
    rw [length_distribute] at hlt
    rw [getElem?_distribute_of_le h hlt, Option.some.injEq] at hindex
    have hone : slot.length ≤ 1 := by
      rw [← hindex]
      exact Option.length_toList_le
    omega

/-- **Items are spread evenly.** There are as many slots as asked for, and joined they are the
items again. While there are slots enough, each of the first ones holds one item and the others
none. Otherwise none is without an item, the first slots together hold their share of all items,
rounded down, and each slot the share of one, rounded down or up. -/
theorem distribute_splits_evenly (items : List α) {total : Nat} (h : 0 < total) :
    (distribute items total).length = total ∧ (distribute items total).flatten = items ∧
      (items.length ≤ total →
        (∀ (index : Nat) (item : α), items[index]? = some item →
          (distribute items total)[index]? = some [item]) ∧
        ∀ index : Nat, items.length ≤ index → index < total →
          (distribute items total)[index]? = some []) ∧
      (total < items.length →
        (∀ slot ∈ distribute items total, slot ≠ []) ∧
        (∀ count ≤ total, ((distribute items total).take count).flatten.length =
          count * items.length / total) ∧
        ∀ slot ∈ distribute items total,
          slot.length = items.length / total ∨ slot.length = items.length ⌈/⌉ total) := by
  refine ⟨length_distribute items total, flatten_distribute h items, fun hroom => ⟨?_, ?_⟩,
    fun hcrowded => ⟨fun slot hslot => ?_, fun count hcount => ?_, fun slot hslot => ?_⟩⟩
  · intro index item hitem
    obtain ⟨hindex, -⟩ := List.getElem?_eq_some_iff.mp hitem
    rw [getElem?_distribute_of_le hroom (Nat.lt_of_lt_of_le hindex hroom), hitem]
    rfl
  · intro index hindex htotal
    rw [getElem?_distribute_of_le hroom htotal, List.getElem?_eq_none hindex]
    rfl
  · exact List.ne_nil_of_length_pos (length_pos_of_mem_distribute h hcrowded hslot)
  · rw [flatten_take_distribute hcrowded hcount, List.length_take,
      Nat.min_eq_left (mul_div_le_of_le hcount _)]
  · obtain ⟨hdown, hup⟩ := length_of_mem_distribute h hcrowded hslot
    have hceil := ceilDiv_le_succ_div h items.length
    omega

/-- Seven items for three slots, where the runs are cut at 2 and 4, and two items for three. -/
theorem distribute_splits_seven :
    (0 < 3 ∧ distribute [1, 2, 3, 4, 5, 6, 7] 3 = [[1, 2], [3, 4], [5, 6, 7]] ∧
      (∀ count ≤ 3, ((distribute [1, 2, 3, 4, 5, 6, 7] 3).take count).flatten.length =
        count * 7 / 3) ∧
      ∀ slot ∈ distribute [1, 2, 3, 4, 5, 6, 7] 3, slot.length = 2 ∨ slot.length = 3) ∧
    (0 < 3 ∧ distribute ['a', 'b'] 3 = [['a'], ['b'], []] ∧
      (distribute ['a', 'b'] 3).flatten = ['a', 'b'] ∧
      (distribute ['a', 'b'] 3)[2]? = some []) := by
  have hpos : 0 < 3 := by decide
  obtain ⟨-, -, -, hcrowded⟩ := distribute_splits_evenly [1, 2, 3, 4, 5, 6, 7] hpos
  obtain ⟨-, hshare, hslot⟩ := hcrowded (by decide)
  obtain ⟨-, hflatten, hroom, -⟩ := distribute_splits_evenly ['a', 'b'] hpos
  exact ⟨⟨hpos, by decide, hshare, hslot⟩, hpos, by decide, hflatten,
    (hroom (by decide)).2 2 (by decide) (by decide)⟩

end Sargam
