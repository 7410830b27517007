import Mathlib.Data.Rat.Lemmas
import Mathlib.Tactic.Linarith
import Mathlib.Tactic.Ring
import Mathlib.Data.List.Nodup
import SceneGraph.Prepare.Bake

/-!
# Grids are centered

The items of a grid fill rows from the left, the first row at the top. In exact numbers the columns and the rows lie
symmetrically around zero, whether or not the last row is filled.

* `Bake.gridAbscissa`, `Bake.gridOrdinate`: where columns and rows lie.
* `Bake.gridRows_eq`: the last item is in the last row.
* `Bake.getElem?_gridPlaces`: the column and the row of an item.
* `Bake.gridPlaces_centered`: the layout of a grid.
-/
set_option autoImplicit false

namespace SceneGraph.Bake

/-- Where a column of a grid lies. -/
def gridAbscissa (columns : Int) (spacing : ℚ) (column : Int) : ℚ := (column - (columns - 1) / 2) * spacing

/-- Where a row of a grid lies. -/
def gridOrdinate (rows : Int) (spacing : ℚ) (row : Int) : ℚ := ((rows - 1) / 2 - row) * spacing

theorem gridAbscissa_add (columns : Int) (spacing : ℚ) :
    gridAbscissa columns spacing 0 + gridAbscissa columns spacing (columns - 1) = 0 := by
  unfold gridAbscissa
  push_cast
  ring

theorem gridOrdinate_add (rows : Int) (spacing : ℚ) :
    gridOrdinate rows spacing 0 + gridOrdinate rows spacing (rows - 1) = 0 := by
  unfold gridOrdinate
  push_cast
  ring

theorem gridAbscissa_inj {columns : Int} {spacing : ℚ} (h : spacing ≠ 0) {k l : Int}
    (heq : gridAbscissa columns spacing k = gridAbscissa columns spacing l) : k = l := by
  have := mul_right_cancel₀ h heq
  exact_mod_cast sub_left_inj.1 this

theorem gridOrdinate_inj {rows : Int} {spacing : ℚ} (h : spacing ≠ 0) {k l : Int}
    (heq : gridOrdinate rows spacing k = gridOrdinate rows spacing l) : k = l := by
  have := mul_right_cancel₀ h heq
  exact_mod_cast sub_right_inj.1 this

theorem gridOrdinate_lt {rows : Int} {spacing : ℚ} (h : 0 < spacing) {k l : Int} (hlt : k < l) :
    gridOrdinate rows spacing l < gridOrdinate rows spacing k := by
  refine mul_lt_mul_of_pos_right ?_ h
  have : (k : ℚ) < l := by exact_mod_cast hlt
  linarith

theorem gridAbscissa_mono {columns : Int} {spacing : ℚ} (h : 0 ≤ spacing) {k l : Int} (hle : k ≤ l) :
    gridAbscissa columns spacing k ≤ gridAbscissa columns spacing l := by
  have : (k : ℚ) ≤ l := by exact_mod_cast hle
  exact mul_le_mul_of_nonneg_right (by linarith) h

theorem gridAbscissa_anti {columns : Int} {spacing : ℚ} (h : spacing ≤ 0) {k l : Int} (hle : k ≤ l) :
    gridAbscissa columns spacing l ≤ gridAbscissa columns spacing k := by
  have : (k : ℚ) ≤ l := by exact_mod_cast hle
  exact mul_le_mul_of_nonpos_right (by linarith) h

/-! ## Rows -/

theorem gridRows_eq {count columns : Int} (hcount : 1 ≤ count) (hcolumns : 1 ≤ columns) :
    gridRows count columns = (count - 1) / columns + 1 := by
  have hsum : count + columns - 1 = count - 1 + 1 * columns := by ring
  rw [gridRows, Int.tdiv_eq_ediv_of_nonneg (by omega), hsum, Int.add_mul_ediv_right _ _ (by omega)]

theorem row_lt {count columns i : Int} (hcount : 1 ≤ count) (hcolumns : 1 ≤ columns) (hi : i < count) :
    i / columns < gridRows count columns := by
  rw [gridRows_eq hcount hcolumns]
  have := Int.ediv_le_ediv (c := columns) (by omega) (show i ≤ count - 1 by omega)
  omega

/-! ## Columns -/

/-- The outer columns lie opposite to each other, and all others between them; with a negative spacing the first column
is the right one. -/
theorem exists_outer_columns {columns : Int} (hcolumns : 1 ≤ columns) (spacing : ℚ) :
    ∃ k l : Int, (0 ≤ k ∧ k < columns) ∧ (0 ≤ l ∧ l < columns) ∧
      gridAbscissa columns spacing k + gridAbscissa columns spacing l = 0 ∧
      ∀ m, 0 ≤ m → m < columns → gridAbscissa columns spacing k ≤ gridAbscissa columns spacing m ∧
        gridAbscissa columns spacing m ≤ gridAbscissa columns spacing l := by
  have hsum := gridAbscissa_add columns spacing
  rcases le_total 0 spacing with h | h
  · exact ⟨0, columns - 1, by omega, by omega, hsum, fun m hm hlt =>
      ⟨gridAbscissa_mono h hm, gridAbscissa_mono h (by omega)⟩⟩
  · exact ⟨columns - 1, 0, by omega, by omega, (add_comm _ _).trans hsum, fun m hm hlt =>
      ⟨gridAbscissa_anti h (by omega), gridAbscissa_anti h hm⟩⟩

/-! ## Places -/

theorem gridPlace_eq (columns rows : Int) (sx sy : ℚ) (i : Nat) :
    gridPlace ((↑) : Int → ℚ) columns rows (sx, sy) i =
      (gridAbscissa columns sx (i % columns), gridOrdinate rows sy (i / columns)) := by
  rw [gridPlace, Int.tmod_eq_emod_of_nonneg (Int.natCast_nonneg i), Int.tdiv_eq_ediv_of_nonneg (Int.natCast_nonneg i)]
  simp only [gridAbscissa, gridOrdinate, Int.cast_sub, Int.cast_one]

/-- An item is in the column and the row that its number gives. -/
theorem getElem?_gridPlaces {count columns : Int} {sx sy : ℚ} {i : Nat} (hi : i < count) :
    (gridPlaces ((↑) : Int → ℚ) count columns (sx, sy))[i]? =
      some (gridAbscissa (min columns count) sx (i % min columns count),
        gridOrdinate (gridRows count (min columns count)) sy (i / min columns count)) := by
  have hrange : (List.range count.toNat)[i]? = some i := List.getElem?_range (by omega)
  rw [gridPlaces, List.getElem?_map, hrange, Option.map_some, gridPlace_eq]

theorem mem_gridPlaces {count columns : Int} {sx sy : ℚ} {p : ℚ × ℚ}
    (hp : p ∈ gridPlaces ((↑) : Int → ℚ) count columns (sx, sy)) :
    ∃ i : Nat, i < count ∧ p = (gridAbscissa (min columns count) sx (i % min columns count),
      gridOrdinate (gridRows count (min columns count)) sy (i / min columns count)) := by
  obtain ⟨i, hi, rfl⟩ := List.mem_map.1 hp
  have := List.mem_range.1 hi
  exact ⟨i, by omega, gridPlace_eq _ _ sx sy i⟩

/-- Every column has an item: there are no more columns than items. -/
theorem exists_mem_column {count columns k : Int} (hk : 0 ≤ k) (hlt : k < min columns count) (sx sy : ℚ) :
    ∃ p ∈ gridPlaces ((↑) : Int → ℚ) count columns (sx, sy), p.1 = gridAbscissa (min columns count) sx k := by
  obtain ⟨i, rfl⟩ := Int.eq_ofNat_of_zero_le hk
  have hi : (i : Int) < count := by omega
  refine ⟨_, List.mem_of_getElem? (getElem?_gridPlaces hi), ?_⟩
  rw [Int.emod_eq_of_lt hk hlt]

theorem nodup_gridPlaces {count columns : Int} {sx sy : ℚ} (hx : sx ≠ 0) (hy : sy ≠ 0) :
    (gridPlaces ((↑) : Int → ℚ) count columns (sx, sy)).Nodup := by
  refine List.Nodup.map_on (fun i _ j _ heq => ?_) List.nodup_range
  rw [gridPlace_eq, gridPlace_eq, Prod.mk.injEq] at heq
  have hcolumn := gridAbscissa_inj hx heq.1
  have hrow := gridOrdinate_inj hy heq.2
  have : (i : Int) = j := by
    rw [← Int.mul_ediv_add_emod i (min columns count), hcolumn, hrow, Int.mul_ediv_add_emod]
  omega

/-- The layout of a grid in exact numbers. Every item has a place, and no division is by zero; an item is in the
column and the row that its number gives, and there is such a row. The outer columns lie opposite to each other around
zero, and so do the first and the last row; with a positive spacing the first row is above all others; and with
spacings that are not zero no two items share a place. -/
theorem gridPlaces_centered {count columns : Int} (hcount : 1 ≤ count) (hcolumns : 1 ≤ columns) (sx sy : ℚ) :
    let c := min columns count
    let rows := gridRows count c
    let places := gridPlaces ((↑) : Int → ℚ) count columns (sx, sy)
    0 < c ∧ (places.length : Int) = count ∧
      (∀ i : Nat, i < count → places[i]? = some (gridAbscissa c sx (i % c), gridOrdinate rows sy (i / c)) ∧
        i / c < rows) ∧
      (∃ p ∈ places, ∃ q ∈ places, p.1 + q.1 = 0 ∧ ∀ r ∈ places, p.1 ≤ r.1 ∧ r.1 ≤ q.1) ∧
      (∃ p q, places.head? = some p ∧ places.getLast? = some q ∧ p.2 + q.2 = 0) ∧
      (0 < sy → ∀ row > 0, gridOrdinate rows sy row < gridOrdinate rows sy 0) ∧
      (sx ≠ 0 → sy ≠ 0 → places.Nodup) := by
  intro c rows places
  have hc : 1 ≤ c := le_min hcolumns hcount
  have hlength : (places.length : Int) = count := by
    rw [show places.length = count.toNat by simp [places, gridPlaces]]
    omega
  refine ⟨by omega, hlength, fun i hi => ⟨getElem?_gridPlaces hi, row_lt hcount hc hi⟩, ?_, ?_,
    fun hy row hrow => gridOrdinate_lt hy hrow, nodup_gridPlaces⟩
  · obtain ⟨k, l, hk, hl, hsum, hbetween⟩ := exists_outer_columns hc sx
    obtain ⟨p, hp, hpk⟩ := exists_mem_column hk.1 hk.2 sx sy
    obtain ⟨q, hq, hql⟩ := exists_mem_column hl.1 hl.2 sx sy
    refine ⟨p, hp, q, hq, by rw [hpk, hql, hsum], fun r hr => ?_⟩
    obtain ⟨i, -, rfl⟩ := mem_gridPlaces hr
    rw [hpk, hql]
    exact hbetween _ (Int.emod_nonneg _ (by omega)) (Int.emod_lt_of_pos _ (by omega))
  · have hfirst : places[0]? = _ := getElem?_gridPlaces (show ((0 : Nat) : Int) < count by omega)
    have hlast : places[places.length - 1]? = _ :=
      getElem?_gridPlaces (show ((places.length - 1 : Nat) : Int) < count by omega)
    refine ⟨_, _, List.head?_eq_getElem?.trans hfirst, List.getLast?_eq_getElem?.trans hlast, ?_⟩
    have hrow : ((places.length - 1 : Nat) : Int) / c = rows - 1 := by
      have hrows := gridRows_eq hcount hc
      rw [show ((places.length - 1 : Nat) : Int) = count - 1 by omega]
      omega
    change gridOrdinate rows sy (((0 : Nat) : Int) / c) + gridOrdinate rows sy (_ / c) = 0
    rw [hrow, Nat.cast_zero, Int.zero_ediv, gridOrdinate_add]

/-- Seven items in three columns, from the right to the left: the last row has a single item. -/
theorem unfilled_grid_centered :
    gridPlaces ((↑) : Int → ℚ) 7 3 (-20, 5) =
        [(20, 5), (0, 5), (-20, 5), (20, 0), (0, 0), (-20, 0), (20, -5)] ∧
      gridRows 7 3 = 3 ∧ (gridPlaces ((↑) : Int → ℚ) 7 3 (-20, 5)).Nodup ∧
      ∀ row > 0, gridOrdinate 3 5 row < gridOrdinate 3 5 0 := by
  obtain ⟨-, -, -, -, -, htop, hdistinct⟩ :=
    gridPlaces_centered (show (1 : Int) ≤ 7 by decide) (show (1 : Int) ≤ 3 by decide) (-20) 5
  exact ⟨by decide +kernel, rfl, hdistinct (by decide) (by decide), htop (by decide)⟩

end SceneGraph.Bake
