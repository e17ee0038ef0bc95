import MetricMesh.Foundation.Tables

/-!
# Reading a list page by page

A paged read takes a page size and an offset, and answers with a page and a
total.  It tiles a list when its pages, put together, run through the list from
the front, and every page reports the length of the list.

Nothing in this module mentions a particular program.
-/

namespace MetricMesh
namespace Foundation

universe u v

variable {α : Type u} {ι : Type v}

def firstPages (fetch : Nat -> Nat -> List ι × Nat) (limit pages : Nat) : List ι :=
  (List.range pages).flatMap fun k => (fetch limit (k * limit)).1

structure Tiles (fetch : Nat -> Nat -> List ι × Nat) (items : List ι) : Prop where
  prefixes : forall limit pages,
    firstPages fetch limit pages = items.take (pages * limit)
  complete : forall limit, 1 ≤ limit -> forall pages, items.length ≤ pages ->
    firstPages fetch limit pages = items
  total : forall limit offset, (fetch limit offset).2 = items.length

/-- With a page size of at least one, enough pages make the whole list. -/
theorem Tiles.of_prefixes {fetch : Nat -> Nat -> List ι × Nat} {items : List ι}
    (hprefixes : forall limit pages,
      firstPages fetch limit pages = items.take (pages * limit))
    (htotal : forall limit offset, (fetch limit offset).2 = items.length) :
    Tiles fetch items := by
  constructor
  · exact hprefixes
  · intro limit hlimit pages hpages
    rw [hprefixes]
    apply List.take_of_length_le
    exact hpages.trans (Nat.le_mul_of_pos_right pages hlimit)
  · exact htotal

/-!
# Sorted tables
-/

section Sorted

variable (before : α -> α -> Prop) [DecidableRel before] (rows : List α)

theorem flatMap_page (limit pages : Nat) :
    ((List.range pages).flatMap fun k => page before limit (k * limit) rows) =
      (rows.insertionSort before).take (pages * limit) := by
  induction pages with
  | zero =>
      simp
  | succ pages ih =>
      have hlast : page before limit (pages * limit) rows =
          ((rows.insertionSort before).drop (pages * limit)).take limit := rfl
      rw [List.range_succ, List.flatMap_append, ih, List.flatMap_singleton, hlast,
        Nat.add_mul, Nat.one_mul, List.take_add]

/-- The rows of a sorted table, shown one page at a time with their number. -/
theorem tiles_page (item : α -> ι) :
    Tiles (fun limit offset => ((page before limit offset rows).map item, rows.length))
      ((rows.insertionSort before).map item) := by
  apply Tiles.of_prefixes
  · intro limit pages
    rw [← List.map_take, ← flatMap_page, List.map_flatMap]
    rfl
  · intro limit offset
    rw [List.length_map, List.length_insertionSort]

end Sorted

end Foundation
end MetricMesh
