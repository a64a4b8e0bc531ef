import Mathlib.Data.List.FinRange
import Mathlib.Data.List.Sort
import Mathlib.Tactic.Common
import Mathlib.Tactic.TypeStar

/-!
# Reorderings that keep the order within each class

`ys` is `xs` in another order, but two elements of the same class stand in `ys`
as they stand in `xs`.  What a reader of one class sees is the same list:

    ys.filter (key · == k) = xs.filter (key · == k)                 (KeepsOrder.filter_eq)
-/

namespace Reorder

variable {α κ : Type*} (key : α → κ)

/-- `order` lists every position of `xs` once, those of a class in ascending order. -/
structure KeepsOrder (xs : List α) (order : List (Fin xs.length)) : Prop where
  perm : order.Perm (List.finRange xs.length)
  ascending : order.Pairwise fun i j => key xs[i] = key xs[j] → i < j

/-- The elements in the order given. -/
def arrange (xs : List α) (order : List (Fin xs.length)) : List α := order.map xs.get

variable {key}

/-- The positions of a class are the same list, being the same positions in ascending order. -/
theorem KeepsOrder.positions_eq [BEq κ] [LawfulBEq κ] {xs : List α} {order : List (Fin xs.length)}
    (h : KeepsOrder key xs order) (k : κ) :
    order.filter (fun i => key xs[i] == k) = (List.finRange xs.length).filter (fun i => key xs[i] == k) := by
  have hascending : (order.filter fun i => key xs[i] == k).Pairwise (· < ·) := by
    refine (h.ascending.filter _).imp_of_mem fun hi hj hlt => hlt ?_
    have hki := eq_of_beq (List.mem_filter.mp hi).2
    have hkj := eq_of_beq (List.mem_filter.mp hj).2
    exact hki.trans hkj.symm
  exact hascending.eq_of_mem_iff ((List.pairwise_lt_finRange xs.length).filter _) fun i => (h.perm.filter _).mem_iff

theorem KeepsOrder.filter_eq [BEq κ] [LawfulBEq κ] {xs : List α} {order : List (Fin xs.length)}
    (h : KeepsOrder key xs order) (k : κ) :
    (arrange xs order).filter (key · == k) = xs.filter (key · == k) := by
  have hself : (List.finRange xs.length).map xs.get = xs := List.map_get_finRange xs
  have hclass : ∀ positions : List (Fin xs.length), (positions.map xs.get).filter (key · == k) =
      (positions.filter fun i => key xs[i] == k).map xs.get := fun positions => List.filter_map
  rw [arrange, hclass, h.positions_eq k, ← hclass, hself]

end Reorder
