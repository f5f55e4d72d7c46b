import Mathlib.Data.List.Perm.Basic
import WebClip.Value
/-!
# Trees of blocks

A page is a tree of blocks. In preorder each block stands before those under it; breadth first,
all blocks of a level stand before those of the next. The two orders have the same blocks.
-/

namespace WebClip

/-- A block known by an id, with the blocks right under it. -/
inductive Tree where
  | node (id block : Value) (children : List Tree)

namespace Tree

/-- What the block is known by. -/
def id : Tree → Value
  | node id _ _ => id

/-- The block itself. -/
def block : Tree → Value
  | node _ block _ => block

/-- The blocks right under it. -/
def children : Tree → List Tree
  | node _ _ children => children

/-- Whether there are blocks under it. -/
def isInner (t : Tree) : Bool := !t.children.isEmpty

mutual

/-- The blocks under a block, each before those under it. -/
def descendants : Tree → List Tree
  | node _ _ children => preorder children

/-- Blocks and those under them, each before those under it. -/
def preorder : List Tree → List Tree
  | [] => []
  | t :: rest => t :: (t.descendants ++ preorder rest)

end

theorem descendants_eq (t : Tree) : t.descendants = preorder t.children := by
  cases t with
  | node => rw [descendants, children]

theorem preorder_append (ts us : List Tree) : preorder (ts ++ us) = preorder ts ++ preorder us := by
  induction ts with
  | nil => rfl
  | cons t rest ih => rw [List.cons_append, preorder, preorder, ih, List.cons_append, List.append_assoc]

/-- Blocks and those under them are the blocks, with those right under them and what is under these. -/
theorem preorder_perm (ts : List Tree) : (preorder ts).Perm (ts ++ preorder (ts.flatMap children)) := by
  induction ts with
  | nil => rfl
  | cons t rest ih =>
    rw [preorder, List.flatMap_cons, preorder_append, List.cons_append, descendants_eq, List.perm_cons]
    refine (ih.append_left _).trans ?_
    rw [← List.append_assoc, ← List.append_assoc]
    exact List.perm_append_comm.append_right _

/-! ## Breadth first -/

/-- Blocks and those under them, level by level. -/
def breadthFirst : List Tree → List Tree
  | [] => []
  | t :: rest => (t :: rest) ++ breadthFirst ((t :: rest).flatMap children)
termination_by ts => (preorder ts).length
decreasing_by
  have hlength := (preorder_perm (t :: rest)).length_eq
  rw [List.length_append, List.length_cons] at hlength
  omega

theorem breadthFirst_nil : breadthFirst [] = [] := by rw [breadthFirst]

theorem breadthFirst_eq (ts : List Tree) : breadthFirst ts = ts ++ breadthFirst (ts.flatMap children) := by
  cases ts with
  | nil => rw [List.flatMap_nil, breadthFirst_nil, List.append_nil]
  | cons t rest => rw [breadthFirst]

theorem breadthFirst_perm (ts : List Tree) : (breadthFirst ts).Perm (preorder ts) := by
  fun_induction breadthFirst ts with
  | case1 => rfl
  | case2 t rest ih => exact (ih.append_left _).trans (preorder_perm _).symm

/-- Blocks taken from the front of a queue leave those under them at its end. -/
theorem breadthFirst_append (ts us : List Tree) :
    breadthFirst (ts ++ us) = ts ++ breadthFirst (us ++ ts.flatMap children) := by
  induction hn : (preorder (ts ++ us)).length using Nat.strongRecOn generalizing ts us with
  | ind n ih =>
    subst hn
    rw [breadthFirst_eq (ts ++ us), breadthFirst_eq (us ++ ts.flatMap children), List.flatMap_append,
      List.flatMap_append]
    by_cases hempty : ts ++ us = []
    · obtain ⟨rfl, rfl⟩ := List.append_eq_nil_iff.1 hempty
      rfl
    · have hlength := (preorder_perm (ts ++ us)).length_eq
      rw [List.length_append, List.flatMap_append] at hlength
      have hpos := List.length_pos_of_ne_nil hempty
      rw [ih _ (by omega) (ts.flatMap children) (us.flatMap children) rfl]
      simp only [List.append_assoc]

/-- The blocks below the first level are those right under the blocks. -/
theorem breadthFirst_flatMap (ts : List Tree) :
    breadthFirst (ts.flatMap children) = (breadthFirst ts).flatMap children := by
  fun_induction breadthFirst ts with
  | case1 => rw [List.flatMap_nil, breadthFirst_nil]
  | case2 t rest ih =>
    calc breadthFirst ((t :: rest).flatMap children)
      _ = (t :: rest).flatMap children ++ breadthFirst (((t :: rest).flatMap children).flatMap children) :=
        breadthFirst_eq _
      _ = (t :: rest).flatMap children ++ (breadthFirst ((t :: rest).flatMap children)).flatMap children := by rw [ih]
      _ = ((t :: rest) ++ breadthFirst ((t :: rest).flatMap children)).flatMap children := List.flatMap_append.symm

/-- Only blocks with blocks under them have blocks under them. -/
theorem flatMap_children_inner (ts : List Tree) : (ts.filter isInner).flatMap children = ts.flatMap children := by
  induction ts with
  | nil => rfl
  | cons t rest ih =>
    rw [List.filter_cons, List.flatMap_cons]
    split
    next => rw [List.flatMap_cons, ih]
    next h =>
      have hnone : t.children = [] := by simpa [isInner] using h
      rw [hnone, ih, List.nil_append]

/-! ## Parents -/

/-- The blocks of a tree that have others under them, and the root, breadth first. -/
def parents (root : Tree) : List Tree := root :: (breadthFirst root.children).filter isInner

variable {root t u : Tree}

theorem mem_breadthFirst : t ∈ breadthFirst root.children ↔ t ∈ root.descendants := by
  rw [descendants_eq, (breadthFirst_perm _).mem_iff]

theorem mem_parents (ht : t ∈ root.descendants) (hi : t.isInner = true) : t ∈ root.parents :=
  List.mem_cons_of_mem _ (List.mem_filter.2 ⟨mem_breadthFirst.2 ht, hi⟩)

/-- What is right under a parent is under the root. -/
theorem mem_descendants (ht : t ∈ root.parents) (hu : u ∈ t.children) : u ∈ root.descendants := by
  rw [← mem_breadthFirst, breadthFirst_eq, List.mem_append]
  rcases List.mem_cons.1 ht with rfl | ht
  · exact .inl hu
  · rw [breadthFirst_flatMap]
    exact .inr (List.mem_flatMap.2 ⟨t, (List.mem_filter.1 ht).1, hu⟩)

end Tree

end WebClip
