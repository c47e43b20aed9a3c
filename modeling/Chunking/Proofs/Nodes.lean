/-
Nodes and their lines. A node is given by bytes, and where it ends is told apart by
whether the byte behind it is the first of a row. For a node that is not empty all
of this comes to one thing: it stands on the lines of its first and of its last
byte. So the lines of a node are lines of the text, the lines of a node inside of
another one are among the lines of that one, and nodes that follow each other start
on lines that follow each other.
-/

import Chunking.Proofs.Overlaps
import Chunking.Proofs.Rows
import Chunking.Tree.Source

namespace Chunking

/-! ### Bytes and rows -/

namespace Text

/-- The number of bytes of characters. -/
def byteSize : List Char → Nat
  | [] => 0
  | char :: rest => char.utf8Size + byteSize rest

theorem byteSize_toList (text : String) : byteSize text.toList = text.utf8ByteSize := by
  have ofList (chars : List Char) : byteSize chars = (String.ofList chars).utf8ByteSize := by
    induction chars with
    | nil => rfl
    | cons char rest inductionHypothesis =>
      rw [byteSize, inductionHypothesis, ← List.singleton_append, String.ofList_append,
        String.utf8ByteSize_append, ← String.singleton_eq_ofList, String.utf8ByteSize_singleton]
  rw [ofList, String.ofList_toList]

theorem eq_nil_of_byteSize {chars : List Char} (empty : byteSize chars = 0) : chars = [] := by
  cases chars with
  | nil => rfl
  | cons char rest =>
    have positive := char.utf8Size_pos
    rw [byteSize] at empty
    omega

theorem rowAt_zero (chars : List Char) : rowAt 0 chars = 0 := by
  cases chars <;> rfl

theorem startsRow_zero (fresh : Bool) (chars : List Char) : startsRow fresh 0 chars = fresh := by
  cases chars <;> rfl

theorem rowAt_cons {offset : Nat} (inside : 0 < offset) (char : Char) (rest : List Char) :
    rowAt offset (char :: rest) =
      (if char = '\n' then 1 else 0) + rowAt (offset - char.utf8Size) rest := by
  rw [rowAt, if_neg (Nat.ne_of_gt inside)]

theorem startsRow_cons {offset : Nat} (inside : 0 < offset) (fresh : Bool) (char : Char)
    (rest : List Char) :
    startsRow fresh offset (char :: rest) =
      startsRow (char == '\n') (offset - char.utf8Size) rest := by
  rw [startsRow, if_neg (Nat.ne_of_gt inside)]

theorem rowAt_mono {first second : Nat} (ordered : first ≤ second) (chars : List Char) :
    rowAt first chars ≤ rowAt second chars := by
  induction chars generalizing first second with
  | nil => exact Nat.le_refl 0
  | cons char rest inductionHypothesis =>
    rcases Nat.eq_zero_or_pos first with zero | positive
    · rw [zero, rowAt_zero]
      exact Nat.zero_le _
    · rw [rowAt_cons positive, rowAt_cons (Nat.lt_of_lt_of_le positive ordered)]
      exact Nat.add_le_add_left (inductionHypothesis (Nat.sub_le_sub_right ordered _)) _

/-- A row ends with a line feed, so a place is the first of its row just if the byte before it is
on the row before. -/
theorem rowAt_eq_pred {stop : Nat} (positive : 0 < stop) {chars : List Char}
    (inside : stop ≤ byteSize chars) (fresh : Bool) :
    rowAt stop chars = rowAt (stop - 1) chars + if startsRow fresh stop chars then 1 else 0 := by
  induction chars generalizing stop fresh with
  | nil =>
    rw [byteSize] at inside
    omega
  | cons char rest inductionHypothesis =>
    rw [byteSize] at inside
    rw [rowAt_cons positive, startsRow_cons positive]
    have size := char.utf8Size_pos
    by_cases later : char.utf8Size < stop
    · rw [rowAt_cons (by omega), inductionHypothesis (by omega) (by omega) (char == '\n'),
        Nat.sub_right_comm stop 1, Nat.add_assoc]
    · -- The place is inside of the character or right behind it.
      rw [Nat.sub_eq_zero_of_le (by omega), rowAt_zero, startsRow_zero]
      rcases Nat.eq_zero_or_pos (stop - 1) with first | inner
      · rw [first, rowAt_zero]
        simp
      · have single : ('\n' : Char).utf8Size = 1 := rfl
        have noFeed : char ≠ '\n' := by
          rintro rfl
          omega
        rw [rowAt_cons inner, Nat.sub_eq_zero_of_le (by omega), rowAt_zero]
        simp [noFeed]

/-- Every byte of a text is on one of its lines. -/
theorem rowAt_lt {offset : Nat} {chars : List Char} (inside : offset < byteSize chars) :
    rowAt offset chars < (cutLines chars).length := by
  induction chars generalizing offset with
  | nil => exact absurd inside (Nat.not_lt_zero _)
  | cons char rest inductionHypothesis =>
    rw [byteSize] at inside
    rcases Nat.eq_zero_or_pos offset with zero | positive
    · rw [zero, rowAt_zero, List.length_pos_iff]
      exact fun none => List.cons_ne_nil _ _ (cutLines_eq_nil.mp none)
    · rw [rowAt_cons positive]
      unfold cutLines
      split
      next feed =>
        have size : char.utf8Size = 1 := by rw [feed]; rfl
        rw [List.length_cons, Nat.add_comm]
        exact Nat.add_lt_add_right (inductionHypothesis (by omega)) 1
      next =>
        rw [Nat.zero_add]
        cases cut : cutLines rest with
        | nil =>
          rw [cutLines_eq_nil.mp cut]
          exact Nat.one_pos
        | cons line lines =>
          have filled : byteSize rest ≠ 0 := fun empty => by
            rw [eq_nil_of_byteSize empty] at cut
            cases cut
          rw [cut] at inductionHypothesis
          exact inductionHypothesis (by omega)

end Text

/-! ### Lines of nodes -/

/-- All lines of one span are lines of another. -/
def Span.Within (inner outer : Span) : Prop :=
  outer.startLine ≤ inner.startLine ∧ inner.endLine ≤ outer.endLine

instance (inner outer : Span) : Decidable (inner.Within outer) :=
  inferInstanceAs (Decidable (_ ∧ _))

namespace Node

/-- A node that has bytes, all of them in the text. -/
structure Stands (source : String) (node : Node) : Prop where
  filled : node.start < node.stop
  inside : node.stop ≤ source.utf8ByteSize

variable {source : String} {node outer : Node}

/-- A node stands on the lines of its first and of its last byte. -/
theorem Stands.span_eq (stands : node.Stands source) :
    node.span source = ⟨Text.rowAt node.start source.toList + 1,
      Text.rowAt (node.stop - 1) source.toList + 1⟩ := by
  have filled := stands.filled
  have inside : node.stop ≤ Text.byteSize source.toList := by
    rw [Text.byteSize_toList]
    exact stands.inside
  have ends := Text.rowAt_eq_pred (Nat.lt_of_le_of_lt (Nat.zero_le _) filled) inside true
  have starts : Text.rowAt node.start source.toList ≤ Text.rowAt (node.stop - 1) source.toList :=
    Text.rowAt_mono (Nat.le_pred_of_lt filled) _
  unfold span
  simp only [Span.mk.injEq, true_and]
  rw [ends]
  split
  next first =>
    rw [first, Bool.true_and, if_pos (decide_eq_true (by omega))]
    omega
  next other =>
    rw [if_neg (by simp [other])]
    omega

/-- The lines of a node are lines of the text. -/
theorem Stands.fits (stands : node.Stands source) :
    (node.span source).Fits (LineIndex.ofText source).size := by
  have filled := stands.filled
  have inside := stands.inside
  have size : (LineIndex.ofText source).size = (Text.cutLines source.toList).length :=
    List.length_map _
  have last : Text.rowAt (node.stop - 1) source.toList < (Text.cutLines source.toList).length := by
    refine Text.rowAt_lt ?_
    rw [Text.byteSize_toList]
    omega
  rw [stands.span_eq, size]
  exact ⟨Nat.succ_pos _, Nat.succ_le_succ (Text.rowAt_mono (Nat.le_pred_of_lt filled) _), last⟩

/-- A node inside of another one is on lines of that one. -/
theorem Stands.within (stands : node.Stands source) (outerStands : outer.Stands source)
    (starts : outer.start ≤ node.start) (stops : node.stop ≤ outer.stop) :
    (node.span source).Within (outer.span source) := by
  rw [stands.span_eq, outerStands.span_eq]
  exact ⟨Nat.add_le_add_right (Text.rowAt_mono starts _) 1,
    Nat.add_le_add_right (Text.rowAt_mono (Nat.sub_le_sub_right stops 1) _) 1⟩

/-! ### Trees -/

/-- A node of the tree below another one, or that one itself. -/
inductive Below : (root node : Node) → Prop where
  | self (root : Node) : Below root root
  | step {root child node : Node} (among : child ∈ root.children) (below : Below child node) :
      Below root node

theorem mem_preorder_self (node : Node) : node ∈ node.preorder := by
  cases node
  exact List.mem_cons_self

theorem mem_preorder_of_mem_children {root child : Node} (among : child ∈ root.children)
    (member : node ∈ child.preorder) : node ∈ root.preorder := by
  have all {nodes : List Node} (among : child ∈ nodes) : node ∈ preorderAll nodes := by
    induction nodes with
    | nil => cases among
    | cons first rest inductionHypothesis =>
      rw [preorderAll, List.mem_append]
      rcases List.mem_cons.mp among with rfl | later
      · exact Or.inl member
      · exact Or.inr (inductionHypothesis later)
  cases root
  exact List.mem_cons_of_mem _ (all among)

theorem Below.preorder_subset {root : Node} (below : root.Below node) :
    node.preorder ⊆ root.preorder := by
  induction below with
  | self root => exact List.Subset.refl _
  | step among _ inductionHypothesis =>
    exact fun other member => mem_preorder_of_mem_children among (inductionHypothesis member)

/-- At every node of a tree the children lie inside of the node, one behind the other. -/
def Orderly (root : Node) : Prop :=
  ∀ node ∈ root.preorder,
    (∀ child ∈ node.children, node.start ≤ child.start ∧ child.stop ≤ node.stop) ∧
      node.children.Pairwise fun left right => left.stop ≤ right.start

instance (root : Node) : Decidable root.Orderly :=
  inferInstanceAs (Decidable (∀ node ∈ root.preorder, _ ∧ _))

theorem Orderly.below {root : Node} (orderly : root.Orderly) (below : root.Below node) :
    node.Orderly :=
  fun other member => orderly other (below.preorder_subset member)

theorem Orderly.bounds {root : Node} (orderly : root.Orderly) (below : root.Below node) :
    root.start ≤ node.start ∧ node.stop ≤ root.stop := by
  induction below with
  | self root => exact ⟨Nat.le_refl _, Nat.le_refl _⟩
  | step among below inductionHypothesis =>
    obtain ⟨starts, stops⟩ := (orderly _ (mem_preorder_self _)).1 _ among
    obtain ⟨startsBelow, stopsBelow⟩ :=
      inductionHypothesis (orderly.below (.step among (.self _)))
    exact ⟨Nat.le_trans starts startsBelow, Nat.le_trans stopsBelow stops⟩

end Node

end Chunking
