import Mathlib.Order.Interval.Finset.Nat

/-!
# Forests of parents below their children

A forest on the natural numbers in which no parent exceeds its child, so that
every root is the least node of its tree.  Linking the larger of two roots
under the smaller keeps this, and turns the trees of a relation into those of
the relation with one more pair.
-/

namespace CodingLlm
namespace UnionFind

/-- Parents at or below their children. -/
structure Forest where
  parent : Nat -> Nat
  parent_le : ∀ node, parent node ≤ node

namespace Forest

/-- Every node is its own parent. -/
def discrete : Forest where
  parent := id
  parent_le := fun _ => le_rfl

/-- The root above a node. -/
def root (forest : Forest) (node : Nat) : Nat :=
  if _fixed : forest.parent node = node then node
  else forest.root (forest.parent node)
termination_by node
decreasing_by exact Nat.lt_of_le_of_ne (forest.parent_le node) _fixed

section Root

variable (forest : Forest)

theorem root_of_fixed {node : Nat} (fixed : forest.parent node = node) :
    forest.root node = node := by
  rw [root, dif_pos fixed]

/-- A node has the root of its parent. -/
theorem root_parent (node : Nat) :
    forest.root (forest.parent node) = forest.root node := by
  by_cases fixed : forest.parent node = node
  · rw [fixed]
  · conv_rhs => rw [root, dif_neg fixed]

theorem root_le (node : Nat) : forest.root node ≤ node := by
  induction node using Nat.strongRecOn with
  | ind node inductionHypothesis =>
      by_cases fixed : forest.parent node = node
      · exact (forest.root_of_fixed fixed).le
      · have below := Nat.lt_of_le_of_ne (forest.parent_le node) fixed
        rw [← root_parent]
        exact (inductionHypothesis _ below).trans below.le

theorem parent_root (node : Nat) :
    forest.parent (forest.root node) = forest.root node := by
  induction node using Nat.strongRecOn with
  | ind node inductionHypothesis =>
      by_cases fixed : forest.parent node = node
      · rw [forest.root_of_fixed fixed, fixed]
      · rw [← root_parent]
        exact inductionHypothesis _
          (Nat.lt_of_le_of_ne (forest.parent_le node) fixed)

@[simp] theorem root_root (node : Nat) :
    forest.root (forest.root node) = forest.root node :=
  forest.root_of_fixed (forest.parent_root node)

/-- Whatever keeps roots and looks through parents is the root. -/
theorem root_eq_of
    {value : Nat -> Nat}
    (fixed : ∀ node, forest.parent node = node -> value node = node)
    (through : ∀ node, value (forest.parent node) = value node) :
    forest.root = value := by
  funext node
  induction node using Nat.strongRecOn with
  | ind node inductionHypothesis =>
      by_cases isFixed : forest.parent node = node
      · rw [forest.root_of_fixed isFixed, fixed node isFixed]
      · rw [← root_parent, ← through]
        exact inductionHypothesis _
          (Nat.lt_of_le_of_ne (forest.parent_le node) isFixed)

end Root

@[simp] theorem root_discrete (node : Nat) : discrete.root node = node :=
  discrete.root_of_fixed rfl

/-! ## Compression -/

/-- Hang a node directly under its root. -/
def compress (forest : Forest) (node : Nat) : Forest where
  parent := Function.update forest.parent node (forest.root node)
  parent_le := fun other => by
    by_cases same : other = node
    · subst same
      rw [Function.update_self]
      exact forest.root_le other
    · rw [Function.update_of_ne same]
      exact forest.parent_le other

theorem parent_compress_self (forest : Forest) (node : Nat) :
    (forest.compress node).parent node = forest.root node :=
  Function.update_self ..

theorem parent_compress_of_ne
    (forest : Forest) {node other : Nat} (different : other ≠ node) :
    (forest.compress node).parent other = forest.parent other :=
  Function.update_of_ne different ..

/-- Compression changes no root. -/
@[simp] theorem root_compress (forest : Forest) (node : Nat) :
    (forest.compress node).root = forest.root := by
  refine root_eq_of _ (fun other fixed => ?_) fun other => ?_
  · by_cases same : other = node
    · subst same
      rwa [parent_compress_self] at fixed
    · rw [parent_compress_of_ne _ same] at fixed
      exact forest.root_of_fixed fixed
  · by_cases same : other = node
    · subst same
      rw [parent_compress_self, root_root]
    · rw [parent_compress_of_ne _ same, root_parent]

/-- Compress a list of nodes one after the other. -/
def compressAll (forest : Forest) (nodes : List Nat) : Forest :=
  nodes.foldl compress forest

@[simp] theorem root_compressAll (forest : Forest) (nodes : List Nat) :
    (forest.compressAll nodes).root = forest.root := by
  induction nodes generalizing forest with
  | nil => rfl
  | cons node rest inductionHypothesis =>
      exact (inductionHypothesis (forest.compress node)).trans
        (forest.root_compress node)

theorem parent_compressAll
    (forest : Forest) (nodes : List Nat) (node : Nat) :
    (forest.compressAll nodes).parent node =
      if node ∈ nodes then forest.root node else forest.parent node := by
  induction nodes generalizing forest with
  | nil => rfl
  | cons first rest inductionHypothesis =>
      have later := inductionHypothesis (forest.compress first)
      change ((forest.compress first).compressAll rest).parent node = _
      rw [later, root_compress]
      by_cases inRest : node ∈ rest
      · rw [if_pos inRest, if_pos (List.mem_cons_of_mem _ inRest)]
      · rw [if_neg inRest]
        by_cases same : node = first
        · subst same
          rw [parent_compress_self, if_pos (List.mem_cons_self ..)]
        · have absent : node ∉ first :: rest :=
            List.not_mem_cons_of_ne_of_not_mem same inRest
          rw [parent_compress_of_ne _ same, if_neg absent]

/-! ## Linking -/

/-- Hang a root under a smaller one. -/
def link (forest : Forest) (upper lower : Nat) (below : upper ≤ lower) :
    Forest where
  parent := Function.update forest.parent lower upper
  parent_le := fun other => by
    by_cases same : other = lower
    · subst same
      rwa [Function.update_self]
    · rw [Function.update_of_ne same]
      exact forest.parent_le other

theorem parent_link_self
    (forest : Forest) {upper lower : Nat} (below : upper ≤ lower) :
    (forest.link upper lower below).parent lower = upper :=
  Function.update_self ..

theorem parent_link_of_ne
    (forest : Forest) {upper lower other : Nat} (below : upper ≤ lower)
    (different : other ≠ lower) :
    (forest.link upper lower below).parent other = forest.parent other :=
  Function.update_of_ne different ..

theorem root_link
    (forest : Forest) {upper lower : Nat} (below : upper < lower)
    (upperRoot : forest.root upper = upper)
    (lowerRoot : forest.root lower = lower) (node : Nat) :
    (forest.link upper lower below.le).root node =
      if forest.root node = lower then upper else forest.root node := by
  have whole : (forest.link upper lower below.le).root = fun node =>
      if forest.root node = lower then upper else forest.root node := by
    refine root_eq_of _ (fun other fixed => ?_) fun other => ?_
    · by_cases same : other = lower
      · subst same
        rw [parent_link_self] at fixed
        omega
      · rw [parent_link_of_ne _ _ same] at fixed
        rw [forest.root_of_fixed fixed, if_neg same]
    · by_cases same : other = lower
      · subst same
        rw [parent_link_self, upperRoot, if_neg below.ne, lowerRoot,
          if_pos rfl]
      · rw [parent_link_of_ne _ _ same, root_parent]
  exact congrFun whole node

/-- Join the trees of two nodes, with both nodes hung under their roots. -/
def union (forest : Forest) (left right : Nat) : Forest :=
  let found := (forest.compress left).compress right
  let upper := min (forest.root left) (forest.root right)
  let lower := max (forest.root left) (forest.root right)
  if forest.root left = forest.root right then found
  else found.link upper lower min_le_max

/-- The roots after a union. -/
theorem root_union (forest : Forest) (left right node : Nat) :
    (forest.union left right).root node =
      if forest.root node = max (forest.root left) (forest.root right) then
        min (forest.root left) (forest.root right)
      else forest.root node := by
  unfold union
  by_cases same : forest.root left = forest.root right
  · rw [if_pos same, same, root_compress, root_compress, max_self, min_self]
    split
    · assumption
    · rfl
  · have below : min (forest.root left) (forest.root right) <
        max (forest.root left) (forest.root right) := min_lt_max.mpr same
    have isRoot (value : Nat)
        (either : value = forest.root left ∨ value = forest.root right) :
        forest.root value = value := by
      rcases either with rfl | rfl
      · exact forest.root_root left
      · exact forest.root_root right
    rw [if_neg same, root_link _ below]
    · simp only [root_compress]
    · simp only [root_compress]
      exact isRoot _ (min_choice _ _)
    · simp only [root_compress]
      exact isRoot _ (max_choice _ _)

/-- A union moves only its nodes and the larger of their roots. -/
theorem parent_union_of_ne
    (forest : Forest) {left right node : Nat}
    (notLeft : node ≠ left) (notRight : node ≠ right)
    (notLower : node ≠ max (forest.root left) (forest.root right)) :
    (forest.union left right).parent node = forest.parent node := by
  have found : ((forest.compress left).compress right).parent node =
      forest.parent node := by
    rw [parent_compress_of_ne _ notRight, parent_compress_of_ne _ notLeft]
  unfold union
  by_cases same : forest.root left = forest.root right
  · rw [if_pos same]
    exact found
  · rw [if_neg same]
    exact (parent_link_of_ne _ _ notLower).trans found

/-! ## Trees as equivalence classes -/

/-- The trees are the classes of the equivalence that a relation generates. -/
def Represents (forest : Forest) (related : Nat -> Nat -> Prop) : Prop :=
  ∀ first second,
    forest.root first = forest.root second ↔
      Relation.EqvGen related first second

theorem represents_discrete : discrete.Represents fun _ _ => False := by
  intro first second
  rw [root_discrete, root_discrete]
  constructor
  · rintro rfl
    exact .refl _
  · intro generated
    induction generated with
    | rel _ _ impossible => exact impossible.elim
    | refl => rfl
    | symm _ _ _ inductionHypothesis => exact inductionHypothesis.symm
    | trans _ _ _ _ _ first second => exact first.trans second

theorem Represents.congr
    {forest : Forest} {related other : Nat -> Nat -> Prop}
    (represents : forest.Represents related)
    (same : ∀ first second, related first second ↔ other first second) :
    forest.Represents other := by
  have equal : related = other :=
    funext fun first => funext fun second => propext (same first second)
  exact equal ▸ represents

/-- Only the roots count. -/
theorem Represents.of_root
    {forest other : Forest} {related : Nat -> Nat -> Prop}
    (represents : forest.Represents related)
    (sameRoots : other.root = forest.root) : other.Represents related := by
  intro first second
  rw [sameRoots]
  exact represents first second

/-- A union adds one pair to the relation. -/
theorem Represents.union
    {forest : Forest} {related : Nat -> Nat -> Prop}
    (represents : forest.Represents related) (left right : Nat) :
    (forest.union left right).Represents fun first second =>
      related first second ∨ (first = left ∧ second = right) := by
  have joined : (forest.union left right).root left =
      (forest.union left right).root right := by
    rw [root_union, root_union]
    rcases max_choice (forest.root left) (forest.root right) with
      isLeft | isRight
    · rw [if_pos isLeft.symm]
      split
      · rfl
      · rename_i different
        exact min_eq_right (max_eq_left_iff.mp isLeft)
    · rw [if_pos isRight.symm]
      split
      · rfl
      · exact (min_eq_left (max_eq_right_iff.mp isRight)).symm
  have kept {first second : Nat}
      (same : forest.root first = forest.root second) :
      (forest.union left right).root first =
        (forest.union left right).root second := by
    rw [root_union, root_union, same]
  have wider {first second : Nat} (generated : Relation.EqvGen related first
      second) : Relation.EqvGen (fun first second =>
        related first second ∨ (first = left ∧ second = right))
          first second :=
    generated.mono fun _ _ => Or.inl
  have toRoot (node : Nat) : Relation.EqvGen related node
      (forest.root node) :=
    (represents _ _).mp (forest.root_root node).symm
  have pair : Relation.EqvGen (fun first second =>
      related first second ∨ (first = left ∧ second = right))
        (forest.root left) (forest.root right) :=
    .trans _ _ _ (wider (.symm _ _ (toRoot left)))
      (.trans _ _ _ (.rel _ _ (.inr ⟨rfl, rfl⟩)) (wider (toRoot right)))
  have toNew (node : Nat) : Relation.EqvGen (fun first second =>
      related first second ∨ (first = left ∧ second = right))
        node ((forest.union left right).root node) := by
    rw [root_union]
    split
    · rename_i isLower
      refine .trans _ _ _ (wider (toRoot node)) ?_
      rw [isLower]
      rcases le_total (forest.root left) (forest.root right) with
        below | above
      · rw [max_eq_right below, min_eq_left below]
        exact .symm _ _ pair
      · rw [max_eq_left above, min_eq_right above]
        exact pair
    · exact wider (toRoot node)
  intro first second
  constructor
  · intro same
    exact .trans _ _ _ (toNew first)
      (same ▸ .symm _ _ (toNew second))
  · intro generated
    induction generated with
    | rel _ _ either =>
        rcases either with related | ⟨rfl, rfl⟩
        · exact kept ((represents _ _).mpr (.rel _ _ related))
        · exact joined
    | refl => rfl
    | symm _ _ _ inductionHypothesis => exact inductionHypothesis.symm
    | trans _ _ _ _ _ first second => exact first.trans second

/-- A root is the least node of its class. -/
theorem Represents.isLeast
    {forest : Forest} {related : Nat -> Nat -> Prop}
    (represents : forest.Represents related) (node : Nat) :
    IsLeast {other | Relation.EqvGen related other node}
      (forest.root node) := by
  refine ⟨(represents _ _).mp (forest.root_root node), ?_⟩
  intro other generated
  rw [← (represents _ _).mpr generated]
  exact forest.root_le other

/-! ## Counting roots -/

/-- The roots among the nodes from one to a bound. -/
def roots (forest : Forest) (bound : Nat) : Finset Nat :=
  (Finset.Icc 1 bound).filter fun node => forest.root node = node

theorem roots_of_root
    {forest other : Forest} (sameRoots : other.root = forest.root)
    (bound : Nat) : other.roots bound = forest.roots bound := by
  unfold roots
  rw [sameRoots]

theorem roots_discrete (bound : Nat) :
    discrete.roots bound = Finset.Icc 1 bound := by
  refine Finset.filter_true_of_mem fun node _ => ?_
  exact root_discrete node

/-- A union of two trees has one root less. -/
theorem card_roots_union
    (forest : Forest) {left right bound : Nat}
    (different : forest.root left ≠ forest.root right)
    (leftRoot : 1 ≤ forest.root left)
    (leftBound : left ≤ bound) (rightBound : right ≤ bound) :
    ((forest.union left right).roots bound).card + 1 =
      (forest.roots bound).card := by
  have below : min (forest.root left) (forest.root right) <
      max (forest.root left) (forest.root right) := min_lt_max.mpr different
  have lowerRoot : forest.root (max (forest.root left) (forest.root right)) =
      max (forest.root left) (forest.root right) := by
    rcases max_choice (forest.root left) (forest.root right) with
      equal | equal <;> rw [equal, root_root]
  have member : max (forest.root left) (forest.root right) ∈
      forest.roots bound := by
    rw [roots, Finset.mem_filter, Finset.mem_Icc]
    refine ⟨⟨leftRoot.trans (le_max_left _ _), ?_⟩, lowerRoot⟩
    exact max_le ((forest.root_le left).trans leftBound)
      ((forest.root_le right).trans rightBound)
  have erased : (forest.union left right).roots bound =
      (forest.roots bound).erase
        (max (forest.root left) (forest.root right)) := by
    ext node
    simp only [roots, Finset.mem_filter, Finset.mem_erase, root_union]
    by_cases isLower : node = max (forest.root left) (forest.root right)
    · subst isLower
      rw [lowerRoot, if_pos rfl]
      exact ⟨fun both => absurd both.2 below.ne, fun both => absurd rfl both.1⟩
    · constructor
      · rintro ⟨inside, fixed⟩
        split at fixed
        · rename_i lower
          have upperRoot : forest.root node = node := by
            rw [← fixed]
            rcases min_choice (forest.root left) (forest.root right) with
              equal | equal <;> rw [equal, root_root]
          exact absurd (upperRoot.symm.trans lower) isLower
        · exact ⟨isLower, inside, fixed⟩
      · rintro ⟨-, inside, fixed⟩
        refine ⟨inside, ?_⟩
        rw [if_neg (fixed.symm ▸ isLower)]
        exact fixed
  rw [erased]
  exact Finset.card_erase_add_one member

/-- A union inside one tree has the same roots. -/
theorem roots_union_of_eq
    (forest : Forest) {left right : Nat} (bound : Nat)
    (same : forest.root left = forest.root right) :
    (forest.union left right).roots bound = forest.roots bound := by
  unfold roots
  refine Finset.filter_congr fun node _ => ?_
  rw [union, if_pos same, root_compress, root_compress]

end Forest
end UnionFind
end CodingLlm
