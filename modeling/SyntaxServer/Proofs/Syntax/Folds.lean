import Mathlib.Order.Bounds.Basic
import SyntaxServer.Proofs.Store.Sample
import SyntaxServer.Proofs.Syntax.WellFormed
import SyntaxServer.Syntax.Fold

/-! # The folds of a tree

The nodes are gone through in pre-order, and on every row the first that reaches behind it is folded. In a well-formed
tree the rows on which nodes start do not fall on this way, and what starts later on the same row lies within.
-/
namespace SyntaxServer

namespace Node

variable {m n : Node}

theorem foldable_iff : n.foldable = true ↔ n.named = true ∧ n.start.row < n.lastRow := by
  simp [foldable]

theorem lastRow_le (n : Node) : n.lastRow ≤ n.stop.row := by
  unfold lastRow
  split
  · exact Nat.sub_le _ _
  · exact le_rfl

theorem lastRow_mono (h : m.stop ≤ n.stop) : m.lastRow ≤ n.lastRow := by
  unfold lastRow
  rcases Point.le_def.1 h with hrow | ⟨hrow,hcolumn⟩
  · split <;> split <;> omega
  · split <;> split <;> omega

end Node

namespace FoldRange

/-- The folds of nodes in their order, when folds already start on the rows `taken`. -/
def ofNodes (taken : List Nat) : List Node → List FoldRange
  | [] => []
  | n :: ns =>
    if n.foldable && !taken.contains n.start.row then
      n.foldRange :: ofNodes (n.start.row :: taken) ns
    else ofNodes taken ns

variable {taken : List Nat} {ns : List Node} {n : Node} {f : FoldRange}

/-- A fold is that of a node before which none was folded on its row. -/
theorem exists_of_mem_ofNodes (h : f ∈ ofNodes taken ns) : ∃ before n after, ns = before ++ n :: after ∧
    f = n.foldRange ∧ n.foldable ∧ n.start.row ∉ taken ∧ ∀ m ∈ before, m.foldable → m.start.row ≠ n.start.row := by
  induction ns generalizing taken with
  | nil => exact absurd h List.not_mem_nil
  | cons k ns ih =>
    rw [ofNodes] at h
    split at h
    · next hkept =>
      obtain ⟨hfold,hrow⟩ : k.foldable ∧ k.start.row ∉ taken := by simpa using hkept
      rcases List.mem_cons.1 h with rfl | h
      · exact ⟨[],k,ns,rfl,rfl,hfold,hrow,fun m hm => absurd hm List.not_mem_nil⟩
      · obtain ⟨before,n,after,rfl,hf,hn,htaken,hbefore⟩ := ih h
        obtain ⟨hne,htaken⟩ := List.ne_and_not_mem_of_not_mem_cons htaken
        refine ⟨k :: before,n,after,rfl,hf,hn,htaken,?_⟩
        intro m hm hfolded
        rcases List.mem_cons.1 hm with rfl | hm
        · exact Ne.symm hne
        · exact hbefore m hm hfolded
    · next hskipped =>
      obtain ⟨before,n,after,rfl,hf,hn,htaken,hbefore⟩ := ih h
      refine ⟨k :: before,n,after,rfl,hf,hn,htaken,?_⟩
      intro m hm hfolded
      rcases List.mem_cons.1 hm with rfl | hm
      · -- it was skipped, so its row was taken
        intro heq
        exact hskipped (by simpa [hfolded, heq] using htaken)
      · exact hbefore m hm hfolded

theorem exists_mem_ofNodes (hmem : n ∈ ns) (hn : n.foldable) (htaken : n.start.row ∉ taken) :
    ∃ m ∈ ns, m.start.row = n.start.row ∧ m.foldRange ∈ ofNodes taken ns := by
  induction ns generalizing taken with
  | nil => exact absurd hmem List.not_mem_nil
  | cons k ns ih =>
    rw [ofNodes]
    rcases List.mem_cons.1 hmem with rfl | hmem
    · have hkept : (n.foldable && !taken.contains n.start.row) = true := by simp [hn, htaken]
      rw [if_pos hkept]
      exact ⟨n,List.mem_cons_self,rfl,List.mem_cons_self⟩
    · split
      · by_cases hrow : k.start.row = n.start.row
        · exact ⟨k,List.mem_cons_self,hrow,List.mem_cons_self⟩
        · obtain ⟨m,hm,hrow,hfold⟩ := ih hmem (List.not_mem_cons_of_ne_of_not_mem (Ne.symm hrow) htaken)
          exact ⟨m,List.mem_cons_of_mem _ hm,hrow,List.mem_cons_of_mem _ hfold⟩
      · obtain ⟨m,hm,hrow,hfold⟩ := ih hmem htaken
        exact ⟨m,List.mem_cons_of_mem _ hm,hrow,hfold⟩

theorem pairwise_ofNodes (hrows : ns.Pairwise fun m n => m.start.row ≤ n.start.row)
    (hfits : ∀ n ∈ ns, n.start.row < UInt32.size) :
    (ofNodes taken ns).Pairwise fun f g => f.startLine < g.startLine := by
  induction ns generalizing taken with
  | nil => exact List.Pairwise.nil
  | cons n ns ih =>
    obtain ⟨hle,hrows⟩ := List.pairwise_cons.1 hrows
    have hrest : ∀ m ∈ ns, m.start.row < UInt32.size := fun m hm => hfits m (List.mem_cons_of_mem _ hm)
    rw [ofNodes]
    split
    · refine List.pairwise_cons.2 ⟨?_,ih hrows hrest⟩
      intro f hf
      obtain ⟨before,m,after,rfl,rfl,_,htaken,_⟩ := exists_of_mem_ofNodes hf
      have hm : m ∈ before ++ m :: after := List.mem_append_cons_self
      -- the rows do not fall, and the row of the first is taken
      have hne : m.start.row ≠ n.start.row := List.ne_of_not_mem_cons htaken
      have hlt : n.start.row < m.start.row := lt_of_le_of_ne (hle m hm) (Ne.symm hne)
      rw [Node.foldRange, Node.foldRange, low32_eq (hfits n List.mem_cons_self), low32_eq (hrest m hm)]
      exact hlt
    · exact ih hrows hrest

end FoldRange

namespace Folds

variable {folds : Folds} {ns : List Node} {c : Cursor}

theorem ranges_foldl_visit : (ns.foldl visit folds).ranges = folds.ranges ++ FoldRange.ofNodes folds.starts ns := by
  induction ns generalizing folds with
  | nil => simp [FoldRange.ofNodes]
  | cons n ns ih =>
    rw [List.foldl_cons, ih, visit, FoldRange.ofNodes]
    split
    · simp
    · rfl

/-- A walk below the root visits all that is ahead, in pre-order. -/
theorem walk_eq_foldl (h : c.isRoot = false) : folds.walk c = c.ahead.foldl visit folds := by
  fun_induction walk folds c with
  | case1 folds c visited next hnext _ ih =>
    rw [Cursor.ahead_eq, hnext]
    simpa [visited, h] using ih (Cursor.isRoot_of_next? hnext)
  | case2 folds c visited hnone =>
    rw [Cursor.ahead_eq, hnone]
    simp [visited, h]

/-- A walk from the root visits the nodes below it, in pre-order. -/
theorem walk_root (t : Tree) : folds.walk (.root t) = (Tree.forestNodes t.children).foldl visit folds := by
  have hahead : Tree.forestNodes t.children = ((Cursor.root t).next?.map Cursor.ahead).getD [] := by
    have hroot := Cursor.ahead_eq (.root t)
    rw [Cursor.ahead, Cursor.tree, Tree.nodes_eq, Cursor.behind, List.append_nil] at hroot
    exact List.tail_eq_of_cons_eq hroot
  rw [walk, hahead]
  split
  · next hnext =>
    rw [walk_eq_foldl (Cursor.isRoot_of_next? hnext), hnext]
    rfl
  · next hnone =>
    rw [hnone]
    rfl

end Folds

namespace Tree

variable {t : Tree} {n : Node} {f : FoldRange}

theorem folds_eq (t : Tree) : t.folds = FoldRange.ofNodes [] (forestNodes t.children) := by
  rw [folds, Folds.walk_root, Folds.ranges_foldl_visit]
  rfl

theorem mem_nodes_of_mem_forestNodes (h : n ∈ forestNodes t.children) : n ∈ t.nodes := by
  rw [nodes_eq]
  exact List.mem_cons_of_mem _ h

theorem exists_of_mem_folds (h : f ∈ t.folds) :
    ∃ n ∈ forestNodes t.children, f = n.foldRange ∧ n.named = true ∧ n.start.row < n.lastRow := by
  obtain ⟨before,n,after,hsplit,hf,hfold,_⟩ := FoldRange.exists_of_mem_ofNodes (folds_eq t ▸ h)
  obtain ⟨hnamed,hlt⟩ := Node.foldable_iff.1 hfold
  have hn : n ∈ forestNodes t.children := by
    rw [hsplit]
    exact List.mem_append_cons_self
  exact ⟨n,hn,hf,hnamed,hlt⟩

namespace WellFormed

variable (h : t.WellFormed) (hrows : t.root.stop.row < UInt32.size)

include h

theorem pairwise_forestNodes :
    (forestNodes t.children).Pairwise fun m n => m.start ≤ n.start ∧ (n.stop ≤ m.stop ∨ m.stop ≤ n.start) := by
  have hnodes := h.pairwise_nodes
  rw [nodes_eq] at hnodes
  exact (List.pairwise_cons.1 hnodes).2

include hrows

theorem row_lt (hn : n ∈ t.nodes) : n.start.row < UInt32.size ∧ n.stop.row < UInt32.size := by
  obtain ⟨a,s,hs,rfl⟩ := exists_subtree?_of_mem_nodes hn
  obtain ⟨hwell,_,hstop⟩ := h.of_subtree? hs
  have hend : s.root.stop.row < UInt32.size := (Point.row_le hstop).trans_lt hrows
  exact ⟨(Point.row_le hwell.start_le).trans_lt hend,hend⟩

theorem foldRange_eq (hn : n ∈ forestNodes t.children) : n.foldRange = ⟨n.start.row,n.lastRow⟩ := by
  obtain ⟨hstart,hstop⟩ := h.row_lt hrows (mem_nodes_of_mem_forestNodes hn)
  rw [Node.foldRange, low32_eq hstart, low32_eq (n.lastRow_le.trans_lt hstop)]

/-- A fold reaches as far as any node that starts on its row and reaches behind it. -/
theorem isGreatest_of_mem_folds {row last : Nat} (hf : ⟨row,last⟩ ∈ t.folds) :
    IsGreatest {r | ∃ n ∈ forestNodes t.children, n.named = true ∧ n.start.row = row ∧ row < n.lastRow ∧ r = n.lastRow}
      last := by
  obtain ⟨before,n,after,hsplit,heq,hfold,_,hbefore⟩ := FoldRange.exists_of_mem_ofNodes (folds_eq t ▸ hf)
  have hn : n ∈ forestNodes t.children := by
    rw [hsplit]
    exact List.mem_append_cons_self
  rw [h.foldRange_eq hrows hn, FoldRange.mk.injEq] at heq
  obtain ⟨rfl,rfl⟩ := heq
  obtain ⟨hnamed,hlt⟩ := Node.foldable_iff.1 hfold
  refine ⟨⟨n,hn,hnamed,rfl,hlt,rfl⟩,?_⟩
  rintro r ⟨m,hm,hmnamed,hrow,hmlt,rfl⟩
  have hpairs := h.pairwise_forestNodes
  rw [hsplit] at hm hpairs
  rcases List.mem_append.1 hm with hm | hm
  · -- it would have been folded in the place of the node
    have hmfold : m.foldable = true := Node.foldable_iff.2 ⟨hmnamed,by rw [hrow]; exact hmlt⟩
    exact absurd hrow (hbefore m hm hmfold)
  · rcases List.mem_cons.1 hm with rfl | hm
    · exact le_rfl
    · have hafter := (List.pairwise_cons.1 (List.pairwise_append.1 hpairs).2.1).1 m hm
      rcases hafter.2 with hwithin | hbehind
      · exact Node.lastRow_mono hwithin
      · -- a node behind the end does not start on the row, for the end is on a later one
        have hend := n.lastRow_le
        have hstart := Point.row_le hbehind
        omega

end WellFormed

/-- The folds of a tree: in ascending order, one for each row on which a named node below the root starts that reaches
behind it, and as far as the farthest of them. -/
theorem mem_folds_iff_isGreatest (h : t.WellFormed) (hrows : t.root.stop.row < UInt32.size) :
    (t.folds.Pairwise fun f g => f.startLine < g.startLine) ∧ ∀ row last, ⟨row,last⟩ ∈ t.folds ↔
      IsGreatest {r | ∃ n ∈ forestNodes t.children, n.named = true ∧ n.start.row = row ∧ row < n.lastRow ∧
        r = n.lastRow} last := by
  constructor
  · rw [folds_eq]
    refine FoldRange.pairwise_ofNodes (h.pairwise_forestNodes.imp ?_) ?_
    · rintro m n ⟨hle,_⟩
      exact Point.row_le hle
    · intro n hn
      exact (h.row_lt hrows (mem_nodes_of_mem_forestNodes hn)).1
  · intro row last
    constructor
    · exact h.isGreatest_of_mem_folds hrows
    · intro hlast
      obtain ⟨n,hn,hnamed,hrow,hlt,_⟩ := hlast.1
      have hfold : n.foldable = true := Node.foldable_iff.2 ⟨hnamed,by rw [hrow]; exact hlt⟩
      obtain ⟨m,hm,hmrow,hmem⟩ := FoldRange.exists_mem_ofNodes hn hfold List.not_mem_nil
      rw [h.foldRange_eq hrows hm, hmrow, hrow, ← folds_eq] at hmem
      rw [hlast.unique (h.isGreatest_of_mem_folds hrows hmem)]
      exact hmem

/-- Two tables, the first up to the first column of a later row, and in the first a list that starts on the row of the
pair it stands in. -/
def twoTables : Tree :=
  let span := Engine.spanNode "[t]\na=[\n1]\n[u]\nb=1".toList
  node (span "document" 0 18) [node (span "table" 0 11) [node (span "pair" 4 10) [node (span "array" 6 10) []]],
    node (span "table" 11 18) [node (span "pair" 15 18) []]]

theorem mem_folds_iff_isGreatest_twoTables :
    twoTables.WellFormed ∧ twoTables.root.stop.row < UInt32.size ∧ twoTables.folds = [⟨0,2⟩,⟨1,2⟩,⟨3,4⟩] ∧
    (twoTables.folds.Pairwise fun f g => f.startLine < g.startLine) ∧
    (⟨0,2⟩ ∈ twoTables.folds ↔ IsGreatest {r | ∃ n ∈ forestNodes twoTables.children, n.named = true ∧ n.start.row = 0 ∧
      0 < n.lastRow ∧ r = n.lastRow} 2) := by
  have hwell : twoTables.WellFormed := by decide +kernel
  have hrows : twoTables.root.stop.row < UInt32.size := by decide +kernel
  obtain ⟨hascending,hgreatest⟩ := mem_folds_iff_isGreatest hwell hrows
  exact ⟨hwell,hrows,by decide +kernel,hascending,hgreatest 0 2⟩

end Tree

end SyntaxServer
