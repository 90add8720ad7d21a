import SyntaxServer.Proofs.Syntax.Address
import SyntaxServer.Proofs.Text.Order

/-! # Well-formed trees

The places of the nodes fit into each other: no node ends before it starts, children lie within their parent and
follow each other. Each of these speaks of a node and its children alone and so holds of every part of a tree.
-/
namespace SyntaxServer

theorem Node.covers_iff {n : Node} {p : Point} : n.covers p = true ↔ n.start ≤ p ∧ p ≤ n.stop :=
  Point.within_eq_true_iff

namespace Tree

/-- No node ends before it starts, children lie within their parent, and no child starts before the one before it
has ended. -/
inductive WellFormed : Tree → Prop where
  | node {n : Node} {ts : List Tree} (start_le_stop : n.start ≤ n.stop)
      (within : ∀ t ∈ ts, n.start ≤ t.root.start ∧ t.root.stop ≤ n.stop)
      (siblings : ts.IsChain fun t u => t.root.stop ≤ u.root.start)
      (children : ∀ t ∈ ts, WellFormed t) : WellFormed (node n ts)

theorem wellFormed_node_iff {n : Node} {ts : List Tree} :
    (node n ts).WellFormed ↔ n.start ≤ n.stop ∧ (∀ t ∈ ts, n.start ≤ t.root.start ∧ t.root.stop ≤ n.stop) ∧
      (ts.IsChain fun t u => t.root.stop ≤ u.root.start) ∧ ∀ t ∈ ts, t.WellFormed := by
  constructor
  · rintro ⟨hle,hwithin,hsiblings,hchildren⟩
    exact ⟨hle,hwithin,hsiblings,hchildren⟩
  · rintro ⟨hle,hwithin,hsiblings,hchildren⟩
    exact ⟨hle,hwithin,hsiblings,hchildren⟩

mutual

def decideWellFormed : (t : Tree) → Decidable t.WellFormed
  | node _ ts =>
    have := decideForestWellFormed ts
    decidable_of_iff _ wellFormed_node_iff.symm

def decideForestWellFormed : (ts : List Tree) → Decidable (∀ t ∈ ts, t.WellFormed)
  | [] => isTrue fun _ h => nomatch h
  | t :: ts =>
    have := decideWellFormed t
    have := decideForestWellFormed ts
    decidable_of_iff (t.WellFormed ∧ ∀ u ∈ ts, u.WellFormed) List.forall_mem_cons.symm

end

instance : DecidablePred WellFormed := decideWellFormed

namespace WellFormed

variable {t s : Tree} {n : Node} {ts : List Tree} {a : Address}

theorem start_le (h : t.WellFormed) : t.root.start ≤ t.root.stop := by
  cases h with
  | node hle _ _ _ => exact hle

/-- Whatever stands between them, an earlier sibling ends before a later one starts. -/
theorem pairwise_of_isChain (hchain : ts.IsChain fun t u => t.root.stop ≤ u.root.start)
    (hwell : ∀ t ∈ ts, t.WellFormed) : ts.Pairwise fun t u => t.root.stop ≤ u.root.start := by
  induction hchain with
  | nil => exact List.Pairwise.nil
  | singleton t => exact List.pairwise_singleton _ t
  | @cons_cons t u rest htu _ ih =>
    have hrest := ih fun v hv => hwell v (List.mem_cons_of_mem _ hv)
    refine List.pairwise_cons.2 ⟨?_,hrest⟩
    intro v hv
    rcases List.mem_cons.1 hv with rfl | hv
    · exact htu
    · have hu := (hwell u (by simp)).start_le
      exact htu.trans (hu.trans ((List.pairwise_cons.1 hrest).1 v hv))

theorem of_subtree? (h : t.WellFormed) (hs : t.subtree? a = some s) :
    s.WellFormed ∧ t.root.start ≤ s.root.start ∧ s.root.stop ≤ t.root.stop := by
  induction a generalizing t with
  | nil =>
    obtain rfl : t = s := by simpa using hs
    exact ⟨h,le_rfl,le_rfl⟩
  | cons i a ih =>
    cases h with
    | node hle hwithin hsiblings hchildren =>
      obtain ⟨u,hu,hs⟩ := subtree?_cons_eq_some_iff.1 hs
      have hmem := List.mem_of_getElem? hu
      obtain ⟨hwell,hstart,hstop⟩ := ih (hchildren u hmem) hs
      exact ⟨hwell,(hwithin u hmem).1.trans hstart,hstop.trans (hwithin u hmem).2⟩

/-- Of two nodes neither of which stands above the other, the one that comes first ends before the other starts. -/
theorem stop_le_start {u : Tree} {b : Address} (h : t.WellFormed) (hs : t.subtree? a = some s)
    (hu : t.subtree? b = some u) (hlt : a < b) (hab : ¬ a <+: b) : s.root.stop ≤ u.root.start := by
  induction a generalizing t b with
  | nil => exact absurd List.nil_prefix hab
  | cons i a ih =>
    cases h with
    | @node n ts hle hwithin hsiblings hchildren =>
      cases b with
      | nil => exact absurd hlt (List.not_lt_nil _)
      | cons j b =>
        obtain ⟨v,hv,hs⟩ := subtree?_cons_eq_some_iff.1 hs
        obtain ⟨w,hw,hu⟩ := subtree?_cons_eq_some_iff.1 hu
        rcases List.cons_lt_cons_iff.1 hlt with hij | ⟨rfl,htail⟩
        · -- the nodes lie within two children that follow each other
          have hsibling : v.root.stop ≤ w.root.start := by
            obtain ⟨hi,rfl⟩ := List.getElem?_eq_some_iff.1 hv
            obtain ⟨hj,rfl⟩ := List.getElem?_eq_some_iff.1 hw
            exact List.pairwise_iff_getElem.1 (pairwise_of_isChain hsiblings hchildren) i j hi hj hij
          have hstop := ((hchildren v (List.mem_of_getElem? hv)).of_subtree? hs).2.2
          have hstart := ((hchildren w (List.mem_of_getElem? hw)).of_subtree? hu).2.1
          exact hstop.trans (hsibling.trans hstart)
        · obtain rfl : v = w := Option.some.inj (hv.symm.trans hw)
          have hab' : ¬ a <+: b := fun htails => hab (List.cons_prefix_cons.2 ⟨rfl,htails⟩)
          exact ih (hchildren v (List.mem_of_getElem? hv)) hs hu htail hab'

/-- In pre-order a later node lies below an earlier one or behind it. -/
theorem pairwise_nodes (h : t.WellFormed) :
    t.nodes.Pairwise fun m n => m.start ≤ n.start ∧ (n.stop ≤ m.stop ∨ m.stop ≤ n.start) := by
  have hplaces : (t.addresses.map fun a => (t.subtree? a).map root).Pairwise fun x y =>
      ∀ m ∈ x, ∀ n ∈ y, m.start ≤ n.start ∧ (n.stop ≤ m.stop ∨ m.stop ≤ n.start) := by
    rw [List.pairwise_map]
    refine (pairwise_addresses t).imp ?_
    intro a b hlt m hm n hn
    obtain ⟨s,hs,rfl⟩ := Option.map_eq_some_iff.1 hm
    obtain ⟨u,hu,rfl⟩ := Option.map_eq_some_iff.1 hn
    by_cases hab : a <+: b
    · obtain ⟨c,rfl⟩ := hab
      rw [subtree?_append, hs, Option.bind_some] at hu
      obtain ⟨_,hstart,hstop⟩ := (h.of_subtree? hs).1.of_subtree? hu
      exact ⟨hstart,Or.inl hstop⟩
    · have hbehind := h.stop_le_start hs hu hlt hab
      exact ⟨((h.of_subtree? hs).1.start_le).trans hbehind,Or.inr hbehind⟩
  rw [map_addresses, List.pairwise_map] at hplaces
  exact hplaces.imp fun hmn => hmn _ rfl _ rfl

end WellFormed

/-- All nodes of a tree start and end at points of a text. -/
def LiesOn (t : Tree) (text : Text) : Prop := ∀ n ∈ t.nodes, text.HasPoint n.start ∧ text.HasPoint n.stop

instance (t : Tree) (text : Text) : Decidable (t.LiesOn text) :=
  inferInstanceAs (Decidable (∀ n ∈ t.nodes, _))

end Tree

end SyntaxServer
