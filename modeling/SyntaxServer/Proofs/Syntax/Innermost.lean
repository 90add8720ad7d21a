import SyntaxServer.Proofs.Store.Sample
import SyntaxServer.Proofs.Syntax.WellFormed

/-! # The innermost node at a point

From the root on, the first child that covers the point is entered. In a well-formed tree nothing is missed on this
way: whatever covers the point lies around the node that is found, or touches the point with its start alone and
comes later.
-/
namespace SyntaxServer

namespace Tree

/-- The node at an address is the innermost one at a point: it covers the point and nothing below it does, and
whatever else covers the point lies around it, or touches the point with its start and comes later in pre-order. -/
structure IsInnermost (t : Tree) (p : Point) (a : Address) (s : Tree) : Prop where
  subtree_eq : t.subtree? a = some s
  covers : s.root.covers p
  below : ∀ b u, b ≠ [] → s.subtree? b = some u → ¬ u.root.covers p
  elsewhere : ∀ b u, t.subtree? b = some u → u.root.covers p → ¬ b <+: a → u.root.start = p ∧ t.Precedes a b

variable {t s : Tree} {n : Node} {ts : List Tree} {a : Address} {p : Point}

theorem locateIn_eq (p : Point) (ancestors : List String) (ts : List Tree) :
    locateIn p ancestors ts = (ts.find? (·.root.covers p)).map (locate p ancestors) := by
  induction ts with
  | nil => rfl
  | cons t ts ih =>
    rw [locateIn, ih, List.find?_cons]
    cases t.root.covers p <;> rfl

theorem isInnermost_root (h : (node n ts).WellFormed) (hp : n.covers p) (hnone : ∀ t ∈ ts, ¬ t.root.covers p) :
    (node n ts).IsInnermost p [] (node n ts) := by
  have hbelow : ∀ b u, b ≠ [] → (node n ts).subtree? b = some u → ¬ u.root.covers p := by
    intro b u hb hu hcovers
    obtain ⟨i,b,rfl⟩ := List.exists_cons_of_ne_nil hb
    obtain ⟨t,ht,hu⟩ := subtree?_cons_eq_some_iff.1 hu
    have hmem := List.mem_of_getElem? ht
    obtain ⟨_,hstart,hstop⟩ := ((wellFormed_node_iff.1 h).2.2.2 t hmem).of_subtree? hu
    obtain ⟨hle,hge⟩ := Node.covers_iff.1 hcovers
    exact hnone t hmem (Node.covers_iff.2 ⟨hstart.trans hle,hge.trans hstop⟩)
  refine ⟨subtree?_nil _,hp,hbelow,?_⟩
  intro b u hu hcovers hb
  have hne : b ≠ [] := by
    rintro rfl
    exact hb List.prefix_rfl
  exact absurd hcovers (hbelow b u hne hu)

/-- The innermost node of the first child that covers the point is the innermost node of the tree. -/
theorem IsInnermost.cons {i : Nat} (hwell : (node n ts).WellFormed) (ht : ts[i]? = some t)
    (hfirst : ∀ j u, j < i → ts[j]? = some u → ¬ u.root.covers p) (h : t.IsInnermost p a s) :
    (node n ts).IsInnermost p (i :: a) s := by
  have hchildren := (wellFormed_node_iff.1 hwell).2.2.2
  have hs : (node n ts).subtree? (i :: a) = some s := subtree?_cons_eq_some_iff.2 ⟨t,ht,h.subtree_eq⟩
  refine ⟨hs,h.covers,h.below,?_⟩
  intro b v hv hcovers hb
  cases b with
  | nil => exact absurd List.nil_prefix hb
  | cons j b =>
    obtain ⟨u,hu,huv⟩ := subtree?_cons_eq_some_iff.1 hv
    obtain ⟨_,hstart,hstop⟩ := (hchildren u (List.mem_of_getElem? hu)).of_subtree? huv
    obtain ⟨hle,hge⟩ := Node.covers_iff.1 hcovers
    rcases Nat.lt_trichotomy j i with hlt | rfl | hgt
    · -- an earlier child would have been entered
      exact absurd (Node.covers_iff.2 ⟨hstart.trans hle,hge.trans hstop⟩) (hfirst j u hlt hu)
    · obtain rfl : t = u := Option.some.inj (ht.symm.trans hu)
      have hb' : ¬ b <+: a := fun hab => hb (List.cons_prefix_cons.2 ⟨rfl,hab⟩)
      obtain ⟨hpoint,hprecedes⟩ := h.elsewhere b v huv hcovers hb'
      have hlt := (precedes_iff_lt h.subtree_eq huv).1 hprecedes
      exact ⟨hpoint,(precedes_iff_lt hs hv).2 (List.cons_lt_cons_iff.2 (Or.inr ⟨rfl,hlt⟩))⟩
    · -- what lies in a later child starts behind the end of the node, which is not before the point
      have hlt : i :: a < j :: b := List.cons_lt_cons_iff.2 (Or.inl hgt)
      have hbehind := hwell.stop_le_start hs hv hlt fun hab => hgt.ne (List.cons_prefix_cons.1 hab).1
      have hpoint : p ≤ v.root.start := (Node.covers_iff.1 h.covers).2.trans hbehind
      exact ⟨le_antisymm hle hpoint,(precedes_iff_lt hs hv).2 hlt⟩

/-- From a node that covers a point the innermost one is found, with the kinds of the nodes above it. -/
theorem WellFormed.exists_innermost (h : t.WellFormed) (hp : t.root.covers p) (ancestors : List String) :
    ∃ a s, t.IsInnermost p a s ∧ t.locate p ancestors = ⟨s.root,t.kindsAbove a ++ ancestors⟩ := by
  induction h generalizing ancestors with
  | @node n ts hle hwithin hsiblings hchildren ih =>
    have hwell : (Tree.node n ts).WellFormed := .node hle hwithin hsiblings hchildren
    cases hfind : ts.find? (·.root.covers p) with
    | none =>
      have hnone : ∀ t ∈ ts, ¬ t.root.covers p := List.find?_eq_none.1 hfind
      refine ⟨[],.node n ts,isInnermost_root hwell hp hnone,?_⟩
      rw [locate, locateIn_eq, hfind]
      rfl
    | some t =>
      obtain ⟨ht,i,hi,rfl,hfirst⟩ := List.find?_eq_some_iff_getElem.1 hfind
      have hget : ts[i]? = some ts[i] := List.getElem?_eq_getElem hi
      obtain ⟨a,s,hinner,hlocate⟩ := ih ts[i] (List.getElem_mem hi) ht (n.kind :: ancestors)
      refine ⟨i :: a,s,hinner.cons hwell hget ?_,?_⟩
      · intro j u hj hu
        obtain ⟨_,rfl⟩ := List.getElem?_eq_some_iff.1 hu
        simpa using hfirst j hj
      · rw [locate, locateIn_eq, hfind, kindsAbove_cons hget, List.append_assoc]
        exact hlocate

theorem innermost?_eq_none_iff : t.innermost? p = none ↔ ¬ (t.root.start ≤ p ∧ p ≤ t.root.stop) := by
  rw [innermost?, ite_eq_right_iff, ← Node.covers_iff]
  simp

theorem WellFormed.isInnermost_of_innermost? {found : Located} (h : t.WellFormed)
    (hfound : t.innermost? p = some found) : ∃ a s, found = ⟨s.root,t.kindsAbove a⟩ ∧ t.IsInnermost p a s := by
  obtain ⟨hp,hlocate⟩ := Option.ite_none_right_eq_some.1 hfound
  obtain ⟨a,s,hinner,heq⟩ := h.exists_innermost hp []
  rw [Option.some.inj hlocate, List.append_nil] at heq
  exact ⟨a,s,heq,hinner⟩

/-- The innermost node at a point: there is none exactly when the tree does not reach the point, and otherwise all
nodes that the point lies in, or at the end of, are around the node that is found. -/
theorem innermost?_isInnermost (h : t.WellFormed) (p : Point) :
    (t.innermost? p = none ↔ ¬ (t.root.start ≤ p ∧ p ≤ t.root.stop)) ∧
    ∀ found, t.innermost? p = some found →
      ∃ a s, found = ⟨s.root,t.kindsAbove a⟩ ∧ t.IsInnermost p a s ∧
        ∀ b u, t.subtree? b = some u → u.root.start < p → p ≤ u.root.stop → b <+: a := by
  refine ⟨innermost?_eq_none_iff,?_⟩
  intro found hfound
  obtain ⟨a,s,heq,hinner⟩ := h.isInnermost_of_innermost? hfound
  refine ⟨a,s,heq,hinner,?_⟩
  intro b u hu hstart hstop
  by_contra hb
  have hpoint := (hinner.elsewhere b u hu (Node.covers_iff.2 ⟨hstart.le,hstop⟩) hb).1
  exact hstart.ne hpoint

/-- A list with a number left out: three nodes meet behind the bracket, one of them empty. -/
def meetingNodes : Tree :=
  let span := Engine.spanNode "[1]".toList
  node (span "document" 0 3) [node (span "array" 0 3) [node (span "[" 0 1) [], node (span "number" 1 1) [],
    node (span "number" 1 2) [], node (span "]" 2 3) []]]

theorem innermost?_isInnermost_meetingNodes :
    meetingNodes.WellFormed ∧
    let bracket : Located := ⟨Engine.spanNode "[1]".toList "[" 0 1,["array", "document"]⟩
    meetingNodes.innermost? ⟨0,1⟩ = some bracket ∧
    ∃ a s, bracket = ⟨s.root,meetingNodes.kindsAbove a⟩ ∧ meetingNodes.IsInnermost ⟨0,1⟩ a s ∧
      ∀ b u, meetingNodes.subtree? b = some u → u.root.start < ⟨0,1⟩ → ⟨0,1⟩ ≤ u.root.stop → b <+: a :=
  ⟨by decide +kernel,by decide +kernel,
    (innermost?_isInnermost (by decide +kernel) ⟨0,1⟩).2 _ (by decide +kernel)⟩

end Tree

end SyntaxServer
