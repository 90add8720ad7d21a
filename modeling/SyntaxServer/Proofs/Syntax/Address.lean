import Mathlib.Data.List.Infix
import SyntaxServer.Syntax.Tree

/-! # Addresses in a tree

Two nodes of a tree may be equal, so a place in a tree is told by its address: the numbers of the children on the
way to it. The addresses in lexicographic order are the nodes in pre-order.
-/
namespace SyntaxServer.Tree

/-- The numbers of the children on the way from the root of a tree to a node. -/
abbrev Address := List Nat

/-- The tree at an address. -/
def subtree? (t : Tree) : Address → Option Tree
  | [] => some t
  | i :: a => t.children[i]?.bind fun u => subtree? u a

/-- The kinds of the nodes above an address, the innermost first. -/
def kindsAbove (t : Tree) (a : Address) : List String :=
  (a.inits.dropLast.filterMap fun b => (t.subtree? b).map (·.root.kind)).reverse

mutual

/-- The addresses of a tree in pre-order. -/
def addresses : Tree → List Address
  | node _ ts => [] :: forestAddresses 0 ts

/-- The addresses of several trees, of which the first is child number `i`. -/
def forestAddresses (i : Nat) : List Tree → List Address
  | [] => []
  | t :: ts => (addresses t).map (i :: ·) ++ forestAddresses (i + 1) ts

end

/-- One address comes before another in pre-order. -/
def Precedes (t : Tree) (a b : Address) : Prop := [a, b].Sublist t.addresses

/-- Induction on trees: what holds of a node if it holds of its children holds of every tree. -/
theorem induction {motive : Tree → Prop} (node : ∀ n ts, (∀ t ∈ ts, motive t) → motive (node n ts)) :
    ∀ t, motive t
  | .node n ts => node n ts fun t _ => induction node t

variable {t u s : Tree} {n : Node} {ts : List Tree} {a b : Address} {i : Nat}

@[simp] theorem subtree?_nil (t : Tree) : t.subtree? [] = some t := by
  rw [subtree?]

theorem subtree?_cons_eq_some_iff :
    (node n ts).subtree? (i :: a) = some s ↔ ∃ u, ts[i]? = some u ∧ u.subtree? a = some s := by
  rw [subtree?, children_node, Option.bind_eq_some_iff]

theorem subtree?_append (t : Tree) (a b : Address) : t.subtree? (a ++ b) = (t.subtree? a).bind fun s => s.subtree? b := by
  induction a generalizing t with
  | nil => rw [List.nil_append, subtree?_nil, Option.bind_some]
  | cons i a ih =>
    rw [List.cons_append, subtree?, subtree?, Option.bind_assoc]
    congr 1
    funext u
    exact ih u

theorem kindsAbove_cons (h : ts[i]? = some u) : (node n ts).kindsAbove (i :: a) = u.kindsAbove a ++ [n.kind] := by
  have hne : a.inits.map (i :: ·) ≠ [] :=
    mt List.map_eq_nil_iff.1 (List.ne_nil_of_mem ((List.mem_inits [] a).2 List.nil_prefix))
  have hstep (b : Address) : ((node n ts).subtree? (i :: b)).map (·.root.kind) = (u.subtree? b).map (·.root.kind) := by
    rw [subtree?, children_node, h, Option.bind_some]
  rw [kindsAbove, kindsAbove, List.inits, List.dropLast_cons_of_ne_nil hne, ← List.map_dropLast,
    List.filterMap_cons, subtree?_nil, List.filterMap_map]
  simp only [Option.map_some, List.reverse_cons, root_node, Function.comp_def, hstep]

theorem mem_forestAddresses_iff :
    b ∈ forestAddresses i ts ↔ ∃ k u a, ts[k]? = some u ∧ a ∈ u.addresses ∧ b = (i + k) :: a := by
  induction ts generalizing i with
  | nil => simp [forestAddresses]
  | cons t ts ih =>
    rw [forestAddresses, List.mem_append, List.mem_map, ih]
    constructor
    · rintro (⟨a,ha,rfl⟩ | ⟨k,u,a,hu,ha,rfl⟩)
      · exact ⟨0,t,a,rfl,ha,rfl⟩
      · exact ⟨k + 1,u,a,hu,ha,by rw [Nat.add_assoc, Nat.add_comm 1]⟩
    · rintro ⟨k,u,a,hu,ha,rfl⟩
      cases k with
      | zero =>
        obtain rfl : t = u := by simpa using hu
        exact Or.inl ⟨a,ha,rfl⟩
      | succ k => exact Or.inr ⟨k,u,a,by simpa using hu,ha,by rw [Nat.add_assoc, Nat.add_comm 1]⟩

theorem mem_addresses (h : t.subtree? a = some s) : a ∈ t.addresses := by
  induction a generalizing t with
  | nil =>
    cases t
    rw [addresses]
    exact List.mem_cons_self
  | cons i a ih =>
    cases t
    obtain ⟨u,hu,ha⟩ := subtree?_cons_eq_some_iff.1 h
    rw [addresses]
    exact List.mem_cons_of_mem _ (mem_forestAddresses_iff.2 ⟨i,u,a,hu,ih ha,by rw [Nat.zero_add]⟩)

theorem pairwise_forestAddresses (h : ∀ t ∈ ts, t.addresses.Pairwise (· < ·)) :
    (forestAddresses i ts).Pairwise (· < ·) := by
  induction ts generalizing i with
  | nil => exact List.Pairwise.nil
  | cons t ts ih =>
    rw [forestAddresses, List.pairwise_append, List.pairwise_map]
    refine ⟨?_,ih fun u hu => h u (List.mem_cons_of_mem _ hu),?_⟩
    · refine (h t List.mem_cons_self).imp ?_
      intro a b hab
      exact List.cons_lt_cons_iff.2 (Or.inr ⟨rfl,hab⟩)
    · intro a ha b hb
      obtain ⟨a,_,rfl⟩ := List.mem_map.1 ha
      obtain ⟨k,u,b,_,_,rfl⟩ := mem_forestAddresses_iff.1 hb
      exact List.cons_lt_cons_iff.2 (Or.inl (by omega))

/-- Pre-order is the lexicographic order of the addresses. -/
theorem pairwise_addresses (t : Tree) : t.addresses.Pairwise (· < ·) := by
  induction t using induction with
  | node n ts ih =>
    rw [addresses, List.pairwise_cons]
    refine ⟨?_,pairwise_forestAddresses ih⟩
    intro b hb
    obtain ⟨k,u,b,_,_,rfl⟩ := mem_forestAddresses_iff.1 hb
    exact List.nil_lt_cons _ _

theorem map_forestAddresses (h : ∀ t ∈ ts, t.addresses.map (fun a => (t.subtree? a).map root) = t.nodes.map some)
    (f : Address → Option Node) (hf : ∀ k u a, ts[k]? = some u → f ((i + k) :: a) = (u.subtree? a).map root) :
    (forestAddresses i ts).map f = (forestNodes ts).map some := by
  induction ts generalizing i with
  | nil => rfl
  | cons t ts ih =>
    have hfirst : f ∘ (i :: ·) = fun a => (t.subtree? a).map root := funext fun a => hf 0 t a rfl
    rw [forestAddresses, forestNodes, List.map_append, List.map_append, List.map_map, hfirst, h t List.mem_cons_self]
    congr 1
    apply ih fun u hu => h u (List.mem_cons_of_mem _ hu)
    intro k u a hu
    rw [Nat.add_assoc, Nat.add_comm 1]
    exact hf (k + 1) u a (by simpa using hu)

/-- The nodes in pre-order are those at the addresses in pre-order. -/
theorem map_addresses (t : Tree) : t.addresses.map (fun a => (t.subtree? a).map root) = t.nodes.map some := by
  induction t using induction with
  | node n ts ih =>
    rw [addresses, nodes, List.map_cons, List.map_cons, subtree?_nil]
    congr 1
    apply map_forestAddresses ih
    intro k u a hu
    rw [Nat.zero_add, subtree?, children_node, hu, Option.bind_some]

theorem filterMap_forestAddresses {β : Type} {f : Address → Option β} {g : Tree → List β}
    (h : ∀ k u, ts[k]? = some u → u.addresses.filterMap (fun a => f ((i + k) :: a)) = g u) :
    (forestAddresses i ts).filterMap f = ts.flatMap g := by
  induction ts generalizing i with
  | nil => rfl
  | cons t ts ih =>
    have hfirst : (t.addresses.map (i :: ·)).filterMap f = g t := by
      rw [List.filterMap_map]
      exact h 0 t rfl
    rw [forestAddresses, List.filterMap_append, hfirst, List.flatMap_cons]
    congr 1
    apply ih
    intro k u hu
    rw [Nat.add_assoc, Nat.add_comm 1]
    exact h (k + 1) u (by simpa using hu)

theorem root_mem_nodes (h : t.subtree? a = some s) : s.root ∈ t.nodes := by
  have hmem : (t.subtree? a).map root ∈ t.nodes.map some := by
    rw [← map_addresses]
    exact List.mem_map.2 ⟨a,mem_addresses h,rfl⟩
  rw [h] at hmem
  obtain ⟨n,hn,heq⟩ := List.mem_map.1 hmem
  exact Option.some.inj heq ▸ hn

theorem exists_subtree?_of_mem_nodes (h : n ∈ t.nodes) : ∃ a s, t.subtree? a = some s ∧ s.root = n := by
  have hmem : some n ∈ t.addresses.map fun a => (t.subtree? a).map root := by
    rw [map_addresses]
    exact List.mem_map.2 ⟨n,h,rfl⟩
  obtain ⟨a,_,heq⟩ := List.mem_map.1 hmem
  obtain ⟨s,hs,hroot⟩ := Option.map_eq_some_iff.1 heq
  exact ⟨a,s,hs,hroot⟩

theorem mem_nodes_of_mem {m : Node} (ht : t ∈ ts) (hm : m ∈ t.nodes) : m ∈ (node n ts).nodes := by
  obtain ⟨i,hi⟩ := List.mem_iff_getElem?.1 ht
  obtain ⟨a,s,hs,rfl⟩ := exists_subtree?_of_mem_nodes hm
  exact root_mem_nodes (subtree?_cons_eq_some_iff.2 ⟨t,hi,hs⟩)

theorem pair_sublist_of_lt {l : List Address} (hl : l.Pairwise (· < ·)) (ha : a ∈ l) (hb : b ∈ l) (h : a < b) :
    [a, b].Sublist l := by
  induction l with
  | nil => exact absurd ha List.not_mem_nil
  | cons c l ih =>
    obtain ⟨hc,hl⟩ := List.pairwise_cons.1 hl
    rcases List.mem_cons.1 hb with rfl | hb'
    · rcases List.mem_cons.1 ha with rfl | ha'
      · exact absurd h (List.lt_irrefl a)
      · exact absurd h (List.lt_asymm (hc a ha'))
    · rcases List.mem_cons.1 ha with rfl | ha'
      · exact (List.singleton_sublist.2 hb').cons_cons a
      · exact (ih hl ha' hb').cons c

theorem precedes_iff_lt (ha : t.subtree? a = some s) (hb : t.subtree? b = some u) : t.Precedes a b ↔ a < b := by
  constructor
  · intro h
    have hpair := (pairwise_addresses t).sublist h
    exact (List.pairwise_cons.1 hpair).1 b List.mem_cons_self
  · exact pair_sublist_of_lt (pairwise_addresses t) (mem_addresses ha) (mem_addresses hb)

end SyntaxServer.Tree
