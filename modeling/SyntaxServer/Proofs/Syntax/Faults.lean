import SyntaxServer.Proofs.Store.Sample
import SyntaxServer.Proofs.Syntax.WellFormed
import SyntaxServer.Store.Document

/-! # Faults and their diagnostics

A tree is searched for faults only where a node is flagged, and not below a fault that is found. Where the flags tell
the truth, what is found are the faults that no other fault stands above. Every fault lies within one of these, and so
do their spans.
-/
namespace SyntaxServer

namespace Tree

def FaultAt (t : Tree) (a : Address) : Prop := ∃ s, t.subtree? a = some s ∧ s.root.isFault = true

instance (t : Tree) (a : Address) : Decidable (t.FaultAt a) :=
  decidable_of_iff ((t.subtree? a).any (·.root.isFault) = true) (Option.any_eq_true _ _)

/-- A fault that no other fault stands above. -/
def IsOutermostFault (t : Tree) (a : Address) : Prop := t.FaultAt a ∧ ∀ b, b <+: a → b ≠ a → ¬ t.FaultAt b

instance (t : Tree) (a : Address) : Decidable (t.IsOutermostFault a) :=
  decidable_of_iff (t.FaultAt a ∧ ∀ b ∈ a.inits, b ≠ a → ¬ t.FaultAt b) (by
    simp only [IsOutermostFault, List.mem_inits])

/-- The outermost faults, found on a walk of the whole tree in pre-order. -/
def outermostFaults (t : Tree) : List Node :=
  t.addresses.filterMap fun a => if t.IsOutermostFault a then (t.subtree? a).map root else none

/-- Every node is flagged exactly when it is a fault or stands above one. -/
def Flagged (t : Tree) : Prop :=
  ∀ a s, t.subtree? a = some s → (s.root.hasError = true ↔ ∃ n ∈ s.nodes, n.isFault = true)

variable {t u s : Tree} {n : Node} {ts : List Tree} {a b : Address} {i : Nat}

theorem flagged_iff : t.Flagged ↔
    ∀ a ∈ t.addresses, (t.subtree? a).all (fun s => s.root.hasError == s.nodes.any (·.isFault)) = true := by
  have hflag (s : Tree) : (s.root.hasError == s.nodes.any (·.isFault)) = true ↔
      (s.root.hasError = true ↔ ∃ n ∈ s.nodes, n.isFault = true) := by
    rw [beq_iff_eq, Bool.eq_iff_iff, List.any_eq_true]
  constructor
  · intro h a _
    rw [Option.all_eq_true]
    intro s hs
    exact (hflag s).2 (h a s hs)
  · intro h a s hs
    exact (hflag s).1 ((Option.all_eq_true _ _).1 (h a (mem_addresses hs)) s hs)

instance (t : Tree) : Decidable t.Flagged := decidable_of_iff _ flagged_iff.symm

theorem Flagged.of_mem (h : (node n ts).Flagged) (ht : t ∈ ts) : t.Flagged := by
  intro a s hs
  obtain ⟨i,hi⟩ := List.mem_iff_getElem?.1 ht
  exact h (i :: a) s (subtree?_cons_eq_some_iff.2 ⟨t,hi,hs⟩)

theorem Flagged.root_iff (h : t.Flagged) : t.root.hasError = true ↔ ∃ n ∈ t.nodes, n.isFault = true :=
  h [] t (subtree?_nil t)

theorem faultAt_nil : (node n ts).FaultAt [] ↔ n.isFault = true := by
  simp [FaultAt]

theorem faultAt_cons (hu : ts[i]? = some u) : (node n ts).FaultAt (i :: a) ↔ u.FaultAt a := by
  simp [FaultAt, subtree?, hu]

theorem isOutermostFault_nil (hn : n.isFault = true) : (node n ts).IsOutermostFault [] := by
  refine ⟨faultAt_nil.2 hn,?_⟩
  intro b hb hne
  exact absurd (List.prefix_nil.1 hb) hne

theorem isOutermostFault_cons (hn : ¬ n.isFault = true) (hu : ts[i]? = some u) :
    (node n ts).IsOutermostFault (i :: a) ↔ u.IsOutermostFault a := by
  constructor
  · rintro ⟨hfault,habove⟩
    refine ⟨(faultAt_cons hu).1 hfault,?_⟩
    intro b hb hne hbfault
    exact habove (i :: b) (List.cons_prefix_cons.2 ⟨rfl,hb⟩) (by simpa using hne) ((faultAt_cons hu).2 hbfault)
  · rintro ⟨hfault,habove⟩
    refine ⟨(faultAt_cons hu).2 hfault,?_⟩
    intro b hb hne hbfault
    cases b with
    | nil => exact hn (faultAt_nil.1 hbfault)
    | cons j b =>
      obtain ⟨rfl,htail⟩ := List.cons_prefix_cons.1 hb
      exact habove b htail (by simpa using hne) ((faultAt_cons hu).1 hbfault)

theorem FaultAt.exists_isOutermostFault (h : t.FaultAt a) : ∃ b, b <+: a ∧ t.IsOutermostFault b := by
  -- on the way down to the fault the first one met is outermost
  induction a generalizing t with
  | nil =>
    cases t
    exact ⟨[],List.prefix_rfl,isOutermostFault_nil (faultAt_nil.1 h)⟩
  | cons i a ih =>
    obtain ⟨n,ts⟩ := t
    by_cases hn : n.isFault = true
    · exact ⟨[],List.nil_prefix,isOutermostFault_nil hn⟩
    · obtain ⟨s,hs,_⟩ := id h
      obtain ⟨u,hu,_⟩ := subtree?_cons_eq_some_iff.1 hs
      obtain ⟨b,hb,hout⟩ := ih ((faultAt_cons hu).1 h)
      exact ⟨i :: b,List.cons_prefix_cons.2 ⟨rfl,hb⟩,(isOutermostFault_cons hn hu).2 hout⟩

theorem mem_outermostFaults_iff :
    n ∈ t.outermostFaults ↔ ∃ a s, t.IsOutermostFault a ∧ t.subtree? a = some s ∧ s.root = n := by
  rw [outermostFaults, List.mem_filterMap]
  constructor
  · rintro ⟨a,_,ha⟩
    obtain ⟨hout,hroot⟩ := Option.ite_none_right_eq_some.1 ha
    obtain ⟨s,hs,heq⟩ := Option.map_eq_some_iff.1 hroot
    exact ⟨a,s,hout,hs,heq⟩
  · rintro ⟨a,s,hout,hs,rfl⟩
    refine ⟨a,mem_addresses hs,?_⟩
    rw [if_pos hout, hs, Option.map_some]

theorem outermostFaults_eq_nil_iff : t.outermostFaults = [] ↔ ∀ n ∈ t.nodes, ¬ n.isFault = true := by
  constructor
  · intro hnone n hn hfault
    obtain ⟨a,s,hs,rfl⟩ := exists_subtree?_of_mem_nodes hn
    have hat : t.FaultAt a := ⟨s,hs,hfault⟩
    obtain ⟨b,_,hout⟩ := hat.exists_isOutermostFault
    obtain ⟨u,hu,_⟩ := hout.1
    have hmem := mem_outermostFaults_iff.2 ⟨b,u,hout,hu,rfl⟩
    rw [hnone] at hmem
    exact absurd hmem List.not_mem_nil
  · intro hclean
    rw [List.eq_nil_iff_forall_not_mem]
    intro n hn
    obtain ⟨a,s,⟨⟨u,hu,hfault⟩,_⟩,hs,rfl⟩ := mem_outermostFaults_iff.1 hn
    obtain rfl : u = s := Option.some.inj (hu.symm.trans hs)
    exact hclean _ (root_mem_nodes hs) hfault

theorem outermostFaults_of_isFault (hn : n.isFault = true) : (node n ts).outermostFaults = [n] := by
  have hbelow : (forestAddresses 0 ts).filterMap
      (fun a => if (node n ts).IsOutermostFault a then ((node n ts).subtree? a).map root else none) = [] := by
    rw [List.filterMap_eq_nil_iff]
    intro b hb
    obtain ⟨k,u,a,_,_,rfl⟩ := mem_forestAddresses_iff.1 hb
    rw [if_neg]
    rintro ⟨_,habove⟩
    exact habove [] List.nil_prefix (by simp) (faultAt_nil.2 hn)
  rw [outermostFaults, addresses, List.filterMap_cons, hbelow, if_pos (isOutermostFault_nil hn), subtree?_nil]
  rfl

theorem outermostFaults_of_not_isFault (hn : ¬ n.isFault = true) :
    (node n ts).outermostFaults = ts.flatMap outermostFaults := by
  have hroot : ¬ (node n ts).IsOutermostFault [] := fun h => hn (faultAt_nil.1 h.1)
  rw [outermostFaults, addresses, List.filterMap_cons, if_neg hroot]
  apply filterMap_forestAddresses
  intro k u hu
  apply List.filterMap_congr
  intro a _
  have hsubtree : (node n ts).subtree? (k :: a) = u.subtree? a := by
    rw [subtree?, children_node, hu, Option.bind_some]
  rw [Nat.zero_add, hsubtree]
  simp only [isOutermostFault_cons hn hu]

theorem forestFaults_eq (ts : List Tree) : forestFaults ts = ts.flatMap allFaults := by
  induction ts with
  | nil => rfl
  | cons t ts ih =>
    rw [forestFaults, List.flatMap_cons, allFaults, ih]
    split <;> rfl

/-- A subtree that is not flagged holds no fault, so nothing is lost by passing over it. -/
theorem Flagged.allFaults_eq (h : t.Flagged) : t.allFaults = t.outermostFaults := by
  induction t using induction with
  | node n ts ih =>
    by_cases hn : n.isFault = true
    · have hflag : n.hasError = true := h.root_iff.2 ⟨n,by rw [nodes]; exact List.mem_cons_self,hn⟩
      rw [outermostFaults_of_isFault hn, allFaults, root_node, if_pos hflag, faults, if_pos hn]
    · have hchildren : ts.flatMap allFaults = ts.flatMap outermostFaults :=
        List.flatMap_congr fun t ht => ih t ht (h.of_mem ht)
      rw [outermostFaults_of_not_isFault hn, ← hchildren, allFaults, root_node, faults, if_neg hn, forestFaults_eq]
      split
      · rfl
      · next hflag =>
        -- no child is flagged either, for a fault below it would be one below the node
        symm
        rw [List.flatMap_eq_nil_iff]
        intro t ht
        have hclean : ¬ t.root.hasError = true := by
          intro hchild
          obtain ⟨m,hm,hfault⟩ := (h.of_mem ht).root_iff.1 hchild
          exact hflag (h.root_iff.2 ⟨m,mem_nodes_of_mem ht hm,hfault⟩)
        rw [allFaults, if_neg hclean]

theorem WellFormed.pairwise_outermostFaults (h : t.WellFormed) :
    t.outermostFaults.Pairwise fun m n => m.stop ≤ n.start := by
  rw [outermostFaults, List.pairwise_filterMap]
  refine (pairwise_addresses t).imp ?_
  intro a b hlt m hm n hn
  obtain ⟨⟨hfault,_⟩,hroot⟩ := Option.ite_none_right_eq_some.1 hm
  obtain ⟨⟨_,habove⟩,hroot'⟩ := Option.ite_none_right_eq_some.1 hn
  obtain ⟨s,hs,rfl⟩ := Option.map_eq_some_iff.1 hroot
  obtain ⟨u,hu,rfl⟩ := Option.map_eq_some_iff.1 hroot'
  apply h.stop_le_start hs hu hlt
  -- no fault stands above the later one, so the earlier does not
  intro hab
  have hne : a ≠ b := by
    rintro rfl
    exact List.lt_irrefl a hlt
  exact habove a hab hne hfault

theorem WellFormed.exists_outermostFault (h : t.WellFormed) (hn : n ∈ t.nodes) (hfault : n.isFault = true) :
    ∃ m ∈ t.outermostFaults, m.start ≤ n.start ∧ n.stop ≤ m.stop := by
  obtain ⟨a,s,hs,rfl⟩ := exists_subtree?_of_mem_nodes hn
  have hat : t.FaultAt a := ⟨s,hs,hfault⟩
  obtain ⟨b,⟨c,rfl⟩,hout⟩ := hat.exists_isOutermostFault
  obtain ⟨u,hu,_⟩ := hout.1
  rw [subtree?_append, hu, Option.bind_some] at hs
  exact ⟨u.root,mem_outermostFaults_iff.2 ⟨b,u,hout,hu,rfl⟩,((h.of_subtree? hu).1.of_subtree? hs).2⟩

end Tree

namespace Document

/-- What is to say of a fault: that it is an error, or else what kind is missing. -/
def report (d : Document) (n : Node) : Diagnostic where
  span := d.nodeSpan n
  severity := some .error
  source := some Product.name
  message := if n.error then "Syntax error" else "Missing `" ++ n.kind ++ "`"

theorem diagnostics_eq {d : Document} (h : d.tree.Flagged) : d.diagnostics = d.tree.outermostFaults.map d.report := by
  rw [diagnostics, h.allFaults_eq]
  rfl

variable {text : Text} {tree : Tree}

/-- The diagnostics of a document are found on a walk of its whole tree: one for each fault that no other fault stands
above, in their order. There are none exactly when there is no fault, and every fault is covered by one. -/
theorem diagnostics_cover_faults (language : Language) (version : Int) (hsize : Text.bytes text < UInt32.size)
    (hwell : tree.WellFormed) (hlies : tree.LiesOn text) (hflags : tree.Flagged) :
    let d := ofTree language text tree version
    d.diagnostics = tree.outermostFaults.map d.report ∧
    (d.diagnostics = [] ↔ ∀ n ∈ tree.nodes, ¬ n.isFault = true) ∧
    (d.diagnostics.Pairwise fun x y => x.span.stop ≤ y.span.start) ∧
    (∀ x ∈ d.diagnostics, x.span.start ≤ x.span.stop) ∧
    ∀ n ∈ tree.nodes, n.isFault = true →
      ∃ x ∈ d.diagnostics, x.span.start ≤ (d.nodeSpan n).start ∧ (d.nodeSpan n).stop ≤ x.span.stop := by
  intro d
  have hdiagnostics : d.diagnostics = tree.outermostFaults.map d.report := diagnostics_eq hflags
  have hpoints : ∀ n ∈ tree.outermostFaults, n.start ≤ n.stop ∧ text.HasPoint n.start ∧ text.HasPoint n.stop := by
    intro n hn
    obtain ⟨a,s,_,hs,rfl⟩ := Tree.mem_outermostFaults_iff.1 hn
    exact ⟨(hwell.of_subtree? hs).1.start_le,hlies _ (Tree.root_mem_nodes hs)⟩
  rw [hdiagnostics]
  refine ⟨rfl,?_,?_,?_,?_⟩
  · rw [List.map_eq_nil_iff]
    exact Tree.outermostFaults_eq_nil_iff
  · rw [List.pairwise_map]
    refine hwell.pairwise_outermostFaults.imp_of_mem ?_
    intro m n hm hn hmn
    exact LineTable.position_le_position hsize (hpoints m hm).2.2 (hpoints n hn).2.1 hmn
  · intro x hx
    obtain ⟨n,hn,rfl⟩ := List.mem_map.1 hx
    obtain ⟨hle,hstart,hstop⟩ := hpoints n hn
    exact LineTable.position_le_position hsize hstart hstop hle
  · intro n hn hfault
    obtain ⟨m,hm,hstart,hstop⟩ := hwell.exists_outermostFault hn hfault
    obtain ⟨_,hmstart,hmstop⟩ := hpoints m hm
    obtain ⟨hnstart,hnstop⟩ := hlies n hn
    refine ⟨d.report m,List.mem_map.2 ⟨m,hm,rfl⟩,?_,?_⟩
    · exact LineTable.position_le_position hsize hmstart hnstart hstart
    · exact LineTable.position_le_position hsize hnstop hmstop hstop

/-- A list with an error in an error, and with its end missing. -/
def brokenList : Tree :=
  let span := Engine.spanNode "[1,,2".toList
  let above (n : Node) : Node := { n with hasError := true }
  .node (above (span "document" 0 5)) [.node (above (span "array" 0 5)) [.node (span "[" 0 1) [],
    .node (span "number" 1 2) [], .node (span "," 2 3) [],
    .node (above { span "ERROR" 3 4 with error := true }) [.node (above { span "ERROR" 3 4 with error := true }) []],
    .node (span "number" 4 5) [], .node (above { span "]" 5 5 with missing := true }) []]]

/-- The error within is covered by the one around it. -/
theorem diagnostics_cover_faults_brokenList :
    let d := ofTree .json "[1,,2".toList brokenList 1
    Text.bytes d.text < UInt32.size ∧ brokenList.WellFormed ∧ brokenList.LiesOn d.text ∧ brokenList.Flagged ∧
    d.diagnostics.map (fun x => (x.span, x.message)) =
      [(⟨⟨0,3⟩,⟨0,4⟩⟩, "Syntax error"), (⟨⟨0,5⟩,⟨0,5⟩⟩, "Missing `]`")] ∧
    d.diagnostics.length = brokenList.outermostFaults.length ∧
    (d.diagnostics.Pairwise fun x y => x.span.stop ≤ y.span.start) ∧
    ∀ n ∈ brokenList.nodes, n.isFault = true →
      ∃ x ∈ d.diagnostics, x.span.start ≤ (d.nodeSpan n).start ∧ (d.nodeSpan n).stop ≤ x.span.stop := by
  have hsize : Text.bytes "[1,,2".toList < UInt32.size := by decide +kernel
  have hwell : brokenList.WellFormed := by decide +kernel
  have hlies : brokenList.LiesOn "[1,,2".toList := by decide +kernel
  have hflags : brokenList.Flagged := by decide +kernel
  obtain ⟨heq,_,hordered,_,hcovered⟩ := diagnostics_cover_faults .json 1 hsize hwell hlies hflags
  refine ⟨hsize,hwell,hlies,hflags,by decide +kernel,?_,hordered,hcovered⟩
  rw [heq, List.length_map]

end Document

end SyntaxServer
