import SyntaxServer.Proofs.Text.Change
import SyntaxServer.Proofs.Text.Points

/-! # Edits that tell the truth

The edit of a span is computed from the old text and the replacement alone. All that it says of the new text
holds as well: where the replacement ends, in bytes and as a point, is where it ends in the text that the edit
makes.
-/
namespace SyntaxServer

namespace Edit

/-- The edit leads from an old text to a new one by writing a replacement, and each of its six coordinates is
the one that the texts have. -/
structure Describes (e : Edit) (old replacement new : Text) : Prop where
  start_le_oldEnd : e.startByte ≤ e.oldEndByte
  oldEnd_le_size : e.oldEndByte ≤ Text.bytes old
  start_isBoundary : Text.IsBoundary old e.startByte
  oldEnd_isBoundary : Text.IsBoundary old e.oldEndByte
  new_eq : new = Text.takeBytes e.startByte old ++ replacement ++ Text.dropBytes e.oldEndByte old
  newEnd_eq : e.newEndByte = e.startByte + Text.bytes replacement
  startPoint_eq : e.startPoint = Text.endPoint (Text.takeBytes e.startByte old)
  oldEndPoint_eq : e.oldEndPoint = Text.endPoint (Text.takeBytes e.oldEndByte old)
  newEndPoint_eq : e.newEndPoint = Text.endPoint (Text.takeBytes e.newEndByte new)
  newEndPoint_eq_point : e.newEndPoint = (LineTable.ofText new).point e.newEndByte
  fits : e.checkFit old new = .ok ()

theorem points_ofSpan {t : Text} {span : Span} {r : Text} {e : Edit} (h : ofSpan t span r = .ok e) :
    e.startPoint = (LineTable.ofText t).point e.startByte ∧
      e.oldEndPoint = (LineTable.ofText t).point e.oldEndByte ∧
      e.newEndPoint = e.startPoint.advance r := by
  simp only [ofSpan] at h
  split at h
  · cases h
  split at h
  · cases h
  split at h
  · cases h
  · cases h
    exact ⟨rfl,rfl,rfl⟩

theorem describes_of_ofSpan {t : Text} {span : Span} {r : Text} {e : Edit} (h : ofSpan t span r = .ok e) :
    e.Describes t r (e.apply t r) := by
  obtain ⟨a,b,ha,hb,hle,hstart,hstop,hnew⟩ := ofSpan_eq_ok h
  obtain ⟨hstartPoint,holdPoint,hnewPoint⟩ := points_ofSpan h
  have hpa := Text.upTo?_isPrefix ha
  have hpb := Text.upTo?_isPrefix hb
  have hnext : e.apply t r = a ++ r ++ t.drop b.length := apply_eq_of_isPrefix hpa hpb hstart hstop r
  have hpr : a ++ r <+: e.apply t r := hnext ▸ List.prefix_append (a ++ r) (t.drop b.length)
  have hnewEnd : e.newEndByte = Text.bytes (a ++ r) := by rw [hnew, Text.bytes_append]
  -- the old text is not looked at behind the start, so its point may be carried on over the replacement
  have hpoint : e.newEndPoint = Text.endPoint (a ++ r) := by
    rw [hnewPoint, hstartPoint, hstart, LineTable.point_ofText hpa, Text.endPoint_append]
  exact {
    start_le_oldEnd := by rw [hstart, hstop]; exact hle
    oldEnd_le_size := by
      obtain ⟨u,rfl⟩ := hpb
      rw [hstop, Text.bytes_append]
      exact Nat.le_add_right _ _
    start_isBoundary := Text.isBoundary_iff.2 ⟨a,hpa,hstart.symm⟩
    oldEnd_isBoundary := Text.isBoundary_iff.2 ⟨b,hpb,hstop.symm⟩
    new_eq := rfl
    newEnd_eq := by rw [hnew, hstart]
    startPoint_eq := by rw [hstartPoint, hstart, LineTable.point_ofText hpa, Text.takeBytes_of_isPrefix hpa]
    oldEndPoint_eq := by rw [holdPoint, hstop, LineTable.point_ofText hpb, Text.takeBytes_of_isPrefix hpb]
    newEndPoint_eq := by rw [hpoint, hnewEnd, Text.takeBytes_of_isPrefix hpr]
    newEndPoint_eq_point := by rw [hpoint, hnewEnd, LineTable.point_ofText hpr]
    fits := checkFit_ofSpan h }

/-- Edits after each other, from one text to another. -/
inductive Chain (start : Text) : List Edit → Text → Prop where
  | nil : Chain start [] start
  | concat {edits e old replacement new} (h : Chain start edits old) (he : e.Describes old replacement new) :
    Chain start (edits ++ [e]) new

end Edit

namespace EditFault

/-- The fault of an edit that runs past one of its texts. -/
def isMisfit : EditFault → Bool
  | oldRange _ _ _ => true
  | newRange _ _ _ => true
  | _ => false

theorem isMisfit_of_ofSpan {t : Text} {span : Span} {r : Text} {fault : EditFault}
    (h : Edit.ofSpan t span r = .error fault) : fault.isMisfit = false := by
  simp only [Edit.ofSpan] at h
  split at h
  · cases h
    rfl
  split at h
  · cases h
    rfl
  split at h
  · cases h
    rfl
  · cases h

def initial : EditFault → Char
  | startPastLastLine _ _ => 's'
  | endPastLastLine _ _ => 'e'
  | endBeforeStart _ => 'r'
  | oldRange _ _ _ => 'o'
  | newRange _ _ _ => 'n'

theorem head?_message (fault : EditFault) : fault.message.toList.head? = some fault.initial := by
  unfold message
  cases fault <;>
  · simp only [String.toList_append, List.head?_append]
    rfl

/-- The message tells whether it was a misfit, already by its first letter. -/
theorem isMisfit_eq_of_message_eq {fault fault' : EditFault} (h : fault.message = fault'.message) :
    fault.isMisfit = fault'.isMisfit := by
  have hinitial : fault.initial = fault'.initial := by
    have hhead := head?_message fault
    rw [h, head?_message] at hhead
    exact (Option.some.inj hhead).symm
  have hmisfit (fault : EditFault) : fault.isMisfit = (fault.initial == 'o' || fault.initial == 'n') := by
    cases fault <;> rfl
  rw [hmisfit, hmisfit, hinitial]

end EditFault

end SyntaxServer
