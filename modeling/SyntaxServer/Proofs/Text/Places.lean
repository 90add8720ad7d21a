import Mathlib.Order.Bounds.Defs
import SyntaxServer.Proofs.Text.Lines

/-! # Places of a text

A beginning of a text ends on one of its lines. The places of a line are the offsets at which a beginning ends in
the content of the line, and a position stands for one of them even where no character starts at its column.
-/
namespace SyntaxServer

namespace Line

variable {α : Type} {ls : List (Line α)}

theorem before_isPrefix_before (ls : List (Line α)) {m n : Nat} (h : m ≤ n) : before ls m <+: before ls n := by
  obtain ⟨k,rfl⟩ := Nat.exists_eq_add_of_le h
  rw [before, before, List.take_add, List.flatMap_append]
  exact List.prefix_append _ _

/-- A beginning of all lines together ends on one of them: it holds the lines before and a part of this one, which
is not the whole line where another follows. -/
theorem exists_part (hls : ls ≠ []) {a : List α} (h : a <+: ls.flatMap whole) :
    ∃ n l u, ls[n]? = some l ∧ a = before ls n ++ u ∧ u <+: l.whole ∧ (n + 1 < ls.length → u ≠ l.whole) := by
  induction ls generalizing a with
  | nil => exact absurd rfl hls
  | cons l ls ih =>
    rw [List.flatMap_cons] at h
    by_cases hnext : ls ≠ [] ∧ l.whole <+: a
    · obtain ⟨hne,b,rfl⟩ := hnext
      obtain ⟨n,m,u,hm,hb,hu,hwhole⟩ := ih hne ((List.prefix_append_right_inj _).1 h)
      exact ⟨n + 1,m,u,hm,by rw [before_cons_succ, List.append_assoc, ← hb],hu,
        fun hlt => hwhole (Nat.lt_of_succ_lt_succ hlt)⟩
    · -- the first line is the only one, or the beginning is shorter
      refine ⟨0,l,a,rfl,rfl,?_,?_⟩
      · by_cases hne : ls = []
        · simpa [hne] using h
        · have hshort : ¬ l.whole <+: a := fun hl => hnext ⟨hne,hl⟩
          rcases List.prefix_or_prefix_of_prefix h (List.prefix_append _ _) with ha | hl
          · exact ha
          · exact absurd hl hshort
      · rintro hlt rfl
        have hne : ls ≠ [] := by
          rintro rfl
          exact Nat.lt_irrefl _ hlt
        exact hnext ⟨hne,List.prefix_rfl⟩

end Line

namespace Text

/-- A beginning of a text ends on a line: it holds all lines before and a part of this one, which is not the whole
line where another follows. -/
structure EndsOn (t a : Text) (n : Nat) (l : Line Char) (u : Text) : Prop where
  line : t.lines[n]? = some l
  eq_append : a = Line.before t.lines n ++ u
  part : u <+: l.whole
  ne_whole : n + 1 < t.lines.length → u ≠ l.whole

variable {t a u : Text} {n : Nat} {l : Line Char}

theorem exists_endsOn (h : a <+: t) : ∃ n l u, EndsOn t a n l u := by
  have hwhole : t.lines.flatMap Line.whole = t := Line.flatMap_whole_split (by decide) t
  rw [← hwhole] at h
  obtain ⟨n,l,u,hl,ha,hu,hne⟩ := Line.exists_part (Line.split_ne_nil _ _ t) h
  exact ⟨n,l,u,hl,ha,hu,hne⟩

theorem ending_ne_nil (hl : t.lines[n]? = some l) (hlt : n + 1 < t.lines.length) : l.ending ≠ [] := by
  rcases Line.ending_cases (by decide) hl with ⟨hlast,_⟩ | ⟨_,he⟩
  · exact absurd hlast (Nat.ne_of_lt hlt)
  · rcases he with he | he | he <;> simp [he]

theorem endsOn_of_content (hl : t.lines[n]? = some l) (hu : u <+: l.content) :
    EndsOn t (Line.before t.lines n ++ u) n l u where
  line := hl
  eq_append := rfl
  part := hu.trans (List.prefix_append _ _)
  ne_whole := by
    rintro hlt rfl
    have hlength := hu.length_le
    have hending := List.length_pos_iff.2 (ending_ne_nil hl hlt)
    rw [Line.whole, List.length_append] at hlength
    omega

theorem le_bytes_before (h : n < t.lines.length) : n ≤ bytes (Line.before t.lines n) := by
  induction n with
  | zero => exact Nat.zero_le _
  | succ n ih =>
    have hl : t.lines[n]? = some t.lines[n] := List.getElem?_eq_getElem (Nat.lt_of_succ_lt h)
    have hn := ih (Nat.lt_of_succ_lt h)
    have hending := bytes_pos_iff.2 (ending_ne_nil hl h)
    rw [Line.before_succ hl, Line.whole, bytes_append, bytes_append]
    omega

namespace EndsOn

variable (h : EndsOn t a n l u)

include h

theorem isPrefix : a <+: t := by
  rw [h.eq_append]
  exact ((List.prefix_append_right_inj _).2 h.part).trans (before_append_whole_isPrefix h.line)

theorem line_lt : n < t.lines.length := (List.getElem?_eq_some_iff.1 h.line).1

theorem line_le_bytes : n ≤ bytes t :=
  Nat.le_trans (le_bytes_before h.line_lt) (bytes_le_of_isPrefix (Line.before_isPrefix (by decide) t n))

theorem units_le_bytes : units u ≤ bytes t := by
  have ha := bytes_le_of_isPrefix h.isPrefix
  have hu := Text.units_le_bytes u
  rw [h.eq_append, bytes_append] at ha
  omega

theorem bytes_lt_before {m : Nat} (hm : n < m) (hlt : m < t.lines.length) :
    bytes a < bytes (Line.before t.lines m) := by
  have hnext := bytes_le_of_isPrefix (Line.before_isPrefix_before t.lines hm)
  obtain ⟨v,hv⟩ := h.part
  have hpos : 0 < bytes v := by
    rw [bytes_pos_iff]
    rintro rfl
    exact h.ne_whole (by omega) (by rw [← hv, List.append_nil])
  rw [Line.before_succ h.line, ← hv, bytes_append, bytes_append] at hnext
  rw [h.eq_append, bytes_append]
  omega

/-- What ends on a line ends in its content or between the two characters of its ending. -/
theorem part_isPrefix_or : u <+: l.content ∨ l.ending = ['\r', '\n'] ∧ u = l.content ++ ['\r'] := by
  rcases List.prefix_or_prefix_of_prefix h.part (List.prefix_append _ _) with hu | ⟨e,rfl⟩
  · exact Or.inl hu
  have he : e <+: l.ending := (List.prefix_append_right_inj _).1 h.part
  have hwhole : n + 1 < t.lines.length → e ≠ l.ending := by
    rintro hlt rfl
    exact h.ne_whole hlt rfl
  by_cases hnil : e = []
  · rw [hnil, List.append_nil]
    exact Or.inl List.prefix_rfl
  -- of the endings only a pair has a part that is neither empty nor the whole
  rcases Line.ending_cases (by decide) h.line with ⟨_,hlast⟩ | ⟨hlt,hpair | hlone | hfeed⟩
  · rw [hlast] at he
    exact absurd (List.prefix_nil.1 he) hnil
  · have hne := hwhole hlt
    rw [hpair] at he hne
    obtain ⟨e',rfl,rfl | rfl⟩ : ∃ e', e = '\r' :: e' ∧ (e' = [] ∨ e' = ['\n']) := by
      simpa [List.prefix_cons_iff, hnil] using he
    · exact Or.inr ⟨hpair,rfl⟩
    · exact absurd rfl hne
  · have hne := hwhole hlt
    rw [hlone] at he hne
    exact absurd he (by simp [List.prefix_cons_iff, hnil, hne])
  · have hne := hwhole hlt
    rw [hfeed] at he hne
    exact absurd he (by simp [List.prefix_cons_iff, hnil, hne])

end EndsOn

/-- Where a line starts. -/
def lineStart (t : Text) (n : Nat) : Nat := bytes (Line.before t.lines n)

/-- The places of a line: where a character of its content starts, and the end of its content. -/
def OnLine (t : Text) (n o : Nat) : Prop :=
  IsBoundary t o ∧ ∃ l, t.lines[n]? = some l ∧ t.lineStart n ≤ o ∧ o ≤ t.lineStart n + bytes l.content

/-- The UTF-16 units between the start of a line and an offset. -/
def unitsOnLine (t : Text) (n o : Nat) : Nat := units (slice t (t.lineStart n) o)

/-- The offset a position leads to: the least place of its line with as many units before it as the column says, and
the end of the line where there is none. -/
def IsOffsetOf (t : Text) (p : Position) (o : Nat) : Prop :=
  IsLeast {b | t.OnLine p.line b ∧ p.character ≤ t.unitsOnLine p.line b} o ∨
    (∀ b, t.OnLine p.line b → t.unitsOnLine p.line b < p.character) ∧ IsGreatest {b | t.OnLine p.line b} o

/-- An offset lies between the two characters of one line ending. -/
def SplitsEnding (t : Text) (o : Nat) : Prop := ['\r'] <:+ takeBytes o t ∧ ['\n'] <+: dropBytes o t

instance (t : Text) (o : Nat) : Decidable (t.SplitsEnding o) :=
  inferInstanceAs (Decidable (_ ∧ _))

theorem onLine_iff (hl : t.lines[n]? = some l) {o : Nat} :
    t.OnLine n o ↔ ∃ u, u <+: l.content ∧ o = bytes (Line.before t.lines n ++ u) := by
  have hcontent := before_append_content_isPrefix hl
  constructor
  · rintro ⟨hboundary,m,hm,hstart,hstop⟩
    obtain rfl : l = m := Option.some.inj (hl.symm.trans hm)
    obtain ⟨a,ha,rfl⟩ := isBoundary_iff.1 hboundary
    obtain ⟨u,rfl⟩ := isPrefix_of_bytes_le ((List.prefix_append _ _).trans hcontent) ha hstart
    have hu : Line.before t.lines n ++ u <+: Line.before t.lines n ++ l.content :=
      isPrefix_of_bytes_le ha hcontent (by rw [bytes_append (Line.before t.lines n) l.content]; exact hstop)
    exact ⟨u,(List.prefix_append_right_inj _).1 hu,rfl⟩
  · rintro ⟨u,hu,rfl⟩
    have hbytes := bytes_le_of_isPrefix hu
    refine ⟨isBoundary_iff.2 ⟨_,(endsOn_of_content hl hu).isPrefix,rfl⟩,l,hl,?_,?_⟩ <;>
    · rw [lineStart, bytes_append]
      omega

/-- Where no line ending is split, a beginning ends in the content of its line. -/
theorem EndsOn.isPrefix_content (h : EndsOn t a n l u) (hending : ¬ t.SplitsEnding (bytes a)) : u <+: l.content := by
  rcases h.part_isPrefix_or with hu | ⟨hpair,hu⟩
  · exact hu
  have hcr : ['\r'] <:+ takeBytes (bytes a) t := by
    rw [takeBytes_of_isPrefix h.isPrefix, h.eq_append, hu, ← List.append_assoc]
    exact List.suffix_append _ _
  have hlf : ['\n'] <+: dropBytes (bytes a) t := by
    have hline := before_append_whole_isPrefix h.line
    have hwhole : l.whole = u ++ ['\n'] := by simp [Line.whole, hpair, hu]
    rw [hwhole, ← List.append_assoc, ← h.eq_append] at hline
    obtain ⟨r,rfl⟩ := h.isPrefix
    rw [dropBytes_append]
    exact (List.prefix_append_right_inj _).1 hline
  exact absurd ⟨hcr,hlf⟩ hending

theorem EndsOn.unitsOnLine_eq (h : EndsOn t a n l u) : t.unitsOnLine n (bytes a) = units u := by
  have hpart := h.isPrefix
  rw [h.eq_append] at hpart ⊢
  rw [unitsOnLine, lineStart, slice_of_isPrefix hpart]

theorem unitsOnLine_of_content (hl : t.lines[n]? = some l) (hu : u <+: l.content) :
    t.unitsOnLine n (bytes (Line.before t.lines n ++ u)) = units u :=
  (endsOn_of_content hl hu).unitsOnLine_eq

theorem isOffsetOf_takeUnits {p : Position} (hl : t.lines[p.line]? = some l) :
    t.IsOffsetOf p (bytes (Line.before t.lines p.line ++ takeUnits p.character l.content)) := by
  have htake := takeUnits_isPrefix p.character l.content
  have hon : t.OnLine p.line (bytes (Line.before t.lines p.line ++ takeUnits p.character l.content)) :=
    (onLine_iff hl).2 ⟨_,htake,rfl⟩
  have hbelow {v w : Text} (h : v <+: w) :
      bytes (Line.before t.lines p.line ++ v) ≤ bytes (Line.before t.lines p.line ++ w) :=
    bytes_le_of_isPrefix ((List.prefix_append_right_inj _).2 h)
  by_cases hreach : p.character ≤ units (takeUnits p.character l.content)
  · refine Or.inl ⟨⟨hon,by rwa [unitsOnLine_of_content hl htake]⟩,?_⟩
    rintro b ⟨hb,hunits⟩
    obtain ⟨v,hv,rfl⟩ := (onLine_iff hl).1 hb
    rw [unitsOnLine_of_content hl hv] at hunits
    exact hbelow (takeUnits_isPrefix_of_le hv hunits)
  · -- the line is too short, so all of it is taken
    have hall : takeUnits p.character l.content = l.content :=
      (le_units_takeUnits p.character l.content).resolve_left hreach
    rw [hall] at hon hreach ⊢
    refine Or.inr ⟨?_,hon,?_⟩
    · intro b hb
      obtain ⟨v,hv,rfl⟩ := (onLine_iff hl).1 hb
      obtain ⟨w,hw⟩ := hv
      rw [unitsOnLine_of_content hl ⟨w,hw⟩]
      rw [← hw, units_append] at hreach
      omega
    · intro b hb
      obtain ⟨v,hv,rfl⟩ := (onLine_iff hl).1 hb
      exact hbelow hv

end Text

end SyntaxServer
