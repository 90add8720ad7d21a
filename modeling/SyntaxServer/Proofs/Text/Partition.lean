import Mathlib.Data.List.Infix
import SyntaxServer.Proofs.Text.Positions

/-! # The lines of a table make up its text

A table is built looking ahead from each carriage return, and a line is cut out looking back from where the next one
starts. The two agree: between two starts stand a line that no line end interrupts and one ending, so that the lines of
the table put together are the text, and there is one line more than there are endings.
-/
namespace SyntaxServer

namespace Line

variable {α : Type} [DecidableEq α] {cr lf : α}

theorem ne_of_mem_content (hne : cr ≠ lf) (t : List α) : ∀ l ∈ split cr lf t, ∀ a ∈ l.content, a ≠ cr ∧ a ≠ lf := by
  induction t using split_induction hne with
  | nil => simp [split]
  | line_feed t ih => simpa using ih
  | pair t ih => simpa [split_cr_lf hne] using ih
  | lone t ht ih => simpa [split_cr hne ht] using ih
  | other a t hcr hlf ih =>
    obtain ⟨l,ls,hls⟩ := List.exists_cons_of_ne_nil (split_ne_nil cr lf t)
    rw [hls, List.forall_mem_cons] at ih
    rw [split_other hcr hlf, hls, extend, List.forall_mem_cons, List.forall_mem_cons]
    exact ⟨⟨⟨hcr,hlf⟩,ih.1⟩,ih.2⟩

theorem length_split (hne : cr ≠ lf) (t : List α) :
    (split cr lf t).length = (split cr lf t).countP (fun l => l.ending ≠ []) + 1 := by
  induction t using split_induction hne with
  | nil => simp [split]
  | line_feed t ih => simpa using ih
  | pair t ih => simpa [split_cr_lf hne] using ih
  | lone t ht ih => simpa [split_cr hne ht] using ih
  | other a t hcr hlf ih =>
    obtain ⟨l,ls,hls⟩ := List.exists_cons_of_ne_nil (split_ne_nil cr lf t)
    rw [hls] at ih
    rw [split_other hcr hlf, hls, extend]
    simpa [List.countP_cons] using ih

end Line

/-- A line ending, with what follows it: a carriage return ends a line alone only where no line feed follows. -/
inductive Text.IsLineEnding : Text → Text → Prop where
  | lineFeed (rest : Text) : IsLineEnding ['\n'] rest
  | pair (rest : Text) : IsLineEnding ['\r', '\n'] rest
  | lone {rest : Text} (h : rest.head? ≠ some '\n') : IsLineEnding ['\r'] rest

/-- How many carriage returns of a text have no line feed behind them. -/
def Text.countLoneReturns (t : Text) : Nat := t.tails.countP fun s => ['\r'] <+: s ∧ ¬ ['\r', '\n'] <+: s

namespace LineTable

/-- A line as a table cuts it out of a text: what stands between its two offsets, and what stands from there up to the
next start or to the end. -/
def line (table : LineTable) (t : Text) (n : Nat) : Line Char :=
  let (start, stop) := (table.lineExtent? t n).getD (table.size, table.size)
  ⟨Text.slice t start stop, Text.slice t stop (table.lines.getD (n + 1) table.size)⟩

/-- All lines that a table cuts a text into. -/
def cut (table : LineTable) (t : Text) : List (Line Char) := (List.range table.lineCount).map (table.line t)

/-- A line of a table lies in the text: it starts and stops between characters, no line end stands on it, and behind it
one ending leads to the next start, or the text is over. -/
structure HoldsLine (table : LineTable) (t : Text) (n start stop : Nat) : Prop where
  start_eq : table.lines[n]? = some start
  start_le_stop : start ≤ stop
  stop_le_size : stop ≤ Text.bytes t
  start_isBoundary : Text.IsBoundary t start
  stop_isBoundary : Text.IsBoundary t stop
  content_plain : ∀ c ∈ Text.slice t start stop, c ≠ '\r' ∧ c ≠ '\n'
  ending_of_next : ∀ next, table.lines[n + 1]? = some next →
    stop < next ∧ Text.IsBoundary t next ∧ Text.IsLineEnding (Text.slice t stop next) (Text.dropBytes next t)
  stop_of_last : table.lines[n + 1]? = none → stop = Text.bytes t

variable {t : Text} {n next : Nat} {l : Line Char}

theorem whole_isPrefix (hl : t.lines[n]? = some l) : Line.before t.lines n ++ l.content ++ l.ending <+: t := by
  rw [List.append_assoc]
  exact Text.before_append_whole_isPrefix hl

/-- The next line starts behind the ending, and what is last ends with the text. -/
theorem getD_lines_succ (hl : t.lines[n]? = some l) :
    (ofText t).lines.getD (n + 1) (ofText t).size = Text.bytes (Line.before t.lines n ++ l.content ++ l.ending) := by
  have hbefore := Line.before_succ hl
  rw [Line.whole, ← List.append_assoc] at hbefore
  rw [← hbefore, List.getD_eq_getElem?_getD, getElem?_lines_ofText]
  cases hm : t.lines[n + 1]? with
  | some m => rfl
  | none =>
    have hlength : t.lines.length = n + 1 :=
      Nat.le_antisymm (List.getElem?_eq_none_iff.1 hm) (List.getElem?_eq_some_iff.1 hl).1
    have hall := Line.before_length (by decide : '\r' ≠ '\n') t
    change Line.before t.lines t.lines.length = t at hall
    rw [hlength] at hall
    rw [hall]
    rfl

theorem next_eq (hl : t.lines[n]? = some l) (hnext : (ofText t).lines[n + 1]? = some next) :
    next = Text.bytes (Line.before t.lines n ++ l.content ++ l.ending) := by
  rw [← getD_lines_succ hl, List.getD_eq_getElem?_getD, hnext]
  rfl

theorem lt_length_of_next (hnext : (ofText t).lines[n + 1]? = some next) : n + 1 < t.lines.length := by
  rw [← lineCount_eq]
  exact (List.getElem?_eq_some_iff.1 hnext).1

theorem line_ofText (hl : t.lines[n]? = some l) : (ofText t).line t n = l := by
  have hcontent := Text.slice_of_isPrefix (Text.before_append_content_isPrefix hl)
  have hending := Text.slice_of_isPrefix (whole_isPrefix hl)
  simp only [line, lineExtent?_ofText, hl, Option.map_some, Option.getD_some, getD_lines_succ hl, hcontent, hending]

theorem cut_ofText (t : Text) : (ofText t).cut t = t.lines := by
  rw [cut, lineCount_eq]
  apply List.ext_getElem
  · simp
  · intro n _ hn
    have hl : t.lines[n]? = some t.lines[n] := List.getElem?_eq_getElem hn
    simp [line_ofText hl]

/-- Behind a carriage return alone the table has looked ahead, so no line feed stands there. -/
theorem isLineEnding_of_next (hl : t.lines[n]? = some l) (hnext : (ofText t).lines[n + 1]? = some next) :
    Text.IsLineEnding l.ending (Text.dropBytes next t) := by
  have hlt := lt_length_of_next hnext
  rcases Line.ending_cases (by decide) hl with ⟨hlast,_⟩ | ⟨_,hpair | hlone | hfeed⟩
  · exact absurd hlast (Nat.ne_of_lt hlt)
  · rw [hpair]
    exact .pair _
  · have hmem : next ∈ startsAfter endsLine 0 t := List.mem_of_getElem? hnext
    obtain ⟨a,c,rest,ht,hends,hac⟩ := mem_startsAfter_iff.1 hmem
    rw [List.append_cons] at ht
    rw [Nat.zero_add] at hac
    -- what stands before the next start is known in two ways, and so is the character before it
    have htable : Text.takeBytes next t = a ++ [c] := by rw [hac, ht, Text.takeBytes_append]
    have hline : Text.takeBytes next t = Line.before t.lines n ++ l.content ++ ['\r'] := by
      rw [next_eq hl hnext, Text.takeBytes_of_isPrefix (whole_isPrefix hl), hlone]
    have hbefore := htable.symm.trans hline
    obtain ⟨_,hc⟩ := List.append_inj' hbefore rfl
    obtain rfl : c = '\r' := by simpa using hc
    rw [hlone, hac, ht, Text.dropBytes_append]
    exact .lone (by simpa [endsLine] using hends)
  · rw [hfeed]
    exact .lineFeed _

theorem ending_of_next (hl : t.lines[n]? = some l) (hnext : (ofText t).lines[n + 1]? = some next) :
    Text.bytes (Line.before t.lines n ++ l.content) < next ∧ Text.IsBoundary t next ∧
      Text.IsLineEnding (Text.slice t (Text.bytes (Line.before t.lines n ++ l.content)) next) (Text.dropBytes next t) := by
  have hending := isLineEnding_of_next hl hnext
  have hpos := Text.bytes_pos_iff.2 (Text.ending_ne_nil hl (lt_length_of_next hnext))
  obtain rfl := next_eq hl hnext
  refine ⟨?_,Text.isBoundary_iff.2 ⟨_,whole_isPrefix hl,rfl⟩,?_⟩
  · rw [Text.bytes_append _ l.ending]
    omega
  · rw [Text.slice_of_isPrefix (whole_isPrefix hl)]
    exact hending

theorem stop_of_last (hl : t.lines[n]? = some l) (hlast : (ofText t).lines[n + 1]? = none) :
    Text.bytes (Line.before t.lines n ++ l.content) = Text.bytes t := by
  have hend := getD_lines_succ hl
  rw [List.getD_eq_getElem?_getD, hlast, Option.getD_none, size_ofText] at hend
  rw [getElem?_lines_ofText, Option.map_eq_none_iff, List.getElem?_eq_none_iff] at hlast
  rcases Line.ending_cases (by decide) hl with ⟨_,hnone⟩ | ⟨hlt,_⟩
  · rw [hend, hnone, List.append_nil]
  · exact absurd hlt (Nat.not_lt.2 hlast)

theorem holdsLine_of_lineExtent? {start stop : Nat} (h : (ofText t).lineExtent? t n = some (start, stop)) :
    (ofText t).HoldsLine t n start stop := by
  rw [lineExtent?_ofText] at h
  obtain ⟨l,hl,hextent⟩ := Option.map_eq_some_iff.1 h
  cases hextent
  have hcontent := Text.before_append_content_isPrefix hl
  exact {
    start_eq := by rw [getElem?_lines_ofText, hl, Option.map_some]
    start_le_stop := Text.bytes_le_of_isPrefix (List.prefix_append _ _)
    stop_le_size := Text.bytes_le_of_isPrefix hcontent
    start_isBoundary := Text.isBoundary_iff.2 ⟨_,(List.prefix_append _ _).trans hcontent,rfl⟩
    stop_isBoundary := Text.isBoundary_iff.2 ⟨_,hcontent,rfl⟩
    content_plain := by
      rw [Text.slice_of_isPrefix hcontent]
      exact Line.ne_of_mem_content (by decide) t l (List.mem_of_getElem? hl)
    ending_of_next := fun _ => ending_of_next hl
    stop_of_last := stop_of_last hl }

theorem mem_rows_iff {o : Nat} :
    o ∈ (ofText t).rows ↔ o = 0 ∨ ∃ a, a ++ ['\n'] <+: t ∧ o = Text.bytes (a ++ ['\n']) := by
  have hstart : o ∈ startsAfter endsRow 0 t ↔ ∃ a, a ++ ['\n'] <+: t ∧ o = Text.bytes (a ++ ['\n']) := by
    rw [mem_startsAfter_iff]
    constructor
    · rintro ⟨a,c,rest,rfl,hends,rfl⟩
      obtain rfl : c = '\n' := by simpa [endsRow] using hends
      exact ⟨a,⟨rest,by simp⟩,Nat.zero_add _⟩
    · rintro ⟨a,⟨rest,rfl⟩,rfl⟩
      exact ⟨a,'\n',rest,by simp,rfl,(Nat.zero_add _).symm⟩
  exact List.mem_cons.trans (or_congr_right hstart)

theorem endsLine_eq {c : Char} (hfeed : c ≠ '\n') (t : Text) :
    endsLine c t = decide (['\r'] <+: c :: t ∧ ¬ ['\r', '\n'] <+: c :: t) := by
  by_cases hreturn : c = '\r'
  · subst hreturn
    cases t with
    | nil => rfl
    | cons d t => simp [endsLine, eq_comm (b := d), bne, beq_eq_decide]
  · have hother : ¬ ['\r'] <+: c :: t := by simpa using Ne.symm hreturn
    simp [endsLine, hfeed, hreturn, hother]

theorem length_startsAfter_endsLine (o : Nat) (t : Text) :
    (startsAfter endsLine o t).length = t.count '\n' + t.countLoneReturns := by
  unfold Text.countLoneReturns
  induction t generalizing o with
  | nil => rfl
  | cons c t ih =>
    rw [startsAfter, List.tails_cons, List.countP_cons, List.count_cons]
    by_cases hfeed : c = '\n'
    · simp [endsLine, hfeed, ih, Nat.add_right_comm]
    · rw [endsLine_eq hfeed]
      split <;> simp [hfeed, ih, Nat.add_assoc]

/-- The line starts ascend from zero, between two of them stand one line and one ending, and all lines with their
endings are the text. There is one line more than there are endings: line feeds, with a carriage return before them or
without, and carriage returns alone. The row starts are zero and the offsets behind the line feeds. -/
theorem lines_partition_text (t : Text) :
    ((ofText t).lines.head? = some 0 ∧ (ofText t).lines.Pairwise (· < ·) ∧
      ∀ o ∈ (ofText t).lines, o ≤ Text.bytes t) ∧
    (∀ n, (ofText t).lineExtent? t n = none ↔ (ofText t).lineCount ≤ n) ∧
    (∀ n start stop, (ofText t).lineExtent? t n = some (start, stop) → (ofText t).HoldsLine t n start stop) ∧
    ((ofText t).cut t).flatMap Line.whole = t ∧
    (ofText t).lineCount = ((ofText t).cut t).countP (fun l => l.ending ≠ []) + 1 ∧
    (ofText t).lineCount = t.count '\n' + t.countLoneReturns + 1 ∧
    ((ofText t).rows.head? = some 0 ∧ (ofText t).rows.Pairwise (· < ·) ∧
      ∀ o, o ∈ (ofText t).rows ↔ o = 0 ∨ ∃ a, a ++ ['\n'] <+: t ∧ o = Text.bytes (a ++ ['\n'])) := by
  have hne : '\r' ≠ '\n' := by decide
  refine ⟨⟨rfl,pairwise_cons_startsAfter endsLine t,?_⟩,?_,fun _ _ _ => holdsLine_of_lineExtent?,?_,?_,
    congrArg (· + 1) (length_startsAfter_endsLine 0 t),rfl,pairwise_cons_startsAfter endsRow t,?_⟩
  · intro o ho
    rcases List.mem_cons.1 ho with rfl | ho
    · exact Nat.zero_le _
    · have hbounds := mem_startsAfter ho
      omega
  · intro n
    rw [lineExtent?_ofText, Option.map_eq_none_iff, List.getElem?_eq_none_iff, lineCount_eq]
  · rw [cut_ofText]
    exact Line.flatMap_whole_split hne t
  · rw [cut_ofText, lineCount_eq]
    exact Line.length_split hne t
  · exact fun o => mem_rows_iff

/-- An empty line between a carriage return with a line feed and one alone. -/
theorem lines_partition_text_mixedEndings :
    (ofText mixedEndings).cut mixedEndings =
      [⟨['é'], ['\r', '\n']⟩, ⟨[], ['\r']⟩, ⟨['😀', 'b'], []⟩] ∧
    (ofText mixedEndings).lineExtent? mixedEndings 1 = some (4, 4) ∧
    (ofText mixedEndings).HoldsLine mixedEndings 1 4 4 := by
  have hextent : (ofText mixedEndings).lineExtent? mixedEndings 1 = some (4, 4) := by decide +kernel
  obtain ⟨_,_,hlines,_⟩ := lines_partition_text mixedEndings
  exact ⟨by decide +kernel,hextent,hlines 1 4 4 hextent⟩

end LineTable

end SyntaxServer
