import SyntaxServer.Proofs.Text.Places
import SyntaxServer.Proofs.Text.Points

/-! # Positions of a text, back and forth

The line table finds for every beginning of a text the line it ends on. So the way from an offset to its position
and back leads to the same offset, unless it lies within a line ending, and the way from a position to its point and
back moves the position to the place it stands for.
-/
namespace SyntaxServer

theorem low32_eq {n : Nat} (h : n < UInt32.size) : low32 n = n := Nat.mod_eq_of_lt h

namespace LineTable

open Text (EndsOn)

section LastStart

variable {starts : List Nat} {n o : Nat}

theorem lastStart_eq (hn : n < starts.length) (hupTo : ∀ k x, k ≤ n → starts[k]? = some x → x ≤ o)
    (hbehind : ∀ x, starts[n + 1]? = some x → o < x) : lastStart starts o = n := by
  have htake : ∀ x ∈ starts.take (n + 1), decide (x ≤ o) = true := by
    intro x hx
    obtain ⟨k,hk⟩ := List.mem_iff_getElem?.1 hx
    have hlt : k < n + 1 := by
      have hlength := (List.getElem?_eq_some_iff.1 hk).1
      rw [List.length_take] at hlength
      omega
    rw [List.getElem?_take_of_lt hlt] at hk
    exact decide_eq_true (hupTo k x (Nat.le_of_lt_succ hlt) hk)
  have hdrop : (starts.drop (n + 1)).takeWhile (· ≤ o) = [] := by
    cases hd : starts.drop (n + 1) with
    | nil => rfl
    | cons x xs =>
      have hx : starts[n + 1]? = some x := by rw [← List.head?_drop, hd, List.head?_cons]
      have hlt := hbehind x hx
      exact List.takeWhile_cons_of_neg (by simpa using hlt)
  rw [lastStart, ← List.take_append_drop (n + 1) starts, List.takeWhile_append_of_pos htake, hdrop, List.append_nil,
    List.length_take]
  omega

theorem exists_getElem?_lastStart (h : starts[0]? = some 0) (o : Nat) :
    ∃ x, starts[lastStart starts o]? = some x ∧ x ≤ o := by
  have hne : starts.takeWhile (· ≤ o) ≠ [] := by
    cases starts with
    | nil => cases h
    | cons x xs =>
      obtain rfl : x = 0 := by simpa using h
      simp
  have hlt : lastStart starts o < (starts.takeWhile (· ≤ o)).length :=
    Nat.sub_lt (List.length_pos_iff.2 hne) Nat.one_pos
  refine ⟨_,List.prefix_iff_getElem?.1 (List.takeWhile_prefix _) _ hlt,?_⟩
  simpa using List.all_eq_true.1 List.all_takeWhile _ (List.getElem_mem hlt)

end LastStart

variable {t a u : Text} {n : Nat} {l : Line Char}

/-- A beginning of a text ends behind the start of its line and before that of the next. -/
theorem lastStart_of_endsOn (h : EndsOn t a n l u) : lastStart (ofText t).lines (Text.bytes a) = n := by
  have hstart {k x : Nat} (hx : (ofText t).lines[k]? = some x) :
      k < t.lines.length ∧ x = Text.bytes (Line.before t.lines k) := by
    rw [getElem?_lines_ofText] at hx
    obtain ⟨m,hm,rfl⟩ := Option.map_eq_some_iff.1 hx
    exact ⟨(List.getElem?_eq_some_iff.1 hm).1,rfl⟩
  apply lastStart_eq
  · have hn := getElem?_lines_ofText t n
    rw [h.line] at hn
    exact (List.getElem?_eq_some_iff.1 hn).1
  · intro k x hk hx
    obtain ⟨_,rfl⟩ := hstart hx
    have hbefore := Text.bytes_le_of_isPrefix (Line.before_isPrefix_before t.lines hk)
    rw [h.eq_append, Text.bytes_append]
    omega
  · intro x hx
    obtain ⟨hlt,rfl⟩ := hstart hx
    exact h.bytes_lt_before (Nat.lt_succ_self n) hlt

theorem getD_lines_ofText (hl : t.lines[n]? = some l) :
    (ofText t).lines.getD n 0 = Text.bytes (Line.before t.lines n) := by
  rw [List.getD_eq_getElem?_getD, getElem?_lines_ofText, hl]
  rfl

/-- A beginning of a text that ends on a line has this line and the units on it as its position. -/
theorem position_of_endsOn (hsize : Text.bytes t < UInt32.size) (h : EndsOn t a n l u) :
    (ofText t).position t ((ofText t).point (Text.bytes a)) = ⟨n,Text.units u⟩ := by
  have hfirst : (ofText t).rows[0]? = some 0 := rfl
  obtain ⟨rowStart,hrow,hle⟩ := exists_getElem?_lastStart hfirst (Text.bytes a)
  have hcolumn : rowStart + (Text.bytes a - (ofText t).rows.getD (lastStart (ofText t).rows (Text.bytes a)) 0) =
      Text.bytes a := by
    rw [List.getD_eq_getElem?_getD, hrow]
    exact Nat.add_sub_of_le hle
  have hbytes := Text.bytes_le_of_isPrefix h.isPrefix
  have hboundary : Text.IsBoundary t (Text.bytes a) := Text.isBoundary_iff.2 ⟨a,h.isPrefix,rfl⟩
  have honLine : Text.units (Text.slice t (Text.bytes (Line.before t.lines n)) (Text.bytes a)) = Text.units u :=
    h.unitsOnLine_eq
  have hline : low32 n = n := low32_eq (Nat.lt_of_le_of_lt h.line_le_bytes hsize)
  have hunits : low32 (Text.units u) = Text.units u := low32_eq (Nat.lt_of_le_of_lt h.units_le_bytes hsize)
  simp only [position, point, hrow, hcolumn, size_ofText, Nat.min_eq_left hbytes, lastStart_of_endsOn h, hboundary,
    if_true, getD_lines_ofText h.line, honLine, hline, hunits]

/-- From an offset to its position and back: nothing is lost between two characters, unless they are the two of one
line ending. -/
theorem offset?_position_point {o : Nat} (hsize : Text.bytes t < UInt32.size) (hboundary : Text.IsBoundary t o)
    (hending : ¬ t.SplitsEnding o) : (ofText t).offset? t ((ofText t).position t ((ofText t).point o)) = some o := by
  obtain ⟨a,ha,rfl⟩ := Text.isBoundary_iff.1 hboundary
  obtain ⟨n,l,u,h⟩ := Text.exists_endsOn ha
  rw [position_of_endsOn hsize h, offset?_ofText, Text.upTo?, h.line, Option.map_some, Option.map_some,
    Text.takeUnits_units (h.isPrefix_content hending), h.eq_append]

/-- Three lines on two rows: the lone carriage return ends a line and not a row. -/
def mixedEndings : Text := "é\r\n\r😀b".toList

/-- Behind a character with two units, on the third line and the second row. -/
theorem offset?_position_point_secondRow :
    Text.bytes mixedEndings < UInt32.size ∧ Text.IsBoundary mixedEndings 9 ∧ ¬ mixedEndings.SplitsEnding 9 ∧
    (ofText mixedEndings).point 9 = ⟨1,5⟩ ∧ (ofText mixedEndings).position mixedEndings ⟨1,5⟩ = ⟨2,2⟩ ∧
    (ofText mixedEndings).offset? mixedEndings
      ((ofText mixedEndings).position mixedEndings ((ofText mixedEndings).point 9)) = some 9 :=
  ⟨by decide +kernel,by decide +kernel,by decide +kernel,by decide +kernel,by decide +kernel,
    offset?_position_point (by decide +kernel) (by decide +kernel) (by decide +kernel)⟩

@[simp] theorem length_starts (o : Nat) (ls : List (Line Char)) : (starts o ls).length = ls.length := by
  induction ls generalizing o with
  | nil => rfl
  | cons l ls ih => simp [starts, ih]

theorem lineCount_eq (t : Text) : (ofText t).lineCount = t.lines.length := by
  have hstarts := congrArg List.length (startsAfter_endsLine 0 t)
  rw [length_starts] at hstarts
  exact hstarts

theorem pointAt?_eq_none_iff {p : Position} : (ofText t).pointAt? t p = none ↔ (ofText t).lineCount ≤ p.line := by
  rw [pointAt?, offset?_ofText, Option.map_eq_none_iff, Option.map_eq_none_iff, Text.upTo?, Option.map_eq_none_iff,
    List.getElem?_eq_none_iff, lineCount_eq]

theorem pointAt?_of_onLine {o : Nat} (h : t.OnLine n o) :
    (ofText t).pointAt? t ⟨n,t.unitsOnLine n o⟩ = some ((ofText t).point o) := by
  obtain ⟨l,hl,_⟩ := h.2
  obtain ⟨u,hu,rfl⟩ := (Text.onLine_iff hl).1 h
  rw [Text.unitsOnLine_of_content hl hu, pointAt?, offset?_ofText, Text.upTo?, hl, Option.map_some, Option.map_some,
    Option.map_some, Text.takeUnits_units hu]

theorem position_of_onLine (hsize : Text.bytes t < UInt32.size) {o : Nat} (h : t.OnLine n o) :
    (ofText t).position t ((ofText t).point o) = ⟨n,t.unitsOnLine n o⟩ := by
  obtain ⟨l,hl,_⟩ := h.2
  obtain ⟨u,hu,rfl⟩ := (Text.onLine_iff hl).1 h
  rw [Text.unitsOnLine_of_content hl hu]
  exact position_of_endsOn hsize (Text.endsOn_of_content hl hu)

/-- A position whose line exists leads to the place it stands for. -/
theorem place_of_pointAt? {p : Position} {point : Point} (h : (ofText t).pointAt? t p = some point) :
    ∃ o, (ofText t).offset? t p = some o ∧ point = (ofText t).point o ∧ t.OnLine p.line o ∧ t.IsOffsetOf p o := by
  rw [pointAt?, offset?_ofText, Option.map_map] at h
  obtain ⟨a,ha,rfl⟩ := Option.map_eq_some_iff.1 h
  have hoffset : (ofText t).offset? t p = some (Text.bytes a) := by rw [offset?_ofText, ha, Option.map_some]
  obtain ⟨l,hl,rfl⟩ := Option.map_eq_some_iff.1 ha
  have hu := Text.takeUnits_isPrefix p.character l.content
  exact ⟨_,hoffset,rfl,(Text.onLine_iff hl).2 ⟨_,hu,rfl⟩,Text.isOffsetOf_takeUnits hl⟩

/-- A position moved to the place it stands for. -/
def normalize? (table : LineTable) (t : Text) (p : Position) : Option Position :=
  (table.pointAt? t p).map (table.position t)

/-- From a position to its point and back: the position moves to the place on its line that it stands for. One that
names a place stays, and one that has moved stays. -/
theorem position_pointAt?_normalizes (hsize : Text.bytes t < UInt32.size) (p : Position) :
    ((ofText t).pointAt? t p = none ↔ (ofText t).lineCount ≤ p.line) ∧
    (∀ point, (ofText t).pointAt? t p = some point →
      (∃ o, (ofText t).offset? t p = some o ∧ point = (ofText t).point o ∧ t.OnLine p.line o ∧ t.IsOffsetOf p o ∧
        (ofText t).position t point = ⟨p.line,t.unitsOnLine p.line o⟩) ∧
      ((∃ o, t.OnLine p.line o ∧ p.character = t.unitsOnLine p.line o) → (ofText t).position t point = p)) ∧
    ((ofText t).normalize? t p).bind ((ofText t).normalize? t) = (ofText t).normalize? t p := by
  refine ⟨pointAt?_eq_none_iff,?_,?_⟩
  · intro point hpoint
    constructor
    · obtain ⟨o,hoffset,rfl,hon,hleads⟩ := place_of_pointAt? hpoint
      exact ⟨o,hoffset,rfl,hon,hleads,position_of_onLine hsize hon⟩
    · rintro ⟨o,hon,hcharacter⟩
      have hp : p = ⟨p.line,t.unitsOnLine p.line o⟩ := by rw [← hcharacter]
      have hpoint' := pointAt?_of_onLine hon
      rw [← hp, hpoint, Option.some.injEq] at hpoint'
      rw [hpoint', position_of_onLine hsize hon, ← hcharacter]
  · cases hpoint : (ofText t).pointAt? t p with
    | none => simp only [normalize?, hpoint, Option.map_none, Option.bind_none]
    | some point =>
      obtain ⟨o,_,rfl,hon,_⟩ := place_of_pointAt? hpoint
      simp only [normalize?, hpoint, Option.map_some, Option.bind_some, position_of_onLine hsize hon,
        pointAt?_of_onLine hon]

/-- Inside a surrogate pair, on the third line and the second row: the position moves behind the pair. -/
theorem position_pointAt?_normalizes_insidePair :
    let t := mixedEndings
    Text.bytes t < UInt32.size ∧ (ofText t).pointAt? t ⟨2,1⟩ = some ⟨1,5⟩ ∧
    (∃ o, (ofText t).offset? t ⟨2,1⟩ = some o ∧ ⟨1,5⟩ = (ofText t).point o ∧ t.OnLine 2 o ∧ t.IsOffsetOf ⟨2,1⟩ o ∧
      (ofText t).position t ⟨1,5⟩ = ⟨2,t.unitsOnLine 2 o⟩) ∧
    (ofText t).position t ⟨1,5⟩ = ⟨2,2⟩ ∧
    ((ofText t).normalize? t ⟨2,1⟩).bind ((ofText t).normalize? t) = (ofText t).normalize? t ⟨2,1⟩ := by
  have hsize : Text.bytes mixedEndings < UInt32.size := by decide +kernel
  have hpoint : (ofText mixedEndings).pointAt? mixedEndings ⟨2,1⟩ = some ⟨1,5⟩ := by decide +kernel
  obtain ⟨_,hplace,htwice⟩ := position_pointAt?_normalizes hsize ⟨2,1⟩
  exact ⟨hsize,hpoint,(hplace _ hpoint).1,by decide +kernel,htwice⟩

end LineTable

end SyntaxServer
