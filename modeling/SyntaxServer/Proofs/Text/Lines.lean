import SyntaxServer.Text.LineTable
import SyntaxServer.Proofs.Text.Beginning

/-! # The lines of a text

The lines of a sequence of symbols are said once for every alphabet, because an editor cuts UTF-16 units
into lines and the line table counts the bytes of characters. The table of a text is shown to hold where
these lines start, and a position to stand for a beginning of the text: the lines before its own, and of
its own line the least part that has as many units as the column says.
-/
namespace SyntaxServer

/-- A line: what stands on it, and what ends it. -/
structure Line (α : Type) where
  content : List α
  ending : List α
deriving DecidableEq, Repr

namespace Line

section Split

variable {α : Type} [DecidableEq α] {cr lf : α}

def whole (l : Line α) : List α := l.content ++ l.ending

/-- Lines with one more symbol at the beginning of the first. -/
def extend (a : α) : List (Line α) → List (Line α)
  | [] => [⟨[a], []⟩]
  | l :: ls => ⟨a :: l.content, l.ending⟩ :: ls

/-- The lines of a sequence. A line ends at `cr` with `lf` behind it, at `lf`, and at `cr` alone; what
stands behind the last ending is a line, too. -/
def split (cr lf : α) : List α → List (Line α)
  | [] => [⟨[], []⟩]
  | a :: t =>
    if a = lf then ⟨[], [lf]⟩ :: split cr lf t
    else if a = cr then
      if t.head? = some lf then ⟨[], [cr, lf]⟩ :: (split cr lf t).tail
      else ⟨[], [cr]⟩ :: split cr lf t
    else extend a (split cr lf t)

/-- What stands before line `n`. -/
def before (ls : List (Line α)) (n : Nat) : List α := (ls.take n).flatMap whole

@[simp] theorem split_lf (t : List α) : split cr lf (lf :: t) = ⟨[], [lf]⟩ :: split cr lf t := by
  simp [split]

theorem split_cr_lf (hne : cr ≠ lf) (t : List α) :
    split cr lf (cr :: lf :: t) = ⟨[], [cr, lf]⟩ :: split cr lf t := by
  simp [split, hne]

theorem split_cr (hne : cr ≠ lf) {t : List α} (ht : t.head? ≠ some lf) :
    split cr lf (cr :: t) = ⟨[], [cr]⟩ :: split cr lf t := by
  simp [split, hne, ht]

theorem split_other {a : α} (hcr : a ≠ cr) (hlf : a ≠ lf) (t : List α) :
    split cr lf (a :: t) = extend a (split cr lf t) := by
  simp [split, hcr, hlf]

/-- Induction along the lines: one case for each way a sequence can begin. -/
theorem split_induction {cr lf : α} (hne : cr ≠ lf) {motive : List α → Prop} (nil : motive [])
    (line_feed : ∀ t, motive t → motive (lf :: t))
    (pair : ∀ t, motive t → motive (cr :: lf :: t))
    (lone : ∀ t, t.head? ≠ some lf → motive t → motive (cr :: t))
    (other : ∀ a t, a ≠ cr → a ≠ lf → motive t → motive (a :: t)) : ∀ t, motive t
  | [] => nil
  | a :: t => by
    -- the sequence behind a pair is two symbols shorter, so both tails are at hand
    have ht := split_induction hne nil line_feed pair lone other t
    by_cases hlf : a = lf
    · exact hlf ▸ line_feed t ht
    by_cases hcr : a = cr
    · subst hcr
      match t with
      | [] => exact lone [] (by simp) ht
      | b :: u =>
        by_cases hb : b = lf
        · exact hb ▸ pair u (split_induction hne nil line_feed pair lone other u)
        · exact lone (b :: u) (by simpa using hb) ht
    · exact other a t hcr hlf ht

omit [DecidableEq α] in
@[simp] theorem before_zero (ls : List (Line α)) : before ls 0 = [] := by simp [before]

omit [DecidableEq α] in
@[simp] theorem before_cons_succ (l : Line α) (ls : List (Line α)) (n : Nat) :
    before (l :: ls) (n + 1) = l.whole ++ before ls n := by
  simp [before]

omit [DecidableEq α] in
@[simp] theorem flatMap_whole_extend (a : α) (ls : List (Line α)) :
    (extend a ls).flatMap whole = a :: ls.flatMap whole := by
  cases ls <;> simp [extend, whole]

theorem flatMap_whole_split (hne : cr ≠ lf) (t : List α) : (split cr lf t).flatMap whole = t := by
  induction t using split_induction hne with
  | nil => simp [split, whole]
  | line_feed t ih => simp [whole, ih]
  | pair t ih => simp [split_cr_lf hne, whole, ih]
  | lone t ht ih => simp [split_cr hne ht, whole, ih]
  | other a t hcr hlf ih => simp [split_other hcr hlf, ih]

theorem split_ne_nil (cr lf : α) (t : List α) : split cr lf t ≠ [] := by
  cases t with
  | nil => simp [split]
  | cons a t =>
    simp only [split]
    split
    · simp
    · split
      · split <;> simp
      · cases split cr lf t <;> simp [extend]

omit [DecidableEq α] in
theorem before_succ {ls : List (Line α)} {n : Nat} {l : Line α} (h : ls[n]? = some l) :
    before ls (n + 1) = before ls n ++ l.whole := by
  obtain ⟨hn,rfl⟩ := List.getElem?_eq_some_iff.mp h
  simp only [before, List.take_succ_eq_append_getElem hn, List.flatMap_append, List.flatMap_singleton]

theorem before_isPrefix (hne : cr ≠ lf) (t : List α) (n : Nat) : before (split cr lf t) n <+: t := by
  refine ⟨((split cr lf t).drop n).flatMap whole,?_⟩
  rw [before, ← List.flatMap_append, List.take_append_drop, flatMap_whole_split hne]

theorem before_length (hne : cr ≠ lf) (t : List α) :
    before (split cr lf t) (split cr lf t).length = t := by
  rw [before, List.take_length, flatMap_whole_split hne]

omit [DecidableEq α] in
/-- A line after another symbol was put at the beginning: only the first line has changed. -/
theorem getElem?_extend {a : α} {ls : List (Line α)} (hls : ls ≠ []) {n : Nat} {l : Line α}
    (h : (extend a ls)[n]? = some l) :
    ∃ m, ls[n]? = some m ∧ l.ending = m.ending ∧
      before (extend a ls) n ++ l.content = a :: (before ls n ++ m.content) := by
  obtain ⟨m,ms,rfl⟩ := List.exists_cons_of_ne_nil hls
  cases n with
  | zero =>
    obtain rfl : _ = l := by simpa [extend] using h
    exact ⟨m,rfl,rfl,by simp⟩
  | succ n => exact ⟨l,by simpa [extend] using h,rfl,by simp [extend,whole]⟩

omit [DecidableEq α] in
@[simp] theorem length_extend (a : α) {ls : List (Line α)} (hls : ls ≠ []) :
    (extend a ls).length = ls.length := by
  cases ls <;> simp_all [extend]

theorem ending_cases (hne : cr ≠ lf) {t : List α} {n : Nat} {l : Line α}
    (h : (split cr lf t)[n]? = some l) :
    (n + 1 = (split cr lf t).length ∧ l.ending = []) ∨
    (n + 1 < (split cr lf t).length ∧ (l.ending = [cr, lf] ∨ l.ending = [cr] ∨ l.ending = [lf])) := by
  have hpos : ∀ t, 0 < (split cr lf t).length :=
    fun t => List.length_pos_iff.mpr (split_ne_nil cr lf t)
  induction t using split_induction hne generalizing n l with
  | nil =>
    cases n with
    | zero =>
      obtain rfl : _ = l := by simpa [split] using h
      exact Or.inl ⟨rfl,rfl⟩
    | succ n => simp [split] at h
  | line_feed t ih =>
    rw [split_lf] at h ⊢
    cases n with
    | zero =>
      obtain rfl : _ = l := by simpa using h
      exact Or.inr ⟨by simpa using hpos t,Or.inr (Or.inr rfl)⟩
    | succ n => simpa using ih (by simpa using h)
  | pair t ih =>
    rw [split_cr_lf hne] at h ⊢
    cases n with
    | zero =>
      obtain rfl : _ = l := by simpa using h
      exact Or.inr ⟨by simpa using hpos t,Or.inl rfl⟩
    | succ n => simpa using ih (by simpa using h)
  | lone t ht ih =>
    rw [split_cr hne ht] at h ⊢
    cases n with
    | zero =>
      obtain rfl : _ = l := by simpa using h
      exact Or.inr ⟨by simpa using hpos t,Or.inr (Or.inl rfl)⟩
    | succ n => simpa using ih (by simpa using h)
  | other a t hcr hlf ih =>
    have hls := split_ne_nil cr lf t
    rw [split_other hcr hlf] at h ⊢
    obtain ⟨m,hm,he,_⟩ := getElem?_extend hls h
    rw [length_extend a hls, he]
    exact ih hm

/-- Before an `lf` that ends a line of its own there is no `cr`. -/
theorem not_cr_suffix_before (hne : cr ≠ lf) {t : List α} {n : Nat} {l : Line α}
    (h : (split cr lf t)[n]? = some l) (he : l.ending = [lf]) :
    ¬ [cr] <:+ before (split cr lf t) n ++ l.content := by
  induction t using split_induction hne generalizing n l with
  | nil =>
    cases n with
    | zero => simp [split] at h; simp [← h] at he
    | succ n => simp [split] at h
  | line_feed t ih =>
    rw [split_lf] at h ⊢
    cases n with
    | zero =>
      obtain rfl : _ = l := by simpa using h
      simp
    | succ n =>
      have hs := ih (by simpa using h) he
      simpa [whole, List.suffix_cons_iff, hne] using hs
  | pair t ih =>
    rw [split_cr_lf hne] at h ⊢
    cases n with
    | zero =>
      obtain rfl : _ = l := by simpa using h
      simp at he
    | succ n =>
      have hs := ih (by simpa using h) he
      simpa [whole, List.suffix_cons_iff, hne] using hs
  | lone t ht ih =>
    rw [split_cr hne ht] at h ⊢
    cases n with
    | zero =>
      obtain rfl : _ = l := by simpa using h
      simp [hne] at he
    | succ n =>
      have hl : (split cr lf t)[n]? = some l := by simpa using h
      have hs := ih hl he
      have hp := before_isPrefix hne t (n + 1)
      -- were the line empty and the first, its `lf` would stand right behind the `cr`
      have hb : before (split cr lf t) n ++ l.content ≠ [] := by
        intro hb
        rw [before_succ hl, whole, ← List.append_assoc, hb, he] at hp
        obtain ⟨u,rfl⟩ := hp
        exact ht rfl
      simpa [whole, List.suffix_cons_iff, hb] using hs
  | other a t hcr hlf ih =>
    have hls := split_ne_nil cr lf t
    rw [split_other hcr hlf] at h ⊢
    obtain ⟨m,hm,hme,hb⟩ := getElem?_extend hls h
    have hs := ih hm (hme ▸ he)
    rw [hb]
    simpa [List.suffix_cons_iff, hcr.symm] using hs

end Split

end Line

namespace Text

def lines (t : Text) : List (Line Char) := Line.split '\r' '\n' t

/-- What stands before a position. A column behind the end of its line means the end of the line, and one
inside a character the end of that character. -/
def upTo? (t : Text) (p : Position) : Option Text :=
  t.lines[p.line]?.map fun l => Line.before t.lines p.line ++ takeUnits p.character l.content

theorem before_append_whole_isPrefix {t : Text} {n : Nat} {l : Line Char}
    (h : t.lines[n]? = some l) : Line.before t.lines n ++ l.whole <+: t := by
  rw [← Line.before_succ h]
  exact Line.before_isPrefix (by decide) t (n + 1)

theorem before_append_content_isPrefix {t : Text} {n : Nat} {l : Line Char}
    (h : t.lines[n]? = some l) : Line.before t.lines n ++ l.content <+: t := by
  have hp := before_append_whole_isPrefix h
  rw [Line.whole, ← List.append_assoc] at hp
  exact (List.prefix_append _ _).trans hp

theorem upTo?_isPrefix {t a : Text} {p : Position} (h : t.upTo? p = some a) : a <+: t := by
  obtain ⟨l,hl,rfl⟩ := Option.map_eq_some_iff.mp h
  have hu := takeUnits_isPrefix p.character l.content
  exact ((List.prefix_append_right_inj _).mpr hu).trans (before_append_content_isPrefix hl)

end Text

namespace LineTable

/-- Where lines start, the first of them at `o`. -/
def starts (o : Nat) : List (Line Char) → List Nat
  | [] => []
  | l :: ls => o :: starts (o + Text.bytes l.whole) ls

theorem startsAfter_endsLine (o : Nat) (t : Text) :
    o :: startsAfter endsLine o t = starts o t.lines := by
  have hne : '\r' ≠ '\n' := by decide
  unfold Text.lines
  induction t using Line.split_induction hne generalizing o with
  | nil => simp [startsAfter, Line.split, starts]
  | line_feed t ih => simp [startsAfter, endsLine, starts, Line.whole, ← ih]
  | pair t ih =>
    have hs : o + '\r'.utf8Size + '\n'.utf8Size = o + ('\r'.utf8Size + '\n'.utf8Size) :=
      Nat.add_assoc _ _ _
    simp [Line.split_cr_lf hne, startsAfter, endsLine, starts, Line.whole, hs, ← ih]
  | lone t ht ih => simp [Line.split_cr hne ht, startsAfter, endsLine, starts, Line.whole, ht, ← ih]
  | other c t hcr hlf ih =>
    obtain ⟨l,ls,hls⟩ := List.exists_cons_of_ne_nil (Line.split_ne_nil '\r' '\n' t)
    have hi := ih (o + c.utf8Size)
    rw [Line.split_other hcr hlf, hls]
    rw [hls, starts] at hi
    have ht := List.tail_eq_of_cons_eq hi
    simp [startsAfter, endsLine, Line.extend, starts, Line.whole, hcr, hlf, ht, Nat.add_assoc]

theorem getElem?_starts (o : Nat) (ls : List (Line Char)) (n : Nat) :
    (starts o ls)[n]? = ls[n]?.map fun _ => o + Text.bytes (Line.before ls n) := by
  induction ls generalizing o n with
  | nil => simp [starts]
  | cons l ls ih =>
    cases n with
    | zero => simp [starts]
    | succ n => simp [starts, ih, Nat.add_assoc]

theorem getElem?_lines_ofText (t : Text) (n : Nat) :
    (ofText t).lines[n]? = t.lines[n]?.map fun _ => Text.bytes (Line.before t.lines n) := by
  have hs := startsAfter_endsLine 0 t
  simp only [ofText, hs, getElem?_starts, Nat.zero_add]

/-- Looking back over an ending finds the end of the content. -/
theorem stop_of_ending {s e : Text}
    (he : e = ['\r', '\n'] ∨ e = ['\r'] ∨ (e = ['\n'] ∧ ¬ ['\r'] <:+ s)) :
    (if ['\r', '\n'] <:+ s ++ e then Text.bytes (s ++ e) - 2 else Text.bytes (s ++ e) - 1) =
      Text.bytes s := by
  rcases he with rfl | rfl | ⟨rfl,hs⟩
  · rw [if_pos (List.suffix_append s _), Text.bytes_append]
    rfl
  · have hn : ¬ ['\r', '\n'] <:+ s ++ ['\r'] := by
      intro h
      have hl := List.IsSuffix.getLast h (by simp)
      simp at hl
    rw [if_neg hn, Text.bytes_append]
    rfl
  · have hn : ¬ ['\r', '\n'] <:+ s ++ ['\n'] := by
      rintro ⟨u,hu⟩
      refine hs ⟨u,?_⟩
      rw [show ['\r', '\n'] = ['\r'] ++ ['\n'] from rfl, ← List.append_assoc] at hu
      exact List.append_cancel_right hu
    rw [if_neg hn, Text.bytes_append]
    rfl

/-- The content of a line lies where the table says, whatever ends the line. -/
theorem lineExtent?_ofText (t : Text) (n : Nat) :
    (ofText t).lineExtent? t n = t.lines[n]?.map fun l =>
      (Text.bytes (Line.before t.lines n), Text.bytes (Line.before t.lines n ++ l.content)) := by
  have hne : '\r' ≠ '\n' := by decide
  unfold lineExtent?
  rw [getElem?_lines_ofText, getElem?_lines_ofText]
  cases hl : t.lines[n]? with
  | none => rfl
  | some l =>
    have hb := Line.before_succ hl
    rw [Line.whole, ← List.append_assoc] at hb
    rcases Line.ending_cases hne hl with ⟨hlen,he⟩ | ⟨hlen,he⟩
    · have hlast : t.lines[n + 1]? = none := List.getElem?_eq_none (Nat.le_of_eq hlen.symm)
      have hall := Line.before_length hne t
      rw [← hlen] at hall
      change Line.before t.lines (n + 1) = t at hall
      rw [he, List.append_nil, hall] at hb
      simp only [hlast, Option.map_none, Option.map_some, size_ofText, ← hb]
    · obtain ⟨m,hm⟩ : ∃ m, t.lines[n + 1]? = some m := ⟨_,List.getElem?_eq_getElem hlen⟩
      have hp := Line.before_isPrefix hne t (n + 1)
      have ht : Text.takeBytes (Text.bytes (Line.before t.lines (n + 1))) t = _ :=
        Text.takeBytes_of_isPrefix hp
      have hstop := stop_of_ending (s := Line.before t.lines n ++ l.content) (e := l.ending) (by
        rcases he with he | he | he
        · exact Or.inl he
        · exact Or.inr (Or.inl he)
        · exact Or.inr (Or.inr ⟨he,Line.not_cr_suffix_before hne hl he⟩))
      simp only [hm, Option.map_some, ht]
      change some (if _ <:+ Line.before t.lines (n + 1) then _ else _) = _
      rw [← hstop, ← hb]
      split <;> rfl

theorem offset?_ofText (t : Text) (p : Position) :
    (ofText t).offset? t p = (t.upTo? p).map Text.bytes := by
  unfold offset? Text.upTo?
  rw [lineExtent?_ofText]
  cases hl : t.lines[p.line]? with
  | none => rfl
  | some l =>
    have hs := Text.slice_of_isPrefix (Text.before_append_content_isPrefix hl)
    simp only [Option.map_some, hs, Text.offsetOfUnits?_getD]
    rw [Text.bytes_append]

end LineTable

end SyntaxServer
