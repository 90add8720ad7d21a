import Mathlib.Data.List.ReduceOption
import SyntaxServer.Proofs.Frame.RoundTrip

/-! # The grammar of frames

A frame is a block of lines and a body. Blank lines in front of the block do not count, each line of the block is a
header, a blank line ends it, and the last size that a header gives is that of the body. A body is read exactly where a
frame stands, and reading stops behind it; the end of the stream is found exactly where nothing but blank lines is left.
-/
namespace SyntaxServer.Frame

/-- The lines of a stream, each with the line feed that ends it. The last one may end with the stream instead. -/
def lines : Bytes → List Bytes
  | [] => []
  | b :: s =>
    if b = 10 then [b] :: lines s
    else
      match lines s with
      | [] => [[b]]
      | line :: rest => (b :: line) :: rest

/-- A line without anything but line ends. -/
def IsBlank (line : Bytes) : Prop := ∀ b ∈ line, b = 13 ∨ b = 10

/-- Digits behind an optional plus sign, and the number that they stand for. -/
def IsNumeral (t : Text) (n : Nat) : Prop :=
  ∃ digits : Text, (t = digits ∨ t = '+' :: digits) ∧ digits ≠ [] ∧ (∀ c ∈ digits, c.isDigit) ∧
    Nat.ofDigitChars 10 digits 0 = n

/-- A line in UTF-8, parted at its first colon. -/
def IsField (line : Bytes) (name value : Text) : Prop :=
  line = Utf8.encode (name ++ ':' :: value) ∧ ':' ∉ name

/-- The name of the header that gives the size of a body, in any case. -/
def NamesSize (name : Text) : Prop := (Text.trim name).map Char.toLower = "content-length".toList

/-- A header, with the size of a body if it gives one. -/
inductive IsHeader (line : Bytes) : Option Nat → Prop where
  | size {name value n} (field : IsField line name value) (names : NamesSize name)
      (numeral : IsNumeral (Text.trim value) n) (bound : n < 2 ^ 64) : IsHeader line (some n)
  | other {name value} (field : IsField line name value) (names : ¬ NamesSize name) : IsHeader line none

/-- Blank lines, headers and a blank line, with the last size that the headers give. -/
inductive IsBlock : List Bytes → Nat → Prop where
  | intro {blanks headers sizes stop n} (blank : ∀ line ∈ blanks, IsBlank line)
      (header : List.Forall₂ IsHeader headers sizes) (stopped : IsBlank stop)
      (last : sizes.reduceOption.getLast? = some n) : IsBlock (blanks ++ headers ++ [stop]) n

/-- At the beginning of a stream stands a frame: a block of lines, and a body of the size that it gives. -/
def IsFrame (max : Nat) (s body rest : Bytes) : Prop :=
  ∃ block, s = block.flatten ++ body ++ rest ∧ block <+: lines s ∧ IsBlock block body.length ∧
    body.length ≤ max

section Lines

theorem flatten_lines (s : Bytes) : (lines s).flatten = s := by
  induction s with
  | nil => rfl
  | cons b s ih =>
    rw [lines]
    split
    · rw [List.flatten_cons, ih]
      rfl
    · split
      · next h =>
        rw [h] at ih
        rw [← ih]
        rfl
      · next h =>
        rw [h, List.flatten_cons] at ih
        rw [List.flatten_cons, List.cons_append, ih]

theorem lines_of_not_mem {l : Bytes} (hl : 10 ∉ l) (hne : l ≠ []) : lines l = [l] := by
  induction l with
  | nil => exact absurd rfl hne
  | cons b l ih =>
    rw [List.mem_cons, not_or] at hl
    rw [lines, if_neg (Ne.symm hl.1)]
    cases l with
    | nil => rfl
    | cons c l => rw [ih hl.2 (List.cons_ne_nil c l)]

theorem lines_append {l : Bytes} (s : Bytes) (hl : 10 ∉ l) : lines (l ++ 10 :: s) = (l ++ [10]) :: lines s := by
  induction l with
  | nil => rfl
  | cons b l ih =>
    rw [List.mem_cons, not_or] at hl
    rw [List.cons_append, lines, if_neg (Ne.symm hl.1), ih hl.2, List.cons_append]

theorem lines_induction {motive : Bytes → Prop} (nil : motive [])
    (last : ∀ l, 10 ∉ l → l ≠ [] → motive l) (line : ∀ l s, 10 ∉ l → motive s → motive (l ++ 10 :: s))
    (s : Bytes) : motive s := by
  induction hn : s.length using Nat.strongRecOn generalizing s with
  | ind n ih =>
    by_cases hs : 10 ∈ s
    · obtain ⟨l,rest,rfl,hl⟩ := List.eq_append_cons_of_mem hs
      refine line l rest hl (ih rest.length ?_ rest rfl)
      rw [← hn, List.length_append, List.length_cons]
      omega
    · by_cases hne : s = []
      · exact hne ▸ nil
      · exact last s hs hne

/-- Reads headers from lines up to the blank line that ends them. -/
def readLines (h : Headers) : List Bytes → HeaderResult × List Bytes
  | [] => (atEnd h, [])
  | line :: rest =>
    match h.readLine line with
    | .more h => readLines h rest
    | .complete n => (.complete n, rest)
    | .failed e => (.failed e, rest)

/-- Headers are read line by line, and reading stops behind a line. -/
theorem readHeaders_eq (h : Headers) (s : Bytes) :
    readHeaders h [] s = ((readLines h (lines s)).1, (readLines h (lines s)).2.flatten) := by
  induction s using lines_induction generalizing h with
  | nil => rfl
  | last l hl hne =>
    have hgather := readHeaders_append h [] [] hl
    rw [List.append_nil, List.append_nil] at hgather
    rw [hgather, lines_of_not_mem hl hne, readHeaders, readLines]
    have hnonempty : l.reverse.isEmpty = false := by simpa using hne
    rw [hnonempty, List.reverse_reverse]
    cases h.readLine l <;> rfl
  | line l s hl ih =>
    rw [readHeaders_append h [] (10 :: s) hl, lines_append s hl, readHeaders, if_pos rfl, readLines]
    rw [List.append_nil, List.reverse_cons, List.reverse_reverse]
    cases h.readLine (l ++ [10]) with
    | more h => exact ih h
    | complete n => rw [flatten_lines]
    | failed e => rw [flatten_lines]

end Lines

section HeaderLines

theorem isLineEnd_iff (c : Char) : isLineEnd c ↔ c = '\r' ∨ c = '\n' := by
  simp [isLineEnd]

theorem isBlank_of_isLineEnd (c : Char) (h : isLineEnd c) : Text.isBlank c := by
  rcases (isLineEnd_iff c).1 h with rfl | rfl <;> rfl

theorem isBlank_iff {line : Bytes} : IsBlank line ↔ ∃ t, line = Utf8.encode t ∧ ∀ c ∈ t, isLineEnd c := by
  constructor
  · intro h
    induction line with
    | nil => exact ⟨[],rfl,by simp⟩
    | cons b line ih =>
      obtain ⟨t,rfl,ht⟩ := ih fun c hc => h c (List.mem_cons_of_mem b hc)
      rcases h b List.mem_cons_self with rfl | rfl
      · exact ⟨'\r' :: t,rfl,List.forall_mem_cons.2 ⟨rfl,ht⟩⟩
      · exact ⟨'\n' :: t,rfl,List.forall_mem_cons.2 ⟨rfl,ht⟩⟩
  · rintro ⟨t,rfl,ht⟩ b hb
    obtain ⟨c,hc,hb⟩ := List.mem_flatMap.1 hb
    rcases (isLineEnd_iff c).1 (ht c hc) with rfl | rfl
    · exact .inl (List.mem_singleton.1 hb)
    · exact .inr (List.mem_singleton.1 hb)

theorem splitColon?_of_not_mem {t : Text} (h : ':' ∉ t) : splitColon? t = none := by
  rw [splitColon?, dropWhile_of_not_mem h]

theorem length?_eq_some_iff {t : Text} {n : Nat} : length? t = some n ↔ IsNumeral t n ∧ n < 2 ^ 64 := by
  have hall (digits : Text) : digits.all Decimal.isDigit ↔ ∀ c ∈ digits, c.isDigit := by
    simp only [List.all_eq_true, Decimal.isDigit_eq]
  constructor
  · intro h
    have hdigits {digits : Text} (ht : t = digits ∨ t = '+' :: digits)
        (h : (if digits ≠ [] ∧ digits.all Decimal.isDigit ∧ Decimal.value digits < UInt64.size then
          some (Decimal.value digits) else none) = some n) : IsNumeral t n ∧ n < 2 ^ 64 := by
      split at h
      · next hd =>
        obtain ⟨hne,hd,hbound⟩ := hd
        cases h
        exact ⟨⟨digits,ht,hne,(hall digits).1 hd,(Decimal.value_eq digits).symm⟩,hbound⟩
      · cases h
    unfold length? at h
    split at h
    · exact hdigits (.inr rfl) h
    · exact hdigits (.inl rfl) h
  · rintro ⟨⟨digits,ht,hne,hd,rfl⟩,hbound⟩
    have hd' := (hall digits).2 hd
    rw [← Decimal.value_eq] at hbound ⊢
    rcases ht with rfl | rfl
    · exact length?_of_digits (List.all_eq_true.1 hd') hne hbound
    · exact if_pos ⟨hne,hd',hbound⟩

theorem isContentLength_iff (name : Text) : isContentLength name ↔ NamesSize name := by
  simp [isContentLength, NamesSize]

variable (h : Headers) {line : Bytes} {name value : Text}

theorem readLine_of_isBlank (hline : IsBlank line) :
    h.readLine line = if h.seen then .complete h.length else .more h := by
  obtain ⟨t,rfl,ht⟩ := isBlank_iff.1 hline
  have hempty : Text.trimEnd isLineEnd t = [] := List.rdropWhile_eq_nil_iff.2 ht
  simp only [Headers.readLine, Utf8.decode?_encode, hempty, List.isEmpty_nil, if_true]

theorem readLine_of_isField (field : IsField line name value) :
    h.readLine line =
      if isContentLength name then
        match length? (Text.trim value) with
        | none => .failed (.invalidHeader (name ++ ':' :: Text.trimEnd isLineEnd value))
        | some n => .more ⟨true, some n⟩
      else .more ⟨true, h.length⟩ := by
  obtain ⟨rfl,hcolon⟩ := field
  have hend : Text.trimEnd isLineEnd (name ++ ':' :: value) = name ++ ':' :: Text.trimEnd isLineEnd value :=
    Text.trimEnd_append_cons name value (by decide)
  have hnonempty : (name ++ ':' :: Text.trimEnd isLineEnd value).isEmpty = false := by simp
  have hvalue := Text.trim_trimEnd isBlank_of_isLineEnd value
  cases hlength : length? (Text.trim value) <;>
    simp [Headers.readLine, hend, hnonempty, splitColon?_append _ hcolon, hvalue, hlength]

theorem IsHeader.readLine_eq {size : Option Nat} (header : IsHeader line size) :
    h.readLine line = .more ⟨true, size.or h.length⟩ := by
  cases header with
  | size field names numeral bound =>
    rw [readLine_of_isField h field, if_pos ((isContentLength_iff _).2 names),
      length?_eq_some_iff.2 ⟨numeral,bound⟩]
    rfl
  | other field names =>
    rw [readLine_of_isField h field, if_neg (mt (isContentLength_iff _).1 names)]
    rfl

theorem IsHeader.not_isBlank {size : Option Nat} (header : IsHeader line size) : ¬ IsBlank line := by
  intro hblank
  have hread := readLine_of_isBlank ⟨true, none⟩ hblank
  rw [header.readLine_eq] at hread
  cases hread

/-- A line is blank, or a header, or else the reader refuses it whatever came before. -/
theorem isBlank_or_isHeader_or_failed (line : Bytes) :
    IsBlank line ∨ (∃ size, IsHeader line size) ∨ ∃ e, ∀ h : Headers, h.readLine line = .failed e := by
  cases hdecode : Utf8.decode? line with
  | none => exact .inr (.inr ⟨.headerNotUtf8,fun h => by simp only [Headers.readLine, hdecode]⟩)
  | some t =>
    obtain rfl := Utf8.decode?_eq_some_iff.1 hdecode
    by_cases hcolon : ':' ∈ t
    · right
      obtain ⟨name,value,rfl,hname⟩ := List.eq_append_cons_of_mem hcolon
      have field : IsField (Utf8.encode (name ++ ':' :: value)) name value := ⟨rfl,hname⟩
      by_cases names : NamesSize name
      · cases hlength : length? (Text.trim value) with
        | none =>
          refine .inr ⟨.invalidHeader (name ++ ':' :: Text.trimEnd isLineEnd value),fun h => ?_⟩
          rw [readLine_of_isField h field, if_pos ((isContentLength_iff _).2 names), hlength]
        | some n =>
          obtain ⟨numeral,bound⟩ := length?_eq_some_iff.1 hlength
          exact .inl ⟨_,.size field names numeral bound⟩
      · exact .inl ⟨_,.other field names⟩
    · by_cases hblank : ∀ c ∈ t, isLineEnd c
      · exact .inl (isBlank_iff.2 ⟨t,rfl,hblank⟩)
      · have hnonempty : (Text.trimEnd isLineEnd t).isEmpty = false := by
          rw [List.isEmpty_eq_false_iff]
          exact mt List.rdropWhile_eq_nil_iff.1 hblank
        have hsplit : splitColon? (Text.trimEnd isLineEnd t) = none :=
          splitColon?_of_not_mem fun hc => hcolon ((List.rdropWhile_prefix isLineEnd t).subset hc)
        refine .inr (.inr ⟨.invalidHeader (Text.trimEnd isLineEnd t),fun h => ?_⟩)
        simp only [Headers.readLine, hdecode, hnonempty, hsplit, Bool.false_eq_true, if_false]

end HeaderLines

section Blocks

variable {known size : Option Nat} {block rest : List Bytes}

theorem getLast?_reduceOption_cons (size : Option Nat) (sizes : List (Option Nat)) (known : Option Nat) :
    (size :: sizes).reduceOption.getLast?.or known = sizes.reduceOption.getLast?.or (size.or known) := by
  cases size with
  | none => simp
  | some n => simp [List.getLast?_cons]

theorem readLines_seen_eq_complete_iff :
    readLines ⟨true, known⟩ block = (.complete size, rest) ↔
      ∃ headers sizes stop, block = headers ++ stop :: rest ∧ List.Forall₂ IsHeader headers sizes ∧
        IsBlank stop ∧ sizes.reduceOption.getLast?.or known = size := by
  constructor
  · intro h
    induction block generalizing known with
    | nil => cases h
    | cons line block ih =>
      rcases isBlank_or_isHeader_or_failed line with hblank | ⟨given,header⟩ | ⟨e,hfailed⟩
      · rw [readLines, readLine_of_isBlank _ hblank] at h
        cases h
        exact ⟨[],[],line,rfl,.nil,hblank,rfl⟩
      · rw [readLines, header.readLine_eq] at h
        obtain ⟨headers,sizes,stop,rfl,hheaders,hstop,rfl⟩ := ih h
        exact ⟨line :: headers,given :: sizes,stop,rfl,.cons header hheaders,hstop,
          getLast?_reduceOption_cons given sizes known⟩
      · rw [readLines, hfailed] at h
        cases h
  · rintro ⟨headers,sizes,stop,rfl,hheaders,hstop,rfl⟩
    induction hheaders generalizing known with
    | nil =>
      rw [List.nil_append, readLines, readLine_of_isBlank _ hstop]
      rfl
    | cons header _ ih =>
      rw [List.cons_append, readLines, header.readLine_eq, getLast?_reduceOption_cons]
      exact ih

theorem IsBlock.of_header {headers : List Bytes} {sizes : List (Option Nat)} {line stop : Bytes} {n : Nat}
    (header : IsHeader line size) (hheaders : List.Forall₂ IsHeader headers sizes) (hstop : IsBlank stop)
    (hlast : sizes.reduceOption.getLast?.or (size.or none) = some n) : IsBlock (line :: headers ++ [stop]) n := by
  rw [← getLast?_reduceOption_cons, Option.or_none] at hlast
  have hblock : IsBlock ([] ++ line :: headers ++ [stop]) n := .intro (by simp) (.cons header hheaders) hstop hlast
  exact hblock

theorem IsBlock.cons {line : Bytes} {n : Nat} (hline : IsBlank line) (h : IsBlock block n) :
    IsBlock (line :: block) n := by
  cases h with
  | intro hblanks hheaders hstop hlast =>
    have hblanks' := List.forall_mem_cons.2 ⟨hline,hblanks⟩
    exact .intro hblanks' hheaders hstop hlast

/-- A size is read from the lines of a block, and the lines behind it are left. -/
theorem readLines_eq_complete_iff {n : Nat} {ls : List Bytes} :
    readLines {} ls = (.complete (some n), rest) ↔ ∃ block, ls = block ++ rest ∧ IsBlock block n := by
  constructor
  · intro h
    induction ls with
    | nil => cases h
    | cons line ls ih =>
      rcases isBlank_or_isHeader_or_failed line with hblank | ⟨given,header⟩ | ⟨e,hfailed⟩
      · rw [readLines, readLine_of_isBlank _ hblank] at h
        obtain ⟨block,rfl,hblock⟩ := ih h
        exact ⟨line :: block,rfl,hblock.cons hblank⟩
      · rw [readLines, header.readLine_eq] at h
        obtain ⟨headers,sizes,stop,rfl,hheaders,hstop,hlast⟩ := readLines_seen_eq_complete_iff.1 h
        exact ⟨line :: headers ++ [stop],by simp,.of_header header hheaders hstop hlast⟩
      · rw [readLines, hfailed] at h
        cases h
  · rintro ⟨block,rfl,@⟨blanks,headers,sizes,stop,_,hblanks,hheaders,hstop,hlast⟩⟩
    induction blanks with
    | nil =>
      cases hheaders with
      | nil => cases hlast
      | @cons line given headers sizes header hheaders =>
        have hseen : sizes.reduceOption.getLast?.or (given.or none) = some n := by
          rw [← getLast?_reduceOption_cons, hlast, Option.or_none]
        rw [List.nil_append, List.cons_append, List.cons_append, readLines, header.readLine_eq]
        exact readLines_seen_eq_complete_iff.2 ⟨headers,sizes,stop,by simp,hheaders,hstop,hseen⟩
    | cons line blanks ih =>
      rw [List.forall_mem_cons] at hblanks
      rw [List.cons_append, List.cons_append, List.cons_append, readLines, readLine_of_isBlank _ hblanks.1]
      exact ih hblanks.2

theorem readLines_seen_ne_endOfStream : (readLines ⟨true, known⟩ block).1 ≠ .endOfStream := by
  induction block generalizing known with
  | nil => simp [readLines, atEnd]
  | cons line block ih =>
    rcases isBlank_or_isHeader_or_failed line with hblank | ⟨given,header⟩ | ⟨e,hfailed⟩
    · simp [readLines, readLine_of_isBlank _ hblank]
    · rw [readLines, header.readLine_eq]
      exact ih
    · simp [readLines, hfailed]

theorem readLines_eq_endOfStream_iff : (readLines {} block).1 = .endOfStream ↔ ∀ line ∈ block, IsBlank line := by
  induction block with
  | nil => simp [readLines, atEnd]
  | cons line block ih =>
    rw [List.forall_mem_cons]
    rcases isBlank_or_isHeader_or_failed line with hblank | ⟨given,header⟩ | ⟨e,hfailed⟩
    · rw [readLines, readLine_of_isBlank _ hblank, and_iff_right hblank]
      exact ih
    · rw [readLines, header.readLine_eq]
      exact iff_of_false readLines_seen_ne_endOfStream fun h => header.not_isBlank h.1
    · rw [readLines, hfailed]
      refine iff_of_false (by simp) fun h => ?_
      have hblank := readLine_of_isBlank {} h.1
      rw [hfailed] at hblank
      cases hblank

end Blocks

/-- A frame stands where the lines of a block give the size of what follows them. -/
theorem isFrame_iff {max : Nat} {s body rest : Bytes} :
    IsFrame max s body rest ↔
      ∃ after, readLines {} (lines s) = (.complete (some body.length), after) ∧ after.flatten = body ++ rest ∧
        body.length ≤ max := by
  constructor
  · rintro ⟨block,hs,⟨after,hafter⟩,hblock,hmax⟩
    have hflat : after.flatten = body ++ rest := by
      rw [← flatten_lines s, ← hafter, List.flatten_append, List.append_assoc] at hs
      exact List.append_cancel_left hs
    exact ⟨after,readLines_eq_complete_iff.2 ⟨block,hafter.symm,hblock⟩,hflat,hmax⟩
  · rintro ⟨after,hread,hflat,hmax⟩
    obtain ⟨block,hsplit,hblock⟩ := readLines_eq_complete_iff.1 hread
    have hs : s = block.flatten ++ body ++ rest := by
      rw [← flatten_lines s, hsplit, List.flatten_append, hflat, List.append_assoc]
    exact ⟨block,hs,⟨after,hsplit.symm⟩,hblock,hmax⟩

theorem read_eq_body_iff {max : Nat} {s body rest : Bytes} :
    read max s = (.body body, rest) ↔ IsFrame max s body rest := by
  rw [isFrame_iff, read, readHeaders_eq]
  constructor
  · intro h
    rcases hread : readLines {} (lines s) with ⟨_ | (_ | n) | e,after⟩ <;> rw [hread] at h
    · cases h
    · cases h
    · dsimp only at h
      split at h
      · cases h
      · next hmax =>
        split at h
        · next hlength =>
          cases h
          exact ⟨after,by rw [hlength],(List.take_append_drop n after.flatten).symm,by omega⟩
        · cases h
    · cases h
  · rintro ⟨after,hread,hflat,hmax⟩
    have hsize : ¬ max < body.length := by omega
    simp [hread, hflat, hsize]

theorem read_eq_endOfStream_iff {max : Nat} {s : Bytes} :
    (read max s).1 = .endOfStream ↔ ∀ line ∈ lines s, IsBlank line := by
  rw [← readLines_eq_endOfStream_iff, read, readHeaders_eq]
  rcases readLines {} (lines s) with ⟨_ | (_ | n) | e,after⟩
  · simp
  · simp
  · dsimp only
    split
    · simp
    · split <;> simp
  · simp

/-- A body is read exactly where a frame of it stands, and what is left unread is what follows the frame. The end of the
stream is found exactly when all of its lines are blank. -/
theorem read_accepts_frames (max : Nat) (s : Bytes) :
    (∀ body rest, read max s = (.body body, rest) ↔ IsFrame max s body rest) ∧
    ((read max s).1 = .endOfStream ↔ ∀ line ∈ lines s, IsBlank line) :=
  ⟨fun _ _ => read_eq_body_iff,read_eq_endOfStream_iff⟩

end SyntaxServer.Frame
