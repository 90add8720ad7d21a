import Mathlib.Algebra.Group.Nat.Defs
import SyntaxServer.Frame
import SyntaxServer.Proofs.Separator
import SyntaxServer.Proofs.Text.Decimal
import SyntaxServer.Proofs.Text.Utf8

/-! # Reading frames back

A stream of frames reads as the bodies in them, one after the other, and a body above the limit is reported
and skipped. Nothing in a body matters to this, because a frame is read by the size that its header gives.
-/
namespace SyntaxServer.Frame

/-- Bytes of a line are gathered until its line feed comes. -/
theorem readHeaders_append (h : Headers) (line : Bytes) {l : Bytes} (s : Bytes) (hl : 10 ∉ l) :
    readHeaders h line (l ++ s) = readHeaders h (l.reverse ++ line) s := by
  induction l generalizing line with
  | nil => rfl
  | cons b l ih =>
    have hb : b ≠ 10 := fun hb => hl (hb ▸ List.mem_cons_self)
    have htail : 10 ∉ l := fun hmem => hl (List.mem_cons_of_mem b hmem)
    rw [List.cons_append, readHeaders, if_neg hb, ih (b :: line) htail]
    simp

theorem lineFeed_not_mem_encode {t : Text} (h : '\n' ∉ t) : 10 ∉ Utf8.encode t := by
  rw [Utf8.encode, List.mem_flatMap]
  rintro ⟨c,hc,hmem⟩
  have hten : '\n'.toNat = c.toNat := (Utf8.toNat_eq_of_mem_utf8EncodeChar (by decide) hmem).symm
  exact h (Char.toNat_inj.1 hten ▸ hc)

theorem splitColon?_append {name : Text} (value : Text) (h : ':' ∉ name) :
    splitColon? (name ++ ':' :: value) = some (name, value) := by
  rw [splitColon?, dropWhile_append_cons h, takeWhile_append_cons h]

theorem ne_of_isDigit {c d : Char} (hc : Decimal.isDigit c) (hd : Decimal.isDigit d = false) : c ≠ d := by
  rintro rfl
  simp [hc] at hd

section ContentLength

variable (name : Text) {digits : Text} (hdigits : ∀ c ∈ digits, Decimal.isDigit c)

include hdigits

theorem length?_of_digits (hne : digits ≠ []) (h : Decimal.value digits < 2 ^ 64) :
    length? digits = some (Decimal.value digits) := by
  have hall : digits.all Decimal.isDigit := List.all_eq_true.2 hdigits
  unfold length?
  split
  · exact absurd rfl (ne_of_isDigit (hdigits '+' List.mem_cons_self) rfl)
  · exact if_pos ⟨hne,hall,h⟩

theorem readLine_contentLength (h : Headers) (hcolon : ':' ∉ name) (hname : isContentLength name)
    (hne : digits ≠ []) (hbound : Decimal.value digits < 2 ^ 64) :
    h.readLine (Utf8.encode (name ++ ':' :: ' ' :: digits ++ ['\r', '\n'])) =
      .more ⟨true, some (Decimal.value digits)⟩ := by
  have hend : ∀ c ∈ digits, ¬ isLineEnd c := by
    intro c hc hcr
    simp only [isLineEnd, Bool.or_eq_true, decide_eq_true_eq] at hcr
    rcases hcr with hcr | hcr
    · exact ne_of_isDigit (hdigits c hc) rfl hcr
    · exact ne_of_isDigit (hdigits c hc) rfl hcr
  have htrim : Text.trimEnd isLineEnd (name ++ ':' :: ' ' :: digits ++ ['\r', '\n']) =
      name ++ ':' :: ' ' :: digits := by
    have hlast := Text.trimEnd_append_of_not (t := name ++ [':', ' ']) hne hend
    rw [Text.trimEnd_append_of_all (by simp [isLineEnd])]
    simpa using hlast
  have hvalue : Text.trim (' ' :: digits) = digits :=
    Text.trim_cons_of_isBlank (by decide) hne fun c hc => Decimal.not_isBlank_of_isDigit (hdigits c hc)
  have hnonempty : (name ++ ':' :: ' ' :: digits).isEmpty = false := by simp
  simp only [Headers.readLine, Utf8.decode?_encode, htrim, hnonempty, splitColon?_append _ hcolon, hname,
    hvalue, length?_of_digits hdigits hne hbound, Bool.false_eq_true, if_false, if_true]

theorem readHeaders_contentLength (hfeed : '\n' ∉ name) (hcolon : ':' ∉ name) (hname : isContentLength name)
    (hne : digits ≠ []) (hbound : Decimal.value digits < 2 ^ 64) (rest : Bytes) :
    readHeaders {} [] (Utf8.encode (name ++ ':' :: ' ' :: digits ++ ['\r']) ++ 10 :: 13 :: 10 :: rest) =
      (.complete (some (Decimal.value digits)), rest) := by
  have hline : '\n' ∉ name ++ ':' :: ' ' :: digits ++ ['\r'] := by
    have hdigit : '\n' ∉ digits := fun hmem => ne_of_isDigit (hdigits _ hmem) rfl rfl
    simp [hfeed, hdigit]
  have hread := readLine_contentLength name hdigits {} hcolon hname hne hbound
  have hsplit : Utf8.encode (name ++ ':' :: ' ' :: digits ++ ['\r', '\n']) =
      Utf8.encode (name ++ ':' :: ' ' :: digits ++ ['\r']) ++ [10] := by
    rw [show ['\r', '\n'] = ['\r'] ++ ['\n'] from rfl, ← List.append_assoc, Utf8.encode, Utf8.encode,
      List.flatMap_append]
    rfl
  have hblank : Headers.readLine ⟨true, some (Decimal.value digits)⟩ [13, 10] =
    .complete (some (Decimal.value digits)) := rfl
  rw [readHeaders_append _ _ _ (lineFeed_not_mem_encode hline)]
  simp only [List.append_nil, readHeaders, if_true, List.reverse_cons, List.reverse_reverse, ← hsplit, hread]
  rw [if_neg (by decide)]
  simp only [List.reverse_nil, List.nil_append, List.cons_append, hblank]

end ContentLength

theorem header_eq (n : Nat) :
    header n = ("Content-Length".toList ++ ':' :: ' ' :: Decimal.render n ++ ['\r']) ++ ['\n', '\r', '\n'] := by
  have hname : "Content-Length: ".toList = "Content-Length".toList ++ [':', ' '] := by decide
  have hheader : header n = "Content-Length: ".toList ++ Decimal.render n ++ "\r\n\r\n".toList := rfl
  rw [hheader, hname]
  simp only [List.append_assoc, List.cons_append, List.nil_append]
  rfl

theorem readHeaders_header {n : Nat} (h : n < 2 ^ 64) (rest : Bytes) :
    readHeaders {} [] (Utf8.encode (header n) ++ rest) = (.complete (some n), rest) := by
  have hvalue := Decimal.value_render n
  have hread := readHeaders_contentLength "Content-Length".toList
    (fun c hc => Decimal.isDigit_of_mem_render hc) (by decide) (by decide) (by decide)
    (Decimal.render_ne_nil n) (by rw [hvalue]; exact h) rest
  rw [hvalue] at hread
  rw [← hread, header_eq, Utf8.encode, List.flatMap_append, List.append_assoc]
  rfl

/-- What a frame with some body reads as. -/
def reading (max : Nat) (body : Bytes) : Read :=
  if max < body.length then .failed (.messageTooLarge body.length max) else .body body

/-- A frame reads as its body and is taken whole, whatever comes after it. -/
theorem read_write (max : Nat) {body : Bytes} (h : body.length < 2 ^ 64) (rest : Bytes) :
    read max (write body ++ rest) = (reading max body, rest) := by
  rw [read, write, List.append_assoc, readHeaders_header h]
  by_cases hmax : max < body.length
  · simp [reading, hmax]
  · simp [reading, hmax]

/-- Nothing is read behind the end of a stream, nor where the stream itself failed. -/
def Read.isFinal : Read → Bool
  | .endOfStream => true
  | .body _ => false
  | .failed e => e.isBroken

theorem readAll_eq {max : Nat} {s rest : Bytes} {r : Read} (h : read max s = (r, rest)) :
    readAll max s = r :: if r.isFinal then [] else readAll max rest := by
  rw [readAll]
  split
  · next hread =>
    cases h.symm.trans hread
    rfl
  · next hread =>
    cases h.symm.trans hread
    rfl
  · next e _ hread =>
    cases h.symm.trans hread
    cases he : e.isBroken <;> simp [Read.isFinal, he]

theorem readAll_of_read {max : Nat} {s rest body : Bytes} (h : read max s = (reading max body, rest)) :
    readAll max s = reading max body :: readAll max rest := by
  have hmore : (reading max body).isFinal = false := by
    rw [reading]
    split <;> rfl
  rw [readAll_eq h, hmore]
  rfl

/-- A stream of frames reads as their bodies, in order, and then as the end of the stream. -/
theorem readAll_flatMap_write (max : Nat) {bodies : List Bytes} (h : ∀ b ∈ bodies, b.length < 2 ^ 64) :
    readAll max (bodies.flatMap write) = bodies.map (reading max) ++ [.endOfStream] := by
  induction bodies with
  | nil => rw [List.flatMap_nil, readAll]; rfl
  | cons b bs ih =>
    have hread := read_write max (h b List.mem_cons_self) (bs.flatMap write)
    have hrest := ih fun b' hb' => h b' (List.mem_cons_of_mem b hb')
    rw [List.flatMap_cons, readAll_of_read hread, hrest, List.map_cons, List.cons_append]

end SyntaxServer.Frame
