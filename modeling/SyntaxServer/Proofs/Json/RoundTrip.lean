import Mathlib.Algebra.Group.Int.Defs
import Mathlib.Algebra.Group.Nat.Defs
import SyntaxServer.Json.Render
import SyntaxServer.Proofs.Text.Decimal
import SyntaxServer.Proofs.Text.Utf8

/-! # Reading JSON text back

A value is read back from the text that is written for it, up to the limits of the reader: numbers are whole
and fit 64 bits, and containers are not nested too deep. The argument follows the text: characters of a string,
digits of a number, items of a container, and then values, each with something behind it that does not belong
to it.
-/
namespace SyntaxServer.Json

theorem hex4?_digitChar {n : Nat} (h : n < 32) :
    hex4? '0' '0' (Nat.digitChar (n / 16)) (Nat.digitChar (n % 16)) = some n := by
  revert n
  decide

theorem stringFrom?_cons (acc : Text) {c : Char} (t : Text) (hq : c ≠ '"') (hb : c ≠ '\\')
    (hc : ¬ c < ' ') :
    stringFrom? acc (c :: t) = stringFrom? (c :: acc) t := by
  rw [stringFrom?.eq_def]
  split
  · next h => cases h
  · next h => exact absurd (List.cons.inj h).1 hq
  · next h => exact absurd (List.cons.inj h).1 hb
  · next h => exact absurd (List.cons.inj h).1 hb
  · next h =>
    obtain ⟨rfl,rfl⟩ := List.cons.inj h
    rw [if_neg hc]

theorem stringFrom?_control (acc : Text) {c : Char} (t : Text) (hc : c < ' ') :
    stringFrom? acc ('\\' :: 'u' :: '0' :: '0' :: Nat.digitChar (c.toNat / 16) ::
      Nat.digitChar (c.toNat % 16) :: t) = stringFrom? (c :: acc) t := by
  have hlow : c.toNat < 32 := hc
  have hhigh : isHighHalf c.toNat = false := by simp [isHighHalf]; omega
  have hlower : isLowHalf c.toNat = false := by simp [isLowHalf]; omega
  have hchar : Char.ofNat c.toNat = c := Char.ofNat_toNat c
  simp only [stringFrom?, hex4?_digitChar hlow, hhigh, hlower, hchar, Bool.false_eq_true, if_false]

/-- A character is written as a letter behind a backslash, as four hexadecimal digits, or as it is. -/
theorem escape_cases (c : Char) :
    (∃ e, escape c = ['\\', e] ∧ e ≠ 'u' ∧ escaped? e = some c) ∨
      (c < ' ' ∧ escape c =
        ['\\', 'u', '0', '0', Nat.digitChar (c.toNat / 16), Nat.digitChar (c.toNat % 16)]) ∨
      (c ≠ '"' ∧ c ≠ '\\' ∧ ¬ c < ' ' ∧ escape c = [c]) := by
  unfold escape
  -- the seven characters that have a letter of their own
  iterate 7
    split
    · next h =>
      subst h
      exact .inl ⟨_,rfl,by decide,rfl⟩
  split
  · next h => exact .inr (.inl ⟨h,rfl⟩)
  · next h => exact .inr (.inr ⟨‹_›,‹_›,h,rfl⟩)

theorem stringFrom?_escaped (acc : Text) {e c : Char} (t : Text) (hu : e ≠ 'u') (he : escaped? e = some c) :
    stringFrom? acc ('\\' :: e :: t) = stringFrom? (c :: acc) t := by
  rw [stringFrom?.eq_def]
  split
  · next h => cases h
  · next h => cases h
  · next h => exact absurd (List.cons.inj (List.cons.inj h).2).1 hu
  · next h =>
    obtain ⟨rfl,rfl⟩ := List.cons.inj (List.cons.inj h).2
    simp only [he]
  · next hletter h =>
    obtain ⟨rfl,rfl⟩ := List.cons.inj h
    exact (hletter e t rfl rfl).elim

theorem stringFrom?_escape (acc : Text) (c : Char) (t : Text) :
    stringFrom? acc (escape c ++ t) = stringFrom? (c :: acc) t := by
  rcases escape_cases c with ⟨e,hc,hu,he⟩ | ⟨hlow,hc⟩ | ⟨hq,hb,hlow,hc⟩
  · rw [hc]
    exact stringFrom?_escaped acc t hu he
  · rw [hc]
    exact stringFrom?_control acc t hlow
  · rw [hc]
    exact stringFrom?_cons acc t hq hb hlow

theorem stringFrom?_flatMap_escape (acc s t : Text) :
    stringFrom? acc (s.flatMap escape ++ '"' :: t) = some (acc.reverse ++ s, t) := by
  induction s generalizing acc with
  | nil => simp [stringFrom?]
  | cons c s ih =>
    rw [List.flatMap_cons, List.append_assoc, stringFrom?_escape, ih]
    simp

/-- A text that does not go on with a value: it is over, or goes on with a comma or a closing bracket. -/
inductive Closed : Text → Prop where
  | nil : Closed []
  | comma (t : Text) : Closed (',' :: t)
  | bracket (t : Text) : Closed (']' :: t)
  | brace (t : Text) : Closed ('}' :: t)

section Numbers

variable {ds t : Text} (hds : ∀ c ∈ ds, Decimal.isDigit c) (ht : Closed t)

include hds ht in
theorem spanDigits_append : spanDigits (ds ++ t) = (ds, t) := by
  have hnone : t.takeWhile Decimal.isDigit = [] ∧ t.dropWhile Decimal.isDigit = t := by
    cases ht <;> exact ⟨rfl,rfl⟩
  rw [spanDigits, List.takeWhile_append_of_pos hds, List.dropWhile_append_of_pos hds, hnone.1, hnone.2,
    List.append_nil]

include ht in
theorem fraction?_of_closed : fraction? t = some ([], t) := by
  cases ht <;> rfl

include ht in
theorem exponent?_of_closed : exponent? t = some (none, t) := by
  cases ht <;> rfl

theorem numberOfParts?_whole (h : Decimal.value ds < 2 ^ 64) :
    numberOfParts? false ds [] none = some (int (Decimal.value ds)) :=
  if_pos (decide_eq_true h)

theorem numberOfParts?_minus (hpos : 0 < Decimal.value ds) (h : Decimal.value ds ≤ 2 ^ 63) :
    numberOfParts? true ds [] none = some (int (-Decimal.value ds)) := by
  unfold numberOfParts?
  rw [if_neg (by simp), if_pos (by simpa using ⟨hpos, h⟩)]

include hds ht in
theorem number?_digits (hne : ds ≠ []) (hzero : ds.head? = some '0' → ds.length ≤ 1)
    (hbound : Decimal.value ds < 2 ^ 64) : number? (ds ++ t) = some (int (Decimal.value ds), t) := by
  have hzero' : ¬ (ds.head? = some '0' ∧ 1 < ds.length) := fun h => by have := hzero h.1; omega
  have hsign : ∀ r, ds ++ t ≠ '-' :: r := by
    intro r h
    obtain ⟨c,ds',rfl⟩ := List.exists_cons_of_ne_nil hne
    have hc : c = '-' := (List.cons.inj h).1
    exact absurd (hds c List.mem_cons_self) (by rw [hc]; decide)
  have hempty : ds.isEmpty = false := by simpa using hne
  unfold number?
  split
  next negative rest hpair =>
    have hread : (false, ds ++ t) = (negative, rest) := by
      rw [← hpair]
      split
      · next r h => exact absurd h (hsign r)
      · rfl
    cases hread
    simp only [spanDigits_append hds ht, hempty, hzero', fraction?_of_closed ht]
    simp [exponent?_of_closed ht, numberOfParts?_whole hbound]

include hds ht in
theorem number?_minus_digits (hne : ds ≠ []) (hzero : ds.head? ≠ some '0')
    (hpos : 0 < Decimal.value ds) (hbound : Decimal.value ds ≤ 2 ^ 63) :
    number? ('-' :: (ds ++ t)) = some (int (-Decimal.value ds), t) := by
  have hempty : ds.isEmpty = false := by simpa using hne
  simp only [number?, spanDigits_append hds ht, hempty, hzero, fraction?_of_closed ht]
  simp [exponent?_of_closed ht, numberOfParts?_minus hpos hbound]

end Numbers

theorem head?_render_ne_zero {n : Nat} (h : 0 < n) : (Decimal.render n).head? ≠ some '0' := by
  unfold Decimal.render
  induction n using Nat.base_induction 10 (by omega) with
  | single m hm =>
    rw [Nat.toDigits_of_lt_base hm]
    simp
    omega
  | digit m k hk hm ih =>
    rw [← Nat.toDigits_append_toDigits (by omega) hm hk]
    obtain ⟨c,r,hcons⟩ := List.exists_cons_of_ne_nil (Nat.toDigits_ne_nil (n := m) (b := 10))
    have hc := ih hm
    rw [hcons] at hc ⊢
    exact hc

theorem number?_toString {n : Int} {t : Text} (hl : -2 ^ 63 ≤ n) (hu : n < 2 ^ 64) (ht : Closed t) :
    number? ((toString n).toList ++ t) = some (int n, t) := by
  cases n with
  | ofNat n =>
    have htext : (toString (Int.ofNat n)).toList = Decimal.render n := Nat.toList_repr
    have hzero : (Decimal.render n).head? = some '0' → (Decimal.render n).length ≤ 1 := by
      intro h
      cases n with
      | zero => exact Nat.le_refl 1
      | succ n => exact absurd h (head?_render_ne_zero (Nat.succ_pos n))
    have hvalue := Decimal.value_render n
    have hbound : n < 2 ^ 64 := by
      rw [Int.ofNat_eq_natCast] at hu
      omega
    have hread := number?_digits (fun c hc => Decimal.isDigit_of_mem_render hc) ht
      (Decimal.render_ne_nil n) hzero (by rw [hvalue]; exact hbound)
    rw [htext, hread, hvalue]
    rfl
  | negSucc n =>
    have htext : (toString (Int.negSucc n)).toList = '-' :: Decimal.render (n + 1) := by
      rw [show toString (Int.negSucc n) = "-" ++ Nat.repr (n + 1) from rfl, String.toList_append,
        Nat.toList_repr]
      rfl
    have hvalue := Decimal.value_render (n + 1)
    have hread := number?_minus_digits (fun c hc => Decimal.isDigit_of_mem_render hc) ht
      (Decimal.render_ne_nil (n + 1)) (head?_render_ne_zero (Nat.succ_pos n)) (by omega) (by omega)
    rw [htext, List.cons_append, hread, hvalue]
    rfl

/-- Texts with commas between them. -/
def joined : List Text → Text
  | [] => []
  | [t] => t
  | t :: ts => t ++ ',' :: joined ts

theorem length_le_joined (ts : List Text) : ts.length ≤ (joined ts).length + 1 := by
  fun_induction joined ts with
  | case1 => simp
  | case2 t => simp
  | case3 t ts hts ih =>
    simp only [List.length_append, List.length_cons]
    omega

theorem renderItems_eq_joined (vs : List Json) : renderItems vs = joined (vs.map render) := by
  induction vs with
  | nil => rfl
  | cons v vs ih =>
    cases vs with
    | nil => rfl
    | cons w ws => rw [renderItems, ih]; rfl; simp

def renderMember (m : String × Json) : Text := renderString m.1 ++ ':' :: render m.2

theorem renderMembers_eq_joined (ms : List (String × Json)) :
    renderMembers ms = joined (ms.map renderMember) := by
  induction ms with
  | nil => rfl
  | cons m ms ih =>
    cases ms with
    | nil => rfl
    | cons m' ms =>
      rw [renderMembers, ih]
      · simp [joined, renderMember]
      · simp

theorem skipBlank_cons {c : Char} (h : isBlank c = false) (t : Text) : skipBlank (c :: t) = c :: t := by
  rw [skipBlank, List.dropWhile_cons_of_neg (by simp [h])]

section Items

variable {α : Type} {item? : Text → Option (α × Text)} {text : α → Text} {close : Char}
  (hclose : close = ']' ∨ close = '}')

include hclose in
theorem closed_close (t : Text) : Closed (close :: t) := by
  rcases hclose with rfl | rfl
  · exact .bracket t
  · exact .brace t

include hclose in
theorem isBlank_close : isBlank close = false := by
  rcases hclose with rfl | rfl <;> rfl

include hclose in
theorem itemsFrom?_joined {items : List α} (hne : items ≠ []) {n : Nat} (hn : items.length ≤ n)
    (hitem : ∀ a ∈ items, ∀ rest, Closed rest → item? (text a ++ rest) = some (a, rest))
    (acc : List α) (rest : Text) :
    itemsFrom? item? close n acc (joined (items.map text) ++ close :: rest) =
      some (acc.reverse ++ items, rest) := by
  induction items generalizing n acc with
  | nil => exact absurd rfl hne
  | cons a items ih =>
    obtain ⟨n,rfl⟩ : ∃ m, n = m + 1 := ⟨n - 1,by simp at hn; omega⟩
    have hfirst := hitem a List.mem_cons_self
    have hcomma : close ≠ ',' := by rcases hclose with rfl | rfl <;> decide
    cases items with
    | nil =>
      have hread := hfirst (close :: rest) (closed_close hclose rest)
      simp only [List.map_cons, List.map_nil, joined, itemsFrom?, hread,
        skipBlank_cons (isBlank_close hclose), hcomma, if_false, if_true]
      simp
    | cons b items =>
      have hread := hfirst (',' :: (joined ((b :: items).map text) ++ close :: rest)) (.comma _)
      have htext : joined ((a :: b :: items).map text) ++ close :: rest =
          text a ++ ',' :: (joined ((b :: items).map text) ++ close :: rest) := by
        simp [joined]
      have hrest := ih (by simp) (n := n) (by simpa using hn)
        (fun a' ha' => hitem a' (List.mem_cons_of_mem a ha')) (a :: acc)
      rw [htext, itemsFrom?, hread]
      simp only [skipBlank_cons (show isBlank ',' = false from rfl), if_true, hrest]
      simp

include hclose in
theorem items?_joined {items : List α}
    (hitem : ∀ a ∈ items, ∀ rest, Closed rest → item? (text a ++ rest) = some (a, rest))
    (hhead : ∀ a ∈ items, ∃ c r, text a = c :: r ∧ isBlank c = false ∧ c ≠ close) (rest : Text) :
    items? item? close (joined (items.map text) ++ close :: rest) = some (items, rest) := by
  cases items with
  | nil => simp [joined, items?, skipBlank_cons (isBlank_close hclose)]
  | cons a items =>
    obtain ⟨c,r,htext,hblank,hc⟩ := hhead a List.mem_cons_self
    obtain ⟨r',hjoined⟩ : ∃ r', joined ((a :: items).map text) ++ close :: rest = c :: r' := by
      cases items with
      | nil => exact ⟨_,by simp [joined, htext]; rfl⟩
      | cons b items => exact ⟨_,by simp [joined, htext]; rfl⟩
    have hlength : (a :: items).length ≤ (joined ((a :: items).map text) ++ close :: rest).length := by
      have hjoin := length_le_joined ((a :: items).map text)
      simp only [List.length_map, List.length_append, List.length_cons] at hjoin ⊢
      omega
    have hread := itemsFrom?_joined hclose (by simp) hlength hitem [] rest
    rw [hjoined] at hread ⊢
    rw [items?, skipBlank_cons hblank]
    simp only [hc, if_false]
    exact hread

end Items

/-- A value that is read back from its text: whole numbers of 64 bits only, and containers nested at most
`depth` deep. -/
inductive Plain : Nat → Json → Prop where
  | null {depth} : Plain depth .null
  | bool {depth} (b : Bool) : Plain depth (.bool b)
  | int {depth n} (hl : -2 ^ 63 ≤ n) (hu : n < 2 ^ 64) : Plain depth (.int n)
  | string {depth} (s : String) : Plain depth (.string s)
  | array {depth items} (h : ∀ v ∈ items, Plain depth v) : Plain (depth + 1) (.array items)
  | object {depth members} (h : ∀ m ∈ members, Plain depth m.2) : Plain (depth + 1) (.object members)

section Plain

variable {depth : Nat}

@[simp] theorem plain_null : Plain depth .null := .null

@[simp] theorem plain_bool (b : Bool) : Plain depth (.bool b) := .bool b

@[simp] theorem plain_string (s : String) : Plain depth (.string s) := .string s

@[simp] theorem plain_int_iff {n : Int} : Plain depth (.int n) ↔ -2 ^ 63 ≤ n ∧ n < 2 ^ 64 :=
  ⟨fun h => by cases h with | int hl hu => exact ⟨hl,hu⟩,fun h => .int h.1 h.2⟩

@[simp] theorem plain_array_iff {items : List Json} :
    Plain (depth + 1) (.array items) ↔ ∀ v ∈ items, Plain depth v :=
  ⟨fun h => by cases h with | array h => exact h,.array⟩

@[simp] theorem plain_object_iff {members : List (String × Json)} :
    Plain (depth + 1) (.object members) ↔ ∀ m ∈ members, Plain depth m.2 :=
  ⟨fun h => by cases h with | object h => exact h,.object⟩

end Plain

theorem toList_toString_int (n : Int) :
    ∃ c r, (toString n).toList = c :: r ∧ (c = '-' ∨ Decimal.isDigit c) := by
  cases n with
  | ofNat n =>
    have htext : (toString (Int.ofNat n)).toList = Decimal.render n := Nat.toList_repr
    obtain ⟨c,r,hcons⟩ := List.exists_cons_of_ne_nil (Decimal.render_ne_nil n)
    exact ⟨c,r,htext.trans hcons,.inr (Decimal.isDigit_of_mem_render (hcons ▸ List.mem_cons_self))⟩
  | negSucc n =>
    refine ⟨'-',(Nat.repr (n + 1)).toList,?_,.inl rfl⟩
    rw [show toString (Int.negSucc n) = "-" ++ Nat.repr (n + 1) from rfl, String.toList_append]
    rfl

section Head

variable {c d : Char} (hc : c = '-' ∨ Decimal.isDigit c)

include hc

theorem ne_of_startsNumber (hsign : d ≠ '-') (hdigit : Decimal.isDigit d = false) : c ≠ d := by
  rintro rfl
  rcases hc with hc | hc
  · exact hsign hc
  · simp [hc] at hdigit

theorem not_isBlank_of_startsNumber : isBlank c = false := by
  have hne (d : Char) (hsign : d ≠ '-') (hdigit : Decimal.isDigit d = false) : c ≠ d :=
    ne_of_startsNumber hc hsign hdigit
  simp [isBlank, hne ' ' (by decide) rfl, hne '\t' (by decide) rfl, hne '\n' (by decide) rfl,
    hne '\r' (by decide) rfl]

end Head

theorem Plain.render_head {depth : Nat} {v : Json} (h : Plain depth v) :
    ∃ c r, render v = c :: r ∧ isBlank c = false ∧ c ≠ ']' ∧ c ≠ '}' := by
  cases h with
  | null => exact ⟨'n',_,rfl,by decide⟩
  | bool b =>
    cases b with
    | false => exact ⟨'f',_,rfl,by decide⟩
    | true => exact ⟨'t',_,rfl,by decide⟩
  | @int _ n hl hu =>
    obtain ⟨c,r,hcons,hc⟩ := toList_toString_int n
    exact ⟨c,r,by rw [render, hcons],not_isBlank_of_startsNumber hc,
      ne_of_startsNumber hc (by decide) rfl, ne_of_startsNumber hc (by decide) rfl⟩
  | string s => exact ⟨'"',_,rfl,by decide⟩
  | array h => exact ⟨'[', _, by rw [render]; rfl, by decide⟩
  | object h => exact ⟨'{', _, by rw [render]; rfl, by decide⟩

theorem value?_of_scalar (depth : Nat) {c : Char} (t : Text) (hblank : isBlank c = false) (hs : c ≠ '[')
    (hb : c ≠ '{') : value? depth (c :: t) = scalar? (c :: t) := by
  cases depth with
  | zero => rw [value?, skipBlank_cons hblank]
  | succ depth =>
    rw [value?, skipBlank_cons hblank]
    split
    · next h => exact absurd (List.cons.inj h).1 hs
    · next h => exact absurd (List.cons.inj h).1 hb
    · rfl

theorem value?_string (depth : Nat) (s : String) (rest : Text) :
    value? depth (render (.string s) ++ rest) = some (.string s, rest) := by
  rw [render, renderString, List.cons_append, List.cons_append,
    value?_of_scalar _ _ rfl (by decide) (by decide)]
  simp only [scalar?, List.append_assoc, List.cons_append, List.nil_append, stringFrom?_flatMap_escape]
  simp

theorem value?_int (depth : Nat) {n : Int} {rest : Text} (hl : -2 ^ 63 ≤ n) (hu : n < 2 ^ 64)
    (hrest : Closed rest) : value? depth (render (.int n) ++ rest) = some (.int n, rest) := by
  have hread := number?_toString hl hu hrest
  obtain ⟨c,r,hcons,hc⟩ := toList_toString_int n
  have hne (d : Char) (hsign : d ≠ '-') (hdigit : Decimal.isDigit d = false) : c ≠ d :=
    ne_of_startsNumber hc hsign hdigit
  rw [hcons, List.cons_append] at hread
  rw [render, hcons, List.cons_append, value?_of_scalar depth _ (not_isBlank_of_startsNumber hc)
    (hne '[' (by decide) rfl) (hne '{' (by decide) rfl), ← hread]
  unfold scalar?
  split
  · next h => exact absurd (List.cons.inj h).1 (hne '"' (by decide) rfl)
  · next h => exact absurd (List.cons.inj h).1 (hne 'n' (by decide) rfl)
  · next h => exact absurd (List.cons.inj h).1 (hne 't' (by decide) rfl)
  · next h => exact absurd (List.cons.inj h).1 (hne 'f' (by decide) rfl)
  · rfl

theorem member?_renderMember {depth : Nat} {m : String × Json} {rest : Text}
    (h : value? depth (render m.2 ++ rest) = some (m.2, rest)) :
    member? (value? depth) (renderMember m ++ rest) = some (m, rest) := by
  have htext : renderMember m ++ rest =
      '"' :: (m.1.toList.flatMap escape ++ '"' :: ':' :: (render m.2 ++ rest)) := by
    simp [renderMember, renderString]
  rw [htext, member?, skipBlank_cons rfl]
  simp [stringFrom?_flatMap_escape, skipBlank_cons (show isBlank ':' = false from rfl), h]

/-- A plain value is read back from its text, whatever comes after it. -/
theorem Plain.value?_render {depth : Nat} {v : Json} (h : Plain depth v) {rest : Text} (hrest : Closed rest) :
    value? depth (render v ++ rest) = some (v, rest) := by
  -- what follows a value inside a container is a comma or its bracket, so the rest has to vary
  induction h generalizing rest with
  | null => exact value?_of_scalar _ _ rfl (by decide) (by decide)
  | bool b =>
    cases b with
    | false => exact value?_of_scalar _ _ rfl (by decide) (by decide)
    | true => exact value?_of_scalar _ _ rfl (by decide) (by decide)
  | int hl hu => exact value?_int _ hl hu hrest
  | string s => exact value?_string _ s rest
  | @array depth items h ih =>
    have hread : items? (value? depth) ']' (joined (items.map render) ++ ']' :: rest) =
        some (items, rest) := by
      refine items?_joined (.inl rfl) (fun v hv rest hrest => ih v hv hrest) (fun v hv => ?_) rest
      obtain ⟨c,r,hcons,hblank,hc,_⟩ := (h v hv).render_head
      exact ⟨c,r,hcons,hblank,hc⟩
    simp only [render, renderItems_eq_joined, List.cons_append, List.append_assoc, List.nil_append, value?]
    rw [skipBlank_cons rfl]
    simp [hread]
  | @object depth members h ih =>
    have hread : items? (member? (value? depth)) '}' (joined (members.map renderMember) ++ '}' :: rest) =
        some (members, rest) := by
      refine items?_joined (.inr rfl) (fun m hm rest hrest => ?_) (fun m hm => ?_) rest
      · exact member?_renderMember (ih m hm hrest)
      · exact ⟨'"',_,rfl,rfl,by decide⟩
    simp only [render, renderMembers_eq_joined, List.cons_append, List.append_assoc, List.nil_append, value?]
    rw [skipBlank_cons rfl]
    simp [hread]

theorem Plain.parseBytes?_renderBytes {v : Json} (h : Plain maxDepth v) :
    parseBytes? v.renderBytes = some v := by
  have hread := h.value?_render .nil
  rw [List.append_nil] at hread
  rw [parseBytes?, renderBytes, Utf8.decode?_encode, Option.bind_eq_bind, Option.bind_some, parse?, hread]
  rfl

end SyntaxServer.Json
