import Mathlib
import SyntaxServer.Disk.Discover
import SyntaxServer.Proofs.Separator
import SyntaxServer.Proofs.Text.Utf8
import SyntaxServer.Uri.FilePath

/-! # The endings of names

The walk through a workspace tells the language of a file by the ending of its name, and an editor that opens the file
by the ending of the last segment of its URI, where bytes of the name may be escaped. Escapes never touch an ending
that matters, since these are made of letters, and the two splits differ for one kind of name only: a name that is
nothing else than a dot and an ending has none to the walk.
-/
namespace SyntaxServer

namespace Path

/-- The names that an entry of a directory can have. -/
def IsName (name : Name) : Prop := name ≠ [] ∧ slash ∉ name ∧ name ≠ [dot] ∧ name ≠ [dot,dot]

/-- A dot and the ending of a language, with nothing before them. -/
def IsLoneEnding (name : Name) : Prop :=
  ∃ ending : Text, name = dot :: Utf8.encode ending ∧ (Language.ofExtension? ending).isSome

theorem extension?_of_dot_not_mem {name : Name} (h : dot ∉ name) : extension? name = none := by
  have hnone : name.reverse.dropWhile (· ≠ dot) = [] := dropWhile_of_not_mem (by simpa using h)
  simp only [extension?, hnone]

theorem extension?_append {stem ending : Name} (h : dot ∉ ending) :
    extension? (stem ++ dot :: ending) = if stem = [] then none else some ending := by
  simp only [extension?, reverse_takeWhile_append_cons stem h, reverse_dropWhile_append_cons stem h,
    List.reverse_reverse]
  rcases List.eq_nil_or_concat stem with rfl | ⟨stem,b,rfl⟩ <;> simp

theorem split_append_slash (s t : Bytes) : split (s ++ slash :: t) = split s ++ split t := by
  induction s with
  | nil => simp [split]
  | cons b s ih =>
    obtain ⟨name,names,hs⟩ := List.exists_cons_of_ne_nil (split_ne_nil s)
    simp only [List.cons_append, split, ih, hs]
    split <;> rfl

theorem split_of_slash_not_mem {name : Name} (h : slash ∉ name) : split name = [name] := by
  induction name with
  | nil => rfl
  | cons b name ih =>
    rw [List.mem_cons, not_or] at h
    simp only [split, ih h.2, if_neg (Ne.symm h.1)]

end Path

namespace Language

/-- The endings that tell a language, in lower case. -/
def endings : List Text := ["json".toList,"toml".toList,"yaml".toList,"yml".toList]

theorem ofExtension?_isSome_iff (t : Text) : (ofExtension? t).isSome ↔ t.map Char.toLower ∈ endings := by
  have hlower (word : String) : String.ofList (t.map Char.toLower) = word ↔ t.map Char.toLower = word.toList := by
    rw [← String.toList_inj, String.toList_ofList]
  simp only [endings, List.mem_cons, List.not_mem_nil, or_false, ← hlower]
  unfold ofExtension?
  split
  · next h => simp only [Option.isSome_some, true_iff]; exact .inl h
  · next h => simp only [Option.isSome_some, true_iff]; exact .inr (.inl h)
  · next h => simp only [Option.isSome_some, true_iff]; exact .inr (.inr (.inl h))
  · next h => simp only [Option.isSome_some, true_iff]; exact .inr (.inr (.inr h))
  · next hjson htoml hyaml hyml =>
    simp only [Option.isSome_none, Bool.false_eq_true, false_iff, not_or]
    exact ⟨hjson,htoml,hyaml,hyml⟩

theorem isAlpha_of_ofExtension? {t : Text} (h : (ofExtension? t).isSome) {c : Char} (hc : c ∈ t) : c.isAlpha := by
  have hword := (ofExtension?_isSome_iff t).1 h
  have hletters : endings.all (·.all Char.isLower) := by decide
  simp only [List.all_eq_true] at hletters
  rw [← Char.isLower_toLower_eq_isAlpha]
  exact hletters _ hword _ (List.mem_map_of_mem hc)

theorem afterLastDot?_of_dot_not_mem {t : Text} (h : '.' ∉ t) : afterLastDot? t = none := by
  simp [afterLastDot?, h]

theorem afterLastDot?_append {stem ending : Text} (h : '.' ∉ ending) :
    afterLastDot? (stem ++ '.' :: ending) = some ending := by
  simp only [afterLastDot?, reverse_takeWhile_append_cons stem h, List.reverse_reverse]
  simp

end Language

namespace Uri

/-- The bytes of a name that no URI has escaped: letters, digits and dots. -/
def isPlain (b : UInt8) : Bool := (Char.ofNat b.toNat).isAlphanum || b == Path.dot

/-- A text spells bytes as a URI does, with some of them escaped, but none of the plain ones. -/
inductive Spells : Text → Bytes → Prop where
  | nil : Spells [] []
  | keep {t s} (b : UInt8) (hb : b < 0x80) (h : Spells t s) : Spells (Char.ofNat b.toNat :: t) (b :: s)
  | escape {t s} (b : UInt8) (hb : ¬ isPlain b) (h : Spells t s) : Spells (escapeByte b ++ t) (b :: s)

theorem exists_plain_of_isAlpha {c : Char} (h : c.isAlpha) :
    ∃ b : UInt8, b < 0x80 ∧ isPlain b ∧ c = Char.ofNat b.toNat := by
  have hbound : c.toNat < 0x80 := by
    simp only [Char.isAlpha, Char.isUpper, Char.isLower, Bool.or_eq_true, Bool.and_eq_true, decide_eq_true_eq,
      UInt32.le_iff_toNat_le, ge_iff_le] at h
    have hval : c.toNat = c.val.toNat := rfl
    simp only [hval]
    rcases h with ⟨_,h⟩ | ⟨_,h⟩ <;> exact Nat.lt_of_le_of_lt h (by decide)
  have hbyte : (UInt8.ofNat c.toNat).toNat = c.toNat := Utf8.toNat_ofNat_of_lt (by omega)
  refine ⟨UInt8.ofNat c.toNat,(Utf8.ofNat_lt_iff (by omega) _).2 hbound,?_,?_⟩
  · simp [isPlain, hbyte, Char.ofNat_toNat, Char.isAlphanum, h]
  · rw [hbyte, Char.ofNat_toNat]

namespace Spells

theorem dot_mem_iff {t : Text} {s : Bytes} (h : Spells t s) : '.' ∈ t ↔ Path.dot ∈ s := by
  induction h with
  | nil => simp
  | keep b hb h ih =>
    have hchar : '.' = Char.ofNat b.toNat ↔ Path.dot = b := by
      refine ⟨fun he => ?_,fun he => he ▸ rfl⟩
      have hbytes := Utf8.utf8EncodeChar_one hb
      rw [← he] at hbytes
      exact List.head_eq_of_cons_eq hbytes
    simp only [List.mem_cons, hchar, ih]
  | escape b hb h ih =>
    have hdigit : ∀ n < 16, upperHex n ≠ '.' := by decide
    have hescape : '.' ∉ escapeByte b := by
      have hhigh := hdigit (b.toNat / 16) (by have := b.toNat_lt; omega)
      have hlow := hdigit (b.toNat % 16) (by omega)
      simp [escapeByte, hhigh.symm, hlow.symm]
    have hdot : Path.dot ≠ b := by rintro rfl; exact hb (by decide)
    simp only [List.mem_append, hescape, false_or, List.mem_cons, hdot, ih]

/-- What is spelled breaks where the bytes break at a plain one. -/
theorem append_dot {stem ending : Bytes} {t : Text} (h : Spells t (stem ++ Path.dot :: ending)) :
    ∃ before after, t = before ++ '.' :: after ∧ Spells after ending := by
  induction stem generalizing t with
  | nil =>
    cases h with
    | keep _ _ h => exact ⟨[],_,rfl,h⟩
    | escape _ hb h => exact absurd (by decide) hb
  | cons b stem ih =>
    cases h with
    | keep _ _ h =>
      obtain ⟨before,after,rfl,hafter⟩ := ih h
      exact ⟨_ :: before,after,rfl,hafter⟩
    | escape _ _ h =>
      obtain ⟨before,after,rfl,hafter⟩ := ih h
      exact ⟨escapeByte b ++ before,after,(List.append_assoc ..).symm,hafter⟩

theorem eq_encode {t : Text} {s : Bytes} (h : Spells t s) (ht : ∀ c ∈ t, c.isAlpha) : s = Utf8.encode t := by
  induction h with
  | nil => rfl
  | keep b hb h ih =>
    rw [ih fun c hc => ht c (.tail _ hc), Utf8.encode, Utf8.encode, List.flatMap_cons, Utf8.utf8EncodeChar_one hb]
    rfl
  | escape b hb h ih => exact absurd (ht '%' (by simp [escapeByte])) (by decide)

theorem eq_of_encode {t word : Text} (h : Spells t (Utf8.encode word)) (hword : ∀ c ∈ word, c.isAlpha) :
    t = word := by
  induction word generalizing t with
  | nil => cases h; rfl
  | cons c word ih =>
    obtain ⟨b,hb,hplain,rfl⟩ := exists_plain_of_isAlpha (hword c (.head _))
    rw [Utf8.encode, List.flatMap_cons, Utf8.utf8EncodeChar_one hb] at h
    cases h with
    | keep _ _ h => rw [ih h fun c hc => hword c (.tail _ hc)]
    | escape _ hb h => exact absurd hplain hb

theorem ofExtension?_eq {t : Text} {s : Bytes} (h : Spells t s) :
    Language.ofExtension? t = Utf8.decode? s >>= Language.ofExtension? := by
  have hread : ∀ word, (Language.ofExtension? word).isSome → (t = word ↔ Utf8.decode? s = some word) := by
    intro word hword
    have hletters := fun c hc => Language.isAlpha_of_ofExtension? hword (c := c) hc
    rw [Utf8.decode?_eq_some_iff]
    constructor
    · rintro rfl
      exact h.eq_encode hletters
    · rintro rfl
      exact h.eq_of_encode hletters
  apply Option.ext
  intro l
  rw [Option.bind_eq_bind, Option.bind_eq_some_iff]
  constructor
  · intro hl
    exact ⟨t,(hread t (hl ▸ rfl)).1 rfl,hl⟩
  · rintro ⟨word,hdecode,hl⟩
    exact (hread word (hl ▸ rfl)).2 hdecode ▸ hl

/-- Where the dot is not the first byte, the two splits at the last dot give the same language. -/
theorem language_eq {segment : Text} {name : Name} (h : Spells segment name) (hlone : ¬ Path.IsLoneEnding name) :
    Language.afterLastDot? segment >>= Language.ofExtension? =
      (Path.extension? name >>= Utf8.decode?) >>= Language.ofExtension? := by
  rcases not_mem_or_exists_last Path.dot name with hdot | ⟨stem,ending,rfl,hdot⟩
  · rw [Path.extension?_of_dot_not_mem hdot, Language.afterLastDot?_of_dot_not_mem (h.dot_mem_iff.not.2 hdot)]
    rfl
  · obtain ⟨before,after,rfl,hafter⟩ := h.append_dot
    rw [Language.afterLastDot?_append (hafter.dot_mem_iff.not.2 hdot), Path.extension?_append hdot]
    split
    · next hstem =>
      subst hstem
      change Language.ofExtension? after = none
      rw [← Option.not_isSome_iff_eq_none]
      exact fun hlanguage => hlone ⟨after,
        by rw [List.nil_append, hafter.eq_encode fun c => Language.isAlpha_of_ofExtension? hlanguage],hlanguage⟩
    · exact hafter.ofExtension?_eq

theorem language_of_isLoneEnding {segment : Text} {name : Name} (h : Spells segment name)
    (hlone : Path.IsLoneEnding name) :
    Path.hasLanguage name = false ∧ (Language.afterLastDot? segment >>= Language.ofExtension?).isSome := by
  obtain ⟨ending,rfl,hending⟩ := hlone
  have hletters := fun c hc => Language.isAlpha_of_ofExtension? hending (c := c) hc
  have hdotted : Spells segment ([] ++ Path.dot :: Utf8.encode ending) := h
  obtain ⟨before,after,rfl,hafter⟩ := hdotted.append_dot
  obtain rfl := hafter.eq_of_encode hletters
  have hdot : '.' ∉ after := fun hmem => absurd (hletters _ hmem) (by decide)
  constructor
  · have hnone : Path.extension? ([] ++ Path.dot :: Utf8.encode after) = none :=
      Path.extension?_append (hafter.dot_mem_iff.not.1 hdot)
    rw [List.nil_append] at hnone
    simp only [Path.hasLanguage, hnone]
    rfl
  · rw [Language.afterLastDot?_append hdot]
    exact hending

end Spells

/-- Every file has a URI, whose last segment spells its name. -/
def SpellsNames (fileUri : Bytes → Option Uri) : Prop :=
  ∀ dir name, Path.IsName name → Path.isAbsolute (dir ++ Path.slash :: name) →
    ∃ uri names segment, fileUri (dir ++ Path.slash :: name) = some uri ∧
      uri.segments? = some (names ++ [segment]) ∧ Spells segment name

/-- The URI of the file at an absolute path. -/
def ofFile? (path : Bytes) : Option Uri :=
  if Path.isAbsolute path then
    some {
      scheme := "file".toList
      authority := some { host := [] }
      path := .segments (if segmentsOfPath path = [] then [[]] else segmentsOfPath path) }
  else none

theorem spells_escapeBytes {set : Text} (hset : ∀ b, mustEscape set b → ¬ isPlain b) (s : Bytes) :
    Spells (escapeBytes set s) s := by
  induction s with
  | nil => exact .nil
  | cons b s ih =>
    rw [escapeBytes, List.flatMap_cons]
    split
    · next hb => exact .escape b (hset b hb) ih
    · next hb =>
      have hlow : b < 0x80 := by
        simp only [mustEscape, Bool.or_eq_true, decide_eq_true_eq, not_or, UInt8.le_iff_toNat_le,
          UInt8.reduceToNat] at hb
        simp only [UInt8.lt_iff_toNat_lt, UInt8.reduceToNat]
        omega
      exact .keep b hlow ih

theorem segmentsOfPath_append {name : Name} (hname : Path.IsName name) (dir : Bytes) :
    segmentsOfPath (dir ++ Path.slash :: name) = segmentsOfPath dir ++ [escapeBytes fileNameSet name] := by
  obtain ⟨hne,hslash,hdot,-⟩ := hname
  have hidle : Path.isIdle name = false := by simp [Path.isIdle, hne, hdot]
  simp [segmentsOfPath, Path.split_append_slash, Path.split_of_slash_not_mem hslash, hidle]

theorem spellsNames_ofFile? : SpellsNames ofFile? := by
  intro dir name hname habs
  have hset : ∀ n < 256, mustEscape fileNameSet (UInt8.ofNat n) → ¬ isPlain (UInt8.ofNat n) := by decide +kernel
  have hspells := spells_escapeBytes (fun b => by simpa using hset b.toNat b.toNat_lt) name
  refine ⟨_,segmentsOfPath dir,_,if_pos habs,?_,hspells⟩
  rw [segmentsOfPath_append hname, if_neg (by simp)]
  cases segmentsOfPath dir <;> rfl

end Uri

namespace Path

/-- The walk finds a file, and an editor that opens it by its URI is given a language, for the same names, but for
those that are nothing else than an ending. -/
theorem hasLanguage_iff_opens {fileUri : Bytes → Option Uri} (hspell : Uri.SpellsNames fileUri) (dir : Bytes)
    {name : Name} (hname : IsName name) (habs : isAbsolute (dir ++ slash :: name)) :
    ∃ uri, fileUri (dir ++ slash :: name) = some uri ∧
      (¬ IsLoneEnding name → (hasLanguage name ↔ (Language.ofDocument? uri none).isSome)) ∧
      (IsLoneEnding name → ¬ hasLanguage name ∧ (Language.ofDocument? uri none).isSome) := by
  obtain ⟨uri,names,segment,huri,hsegments,hspells⟩ := hspell dir name hname habs
  have hopens : Language.ofDocument? uri none = (Language.afterLastDot? segment >>= Language.ofExtension?) := by
    simp [Language.ofDocument?, Language.ofUri?, hsegments]
  refine ⟨uri,huri,?_⟩
  rw [hopens]
  refine ⟨fun hlone => ?_,fun hlone => ?_⟩
  · rw [hspells.language_eq hlone, hasLanguage]
  · simpa using hspells.language_of_isLoneEnding hlone

theorem hasLanguage_iff_opens_escaped :
    Uri.SpellsNames Uri.ofFile? ∧ IsName (Utf8.encodeString "a%2E b.tar.YmL") ∧
      ∃ uri, Uri.ofFile? (Utf8.encodeString "/w" ++ slash :: Utf8.encodeString "a%2E b.tar.YmL") = some uri ∧
        (hasLanguage (Utf8.encodeString "a%2E b.tar.YmL") ↔ (Language.ofDocument? uri none).isSome) := by
  have hname : IsName (Utf8.encodeString "a%2E b.tar.YmL") := by unfold IsName; decide
  obtain ⟨uri,huri,hagree,-⟩ := hasLanguage_iff_opens Uri.spellsNames_ofFile? (Utf8.encodeString "/w") hname
    (by decide)
  refine ⟨Uri.spellsNames_ofFile?,hname,uri,huri,hagree ?_⟩
  rintro ⟨ending,hending,-⟩
  exact absurd (List.head_eq_of_cons_eq hending) (by decide)

/-- A name that is a lone ending is opened as a document of that language, and the walk passes it by. -/
theorem loneEnding_opens_unlisted :
    Uri.SpellsNames Uri.ofFile? ∧ IsName (Utf8.encodeString ".json") ∧ ¬ hasLanguage (Utf8.encodeString ".json") ∧
      Uri.ofFile? (Utf8.encodeString "/w/.json") >>= (Language.ofDocument? · none) = some .json :=
  ⟨Uri.spellsNames_ofFile?,by unfold IsName; decide,by decide,by decide⟩

end Path

end SyntaxServer
