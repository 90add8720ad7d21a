import SyntaxServer.Store.Document

/-! # The document store

The open documents by URI. An update builds the new text and its tree first and only then replaces the
document, so one that fails leaves the store as it was. Updates of a document must come with ascending
versions.
-/
namespace SyntaxServer

structure Store where
  entries : List (Uri × Document) := []
deriving Repr, Inhabited

namespace Store

/-- Puts a document in the place of the one of its URI, or at the end if there is none. -/
def put (uri : Uri) (d : Document) : List (Uri × Document) → List (Uri × Document)
  | [] => [(uri, d)]
  | (v, e) :: es => if v = uri then (uri, d) :: es else (v, e) :: put uri d es

def lookup (uri : Uri) : List (Uri × Document) → Option Document
  | [] => none
  | (v, d) :: es => if v = uri then some d else lookup uri es

@[simp] theorem lookup_put_self (uri : Uri) (d : Document) (es : List (Uri × Document)) :
    lookup uri (put uri d es) = some d := by
  induction es with
  | nil => simp [put, lookup]
  | cons e es ih =>
    simp only [put]
    split
    · simp [lookup]
    · next h => simp [lookup, h, ih]

theorem lookup_put_of_ne {uri other : Uri} (h : other ≠ uri) (d : Document)
    (es : List (Uri × Document)) : lookup other (put uri d es) = lookup other es := by
  induction es with
  | nil => simp [put, lookup, h.symm]
  | cons e es ih =>
    simp only [put]
    split
    · next he => simp [lookup, he, h.symm]
    · simp [lookup, ih]

theorem lookup_filter_self (uri : Uri) (es : List (Uri × Document)) :
    lookup uri (es.filter (·.1 ≠ uri)) = none := by
  induction es with
  | nil => rfl
  | cons e es ih => by_cases h : e.1 = uri <;> simp_all [lookup]

theorem lookup_filter_of_ne {uri other : Uri} (h : other ≠ uri) (es : List (Uri × Document)) :
    lookup other (es.filter (·.1 ≠ uri)) = lookup other es := by
  induction es with
  | nil => rfl
  | cons e es ih =>
    by_cases he : e.1 = uri
    · have : e.1 ≠ other := fun ho => h (ho ▸ he)
      simp_all [lookup]
    · simp_all [lookup]

variable (s : Store) (uri : Uri)

def find? : Option Document := lookup uri s.entries

def insert (d : Document) : Store := ⟨put uri d s.entries⟩

def erase : Store := ⟨s.entries.filter (·.1 ≠ uri)⟩

def size : Nat := s.entries.length

/-- The document of a URI that has to be open. -/
def get : Except Error Document :=
  match s.find? uri with
  | some d => .ok d
  | none => .error (.unknownDocument uri)

@[simp] theorem find?_insert_self (d : Document) : (s.insert uri d).find? uri = some d :=
  lookup_put_self uri d s.entries

theorem find?_insert_of_ne {uri other : Uri} (h : other ≠ uri) (d : Document) :
    (s.insert uri d).find? other = s.find? other :=
  lookup_put_of_ne h d s.entries

@[simp] theorem find?_erase_self : (s.erase uri).find? uri = none :=
  lookup_filter_self uri s.entries

theorem find?_erase_of_ne {uri other : Uri} (h : other ≠ uri) :
    (s.erase uri).find? other = s.find? other :=
  lookup_filter_of_ne h s.entries

variable (engine : Engine)

/-- The tree of a text, which the engine has to give. -/
def parse (language : Language) (text : Text) (hint : Option Hint) : Except Error Tree :=
  match engine.parse? language text hint with
  | some tree => .ok tree
  | none => .error (.parseFailure uri "parser returned no tree")

/-- Opens a document, in place of one that is open under its URI. -/
def openDocument (language : Language) (text : Text) (version : Int) : Except Error Store := do
  let tree ← parse uri engine language text none
  return s.insert uri (.ofTree language text tree version)

/-- Brings a document to a new text that differs from the old one by a given edit. -/
def edit (edit : Edit) (text : Text) (version : Int) : Except Error Store := do
  let d ← s.get uri
  d.checkNewer uri version
  (edit.checkFit d.text text).mapError Error.ofEditFault
  let tree ← parse uri engine d.language text (some ((Hint.ofTree d.tree).record edit))
  return s.insert uri (d.revise text tree version)

/-- Brings a document to an unrelated text. -/
def replace (text : Text) (version : Int) : Except Error Store := do
  let d ← s.get uri
  d.checkNewer uri version
  let tree ← parse uri engine d.language text none
  return s.insert uri (d.revise text tree version)

/-- The edit of a change to a span and the text it leads to, both read off the stored text. -/
def prepare (span : Span) (replacement : Text) : Except Error (Edit × Text) := do
  let d ← s.get uri
  let edit ← (Edit.ofSpan d.text span replacement).mapError Error.ofEditFault
  return (edit, edit.apply d.text replacement)

/-- A text on its way to the next version, and what the engine may take over. -/
structure Draft where
  text : Text
  hint : Option Hint

/-- A draft after one more change. -/
def Draft.change (draft : Draft) (c : Change) : Except Error Draft :=
  match c.span with
  | none => .ok ⟨c.text, none⟩
  | some span => do
    let edit ← (Edit.ofSpan draft.text span c.text).mapError Error.ofEditFault
    return ⟨edit.apply draft.text c.text, draft.hint.map (·.record edit)⟩

/-- Several changes as one update. -/
def updateAll (changes : List Change) (version : Int) : Except Error Store := do
  let d ← s.get uri
  d.checkNewer uri version
  let draft ← changes.foldlM Draft.change ⟨d.text, some (Hint.ofTree d.tree)⟩
  let tree ← parse uri engine d.language draft.text draft.hint
  return s.insert uri (d.revise draft.text tree version)

/-- The changes of one notification, each to the text that the one before leaves. A lone change to a span
is prepared first and then applied as an edit. -/
def update (changes : List Change) (version : Int) : Except Error Store :=
  match changes with
  | [⟨none, text⟩] => s.replace uri engine text version
  | [⟨some span, text⟩] => do
    let (edit, text) ← s.prepare uri span text
    s.edit uri engine edit text version
  | changes => s.updateAll uri engine changes version

/-- Whether the URI is open, and the store without it. -/
def close : Bool × Store := ((s.find? uri).isSome, s.erase uri)

end Store

end SyntaxServer
